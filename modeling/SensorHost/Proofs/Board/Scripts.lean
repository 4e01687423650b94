import SensorHost.Proofs.Board.Processors
import SensorHost.Recording.Script

/-!
# The scripts that a board stores

What the frames about scripts do to a simulated board. A start opens a script of its own, and from
then on every command goes to the script that is open, whoever sends it, until a finish.

A long command is written as a head and a rest, and the board puts the two together. A head whose
rest was refused stays: neither a finish nor the next start takes it back, and it goes in front of
the next command that is added (`staleHead`, `Board.head_of_carries`). So the commands that are
written to an open script are stored as they are, or with such a head in front of the first one
(`Script.completed`, `Board.scripts_of_carries`).
-/

namespace SensorHost

/-! ## Heads -/

/-- The head that waits for its rest after a command with this payload. -/
def BoardCommand.headAfter (head : Option Frame) (payload : Frame) : BoardCommand → Option Frame
  | addHead => some payload
  | addCommand => none
  | _ => head

/-- The head that waits for its rest after a frame was taken. -/
def headAfter (head : Option Frame) : Frame → Option Frame
  | moduleId :: register :: payload =>
    (BoardCommand.ofRegister moduleId register).headAfter head payload
  | _ => head

/-- The head that still waits for its rest on a board that took these frames since it was new. -/
def staleHead (frames : List Frame) : Option Frame := frames.foldl headAfter none

namespace Script

/-- Whether a command is written as a head and a rest. -/
def IsSplit (limit : Nat) (command : Frame) : Prop := limit ≤ command.length ∧ 2 < command.length

instance (limit : Nat) (command : Frame) : Decidable (IsSplit limit command) :=
  inferInstanceAs (Decidable (_ ∧ _))

theorem commandFrames_of_isSplit {limit : Nat} {command : Frame} (split : IsSplit limit command) :
    commandFrames command limit =
      [[ModuleId.script, Register.Script.addHead] ++ command.take 2,
        [ModuleId.script, Register.Script.addCommand] ++ command.drop 2] :=
  if_pos split

theorem commandFrames_of_not_isSplit {limit : Nat} {command : Frame}
    (whole : ¬ IsSplit limit command) :
    commandFrames command limit = [[ModuleId.script, Register.Script.addCommand] ++ command] :=
  if_neg whole

/-- What becomes of commands that are written while a head waits: it goes in front of the first one,
unless this one brings its own. -/
def completed (limit : Nat) (head : Option Frame) : List Frame → List Frame
  | [] => []
  | command :: rest =>
    (if IsSplit limit command then command else head.getD [] ++ command) :: rest

theorem completed_none (limit : Nat) (commands : List Frame) :
    completed limit none commands = commands := by
  cases commands <;> simp [completed]

/-- Commands are stored as they are, unless a head goes in front of the first one. -/
theorem completed_eq_iff {limit : Nat} {head : Option Frame} {commands : List Frame} :
    completed limit head commands = commands ↔
      ∀ stale ∈ head, stale ≠ [] → ∀ first ∈ commands.head?, IsSplit limit first := by
  cases commands with
  | nil => simp [completed]
  | cons first rest =>
      by_cases split : IsSplit limit first
      · simp [completed, split]
      · cases head with
        | none => simp [completed]
        | some stale => simp [completed, split]

end Script

namespace Board

/-- The boards agree on everything about scripts, and took the same frames. -/
structure SameScripts (b b' : Board) : Prop where
  scripts : b'.scripts = b.scripts
  openScript : b'.openScript = b.openScript
  head : b'.head = b.head
  nextScript : b'.nextScript = b.nextScript
  sent : b'.sent = b.sent
  frameLimit : b'.frameLimit = b.frameLimit

theorem SameScripts.refl (b : Board) : b.SameScripts b := ⟨rfl, rfl, rfl, rfl, rfl, rfl⟩

theorem SameScripts.trans {b b₁ b' : Board} (first : b.SameScripts b₁)
    (second : b₁.SameScripts b') : b.SameScripts b' where
  scripts := second.scripts.trans first.scripts
  openScript := second.openScript.trans first.openScript
  head := second.head.trans first.head
  nextScript := second.nextScript.trans first.nextScript
  sent := second.sent.trans first.sent
  frameLimit := second.frameLimit.trans first.frameLimit

theorem sameScripts_of_drifts {b b' : Board} (drifts : Drifts Injects b b') : b.SameScripts b' := by
  induction drifts with
  | refl => exact .refl b
  | tail _ step ih =>
      obtain ⟨_, injects⟩ := step
      refine ih.trans ?_
      cases injects <;> exact ⟨rfl, rfl, rfl, rfl, rfl, rfl⟩

/-! ## What a frame does -/

/-- A frame that is taken is noted and obeyed. -/
theorem receive_cons_ok {b b' : Board} {moduleId register : UInt8} {payload : Frame}
    {replies : List Frame}
    (h : b.receive (moduleId :: register :: payload) = (.ok replies, b')) :
    ∃ answers, { b with sent := b.sent ++ [moduleId :: register :: payload] }.obey moduleId
        register payload = (answers, b') ∧ replies = if b'.silent then [] else answers := by
  rcases b.receive_cons moduleId register payload with ⟨fault, eq⟩ | ⟨answers, b₁, obeyed, eq⟩
  · exact absurd (Prod.mk.inj (h.symm.trans eq)).1 nofun
  · obtain ⟨same, rfl⟩ := Prod.mk.inj (h.symm.trans eq)
    exact ⟨answers, obeyed, Except.ok.inj same⟩

/-- What a frame that is obeyed changes about heads, and what it does not change. -/
structure Obeyed (b : Board) (head : Option Frame) (b' : Board) : Prop where
  sent : b'.sent = b.sent
  head : b'.head = head
  frameLimit : b'.frameLimit = b.frameLimit
  silent : b'.silent = b.silent
  rejected : b'.rejected = b.rejected
  lostCreation : b'.lostCreation = b.lostCreation

theorem Obeyed.healthy {b b' : Board} {head : Option Frame} (h : b.Obeyed head b')
    (healthy : b.Healthy) : b'.Healthy :=
  ⟨h.silent.trans healthy.answers, h.rejected.trans healthy.takes,
    h.lostCreation.trans healthy.creates⟩

theorem obeyed_createProcessor (b : Board) (payload : Frame) :
    b.Obeyed b.head (b.createProcessor payload).2 := by
  unfold createProcessor
  simp only
  split <;> exact ⟨rfl, rfl, rfl, rfl, rfl, rfl⟩

theorem obeyed_createEvent (b : Board) (parameters : Frame) :
    b.Obeyed b.head (b.createEvent parameters).2 := by
  unfold createEvent
  split
  · exact ⟨rfl, rfl, rfl, rfl, rfl, rfl⟩
  · simp only
    split <;> exact ⟨rfl, rfl, rfl, rfl, rfl, rfl⟩

theorem obeyed_addScriptCommand (b : Board) (rest : Frame) :
    b.Obeyed none (b.addScriptCommand rest) := by
  unfold addScriptCommand
  simp only
  split
  · exact ⟨rfl, rfl, rfl, rfl, rfl, rfl⟩
  · split <;> exact ⟨rfl, rfl, rfl, rfl, rfl, rfl⟩

theorem obeyed (b : Board) (moduleId register : UInt8) (payload : Frame) :
    b.Obeyed (headAfter b.head (moduleId :: register :: payload))
      (b.obey moduleId register payload).2 := by
  unfold obey headAfter
  dsimp only
  generalize BoardCommand.ofRegister moduleId register = command
  cases command with
  | createProcessor => exact b.obeyed_createProcessor payload
  | eventParameters => exact b.obeyed_createEvent payload
  | addCommand => exact b.obeyed_addScriptCommand payload
  | setParameter =>
      simp only
      split
      · split <;> exact ⟨rfl, rfl, rfl, rfl, rfl, rfl⟩
      · exact ⟨rfl, rfl, rfl, rfl, rfl, rfl⟩
  | readProcessor | writeState | removeProcessor | setNotify | removeEvent | executeScript
  | readRegister | writeRegister =>
      simp only
      split <;> exact ⟨rfl, rfl, rfl, rfl, rfl, rfl⟩
  | _ => exact ⟨rfl, rfl, rfl, rfl, rfl, rfl⟩

/-- A healthy board takes every frame that has a module and a register, and answers it. -/
theorem Healthy.obeys {b : Board} (h : b.Healthy) (moduleId register : UInt8) (payload : Frame) :
    ∃ replies b', { b with sent := b.sent ++ [moduleId :: register :: payload] }.obey moduleId
        register payload = (replies, b') ∧
      b.receive (moduleId :: register :: payload) = (.ok replies, b') ∧ b'.Healthy := by
  rcases obeys : { b with sent := b.sent ++ [moduleId :: register :: payload] }.obey moduleId register
    payload with ⟨replies, b'⟩
  have kept := obeyed { b with sent := b.sent ++ [moduleId :: register :: payload] } moduleId
    register payload
  rw [obeys] at kept
  have healthy : b'.Healthy := kept.healthy ⟨h.1, h.2, h.3⟩
  refine ⟨replies, b', obeys, ?_, healthy⟩
  rw [h.receive, obeys]
  simp only [healthy.answers, Bool.false_eq_true, if_false]

/-- The head that waits is told by the frames that the board took. -/
theorem head_of_receive {b b' : Board} {frame : Frame} {result : Except Fault (List Frame)}
    (received : b.receive frame = (result, b')) (told : b.head = staleHead b.sent) :
    b'.head = staleHead b'.sent ∧ b'.frameLimit = b.frameLimit := by
  match frame with
  | [] | [_] =>
      obtain ⟨-, rfl⟩ := Prod.mk.inj received
      exact ⟨told, rfl⟩
  | moduleId :: register :: payload =>
      rcases b.receive_cons moduleId register payload with ⟨fault, eq⟩ | ⟨answers, b₁, obeys, eq⟩
      · obtain ⟨-, rfl⟩ := Prod.mk.inj (received.symm.trans eq)
        exact ⟨told, rfl⟩
      · obtain ⟨-, rfl⟩ := Prod.mk.inj (received.symm.trans eq)
        have kept := obeyed { b with sent := b.sent ++ [moduleId :: register :: payload] } moduleId
          register payload
        rw [obeys] at kept
        refine ⟨?_, kept.frameLimit⟩
        rw [kept.head, kept.sent, staleHead, List.foldl_append, ← staleHead, ← told]
        rfl

/-! ## What a trace does -/

variable {b b' : Board}

theorem head_of_sendAll (frames : List Frame) (told : b.head = staleHead b.sent) :
    (Transport.sendAll b frames).2.2.head = staleHead (Transport.sendAll b frames).2.2.sent ∧
      (Transport.sendAll b frames).2.2.frameLimit = b.frameLimit := by
  induction frames generalizing b with
  | nil => exact ⟨told, rfl⟩
  | cons frame rest ih =>
      rw [Transport.sendAll]
      cases sent : Transport.send b frame with
      | mk result b₁ =>
        obtain ⟨told₁, limit⟩ := head_of_receive sent told
        cases result with
        | error fault => exact ⟨told₁, limit⟩
        | ok replies =>
            obtain ⟨told', limit'⟩ := ih told₁
            exact ⟨told', limit'.trans limit⟩

theorem drifts_of_answers {key : ReplyKey} {timeout : Nat} {frames : List Frame}
    {reply : Except Fault Frame} (answers : Answers Injects key timeout frames b b' reply) :
    Drifts Injects (Transport.sendAll b frames).2.2 b' := by
  cases answers with
  | atOnce _ drifts | refused _ _ drifts => exact drifts
  | later _ _ settles => exact (error_of_settles settles).1

/-- Whatever is sent and asked, the frames that the board took tell which head waits. -/
theorem head_of_carries {t : List Exchange} (carries : Carries Injects b t b')
    (told : b.head = staleHead b.sent) :
    b'.head = staleHead b'.sent ∧ b'.frameLimit = b.frameLimit := by
  induction carries with
  | nil => exact ⟨told, rfl⟩
  | @sent b b' frame t _ ih =>
      obtain ⟨told₁, limit⟩ := head_of_receive (rfl : b.receive frame = _) told
      obtain ⟨told', limit'⟩ := ih told₁
      exact ⟨told', limit'.trans limit⟩
  | asked answers _ ih =>
      obtain ⟨told₁, limit⟩ := head_of_sendAll _ told
      have kept := sameScripts_of_drifts (drifts_of_answers answers)
      rw [← kept.head, ← kept.sent] at told₁
      obtain ⟨told', limit'⟩ := ih told₁
      exact ⟨told', limit'.trans (kept.frameLimit.trans limit)⟩
  | paused drifts _ ih =>
      have kept := sameScripts_of_drifts drifts
      rw [← kept.head, ← kept.sent] at told
      obtain ⟨told', limit'⟩ := ih told
      exact ⟨told', limit'.trans kept.frameLimit⟩

/-! ## Writing a script -/

/-- The board opens a script of its own for a start, and answers with its id. -/
theorem receive_start {autoRun : Bool} {replies : List Frame}
    (received : b.receive (Script.startFrame autoRun) = (.ok replies, b')) :
    (∀ answer, firstOn ⟨ModuleId.script, Register.Script.start⟩ replies = some answer →
        answer = [ModuleId.script, Register.Script.start, b.nextScript]) ∧
      b'.scripts = b.scripts.insert b.nextScript [] ∧ b'.openScript = some b.nextScript ∧
      b'.head = b.head ∧ b'.nextScript = b.nextScript + 1 ∧ b'.frameLimit = b.frameLimit := by
  obtain ⟨answers, obeys, rfl⟩ := receive_cons_ok received
  obtain ⟨rfl, rfl⟩ := Prod.mk.inj obeys
  refine ⟨?_, rfl, rfl, rfl, rfl, rfl⟩
  intro answer first
  split at first
  · contradiction
  · exact (Option.some.inj first).symm

theorem receive_finish {replies : List Frame}
    (received : b.receive Script.finishFrame = (.ok replies, b')) :
    b'.scripts = b.scripts ∧ b'.openScript = none ∧ b'.head = b.head ∧
      b'.nextScript = b.nextScript := by
  obtain ⟨answers, obeys, -⟩ := receive_cons_ok received
  obtain ⟨-, rfl⟩ := Prod.mk.inj obeys
  exact ⟨rfl, rfl, rfl, rfl⟩

/-- The commands go to the script that is open, and to no other; no script is opened or closed. -/
structure Adds (b : Board) (commands : List Frame) (b' : Board) : Prop where
  scripts : ∀ id, b'.scripts.get? id =
    if b.openScript = some id then (b.scripts.get? id).map (· ++ commands) else b.scripts.get? id
  openScript : b'.openScript = b.openScript
  nextScript : b'.nextScript = b.nextScript

theorem Adds.nil (b : Board) : b.Adds [] b where
  scripts id := by simp
  openScript := rfl
  nextScript := rfl

theorem Adds.append {b₁ : Board} {commands commands' : List Frame} (first : b.Adds commands b₁)
    (second : b₁.Adds commands' b') : b.Adds (commands ++ commands') b' where
  scripts id := by
    rw [second.scripts, first.scripts, first.openScript]
    by_cases isOpen : b.openScript = some id <;> simp [isOpen, Function.comp_def]
  openScript := second.openScript.trans first.openScript
  nextScript := second.nextScript.trans first.nextScript

theorem adds_addScriptCommand (b : Board) (rest : Frame) :
    b.Adds [b.head.getD [] ++ rest] (b.addScriptCommand rest) := by
  unfold addScriptCommand
  simp only
  split
  · rename_i closed
    exact ⟨fun id => by simp [closed], rfl, rfl⟩
  · rename_i id isOpen
    split
    · rename_i unknown
      refine ⟨fun id' => ?_, rfl, rfl⟩
      by_cases same : id' = id
      · simp [same, unknown]
      · simp [isOpen, Ne.symm same]
    · rename_i commands known
      refine ⟨fun id' => ?_, rfl, rfl⟩
      by_cases same : id' = id
      · simp [same, isOpen, known, SortedMap.get?_insert]
      · simp [same, isOpen, Ne.symm same, SortedMap.get?_insert]

/-- A frame that is sent in a trace was taken. -/
theorem taken_of_carries {frame : Frame} {t : List Exchange}
    (carries : Carries Injects b (.sent frame (.ok ()) :: t) b') :
    ∃ replies b₁, b.receive frame = (.ok replies, b₁) ∧ Carries Injects b₁ t b' := by
  generalize taken : Exchange.sent frame (.ok ()) = exchange at carries
  cases carries with
  | sent carries =>
      obtain ⟨rfl, result⟩ := Exchange.sent.inj taken
      cases received : Transport.send b frame with
      | mk outcome b₁ =>
        rw [received] at result carries
        cases outcome with
        | error fault => contradiction
        | ok replies => exact ⟨replies, b₁, received, carries⟩
  | _ => contradiction

theorem adds_of_receive {rest : Frame} {replies : List Frame}
    (received : b.receive ([ModuleId.script, Register.Script.addCommand] ++ rest) =
      (.ok replies, b')) :
    b.Adds [b.head.getD [] ++ rest] b' ∧ b'.head = none := by
  obtain ⟨answers, obeys, -⟩ := receive_cons_ok received
  obtain ⟨-, rfl⟩ := Prod.mk.inj obeys
  let taken : Board :=
    { b with sent := b.sent ++ [[ModuleId.script, Register.Script.addCommand] ++ rest] }
  have adds := taken.adds_addScriptCommand rest
  exact ⟨⟨adds.scripts, adds.openScript, adds.nextScript⟩, (taken.obeyed_addScriptCommand rest).head⟩

theorem waits_of_receive {head : Frame} {replies : List Frame}
    (received : b.receive ([ModuleId.script, Register.Script.addHead] ++ head) =
      (.ok replies, b')) :
    b.Adds [] b' ∧ b'.head = some head := by
  obtain ⟨answers, obeys, -⟩ := receive_cons_ok received
  obtain ⟨-, rfl⟩ := Prod.mk.inj obeys
  have adds := Adds.nil b
  exact ⟨⟨adds.scripts, rfl, rfl⟩, rfl⟩

/-- The frames of a command, all of them taken, add the command, behind a head that waited unless
the command brings its own. -/
theorem adds_of_command {limit : Nat} {command : Frame}
    (carries : Carries Injects b
      ((Script.commandFrames command limit).map fun frame => .sent frame (.ok ())) b') :
    b.Adds [if Script.IsSplit limit command then command else b.head.getD [] ++ command] b' ∧
      b'.head = none := by
  by_cases split : Script.IsSplit limit command
  · rw [Script.commandFrames_of_isSplit split] at carries
    obtain ⟨_, b₁, first, carries⟩ := taken_of_carries carries
    obtain ⟨_, b₂, second, carries⟩ := taken_of_carries carries
    cases carries
    obtain ⟨kept, waits⟩ := waits_of_receive first
    obtain ⟨adds, none⟩ := adds_of_receive second
    rw [waits, Option.getD_some, List.take_append_drop] at adds
    rw [if_pos split]
    exact ⟨kept.append adds, none⟩
  · rw [Script.commandFrames_of_not_isSplit split] at carries
    obtain ⟨_, b₁, only, carries⟩ := taken_of_carries carries
    cases carries
    rw [if_neg split]
    exact adds_of_receive only

/-- The frames of some commands, all of them taken, add the commands, the first one behind a head that
waited. They leave no head behind. -/
theorem adds_of_carries {limit : Nat} {commands : List Frame}
    (carries : Carries Injects b ((commands.flatMap fun command =>
      Script.commandFrames command limit).map fun frame => .sent frame (.ok ())) b') :
    b.Adds (Script.completed limit b.head commands) b' ∧ (b.head = none → b'.head = none) := by
  induction commands generalizing b with
  | nil =>
      cases carries
      exact ⟨.nil _, id⟩
  | cons command rest ih =>
      rw [List.flatMap_cons, List.map_append, carries_append] at carries
      obtain ⟨b₁, first, carries⟩ := carries
      obtain ⟨adds, whole⟩ := adds_of_command first
      obtain ⟨later, left⟩ := ih carries
      rw [whole, Script.completed_none] at later
      exact ⟨adds.append later, fun _ => left whole⟩

end Board

end SensorHost
