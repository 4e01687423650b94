import SensorHost.Proofs.Session.Floor
import SensorHost.Proofs.Session.Prompt
import SensorHost.Proofs.Session.Scripts

/-!
# Scripts that several calls write

Calls that commit scripts take turns on one session with a healthy board. Nothing but the pause between
the start of a script and its commands makes such a call wait, so its marks are the two moments at which
it opens a script and closes one (`Mark`), and the commands are written at the second of them.

The frames that add commands name no script: they go to the one that was opened last, unless it was
closed since. So the marks tell what the board stores (`Board.Shelves`): a script holds the commands of
the call whose closing comes next after its opening, and nothing if another opening comes first.
-/

namespace SensorHost

/-- A call opened a script, or closed the one that was open. -/
inductive Mark where
  | opens (owner : Nat)
  | closes (owner : Nat)
deriving DecidableEq

namespace Mark

def owner : Mark → Nat
  | opens owner | closes owner => owner

def isOpening : Mark → Bool
  | opens _ => true
  | closes _ => false

/-- The number of scripts that were opened. -/
def openings (marks : List Mark) : Nat := marks.countP isOpening

/-- The script that is open after some marks. -/
def opened? (marks : List Mark) : Option UInt8 :=
  match marks.getLast? with
  | some (opens _) => some (UInt8.ofNat (openings marks - 1))
  | _ => none

/-- What a script holds after the marks that follow its opening, by what each call writes. -/
def contents (written : Nat → List Frame) : List Mark → List Frame
  | closes owner :: _ => written owner
  | _ => []

variable {marks marks' : List Mark} {o : Nat}

@[simp] theorem openings_append :
    openings (marks ++ marks') = openings marks + openings marks' :=
  List.countP_append

@[simp] theorem openings_opens : openings (opens o :: marks) = openings marks + 1 :=
  List.countP_cons_of_pos rfl

@[simp] theorem openings_closes : openings (closes o :: marks) = openings marks :=
  List.countP_cons_of_neg nofun

@[simp] theorem openings_nil : openings [] = 0 := rfl

/-- Another opening changes nothing about what comes next. -/
theorem contents_opens {written : Nat → List Frame} :
    contents written (marks ++ [opens o]) = contents written marks := by
  cases marks with
  | nil => rfl
  | cons mark rest => cases mark <;> rfl

/-- Marks are split like the marks before the last one, or at the last one. -/
theorem split_concat {mark : Mark} {earlier later : List Mark}
    (split : marks ++ [mark] = earlier ++ opens o :: later) :
    (later = [] ∧ earlier = marks ∧ mark = opens o) ∨
      ∃ later', later = later' ++ [mark] ∧ marks = earlier ++ opens o :: later' := by
  rcases later.eq_nil_or_concat with rfl | ⟨later', last, rfl⟩
  · obtain ⟨same, last⟩ := List.append_inj' split rfl
    exact .inl ⟨rfl, same.symm, (List.cons.inj last).1⟩
  · rw [List.concat_eq_append] at split ⊢
    rw [← List.cons_append, ← List.append_assoc] at split
    obtain ⟨same, last⟩ := List.append_inj' split rfl
    obtain ⟨rfl, -⟩ := List.cons.inj last
    exact .inr ⟨later', rfl, same⟩

theorem opened?_opens : opened? (marks ++ [opens o]) = some (UInt8.ofNat (openings marks)) := by
  simp [opened?, openings, isOpening]

theorem opened?_closes : opened? (marks ++ [closes o]) = none := by
  simp [opened?]

/-- The script that is open was the last thing opened, and nothing was closed since. -/
theorem opened?_eq_some {id : UInt8} (isOpen : opened? marks = some id) :
    ∃ earlier o, marks = earlier ++ [opens o] ∧ id = UInt8.ofNat (openings earlier) := by
  rcases marks.eq_nil_or_concat with rfl | ⟨earlier, mark, rfl⟩
  · contradiction
  · rw [List.concat_eq_append] at isOpen ⊢
    cases mark with
    | opens o =>
        rw [opened?_opens] at isOpen
        exact ⟨earlier, o, rfl, (Option.some.inj isOpen).symm⟩
    | closes o =>
        rw [opened?_closes] at isOpen
        contradiction

end Mark

/-- The mark that a deed leaves. -/
def Deed.mark? : Deed → Option Mark
  | .asked owner key _ =>
    if key = ⟨ModuleId.script, Register.Script.start⟩ then some (.opens owner) else none
  | .sent owner frame _ => if frame = Script.finishFrame then some (.closes owner) else none
  | .happened _ => none

/-! ## What the board stores -/

/-- Ids are numbers of openings, so a later one differs as long as there are few in between. -/
theorem UInt8.ofNat_ne_of_close {n k : Nat} (pos : 0 < k) (few : k < 256) :
    UInt8.ofNat (n + k) ≠ UInt8.ofNat n := by
  intro same
  have := congrArg UInt8.toNat same
  simp only [UInt8.toNat_ofNat'] at this
  omega

namespace Board

/-- A healthy board on which scripts were opened and closed in this way, each call writing its
commands when it closes. The latest 256 scripts are kept. -/
structure Shelves (b : Board) (marks : List Mark) (written : Nat → List Frame) : Prop where
  healthy : b.Healthy
  head : b.head = none
  nextScript : b.nextScript = UInt8.ofNat (Mark.openings marks)
  openScript : b.openScript = Mark.opened? marks
  scripts {earlier later : List Mark} {o : Nat} : marks = earlier ++ .opens o :: later →
    Mark.openings later < 256 → b.scripts.get? (UInt8.ofNat (Mark.openings earlier)) =
      some (Mark.contents written later)

theorem shelves_new (frameLimit : Nat) (written : Nat → List Frame) :
    (new frameLimit).Shelves [] written :=
  ⟨healthy_new frameLimit, rfl, rfl, rfl, fun split => by simp at split⟩

namespace Shelves

variable {b b' : Board} {marks : List Mark} {written : Nat → List Frame}

/-- A start opens a script of its own, and takes no script that is younger than 256 openings. -/
theorem opens (h : b.Shelves marks written) {autoRun : Bool} {replies : List Frame}
    (received : b.receive (Script.startFrame autoRun) = (.ok replies, b')) (healthy : b'.Healthy)
    (o : Nat) : b'.Shelves (marks ++ [.opens o]) written := by
  obtain ⟨-, scripts, isOpen, head, next, -⟩ := receive_start received
  refine ⟨healthy, head.trans h.head, ?_, ?_, ?_⟩
  · rw [next, h.nextScript, Mark.openings_append]
    exact (UInt8.ofNat_add _ 1).symm
  · rw [isOpen, h.nextScript, Mark.opened?_opens]
  · intro earlier later p split few
    rw [scripts, h.nextScript, SortedMap.get?_insert]
    rcases Mark.split_concat split with ⟨rfl, rfl, -⟩ | ⟨later, rfl, rfl⟩
    · rw [if_pos rfl]
      rfl
    · simp only [Mark.openings_append, Mark.openings_opens, Mark.openings_nil] at few ⊢
      rw [if_neg (UInt8.ofNat_ne_of_close (by omega) (by omega)).symm, h.scripts rfl (by omega),
        Mark.contents_opens]

/-- The commands that are written before a finish go to the script that is open. -/
theorem closes (h : b.Shelves marks written) {commands : List Frame} {b₁ : Board}
    {replies : List Frame} (adds : b.Adds commands b₁) (whole : b₁.head = none)
    (received : b₁.receive Script.finishFrame = (.ok replies, b')) (healthy : b'.Healthy) {o : Nat}
    (first : .closes o ∉ marks) :
    b'.Shelves (marks ++ [.closes o]) (Function.update written o commands) := by
  obtain ⟨scripts, closed, head, next⟩ := receive_finish received
  refine ⟨healthy, head.trans whole, ?_, ?_, ?_⟩
  · rw [next, adds.nextScript, h.nextScript, Mark.openings_append]
    rfl
  · rw [closed, Mark.opened?_closes]
  · intro earlier later p split few
    obtain ⟨-, -, last⟩ | ⟨later, rfl, rfl⟩ := Mark.split_concat split
    · contradiction
    simp only [Mark.openings_append, Mark.openings_closes, Mark.openings_nil] at few
    have known := h.scripts rfl few
    rw [scripts, adds.scripts, h.openScript]
    cases later with
    | nil =>
        -- The script was opened last, so the commands are written to it.
        rw [Mark.opened?_opens, if_pos rfl, known]
        simp [Mark.contents]
    | cons mark later =>
        -- What is open, if anything, was opened after it.
        have other : Mark.opened? (earlier ++ .opens p :: mark :: later) ≠
            some (UInt8.ofNat (Mark.openings earlier)) := by
          intro isOpen
          obtain ⟨earlier', q, split', id⟩ := Mark.opened?_eq_some isOpen
          obtain ⟨none, -⟩ | ⟨later', last, rfl⟩ := Mark.split_concat split'.symm
          · contradiction
          rw [last] at few
          simp only [Mark.openings_append, Mark.openings_opens, Mark.openings_nil] at few id
          exact UInt8.ofNat_ne_of_close (by omega) (by omega) id.symm
        rw [if_neg other, known]
        cases mark with
        | opens q => rfl
        | closes q =>
            have ne : q ≠ o := by
              rintro rfl
              exact first (by simp)
            simp [Mark.contents, ne]

end Shelves

end Board

/-! ## What a call does in its turn -/

namespace Session

variable {s s₁ s' : Session Board} {owner : Nat} {α β : Type} {marks marks' : List Mark}

/-- The turn of a call ends like this and leaves these marks. -/
def Marked (owner : Nat) (d : Dialogue true α) (s : Session Board) (progress : Progress α)
    (s' : Session Board) (marks : List Mark) : Prop :=
  advance owner d s = (progress, s') ∧ (s.deeds owner d).filterMap Deed.mark? = marks

theorem marks_happened (events : List LinkEvent) :
    (events.map Deed.happened).filterMap Deed.mark? = [] := by
  simp [Deed.mark?]

theorem Marked.bind {call : Call true α} {f : α → Call true β} {a : α}
    {progress : Progress (Except Fault β)}
    (first : Marked owner call.run s (.finished (.ok a)) s₁ marks)
    (second : Marked owner (f a).run s₁ progress s' marks') :
    Marked owner (call >>= f).run s progress s' (marks ++ marks') := by
  refine ⟨(advance_bind (f := ExceptT.bindCont f) first.1).trans second.1, ?_⟩
  have deeds := deeds_bind (f := ExceptT.bindCont f) first.1
  refine (congrArg (List.filterMap Deed.mark?) deeds).trans ?_
  rw [List.filterMap_append, first.2]
  exact congrArg _ second.2

theorem Marked.bind_error {call : Call true α} (f : α → Call true β) {fault : Fault}
    (first : Marked owner call.run s (.finished (.error fault)) s₁ marks) :
    Marked owner (call >>= f).run s (.finished (.error fault)) s₁ marks := by
  refine ⟨advance_bind (f := ExceptT.bindCont f) first.1, ?_⟩
  have deeds := deeds_bind (f := ExceptT.bindCont f) first.1
  refine (congrArg (List.filterMap Deed.mark?) deeds).trans ?_
  rw [List.filterMap_append, first.2]
  exact List.append_nil marks

theorem Marked.attempt {call : Call true α} {result : Except Fault α}
    (made : Marked owner call.run s (.finished result) s' marks) :
    Marked owner (Call.attempt call).run s (.finished (.ok result)) s' marks := by
  refine ⟨advance_bind (f := fun r => .done (Except.ok r)) made.1, ?_⟩
  have deeds := deeds_bind
    (f := fun r => .done (Except.ok r : Except Fault (Except Fault α))) made.1
  refine (congrArg (List.filterMap Deed.mark?) deeds).trans ?_
  rw [List.filterMap_append, made.2]
  exact List.append_nil marks

/-- Nothing waits on the session, and its board is healthy. -/
structure Ready (s : Session Board) : Prop where
  idle : s.Idle
  healthy : s.link.wire.Healthy

theorem Ready.transmit (h : s.Ready) (owner : Nat) {frame : Frame} (long : 2 ≤ frame.length) :
    ∃ s' replies, Marked owner (Call.transmit frame).run s (.finished (.ok ())) s'
        (if frame = Script.finishFrame then [.closes owner] else []) ∧
      s'.Ready ∧ ListenersOnly s.host s'.host ∧
      s.link.wire.receive frame = (.ok replies, s'.link.wire) := by
  match frame, long with
  | moduleId :: register :: payload, _ =>
    obtain ⟨replies, b', -, received, healthy⟩ := h.healthy.obeys moduleId register payload
    have sent : Transport.send s.link.wire (moduleId :: register :: payload) = (.ok replies, b') :=
      received
    obtain ⟨result, wire, stands⟩ := h.idle.link.transmit (moduleId :: register :: payload)
    rw [sent] at result wire
    obtain ⟨stands, kept⟩ := stands_absorb stands h.idle.outcomes
    have wire' : (s.transmit (moduleId :: register :: payload)).2.link.wire = b' := kept.trans wire
    refine ⟨(s.transmit (moduleId :: register :: payload)).2, replies, ⟨?_, ?_⟩,
      ⟨stands, wire'.symm ▸ healthy⟩, listenersOnly_transmit .., by rw [received, wire']⟩
    · exact congrArg (fun result => (Progress.finished result, (s.transmit _).2)) result
    · show (Deed.sent owner (moduleId :: register :: payload) _ :: _ ++ []).filterMap _ = _
      rw [List.append_nil, List.filterMap_cons, marks_happened, Deed.mark?]
      split <;> rename_i eq <;> split at eq <;> simp_all

theorem Ready.transmitAll (h : s.Ready) (owner : Nat) {frames : List Frame}
    (plain : ∀ frame ∈ frames, 2 ≤ frame.length ∧ frame ≠ Script.finishFrame) :
    ∃ s', Marked owner (Call.transmitAll frames : Call true Unit).run s (.finished (.ok ())) s' [] ∧
      s'.Ready ∧ ListenersOnly s.host s'.host ∧
      Carries Board.Injects s.link.wire (frames.map fun frame => .sent frame (.ok ()))
        s'.link.wire := by
  induction frames generalizing s with
  | nil => exact ⟨s, ⟨rfl, rfl⟩, h, .refl _, .nil⟩
  | cons frame rest ih =>
      obtain ⟨⟨long, other⟩, rest_plain⟩ := List.forall_mem_cons.mp plain
      obtain ⟨s₁, replies, first, ready₁, listeners₁, received⟩ := h.transmit owner long
      obtain ⟨s', later, ready, listeners, carries⟩ := ih ready₁ rest_plain
      rw [if_neg other] at first
      refine ⟨s', first.bind later, ready, listeners₁.trans listeners, ?_⟩
      have sent : Transport.send s.link.wire frame = (.ok replies, s₁.link.wire) := received
      have step : Carries Board.Injects s.link.wire
          (.sent frame ((Transport.send s.link.wire frame).1.map fun _ => ()) ::
            rest.map fun frame => .sent frame (.ok ())) s'.link.wire :=
        .sent (by rw [sent]; exact carries)
      rw [sent] at step
      exact step

theorem commandFrames_plain {limit : Nat} {command frame : Frame}
    (mem : frame ∈ Script.commandFrames command limit) :
    2 ≤ frame.length ∧ frame ≠ Script.finishFrame := by
  by_cases split : Script.IsSplit limit command
  · rw [Script.commandFrames_of_isSplit split] at mem
    simp only [List.mem_cons, List.not_mem_nil, or_false] at mem
    rcases mem with rfl | rfl <;>
      exact ⟨Nat.le_add_left .., fun same => absurd (List.cons.inj (List.cons.inj same).2).1 nofun⟩
  · rw [Script.commandFrames_of_not_isSplit split] at mem
    obtain rfl := List.mem_singleton.mp mem
    exact ⟨Nat.le_add_left .., fun same => absurd (List.cons.inj (List.cons.inj same).2).1 nofun⟩

/-- The commands of a script are written, and the script is closed, without waiting. -/
theorem Ready.fillScript (h : s.Ready) (whole : s.link.wire.head = none) (owner : Nat) (id : UInt8)
    (autoRun : Bool) (commands : List Frame) : ∃ s' b replies,
      Marked owner (Call.fillScript id autoRun commands).run s
        (.finished (.ok ⟨id, autoRun, commands⟩)) s' [.closes owner] ∧
      s'.Ready ∧ s'.host.settings = s.host.settings ∧ s.link.wire.Adds commands b ∧ b.head = none ∧
      b.receive Script.finishFrame = (.ok replies, s'.link.wire) := by
  have plain : ∀ frame ∈ commands.flatMap (Script.commandFrames ·
      (min s.link.wire.frameLimit s.host.settings.frameLimit)),
      2 ≤ frame.length ∧ frame ≠ Script.finishFrame := by
    intro frame mem
    obtain ⟨command, -, mem⟩ := List.mem_flatMap.mp mem
    exact commandFrames_plain mem
  obtain ⟨s₁, sent, ready₁, ⟨_, same₁⟩, carries⟩ := h.transmitAll owner plain
  obtain ⟨adds, left⟩ := Board.adds_of_carries carries
  rw [whole, Script.completed_none] at adds
  obtain ⟨s₂, replies, finish, ready₂, ⟨_, same₂⟩, received⟩ :=
    ready₁.transmit owner (show 2 ≤ Script.finishFrame.length from Nat.le_refl 2)
  rw [if_pos rfl] at finish
  let script : Script := ⟨id, autoRun, commands⟩
  let s' : Session Board :=
    { s₂ with host := { s₂.host with scripts := s₂.host.scripts.insert id script } }
  have measured : Marked owner (Call.frameLimit : Call true Nat).run s
      (.finished (.ok (min s.link.wire.frameLimit s.host.settings.frameLimit))) s [] := ⟨rfl, rfl⟩
  have written : Marked owner (Call.writeCommands commands).run s (.finished (.ok ())) s₁ [] :=
    measured.bind sent
  have ended : Marked owner (do
      Call.update fun h => { h with scripts := h.scripts.insert id script }
      return script : Call true Script).run s₂ (.finished (.ok script)) s' [] := ⟨rfl, rfl⟩
  refine ⟨s', s₁.link.wire, replies, written.attempt.bind (finish.bind ended), ⟨⟨ready₂.idle.link,
    ready₂.idle.outcomes⟩, ready₂.healthy⟩, ?_, adds, left whole, received⟩
  show s₂.host.settings = _
  rw [same₂, same₁]

/-- A script is opened without waiting. -/
theorem Ready.start (h : s.Ready) (owner : Nat) (autoRun : Bool) : ∃ s' replies,
    Marked owner (Call.ask ⟨ModuleId.script, Register.Script.start⟩ s.host.settings.responseTimeout
        [Script.startFrame autoRun]).run s
      (.finished (.ok [ModuleId.script, Register.Script.start, s.link.wire.nextScript])) s'
      [.opens owner] ∧
    s'.Ready ∧ s'.host.settings = s.host.settings ∧
    s.link.wire.receive (Script.startFrame autoRun) = (.ok replies, s'.link.wire) := by
  obtain ⟨replies, b', obeys, received, healthy⟩ :=
    h.healthy.obeys ModuleId.script Register.Script.start [autoRun.toUInt8]
  obtain ⟨rfl, rfl⟩ := Prod.mk.inj obeys
  obtain ⟨s', taken, idle, wire, _, same⟩ := h.idle.taken_at_once owner
    ⟨ModuleId.script, Register.Script.start⟩ s.host.settings.responseTimeout received rfl
  refine ⟨s', _, ⟨advance_ask taken, ?_⟩, ⟨idle, wire.symm ▸ healthy⟩, by rw [same],
    by rw [wire]; exact received⟩
  refine (congrArg (List.filterMap Deed.mark?) (deeds_ask taken)).trans ?_
  rw [List.cons_append, List.filterMap_cons, List.filterMap_append, marks_happened]
  rfl

/-- What the first turn of a call that commits a script comes to: there was no script to commit, or
the script was opened and settles, or it was written at once. -/
theorem Ready.commitScript (h : s.Ready) (whole : s.link.wire.head = none) (owner : Nat) :
    (∃ fault s', Marked owner Call.commitScript.run s (.finished (.error fault)) s' [] ∧
      s'.Ready ∧ s'.host.settings = s.host.settings ∧ s'.link = s.link) ∨
    ∃ autoRun commands s₁ replies, s₁.Ready ∧ s₁.host.settings = s.host.settings ∧
      s.link.wire.receive (Script.startFrame autoRun) = (.ok replies, s₁.link.wire) ∧
      if s.host.settings.settleDelay ≠ 0 then
        Marked owner Call.commitScript.run s (.pausing s.host.settings.settleDelay
          (Call.fillScript s.link.wire.nextScript autoRun commands).run) s₁ [.opens owner]
      else ∃ s' b replies', Marked owner Call.commitScript.run s
          (.finished (.ok ⟨s.link.wire.nextScript, autoRun, commands⟩)) s'
          [.opens owner, .closes owner] ∧
        s'.Ready ∧ s'.host.settings = s.host.settings ∧ s₁.link.wire.Adds commands b ∧
        b.head = none ∧ b.receive Script.finishFrame = (.ok replies', s'.link.wire) := by
  let s₀ : Session Board := { s with host := { s.host with recorder := .idle } }
  have ready₀ : s₀.Ready := ⟨⟨h.idle.link, h.idle.outcomes⟩, h.healthy⟩
  have taken : Marked owner (Call.takeRecording : Call true _).run s
      (.finished s.host.recorder.take) s₀ [] := ⟨rfl, rfl⟩
  cases recorded : s.host.recorder.take with
  | error fault =>
      rw [recorded] at taken
      exact .inl ⟨fault, s₀, taken.bind_error _, ready₀, rfl, rfl⟩
  | ok recording =>
      rw [recorded] at taken
      obtain ⟨target, commands⟩ := recording
      cases target with
      | event trigger copy => exact .inl ⟨_, s₀, taken.bind ⟨rfl, rfl⟩, ready₀, rfl, rfl⟩
      | script autoRun =>
          obtain ⟨s₁, replies, asked, ready₁, same₁, received⟩ := ready₀.start owner autoRun
          refine .inr ⟨autoRun, commands, s₁, replies, ready₁, same₁, received, ?_⟩
          -- What follows the answer.
          have commits {progress : Progress (Except Fault Script)} {s' : Session Board}
              {marks : List Mark} (rest : Marked owner (if s.host.settings.settleDelay ≠ 0 then do
                  Call.pause s.host.settings.settleDelay
                  Call.fillScript s.link.wire.nextScript autoRun commands
                else Call.fillScript s.link.wire.nextScript autoRun commands).run s₁ progress s'
                marks) :
              Marked owner Call.commitScript.run s progress s' (.opens owner :: marks) := by
            have answered : Marked owner (Call.orFail (.protocol "macro begin echo carries no id")
                [ModuleId.script, Register.Script.start, s.link.wire.nextScript][2]? :
                  Call true UInt8).run s₁ (.finished (.ok s.link.wire.nextScript)) s₁ [] :=
              ⟨rfl, rfl⟩
            have host : Marked owner (Call.host : Call true Host).run s₀ (.finished (.ok s₀.host)) s₀
                [] := ⟨rfl, rfl⟩
            exact taken.bind (host.bind (asked.bind (answered.bind rest)))
          split
          · rename_i delay
            rw [if_pos delay] at commits
            exact commits ⟨rfl, rfl⟩
          · rename_i delay
            rw [if_neg delay] at commits
            have head : s₁.link.wire.head = none :=
              (Board.receive_start received).2.2.2.1.trans whole
            obtain ⟨s', b, replies', filled, ready', same', adds, left, finished⟩ :=
              ready₁.fillScript head owner s.link.wire.nextScript autoRun commands
            exact ⟨s', b, replies', commits filled, ready', same'.trans same₁, adds, left, finished⟩

end Session

/-! ## Any number of calls -/

/-- The board does not change by itself; frames may come from it all the same. -/
def Board.Keeps (b : Board) (_ : Option Frame) (b' : Board) : Prop := b' = b

theorem Board.eq_of_drifts {b b' : Board} (drifts : Drifts Board.Keeps b b') : b' = b := by
  induction drifts with
  | refl => rfl
  | tail _ step ih =>
      obtain ⟨_, rfl⟩ := step
      exact ih

namespace Floor

/-- What happens on a session while no call has a turn: time passes, timers fire, frames arrive, and
somebody records. -/
inductive Recording : Session Board → List LinkEvent → Session Board → Prop
  | meanwhile {s s' : Session Board} : s.Meanwhile Board.Keeps s' → Recording s [] s'
  | records {s : Session Board} (recorder : Recorder) :
    Recording s [] { s with host := { s.host with recorder } }

variable {f f' : Floor Board Script} {settings : Settings} {owner : Nat}

/-- The marks that the calls left. -/
def marks (f : Floor Board Script) : List Mark := f.log.filterMap Deed.mark?

/-- The commands of a script that was written. -/
def commandsOf : Option (Progress (Except Fault Script)) → List Frame
  | some (.finished (.ok m)) => m.commands
  | _ => []

/-- What each call wrote. -/
def written (f : Floor Board Script) (owner : Nat) : List Frame := commandsOf (f.calls owner)

/-- How far a call has come that commits a script, by the marks that were left. -/
inductive Standing (delay : Nat) (marks : List Mark) (owner : Nat) :
    Option (Progress (Except Fault Script)) → Prop
  | unbegun : (∀ mark ∈ marks, mark.owner ≠ owner) → Standing delay marks owner none
  | failed {fault : Fault} : (∀ mark ∈ marks, mark.owner ≠ owner) →
    Standing delay marks owner (some (.finished (.error fault)))
  | settles {earlier later : List Mark} {autoRun : Bool} {commands : List Frame} : delay ≠ 0 →
    marks = earlier ++ .opens owner :: later → (∀ mark ∈ earlier ++ later, mark.owner ≠ owner) →
    Standing delay marks owner (some (.pausing delay
      (Call.fillScript (UInt8.ofNat (Mark.openings earlier)) autoRun commands).run))
  | wrote {earlier between later : List Mark} {m : Script} :
    marks = earlier ++ .opens owner :: (between ++ .closes owner :: later) →
    (∀ mark ∈ earlier ++ between ++ later, mark.owner ≠ owner) → (delay = 0 → between = []) →
    m.id = UInt8.ofNat (Mark.openings earlier) →
    Standing delay marks owner (some (.finished (.ok m)))

/-- The marks of other calls leave a call where it stands. -/
theorem Standing.append {delay : Nat} {ms more : List Mark}
    {progress : Option (Progress (Except Fault Script))} (h : Standing delay ms owner progress)
    (others : ∀ mark ∈ more, mark.owner ≠ owner) : Standing delay (ms ++ more) owner progress := by
  cases h with
  | unbegun absent => exact .unbegun (List.forall_mem_append.mpr ⟨absent, others⟩)
  | failed absent => exact .failed (List.forall_mem_append.mpr ⟨absent, others⟩)
  | settles delays split once =>
      rw [split, List.append_assoc, List.cons_append]
      refine .settles delays rfl ?_
      rw [← List.append_assoc]
      exact List.forall_mem_append.mpr ⟨once, others⟩
  | wrote split once atOnce id =>
      rw [split, List.append_assoc, List.cons_append, List.append_assoc, List.cons_append]
      refine .wrote rfl ?_ atOnce id
      rw [← List.append_assoc]
      exact List.forall_mem_append.mpr ⟨once, others⟩

/-- Scripts were opened and closed as the marks say, and the calls are where the marks say. -/
structure Tally (settings : Settings) (f : Floor Board Script) : Prop where
  ready : f.session.Ready
  configured : f.session.host.settings = settings
  shelves : f.session.link.wire.Shelves f.marks f.written
  calls (owner : Nat) : Standing settings.settleDelay f.marks owner (f.calls owner)

namespace Tally

theorem new (settings : Settings) (frameLimit now : Nat) (runtime : Runtime) :
    Tally settings (.new (.new settings (.new frameLimit) now runtime)) :=
  ⟨⟨Session.idle_new .., Board.healthy_new frameLimit⟩, rfl, Board.shelves_new frameLimit _,
    fun _ => .unbegun nofun⟩

/-- After a turn of a call, the call is where its marks say. The others have not moved. -/
theorem turn (h : Tally settings f) {d : Dialogue true (Except Fault Script)}
    {s s' : Session Board} {progress : Progress (Except Fault Script)} {ms : List Mark}
    (made : Session.Marked owner d s progress s' ms) (ready : s'.Ready)
    (same : s'.host.settings = settings)
    (shelves : s'.link.wire.Shelves (f.marks ++ ms)
      (Function.update f.written owner (commandsOf (some progress))))
    (own : ∀ mark ∈ ms, mark.owner = owner)
    (standing : Standing settings.settleDelay (f.marks ++ ms) owner (some progress)) :
    Tally settings (f.takeTurn owner d s) := by
  obtain ⟨advanced, left⟩ := made
  have marks : (f.takeTurn owner d s).marks = f.marks ++ ms := by
    rw [← left]
    exact List.filterMap_append
  have calls : (f.takeTurn owner d s).calls = Function.update f.calls owner (some progress) := by
    simp only [takeTurn, advanced]
  have session : (f.takeTurn owner d s).session = s' := by
    simp only [takeTurn, advanced]
  refine ⟨session ▸ ready, session ▸ same, ?_, fun o => ?_⟩
  · have written : (f.takeTurn owner d s).written =
        Function.update f.written owner (commandsOf (some progress)) := by
      funext o
      rw [Floor.written, calls]
      by_cases mine : o = owner
      · subst mine
        simp
      · simp [mine, Floor.written]
    rw [session, marks, written]
    exact shelves
  · rw [marks, calls]
    by_cases mine : o = owner
    · subst mine
      rw [Function.update_self]
      exact standing
    · rw [Function.update_of_ne mine]
      exact (h.calls o).append fun mark mem => (own mark mem).trans_ne (Ne.symm mine)

/-- A turn in which nothing was written, of a call that has written nothing. -/
theorem unwritten (none : f.written owner = []) {progress : Progress (Except Fault Script)}
    (same : commandsOf (some progress) = []) :
    Function.update f.written owner (commandsOf (some progress)) = f.written := by
  rw [same, ← none, Function.update_eq_self]

theorem begins (h : Tally settings f) (unbegun : f.calls owner = none) :
    Tally settings (f.takeTurn owner Call.commitScript.run f.session) := by
  have standing := h.calls owner
  rw [unbegun] at standing
  cases standing with
  | unbegun absent =>
    have none : f.written owner = [] := by
      rw [written, unbegun]
      rfl
    obtain ⟨fault, s', made, ready, same, link⟩ | ⟨autoRun, commands, s₁, replies, ready₁, same₁,
      received, made⟩ := h.ready.commitScript h.shelves.head owner
    · refine h.turn made ready (same.trans h.configured) ?_ nofun ?_
      · rw [unwritten none rfl, List.append_nil, link]
        exact h.shelves
      · rw [List.append_nil]
        exact .failed absent
    · have opened := h.shelves.opens received ready₁.healthy owner
      rw [h.configured] at made
      rw [h.shelves.nextScript] at made
      split at made
      · rename_i delays
        refine h.turn made ready₁ (same₁.trans h.configured) ?_ ?_ ?_
        · rw [unwritten none rfl]
          exact opened
        · simp [Mark.owner]
        · exact .settles delays rfl (by simpa using absent)
      · rename_i delay
        obtain ⟨s', b, replies', made, ready, same, adds, left, finished⟩ := made
        refine h.turn made ready same ?_ ?_ ?_
        · have fresh : .closes owner ∉ f.marks ++ [.opens owner] := by
            intro mem
            rcases List.mem_append.mp mem with mem | mem
            · exact absent _ mem rfl
            · simp at mem
          have shelves := opened.closes adds left finished ready.healthy fresh
          rw [List.append_assoc] at shelves
          exact shelves
        · simp [Mark.owner]
        · have split : f.marks ++ [.opens owner, .closes owner] =
              f.marks ++ .opens owner :: ([] ++ .closes owner :: []) := rfl
          exact .wrote split (by simpa using absent) (fun _ => rfl) rfl

theorem resumes (h : Tally settings f) {milliseconds : Nat}
    {next : Dialogue true (Except Fault Script)}
    (pausing : f.calls owner = some (.pausing milliseconds next)) :
    Tally settings (f.takeTurn owner next f.session) := by
  have standing := h.calls owner
  rw [pausing] at standing
  cases standing with
  | @settles earlier later autoRun commands delays split once =>
    obtain ⟨s', b, replies, made, ready, same, adds, left, finished⟩ :=
      h.ready.fillScript h.shelves.head owner (UInt8.ofNat (Mark.openings earlier)) autoRun commands
    refine h.turn made ready (same.trans h.configured) ?_ ?_ ?_
    · refine h.shelves.closes adds left finished ready.healthy ?_
      rw [split]
      intro mem
      have := once _ (by simpa using mem)
      exact this rfl
    · simp [Mark.owner]
    · rw [split, List.append_assoc, List.cons_append]
      exact .wrote rfl (by simpa using once) (fun none => absurd none delays) rfl

theorem step (h : Tally settings f) (step : Step (fun _ => Call.commitScript) Recording f f') :
    Tally settings f' := by
  cases step with
  | turn owner turn =>
      cases turn with
      | begins unbegun => exact h.begins unbegun
      | answered awaiting _ =>
          have standing := h.calls owner
          rw [awaiting] at standing
          cases standing
      | resumed pausing => exact h.resumes pausing
  | @between events s recording =>
      have marks : f.marks = Floor.marks ⟨s, f.log ++ events.map .happened, f.calls⟩ := by
        rw [Floor.marks, Floor.marks, List.filterMap_append, Session.marks_happened,
          List.append_nil]
      -- Neither the board nor any call has moved.
      have kept (ready : s.Ready) (same : s.host.settings = settings)
          (wire : s.link.wire = f.session.link.wire) :
          Tally settings ⟨s, f.log ++ events.map .happened, f.calls⟩ := by
        refine ⟨ready, same, ?_, fun o => ?_⟩
        · rw [← marks]
          exact wire.symm ▸ h.shelves
        · rw [← marks]
          exact h.calls o
      cases recording with
      | meanwhile meanwhile =>
          obtain ⟨⟨_, host⟩, ⟨drifts, idle⟩ | ⟨_, _, _, held, _⟩⟩ :=
            meanwhile.awaits h.ready.idle
          · have wire := Board.eq_of_drifts drifts
            refine kept ⟨idle, wire.symm ▸ h.ready.healthy⟩ ?_ wire
            rw [host]
            exact h.configured
          · contradiction
      | records recorder =>
          exact kept ⟨⟨h.ready.idle.link, h.ready.idle.outcomes⟩, h.ready.healthy⟩ h.configured rfl

theorem of_reaches {frameLimit now : Nat} {runtime : Runtime} (reached : Relation.ReflTransGen
      (Step (fun _ => Call.commitScript) Recording)
      (.new (.new settings (.new frameLimit) now runtime)) f) : Tally settings f := by
  induction reached with
  | refl => exact .new settings frameLimit now runtime
  | tail _ step ih => exact ih.step step

end Tally

/-- Calls that commit scripts, in any number and any order of their turns: the script of a call that
succeeded holds the commands of the call whose closing came next after its opening, and nothing if
another opening came first. Without a pause that is the call itself. -/
theorem committed_scripts {frameLimit now : Nat} {runtime : Runtime} (reached : Relation.ReflTransGen
      (Step (fun _ => Call.commitScript) Recording)
      (.new (.new settings (.new frameLimit) now runtime)) f)
    {m : Script} (succeeded : f.calls owner = some (.finished (.ok m))) :
    ∃ earlier between later,
      f.marks = earlier ++ .opens owner :: (between ++ .closes owner :: later) ∧
      (∀ mark ∈ earlier ++ between ++ later, mark.owner ≠ owner) ∧
      m.id = UInt8.ofNat (Mark.openings earlier) ∧
      (settings.settleDelay = 0 → between = []) ∧
      (Mark.openings (between ++ later) < 256 →
        f.session.link.wire.scripts.get? m.id =
            some (Mark.contents f.written (between ++ .closes owner :: later)) ∧
          (between = [] → f.session.link.wire.scripts.get? m.id = some m.commands)) := by
  have tally := Tally.of_reaches reached
  have standing := tally.calls owner
  rw [succeeded] at standing
  cases standing with
  | @wrote earlier between later _ split once atOnce id =>
    refine ⟨earlier, between, later, split, once, id, atOnce, fun few => ?_⟩
    have stored := tally.shelves.scripts split (by simpa using few)
    rw [← id] at stored
    refine ⟨stored, ?_⟩
    rintro rfl
    rw [stored, List.nil_append, Mark.contents, written, succeeded]
    rfl

/-! Two calls on one session: the second begins while the script of the first one settles, if it has
to. -/

/-- Somebody recorded a script. -/
def recorded (f : Floor Board Script) (commands : List Frame) : Floor Board Script :=
  { f with session.host.recorder := .recording (.script false) commands }

def settling (settleDelay : Nat) : Settings := { Settings.default with settleDelay }

/-- Two calls whose scripts settle for some time take turns. -/
def alternating (settleDelay : Nat) : Floor Board Script :=
  let commit := fun _ => Call.commitScript
  let f : Floor Board Script := .new (.new (settling settleDelay) (.new 18) 0 .virtual)
  let f := (f.recorded [[2, 3, 1]]).nextTurn commit 0
  let f := (f.recorded [[2, 3, 0]]).nextTurn commit 1
  (f.nextTurn commit 0).nextTurn commit 1

theorem reaches_recorded (f : Floor Board Script) (commands : List Frame) :
    Relation.ReflTransGen (Step (fun _ => Call.commitScript) Recording) f (f.recorded commands) := by
  have step : Step (fun _ => Call.commitScript) Recording f
      ⟨(f.recorded commands).session, f.log ++ [].map .happened, f.calls⟩ :=
    .between (.records (.recording (.script false) commands))
  rw [List.map_nil, List.append_nil] at step
  exact .single step

theorem reaches_alternating (settleDelay : Nat) :
    Relation.ReflTransGen (Step (fun _ => Call.commitScript) Recording)
      (.new (.new (settling settleDelay) (.new 18) 0 .virtual)) (alternating settleDelay) :=
  (((((reaches_recorded _ _).trans (reaches_nextTurn ..)).trans (reaches_recorded _ _)).trans
    (reaches_nextTurn ..)).trans (reaches_nextTurn ..)).trans (reaches_nextTurn ..)

theorem script_of_another : ∃ m, Relation.ReflTransGen
      (Step (fun _ => Call.commitScript) Recording)
      (.new (.new (settling 20) (.new 18) 0 .virtual)) (alternating 20) ∧
    (alternating 20).calls 1 = some (.finished (.ok m)) ∧ m.commands = [[2, 3, 0]] ∧
    (alternating 20).session.link.wire.scripts.get? m.id = some [[2, 3, 1]] := by
  have made : (alternating 20).returned? 1 = some ⟨1, false, [[2, 3, 0]]⟩ := by decide +kernel
  exact ⟨_, reaches_alternating 20, returned?_eq_some_iff.mp made, rfl, by decide +kernel⟩

theorem committed_scripts_at_once : ∃ m, Relation.ReflTransGen
      (Step (fun _ => Call.commitScript) Recording)
      (.new (.new (settling 0) (.new 18) 0 .virtual)) (alternating 0) ∧
    (alternating 0).calls 1 = some (.finished (.ok m)) ∧
    (alternating 0).session.link.wire.scripts.get? m.id = some m.commands := by
  have made : (alternating 0).returned? 1 = some ⟨1, false, [[2, 3, 0]]⟩ := by decide +kernel
  have succeeded := returned?_eq_some_iff.mp made
  obtain ⟨earlier, between, later, split, -, -, atOnce, stored⟩ :=
    committed_scripts (reaches_alternating 0) succeeded
  obtain rfl := atOnce rfl
  refine ⟨_, reaches_alternating 0, succeeded, (stored ?_).2 rfl⟩
  have four : (alternating 0).marks.length = 4 := by decide +kernel
  rw [split] at four
  simp only [List.length_append, List.length_cons] at four
  have few := List.countP_le_length (p := Mark.isOpening) (l := [] ++ later)
  rw [List.length_append] at few
  rw [Mark.openings]
  omega

end Floor

end SensorHost
