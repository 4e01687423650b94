import SensorHost.Proofs.Board.Scripts

/-!
# Commands on their way into a script

How long the frames are that add a command to a script, and what a board puts together from them.

A command is split if it is as long as a frame may be or longer. One byte less would have to be split
too, since the header takes two bytes: its frame is one byte too long
(`Script.frames_within_limit_iff`).

A board that writes a script, with no head waiting, stores the commands that it is sent one by one, as
they are and in order, and then no head waits either (`Board.commands_reassembled`). That holds for
every limit and for commands of every length. It needs every frame to be taken, which the register
that the board refuses decides before the first one is sent (`Board.sendAll_eq_ok_iff`).
-/

namespace SensorHost

/-! ## Lengths -/

namespace Script

/-- The frames that add some commands to the script being written, in order. -/
def framesOf (limit : Nat) (commands : List Frame) : List Frame :=
  commands.flatMap fun command => commandFrames command limit

/-- The header takes two bytes of each frame; a head takes two more bytes, and spares them the rest. -/
theorem map_length_commandFrames (command : Frame) (limit : Nat) :
    (commandFrames command limit).map List.length =
      if IsSplit limit command then [4, command.length] else [command.length + 2] := by
  by_cases split : IsSplit limit command
  · have long : 2 < command.length := split.2
    have head : (command.take 2).length = 2 := List.length_take_of_le (Nat.le_of_lt long)
    have rest : (command.drop 2).length + 2 = command.length := by
      rw [List.length_drop]
      omega
    rw [commandFrames_of_isSplit split, if_pos split]
    show [(command.take 2).length + 2, (command.drop 2).length + 2] = [4, command.length]
    rw [head, rest]
  · rw [commandFrames_of_not_isSplit split, if_neg split]
    rfl

/-- Of the commands that fit in a frame of their own, all are added by frames that fit too, but for
those that are one byte short of the limit: they are sent in one frame, which exceeds it by one. -/
theorem frames_within_limit_iff {limit : Nat} {command : Frame} (least : 4 ≤ limit)
    (fits : command.length ≤ limit) :
    ((∀ frame ∈ commandFrames command limit, frame.length ≤ limit) ↔ command.length + 1 ≠ limit) ∧
      (command.length + 1 = limit →
        (commandFrames command limit).map List.length = [limit + 1]) := by
  have lengths := map_length_commandFrames command limit
  have within : (∀ frame ∈ commandFrames command limit, frame.length ≤ limit) ↔
      ∀ length ∈ (commandFrames command limit).map List.length, length ≤ limit := by
    rw [List.forall_mem_map]
  rw [within, lengths]
  by_cases split : IsSplit limit command
  · have long : limit ≤ command.length := split.1
    rw [if_pos split, List.forall_mem_cons, List.forall_mem_singleton]
    exact ⟨⟨fun _ => by omega, fun _ => ⟨least, fits⟩⟩, fun short => by omega⟩
  · have short : command.length < limit := by
      unfold IsSplit at split
      omega
    rw [if_neg split, List.forall_mem_singleton]
    exact ⟨⟨fun _ => by omega, fun _ => by omega⟩, fun one => congrArg ([· + 1]) one⟩

/-- A command that is as long as the limit of the firmware is split, and its frames fit. -/
theorem frames_within_limit_iff_split :
    4 ≤ 18 ∧ (List.replicate 18 0).length ≤ 18 ∧
      (∀ frame ∈ commandFrames (List.replicate 18 0) 18, frame.length ≤ 18) :=
  ⟨by decide, by decide,
    (frames_within_limit_iff (by decide) (by decide)).1.mpr (by decide)⟩

/-- A command that is one byte short of the limit of the firmware is sent as it is. -/
theorem short_command_too_long :
    ¬ ∀ (limit : Nat) (command : Frame), 4 ≤ limit → command.length ≤ limit →
      ∀ frame ∈ commandFrames command limit, frame.length ≤ limit := by
  intro within
  have tooLong := within 18 (List.replicate 17 0) (by decide) (by decide)
    ([ModuleId.script, Register.Script.addCommand] ++ List.replicate 17 0) (by decide)
  exact absurd tooLong (by decide)

end Script

/-! ## Reassembly -/

namespace Board

variable {b b' : Board}

/-- The board does not refuse the frame: it names a register, and not the one that is rejected. -/
def Takes (b : Board) (frame : Frame) : Prop :=
  ∃ key, ReplyKey.ofFrame? frame = some key ∧ b.rejected ≠ some key

/-- A frame is taken or refused whatever the board did with other frames. -/
theorem takes_of_receive {frame : Frame} {result : Except Fault (List Frame)}
    (received : b.receive frame = (result, b')) :
    (result.isOk ↔ b.Takes frame) ∧ b'.rejected = b.rejected := by
  match frame with
  | [] | [_] =>
      obtain ⟨rfl, rfl⟩ := Prod.mk.inj received
      exact ⟨⟨nofun, nofun⟩, rfl⟩
  | moduleId :: register :: payload =>
      have takes : b.Takes (moduleId :: register :: payload) ↔
          b.rejected ≠ some ⟨moduleId, register⟩ := by
        simp [Takes, ReplyKey.ofFrame?]
      unfold receive at received
      simp only at received
      rw [takes]
      split at received
      · rename_i refused
        obtain ⟨rfl, rfl⟩ := Prod.mk.inj received
        exact ⟨⟨nofun, fun other => absurd refused other⟩, rfl⟩
      · rename_i other
        obtain ⟨rfl, rfl⟩ := Prod.mk.inj received
        exact ⟨⟨fun _ => other, fun _ => rfl⟩, (obeyed _ moduleId register payload).rejected⟩

/-- The board takes all frames of a row, or it refuses one of them. -/
theorem sendAll_eq_ok_iff (frames : List Frame) :
    (Transport.sendAll b frames).2.1 = .ok () ↔ ∀ frame ∈ frames, b.Takes frame := by
  induction frames generalizing b with
  | nil => exact ⟨fun _ => List.forall_mem_nil _, fun _ => rfl⟩
  | cons frame rest ih =>
      rw [Transport.sendAll, List.forall_mem_cons]
      cases received : Transport.send b frame with
      | mk result b₁ =>
        obtain ⟨taken, rejected⟩ := takes_of_receive received
        cases result with
        | error fault =>
            have refused : ¬ b.Takes frame := mt taken.mpr Bool.false_ne_true
            exact iff_of_false (by simp) fun takes => refused takes.1
        | ok replies =>
            have kept (frame : Frame) : b₁.Takes frame ↔ b.Takes frame := by
              unfold Takes
              rw [rejected]
            have later := ih (b := b₁)
            simp only [kept] at later
            exact later.trans ⟨fun takes => ⟨taken.mp rfl, takes⟩, fun takes => takes.2⟩

/-- Frames that are all taken make a trace in which nothing else happens. -/
theorem carries_of_sendAll {frames : List Frame}
    (taken : (Transport.sendAll b frames).2.1 = .ok ()) :
    Carries Injects b (frames.map fun frame => .sent frame (.ok ()))
      (Transport.sendAll b frames).2.2 := by
  induction frames generalizing b with
  | nil => exact .nil
  | cons frame rest ih =>
      rw [Transport.sendAll] at taken ⊢
      rw [List.map_cons]
      cases received : Transport.send b frame with
      | mk result b₁ =>
        rw [received] at taken
        cases result with
        | error fault => contradiction
        | ok replies =>
            have later : Carries Injects (Transport.send b frame).2
                (rest.map fun frame => .sent frame (.ok ())) (Transport.sendAll b₁ rest).2.2 := by
              rw [received]
              exact ih taken
            have whole := later.sent
            rw [received] at whole
            exact whole

/-- A board that writes a script, with no head waiting, takes the frames that add some commands unless
the register of one of them is rejected. If it takes them, the script has exactly these commands in
addition, in order, no other script has changed, and no head waits. -/
theorem commands_reassembled {id : UInt8} (isOpen : b.openScript = some id) (noHead : b.head = none)
    (limit : Nat) (commands : List Frame) :
    ((Transport.sendAll b (Script.framesOf limit commands)).2.1 = .ok () ↔
        ∀ frame ∈ Script.framesOf limit commands, b.Takes frame) ∧
      ((Transport.sendAll b (Script.framesOf limit commands)).2.1 = .ok () →
        let b' := (Transport.sendAll b (Script.framesOf limit commands)).2.2
        b'.scripts.get? id = (b.scripts.get? id).map (· ++ commands) ∧
          (∀ other ≠ id, b'.scripts.get? other = b.scripts.get? other) ∧
          b'.openScript = some id ∧ b'.head = none) := by
  refine ⟨sendAll_eq_ok_iff _, fun taken => ?_⟩
  obtain ⟨adds, left⟩ := adds_of_carries (carries_of_sendAll taken)
  rw [← Script.framesOf, noHead, Script.completed_none] at adds
  refine ⟨?_, fun other ne => ?_, adds.openScript.trans isOpen, left noHead⟩
  · rw [adds.scripts, if_pos isOpen]
  · rw [adds.scripts, if_neg (by simp [isOpen, Ne.symm ne])]

/-- Commands of every kind behind the first start: one that is split, an empty one, one of a single
byte and one of the longest that is not split. -/
theorem commands_reassembled_mixed :
    let b := (Transport.send (new firmwareFrameLimit) (Script.startFrame false)).2
    let commands : List Frame := [List.replicate 20 7, [], [5], List.replicate 17 9]
    b.openScript = some 0 ∧ b.head = none ∧
      (Transport.sendAll b (Script.framesOf 18 commands)).2.2.scripts.get? 0 = some commands :=
  ⟨rfl, rfl, (((commands_reassembled rfl rfl 18 _).2 rfl).1).trans rfl⟩

end Board

end SensorHost
