import SensorHost.Proofs.Board.Processors
import SensorHost.Proofs.Processor.Roster
import SensorHost.Proofs.Session.Chains

/-!
# The board stores what the host believes

A session that does nothing but create, remove and modify processors, one call at a time, on a
board that was new at first. Whatever answers get lost and whatever frames are refused, the board
stores every processor of the roster, under its id and as the host describes it
(`Session.tracked_on_board`), as long as the board gives out no id twice. The board may store more
than that: a processor whose answer was lost, or whose removal was refused.
-/

namespace SensorHost

/-- The board gave out the ids below `made`, and stores every processor of the roster. -/
structure Backed (made : Nat) (r : Roster) (b : Board) : Prop where
  next : b.nextProcessor = UInt8.ofNat made
  counted : made ≤ b.creations
  stored : ∀ id stored, b.processors.get? id = some stored → id.toNat < made
  tracked : ∀ id p, r.get? id = some p → p.id = id ∧ b.processors.get? id = some p.record

/-- The host records nothing, and the board stores every processor of its roster, if no more
creations were asked for than there are ids. -/
structure Mirrored (h : Host) (b : Board) : Prop where
  recorder : h.recorder = .idle
  backed : b.creations ≤ 256 → ∃ made, Backed made h.roster b

namespace Mirrored

variable {h h' : Host} {b b' : Board} {p : Processor} {stored : Frame}

theorem new (settings : Settings) (frameLimit : Nat) :
    Mirrored (.new settings) (.new frameLimit) :=
  ⟨rfl, fun _ => ⟨0, rfl, Nat.le_refl 0, fun _ _ found => absurd found nofun,
    fun _ _ tracked => absurd tracked nofun⟩⟩

theorem listeners (m : Mirrored h b) (kept : ListenersOnly h h') : Mirrored h' b := by
  obtain ⟨subscriptions, rfl⟩ := kept
  exact ⟨m.recorder, m.backed⟩

/-- The board did not create a processor. -/
theorem unchanged (m : Mirrored h b) (processors : b'.processors = b.processors)
    (next : b'.nextProcessor = b.nextProcessor) (creations : b.creations ≤ b'.creations) :
    Mirrored h b' := by
  refine ⟨m.recorder, fun bound => ?_⟩
  obtain ⟨made, backed⟩ := m.backed (Nat.le_trans creations bound)
  refine ⟨made, ?_, Nat.le_trans backed.counted creations, ?_, ?_⟩
  · rw [next]
    exact backed.next
  · rw [processors]
    exact backed.stored
  · rw [processors]
    exact backed.tracked

section Created

variable (processors : b'.processors = b.processors.insert b.nextProcessor stored)
  (next : b'.nextProcessor = b.nextProcessor + 1) (creations : b'.creations = b.creations + 1)
include processors next creations

/-- The board created a processor, and its host adds it or does not hear of it. -/
theorem create (m : Mirrored h b) : Mirrored h b' ∧ ∀ p : Processor, p.id = b.nextProcessor →
    p.record = stored → Mirrored { h with roster := h.roster.insert p } b' := by
  have grown : b'.creations ≤ 256 → ∃ made, Backed made h.roster b' ∧ ∀ p : Processor,
      p.id = b.nextProcessor → p.record = stored → Backed made (h.roster.insert p) b' := by
    intro bound
    obtain ⟨made, backed⟩ := m.backed (by omega)
    -- The id is new, since fewer ids were given out than there are.
    have small : made < 256 := by
      have counted := backed.counted
      omega
    have own : b.nextProcessor.toNat = made := by
      rw [backed.next]
      exact UInt8.toNat_ofNat_of_lt' small
    have fresh : ∀ id p, h.roster.get? id = some p → id ≠ b.nextProcessor := by
      rintro id p tracked rfl
      have lower := backed.stored _ _ (backed.tracked _ p tracked).2
      omega
    have next' : b'.nextProcessor = UInt8.ofNat (made + 1) := by
      rw [next, backed.next]
      exact (UInt8.ofNat_add made 1).symm
    have counted' : made + 1 ≤ b'.creations := by
      have counted := backed.counted
      omega
    have stored' : ∀ id stored, b'.processors.get? id = some stored → id.toNat < made + 1 := by
      intro id stored' found
      rw [processors, SortedMap.get?_insert] at found
      split at found
      · rename_i same
        rw [same, own]
        exact Nat.lt_succ_self made
      · exact Nat.lt_succ_of_lt (backed.stored id stored' found)
    have tracked' : ∀ id p, h.roster.get? id = some p →
        p.id = id ∧ b'.processors.get? id = some p.record := by
      intro id p tracked
      rw [processors, SortedMap.get?_insert, if_neg (fresh id p tracked)]
      exact backed.tracked id p tracked
    refine ⟨made + 1, ⟨next', counted', stored', tracked'⟩, ?_⟩
    intro p isNext isStored
    refine ⟨next', counted', stored', ?_⟩
    intro id q tracked
    rw [Roster.get?_insert] at tracked
    split at tracked
    · rename_i same
      obtain rfl := Option.some.inj tracked
      refine ⟨same.symm, ?_⟩
      rw [processors, SortedMap.get?_insert, if_pos (same.trans isNext), isStored]
    · exact tracked' id q tracked
  refine ⟨⟨m.recorder, fun bound => ?_⟩, fun p isNext isStored => ⟨m.recorder, fun bound => ?_⟩⟩
  · obtain ⟨made, backed, -⟩ := grown bound
    exact ⟨made, backed⟩
  · obtain ⟨made, -, backed⟩ := grown bound
    exact ⟨made, backed p isNext isStored⟩

end Created

/-- The host forgets a processor, and the board removes it or does not. -/
theorem erase (m : Mirrored h b) {id : UInt8} (next : b.SameNext b')
    (processors : b'.processors = b.processors ∨ b'.processors = b.processors.erase id) :
    Mirrored { h with roster := h.roster.erase id } b' := by
  refine ⟨m.recorder, fun bound => ?_⟩
  rw [next.2] at bound
  obtain ⟨made, backed⟩ := m.backed bound
  -- What the board still stores it stored before, and that is all but the one under `id`.
  have found (id' : UInt8) (other : id' ≠ id) :
      b'.processors.get? id' = b.processors.get? id' := by
    rcases processors with eq | eq
    · rw [eq]
    · rw [eq, SortedMap.get?_erase, if_neg other]
  refine ⟨made, ?_, ?_, ?_, ?_⟩
  · rw [next.1]
    exact backed.next
  · rw [next.2]
    exact backed.counted
  · intro id' stored isStored
    rcases processors with eq | eq
    · rw [eq] at isStored
      exact backed.stored id' stored isStored
    · rw [eq, SortedMap.get?_erase] at isStored
      split at isStored
      · contradiction
      · exact backed.stored id' stored isStored
  · intro id' p tracked
    rw [Roster.get?_erase] at tracked
    split at tracked
    · contradiction
    · rename_i other
      rw [found id' other]
      exact backed.tracked id' p tracked

/-- The host forgets every processor. -/
theorem clear (m : Mirrored h b) (next : b.SameNext b')
    (processors : b'.processors = b.processors ∨ b'.processors = .empty) :
    Mirrored { h with roster := .empty } b' := by
  refine ⟨m.recorder, fun bound => ?_⟩
  rw [next.2] at bound
  obtain ⟨made, backed⟩ := m.backed bound
  refine ⟨made, ?_, ?_, ?_, fun _ _ tracked => absurd tracked nofun⟩
  · rw [next.1]
    exact backed.next
  · rw [next.2]
    exact backed.counted
  · rcases processors with eq | eq
    · rw [eq]
      exact backed.stored
    · rw [eq]
      exact fun _ _ found => absurd found nofun

/-- The board replaces what it stores of a processor, and the host does the same. -/
theorem replace (m : Mirrored h b) {id : UInt8} {changed : Processor}
    (known : h.roster.get? id = some p) (next : b.SameNext b') (same : changed.id = p.id)
    (processors : ∀ stored, b.processors.get? p.id = some stored → stored = p.record →
      b'.processors = b.processors.insert p.id changed.record) :
    Mirrored { h with roster := h.roster.insert changed } b' := by
  refine ⟨m.recorder, fun bound => ?_⟩
  rw [next.2] at bound
  obtain ⟨made, backed⟩ := m.backed bound
  obtain ⟨rfl, isStored⟩ := backed.tracked id p known
  have processors := processors _ isStored rfl
  refine ⟨made, ?_, ?_, ?_, ?_⟩
  · rw [next.1]
    exact backed.next
  · rw [next.2]
    exact backed.counted
  · intro id' stored found
    rw [processors, SortedMap.get?_insert] at found
    split at found
    · rename_i own
      rw [own]
      exact backed.stored p.id _ isStored
    · exact backed.stored id' stored found
  · intro id' q tracked
    rw [Roster.get?_insert, same] at tracked
    rw [processors, SortedMap.get?_insert]
    split at tracked
    · rename_i own
      obtain rfl := Option.some.inj tracked
      exact ⟨same.trans own.symm, if_pos own⟩
    · rename_i other
      rw [if_neg other]
      exact backed.tracked id' q tracked

end Mirrored

/-! ## Traffic -/

section Traffic

variable {h : Host} {b b' : Board}

theorem Mirrored.drifts (m : Mirrored h b) (drifts : Drifts Board.Injects b b') :
    Mirrored h b' := by
  obtain ⟨processors, next, creations⟩ := Board.sameProcessors_of_drifts drifts
  exact m.unchanged processors next (Nat.le_of_eq creations.symm)

/-- The answer to a creation is the id of a processor that the board stores from now on. -/
theorem Mirrored.answers (m : Mirrored h b) {timeout : Nat} {stored : Frame}
    {reply : Except Fault Frame}
    (answers : Answers Board.Injects ⟨ModuleId.processor, Register.Processor.create⟩ timeout
      [ModuleId.processor :: Register.Processor.create :: stored] b b' reply) :
    Mirrored h b' ∧ ∀ frame id p, reply = .ok frame → frame[2]? = some id → p.id = id →
      p.record = stored → Mirrored { h with roster := h.roster.insert p } b' := by
  obtain ⟨result, b₁, received, drifts, atOnce⟩ := Board.answered_at_once answers
  rcases b.receive_create stored received with
    ⟨processors, next, creations, silent⟩ | ⟨processors, next, creations, answer⟩
  · -- Nothing was created, and nothing came back.
    refine ⟨(m.unchanged processors next creations).drifts drifts, ?_⟩
    intro frame id p ok
    obtain ⟨frames, taken, first⟩ := atOnce frame ok
    obtain rfl := silent frames taken
    contradiction
  · refine ⟨(m.create processors next creations).1.drifts drifts, ?_⟩
    rintro frame id p ok echoed rfl rfl
    obtain ⟨frames, taken, first⟩ := atOnce frame ok
    refine ((m.create processors next creations).2 p ?_ rfl).drifts drifts
    rcases answer with eq | eq
    · obtain rfl := Except.ok.inj (taken.symm.trans eq)
      contradiction
    · obtain rfl := Except.ok.inj (taken.symm.trans eq)
      obtain rfl := Option.some.inj first
      exact (Option.some.inj echoed).symm

end Traffic

/-! ## Calls -/

namespace Call

variable {waits : Bool} {h h' : Host} {t : List Exchange} {b b' : Board}

/-- A stage that is created may be added to the roster; one that fails leaves nothing to add. -/
theorem mirrored_createStage {stage : Stage} {created : List Processor}
    {result : Except Fault Processor}
    (run : Runs ListenersOnly (createStage stage created) h t result h')
    (carries : Carries Board.Injects b t b') (m : Mirrored h b) :
    Mirrored h' b' ∧ ∀ p, result = .ok p →
      Mirrored { h' with roster := h'.roster.insert p } b' := by
  rcases runs_createStage run with
    ⟨fault, -, rfl, rfl, rfl⟩ | ⟨input, product, reply, -, -, rfl, listeners, rfl⟩
  · cases carries
    exact ⟨m, fun _ ok => absurd ok nofun⟩
  · cases carries with
    | asked answers carries =>
        cases carries
        obtain ⟨kept, grown⟩ := (m.listeners listeners).answers answers
        refine ⟨kept, fun p ok => ?_⟩
        obtain ⟨frame, id, rfl, echoed, rfl⟩ := Stage.acknowledged_eq_ok ok
        exact grown frame id _ rfl echoed rfl (Processor.record_created ..)

/-- A frame that removes a processor, whether it is taken or not, together with the removal from the
roster. -/
theorem mirrored_remove {id : UInt8} {result : Except Fault Unit}
    (carries : Carries Board.Injects b [.sent (Processor.removeFrame id) result] b')
    (m : Mirrored h b) : Mirrored { h with roster := h.roster.erase id } b' := by
  obtain ⟨-, rfl⟩ := carries_sent.mp carries
  obtain ⟨next, processors⟩ := b.receive_remove id rfl
  exact m.erase next processors

theorem mirrored_commitChain {stages : List Stage} {result : Except Fault (List Processor)}
    (run : Runs ListenersOnly (commitChain stages) h t result h')
    (carries : Carries Board.Injects b t b') (m : Mirrored h b) : Mirrored h' b' := by
  have removes : ∀ _ : List Processor, Removes Board.Injects Mirrored :=
    fun _ _ _ _ _ _ _ listeners carries m => mirrored_remove carries (m.listeners listeners)
  have creates : Creates Board.Injects (fun _ => Mirrored) stages :=
    fun _ _ _ _ _ _ _ _ _ run carries m => mirrored_createStage run carries m
  obtain ⟨_, kept⟩ := kept_commitChain (I := fun _ => Mirrored) removes creates run carries m
  exact kept

theorem mirrored_removeProcessor {id : UInt8} {result : Except Fault Processor}
    (run : Runs ListenersOnly (removeProcessor id : Call waits Processor) h t result h')
    (carries : Carries Board.Injects b t b') (m : Mirrored h b) : Mirrored h' b' := by
  unfold removeProcessor at run
  rw [runs_bind_host, orFail_eq_check, runs_bind_check] at run
  rcases run with ⟨_, -, rfl, -, rfl⟩ | ⟨p, -, run⟩
  · cases carries
    exact m
  · rw [runs_bind_updateRoster] at run
    have sent : ∃ result, t = [.sent (Processor.removeFrame id) result] ∧
        ListenersOnly { h with roster := h.roster.erase id } h' := by
      rcases runs_bind.mp run with ⟨_, sent, -⟩ | ⟨_, t₁, h₁, t₂, rfl, sent, last⟩
      · exact ⟨_, runs_transmit.mp sent⟩
      · obtain ⟨rfl, -, rfl⟩ := runs_pure.mp last
        obtain ⟨rfl, listeners⟩ := runs_transmit.mp sent
        exact ⟨_, rfl, listeners⟩
    obtain ⟨_, rfl, listeners⟩ := sent
    exact (mirrored_remove carries m).listeners listeners

theorem mirrored_removeNamed {name : String} {result : Except Fault Processor}
    (run : Runs ListenersOnly (removeNamed name : Call waits Processor) h t result h')
    (carries : Carries Board.Injects b t b') (m : Mirrored h b) : Mirrored h' b' := by
  rcases runs_bind_lookUp.mp run with ⟨-, rfl, -, rfl⟩ | ⟨id, -, removed⟩
  · cases carries
    exact m
  · exact mirrored_removeProcessor removed carries m

theorem mirrored_removeProcessors {result : Except Fault Unit}
    (run : Runs ListenersOnly (removeProcessors : Call waits Unit) h t result h')
    (carries : Carries Board.Injects b t b') (m : Mirrored h b) : Mirrored h' b' := by
  unfold removeProcessors at run
  rw [runs_bind_updateRoster] at run
  obtain ⟨rfl, listeners⟩ := runs_transmit.mp run
  obtain ⟨-, rfl⟩ := carries_sent.mp carries
  obtain ⟨next, processors⟩ := b.receive_removeAll rfl
  exact (m.clear next processors).listeners listeners

/-- Without an open recording a command is sent. -/
theorem runs_command {Between : Host → Host → Prop} {frame : Frame} {result : Except Fault Unit}
    (idle : h.recorder = .idle) :
    Runs Between (command frame : Call waits Unit) h t result h' ↔
      t = [.sent frame result] ∧ Between h h' := by
  unfold command
  rw [runs_bind_host, idle]
  exact runs_transmit

theorem mirrored_modify {name : String} {operator : Operator} {result : Except Fault Processor}
    (run : Runs ListenersOnly (modify name operator : Call waits Processor) h t result h')
    (carries : Carries Board.Injects b t b') (m : Mirrored h b) : Mirrored h' b' := by
  rcases runs_bind_lookUp.mp run with ⟨-, rfl, -, rfl⟩ | ⟨current, found, rest⟩
  · cases carries
    exact m
  obtain ⟨id, -, known⟩ := Option.bind_eq_some_iff.mp found
  rw [runs_bind_check] at rest
  rcases rest with ⟨_, -, rfl, -, rfl⟩ | ⟨product, -, rest⟩
  · cases carries
    exact m
  let changed : Processor := .created current.id current.name operator current.input product
  let parameters := operator.encode current.input product.output
  cases received : Transport.send b (Processor.parameterFrame current.id operator current.input
      product.output) with
  | mk outcome b₁ =>
    obtain ⟨next, change⟩ := b.receive_parameter current.id parameters received
    -- No recording is open, so the frame is sent.
    rcases runs_bind.mp rest with ⟨_, sent, -⟩ | ⟨_, t₁, h₂, t₃, rfl, sent, last⟩
    · obtain ⟨rfl, listeners⟩ := (runs_command m.recorder).mp sent
      obtain ⟨refused, rfl⟩ := carries_sent.mp carries
      rw [received] at refused ⊢
      rcases change with ⟨-, processors⟩ | ⟨⟨_, rfl⟩, -⟩
      · exact (m.unchanged processors next.1 (Nat.le_of_eq next.2.symm)).listeners listeners
      · contradiction
    · obtain ⟨rfl, listeners⟩ := (runs_command m.recorder).mp sent
      rw [runs_bind_updateRoster] at last
      obtain ⟨rfl, -, rfl⟩ := runs_pure.mp last
      obtain ⟨taken, rfl⟩ := carries_sent.mp carries
      rw [received] at taken ⊢
      rcases change with ⟨⟨_, rfl⟩, -⟩ | ⟨-, processors⟩
      · contradiction
      · obtain ⟨_, rfl⟩ := listeners
        refine Mirrored.replace (m.listeners ⟨_, rfl⟩) known next rfl ?_
        rintro _ isStored rfl
        rw [processors _ isStored, Processor.record_created]
        rfl

end Call

/-! ## Sessions -/

namespace Session

/-- Sessions that only managed processors, one call at a time, on a board that was new at first.
While a call waits and between calls, faults are injected into the board, timers fire, and the link
may be closed. -/
inductive Managed : Session Board → Prop
  | new (settings : Settings) (frameLimit now : Nat) (runtime : Runtime) :
    Managed (.new settings (.new frameLimit) now runtime)
  | meanwhile {s s' : Session Board} : Managed s → Meanwhile Board.Injects s s' → Managed s'
  | commitChain {s s' : Session Board} (stages : List Stage) {owner : Nat}
      {result : Except Fault (List Processor)} : Managed s →
    Concludes Board.Injects owner (advance owner (Call.commitChain stages).run s) result s' →
    Managed s'
  | removeProcessor {s : Session Board} (id : UInt8) :
    Managed s → Managed (s.run (.removeProcessor id)).2
  | removeNamed {s : Session Board} (name : String) :
    Managed s → Managed (s.run (.removeNamed name)).2
  | removeProcessors {s : Session Board} : Managed s → Managed (s.run .removeProcessors).2
  | modify {s : Session Board} (name : String) (operator : Operator) :
    Managed s → Managed (s.run (.modify name operator)).2

variable {s s' : Session Board} {α : Type}

/-- A call that does not wait keeps what its runs keep. -/
theorem mirrored_run {call : Call false α} (idle : s.Idle) (m : Mirrored s.host s.link.wire)
    (keeps : ∀ {t result h' b'}, call.Runs ListenersOnly s.host t result h' →
      Carries Board.Injects s.link.wire t b' → Mirrored s.host s.link.wire → Mirrored h' b') :
    (s.run call).2.Idle ∧ Mirrored (s.run call).2.host (s.run call).2.link.wire := by
  have solo : ∃ t, Solo Board.Injects 0 call.run s t (s.run call).1 (s.run call).2 :=
    solo_of_perform rfl
  obtain ⟨t, solo⟩ := solo
  obtain ⟨run, carries, idle'⟩ := carried_of_solo solo idle
  exact ⟨idle', keeps run carries m⟩

theorem Managed.mirrored (managed : Managed s) : s.Idle ∧ Mirrored s.host s.link.wire := by
  induction managed with
  | new settings frameLimit now runtime => exact ⟨idle_new .., .new settings frameLimit⟩
  | meanwhile _ step ih =>
      obtain ⟨idle, m⟩ := ih
      obtain ⟨listeners, ⟨drifts, idle'⟩ | ⟨_, _, _, held, _⟩⟩ := step.awaits idle
      · exact ⟨idle', (m.listeners listeners).drifts drifts⟩
      · contradiction
  | commitChain stages _ concludes ih =>
      obtain ⟨idle, m⟩ := ih
      obtain ⟨t, solo⟩ := solo_of_concludes concludes
      obtain ⟨run, carries, idle'⟩ := carried_of_solo solo idle
      exact ⟨idle', Call.mirrored_commitChain run carries m⟩
  | removeProcessor id _ ih => exact mirrored_run ih.1 ih.2 Call.mirrored_removeProcessor
  | removeNamed name _ ih => exact mirrored_run ih.1 ih.2 Call.mirrored_removeNamed
  | removeProcessors _ ih => exact mirrored_run ih.1 ih.2 Call.mirrored_removeProcessors
  | modify name operator _ ih => exact mirrored_run ih.1 ih.2 Call.mirrored_modify

/-- Every processor of the roster exists on the board, under its id and with the configuration that
the host believes, if no more creations reached the board than there are ids. -/
theorem tracked_on_board (managed : Managed s) (bound : s.link.wire.creations ≤ 256) {id : UInt8}
    {p : Processor} (tracked : s.host.roster.get? id = some p) :
    p.id = id ∧ s.link.wire.processors.get? p.id = some (p.input.address.toBytes ++
      [p.input.geometry.selector] ++ p.operator.encode p.input p.output) := by
  obtain ⟨made, backed⟩ := managed.mirrored.2.backed bound
  obtain ⟨rfl, stored⟩ := backed.tracked id p tracked
  exact ⟨rfl, stored⟩

/-- One processor, which is modified after it was created. -/
def modifiedChain : List Stage :=
  [⟨some "a", .signal (.root .uint ⟨1, 1, 255⟩
      { widths := [1], units := 1, offset := 0, signed := false }), .passthrough .all 0⟩]

theorem managed_modified : ∃ s p, Managed s ∧ s.link.wire.creations = 1 ∧
    s.host.roster.get? 0 = some p ∧
    p.input.address.toBytes ++ [p.input.geometry.selector] ++ p.operator.encode p.input p.output =
      [1, 1, 255, 0, 10, 0, 4] := by
  -- The only creation is answered at once.
  have asked : advance 0 (Call.commitChain modifiedChain).run (new default (Board.new 18) 0 .virtual) =
      advance 0 (.ask rfl _ _ _ _) (new default (Board.new 18) 0 .virtual) := rfl
  have created : Managed _ := .commitChain modifiedChain (.new default 18 0 .virtual)
    (concludes_of_finished (asked.trans ((advance_ask rfl).trans rfl)))
  have managed : Managed _ := .modify "a" (.delay 4) created
  exact ⟨_, _, managed, rfl, rfl, rfl⟩

theorem tracked_on_board_modified : ∃ s, Managed s ∧
    s.link.wire.processors.get? 0 = some [1, 1, 255, 0, 10, 0, 4] := by
  obtain ⟨s, p, managed, creations, tracked, record⟩ := managed_modified
  have bound : s.link.wire.creations ≤ 256 := by
    rw [creations]
    decide
  obtain ⟨same, stored⟩ := tracked_on_board managed bound tracked
  rw [same, record] at stored
  exact ⟨s, managed, stored⟩

end Session

end SensorHost
