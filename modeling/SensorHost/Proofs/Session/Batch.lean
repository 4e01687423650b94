import SensorHost.Board.Simulated
import SensorHost.Proofs.Processor.Creation
import SensorHost.Proofs.Session.Rollback
import SensorHost.Proofs.Session.Solo

/-!
# What a failed chain hands to the board

A chain whose creation fails on the way has handed the board the creations of its stages up to the
one that failed, and then the removals of what the board acknowledged, newest first, whether the
board takes them or not (`failed_chain_handed`). To say so, `Tap` notes the frames that are handed
to a transport.
-/

namespace SensorHost

/-! ## The frames of a trace -/

namespace Exchange

/-- The frames that an exchange hands over. -/
def frames : Exchange → List Frame
  | sent frame _ => [frame]
  | asked _ _ frames _ => frames
  | paused _ => []

/-- Why a processor was not created. -/
def creationFault? : Exchange → Option Fault
  | asked key _ _ reply =>
    if key = ⟨ModuleId.processor, Register.Processor.create⟩ then
      match reply with
      | .error fault => some fault
      | .ok frame =>
        match frame[2]? with
        | some _ => none
        | none => some (.protocol "processor create echo carries no id")
    else none
  | _ => none

end Exchange

/-- The faults of the creations that failed, in order. -/
def creationFaults (t : List Exchange) : List Fault := t.filterMap Exchange.creationFault?

/-- The frames that a trace hands over, in order. -/
def handedIn (t : List Exchange) : List Frame := t.flatMap Exchange.frames

theorem creationFaults_append (t t' : List Exchange) :
    creationFaults (t ++ t') = creationFaults t ++ creationFaults t' :=
  List.filterMap_append

theorem handedIn_append (t t' : List Exchange) : handedIn (t ++ t') = handedIn t ++ handedIn t' :=
  List.flatMap_append

/-- No exchange of the trace hands over more than one frame. -/
def Single (t : List Exchange) : Prop := ∀ exchange ∈ t, exchange.frames.length ≤ 1

theorem Single.append {t t' : List Exchange} (first : Single t) (second : Single t') :
    Single (t ++ t') :=
  List.forall_mem_append.mpr ⟨first, second⟩

/-! ## Noting what is handed over -/

/-- A transport, and the frames that were handed to it, oldest first, those that it refused
too. -/
structure Tap (σ : Type) where
  wire : σ
  handed : List Frame

namespace Tap

variable {σ : Type} [Transport σ]

instance : Transport (Tap σ) where
  send tap frame :=
    let (result, wire) := Transport.send tap.wire frame
    (result, ⟨wire, tap.handed ++ [frame]⟩)
  frameLimit tap := Transport.frameLimit tap.wire

/-- The board behind a tap does anything by itself, and hands over any frame. -/
def Stirs (tap : Tap σ) (_ : Option Frame) (tap' : Tap σ) : Prop := tap'.handed = tap.handed

omit [Transport σ] in
theorem handed_of_drifts {tap tap' : Tap σ} (drifts : Drifts Stirs tap tap') :
    tap'.handed = tap.handed := by
  induction drifts with
  | refl => rfl
  | tail _ step ih =>
      obtain ⟨_, kept⟩ := step
      exact Eq.trans kept ih

omit [Transport σ] in
theorem handed_of_settles {key : ReplyKey} {timeout : Nat} {tap tap' : Tap σ}
    {reply : Except Fault Frame} (settles : Settles Stirs key timeout tap tap' reply) :
    tap'.handed = tap.handed := by
  cases settles with
  | arrived first kept last _ =>
      exact (handed_of_drifts last).trans (Eq.trans kept (handed_of_drifts first))
  | timedOut drifts | closed drifts => exact handed_of_drifts drifts

theorem handed_sendAll {tap : Tap σ} {frames : List Frame} (single : frames.length ≤ 1) :
    (Transport.sendAll tap frames).2.2.handed = tap.handed ++ frames := by
  match frames, single with
  | [], _ => exact (List.append_nil _).symm
  | [frame], _ =>
      simp only [Transport.sendAll]
      cases sent : (Transport.send tap.wire frame).1 <;> simp [Transport.send, sent]

theorem handed_of_answers {key : ReplyKey} {timeout : Nat} {frames : List Frame} {tap tap' : Tap σ}
    {reply : Except Fault Frame} (single : frames.length ≤ 1)
    (answers : Answers Stirs key timeout frames tap tap' reply) :
    tap'.handed = tap.handed ++ frames := by
  rw [← handed_sendAll single]
  cases answers with
  | atOnce _ drifts | refused _ _ drifts => exact handed_of_drifts drifts
  | later _ _ settles => exact handed_of_settles settles

/-- What is handed to the transport is what the trace hands over. -/
theorem handed_of_carries {tap tap' : Tap σ} {t : List Exchange}
    (carries : Carries Stirs tap t tap') (single : Single t) : tap'.handed = tap.handed ++ handedIn t := by
  induction carries with
  | nil => exact (List.append_nil _).symm
  | sent _ ih =>
      rw [ih (List.forall_mem_cons.mp single).2]
      exact List.append_assoc ..
  | asked answers _ ih =>
      rw [ih (List.forall_mem_cons.mp single).2,
        handed_of_answers (List.forall_mem_cons.mp single).1 answers]
      exact List.append_assoc ..
  | paused drifts _ ih =>
      rw [ih (List.forall_mem_cons.mp single).2, handed_of_drifts drifts]
      rfl

end Tap

/-! ## The trace of a chain -/

namespace Call

variable {waits : Bool} {Between : Host → Host → Prop} {h h' : Host} {t : List Exchange}

/-- The rollback hands over the removals, one after the other, and creates nothing. -/
theorem trace_rollback {ps : List Processor} {result : Except Fault Unit}
    (run : Runs Between (rollback ps : Call waits Unit) h t result h') :
    result = .ok () ∧ handedIn t = ps.map (fun p => Processor.removeFrame p.id) ∧
      echoedIds t = [] ∧ creationFaults t = [] ∧ Single t := by
  induction ps generalizing h t with
  | nil =>
      obtain ⟨rfl, ended, -⟩ := runs_pure.mp run
      exact ⟨ended, rfl, rfl, rfl, by nofun⟩
  | cons p rest ih =>
      unfold rollback at run
      rw [runs_bind_attempt] at run
      obtain ⟨_, t₁, h₁, t₂, rfl, sent, run⟩ := run
      obtain ⟨rfl, -⟩ := runs_transmit.mp sent
      rw [runs_bind_updateRoster] at run
      obtain ⟨ended, handed, silent, faultless, single⟩ := ih run
      refine ⟨ended, ?_, silent, faultless, ?_⟩
      · rw [handedIn_append, handed]
        rfl
      · exact List.forall_mem_cons.mpr ⟨Nat.le_refl 1, single⟩

/-- A stage that compiles is asked for once, and is acknowledged or fails for one reason. -/
theorem trace_createStage {stage : Stage} {created : List Processor} {input : Signal}
    {product : Product} {result : Except Fault Processor}
    (run : Runs Between (createStage stage created) h t result h')
    (resolved : stage.feed.resolve (created.map (·.output)) created.length = .ok input)
    (produced : stage.operator.product input = .ok product) :
    handedIn t = [Processor.createFrame stage.operator input product.output] ∧ Single t ∧
      ((∃ id, echoedIds t = [id] ∧ creationFaults t = [] ∧
          result = .ok (.created id stage.name stage.operator input product)) ∨
        ∃ reason, echoedIds t = [] ∧ creationFaults t = [reason] ∧ result = .error reason) := by
  rcases runs_createStage run with
    ⟨_, refused, -⟩ | ⟨input', product', reply, resolved', produced', rfl, -, eq⟩
  · rw [resolved] at refused
    exact absurd (produced.symm.trans refused) nofun
  obtain rfl := Except.ok.inj (resolved.symm.trans resolved')
  obtain rfl := Except.ok.inj (produced.symm.trans produced')
  refine ⟨rfl, List.forall_mem_singleton.mpr (Nat.le_refl 1), ?_⟩
  cases reply with
  | error fault => exact .inr ⟨fault, rfl, rfl, eq⟩
  | ok frame =>
      unfold Stage.acknowledged at eq
      cases echoed : frame[2]? with
      | some id =>
          simp only [echoed] at eq
          refine .inl ⟨id, ?_, ?_, eq⟩
          · simp [echoedIds, Exchange.echoedId?, echoed]
          · simp [creationFaults, Exchange.creationFault?, echoed]
      | none =>
          simp only [echoed] at eq
          refine .inr ⟨_, ?_, ?_, eq⟩
          · simp [echoedIds, Exchange.echoedId?, echoed]
          · simp [creationFaults, Exchange.creationFault?, echoed]

/-- The rest of a chain, of which not all stages are acknowledged: their creations up to the one
that fails, and the removals of all that was created. -/
theorem trace_createStages {total : Nat} {stages : List Stage} {created : List Processor}
    {creates : List Frame} {result : Except Fault (List Processor)}
    (run : Runs Between (createStages total stages created) h t result h')
    (compiles : Stage.creations (created.map (·.output)) stages (echoedIds t) = .ok creates)
    (fails : (echoedIds t).length < stages.length) :
    Single t ∧
      handedIn t =
        creates ++ (created.map (·.id) ++ echoedIds t).reverse.map Processor.removeFrame ∧
      ∃ reason, creationFaults t = [reason] ∧ result = .error (.inContext
        s!"creating processor {(created.map (·.id) ++ echoedIds t).length + 1} of {total}"
        reason) := by
  induction stages generalizing created creates h t with
  | nil => exact absurd fails (Nat.not_lt_zero _)
  | cons stage rest ih =>
      obtain ⟨input, product, resolved, produced, last, more⟩ := Stage.creations_cons_eq_ok compiles
      rw [List.length_map] at resolved
      unfold createStages at run
      rw [runs_bind_attempt] at run
      obtain ⟨outcome, t₁, h₁, t₂, rfl, asked, run⟩ := run
      obtain ⟨handed, single, ⟨id, echoed, faultless, rfl⟩ | ⟨reason, silent, failed, rfl⟩⟩ :=
        trace_createStage asked resolved produced
      · -- The stage is acknowledged, and a later one fails.
        rw [runs_bind_updateRoster] at run
        rw [echoedIds_append, echoed] at more fails ⊢
        obtain ⟨later, remaining, rfl⟩ := more id _ rfl
        let p := Processor.created id stage.name stage.operator input product
        have outputs : (created ++ [p]).map (·.output) =
            created.map (·.output) ++ [product.output.withId id] := List.map_append
        have ids : (created ++ [p]).map (·.id) = created.map (·.id) ++ [id] := List.map_append
        rw [← outputs] at remaining
        obtain ⟨single', handed', reason, failed, eq⟩ :=
          ih run remaining (Nat.lt_of_succ_lt_succ fails)
        rw [ids, List.append_assoc] at handed' eq
        refine ⟨single.append single', ?_, reason, ?_, eq⟩
        · rw [handedIn_append, handed, handed']
          rfl
        · rw [creationFaults_append, faultless, failed]
          rfl
      · -- The stage fails, and everything created so far is removed.
        rcases runs_bind.mp run with ⟨_, second, -⟩ | ⟨_, t₃, h₃, t₄, rfl, second, thrown⟩
        · cases (trace_rollback second).1
        obtain ⟨rfl, rfl, -⟩ := runs_throw.mp thrown
        obtain ⟨-, handed', silent', faultless, single'⟩ := trace_rollback second
        have none : echoedIds (t₁ ++ (t₃ ++ [])) = [] := by
          rw [echoedIds_append, silent, List.append_nil, silent']
          rfl
        rw [none, List.append_nil, List.append_nil, List.length_map]
        refine ⟨single.append single', ?_, reason, ?_, rfl⟩
        · rw [handedIn_append, handed, handed', last none, List.map_reverse, List.map_reverse,
            List.map_map]
          rfl
        · rw [creationFaults_append, failed, faultless]
          rfl

/-- A planned chain of which not all stages are acknowledged. -/
theorem trace_commitChain {stages : List Stage} {planned : List Signal}
    {result : Except Fault (List Processor)}
    (run : Runs Between (commitChain stages) h t result h')
    (compiles : Stage.plan [] stages = .ok planned) (fails : (echoedIds t).length < stages.length) :
    Single t ∧ ∃ creates, Stage.creations [] stages (echoedIds t) = .ok creates ∧
      creates.length = (echoedIds t).length + 1 ∧
      handedIn t = creates ++ (echoedIds t).reverse.map Processor.removeFrame ∧
      ∃ reason, creationFaults t = [reason] ∧ result = .error (.inContext
        s!"creating processor {(echoedIds t).length + 1} of {stages.length}" reason) := by
  unfold commitChain at run
  rw [runs_bind_check, compiles] at run
  rcases run with ⟨_, refused, -⟩ | ⟨_, -, run⟩
  · contradiction
  · obtain ⟨creates, created, count⟩ := Stage.creations_of_plan compiles rfl fails
    obtain ⟨single, handed, failed⟩ := trace_createStages run created fails
    exact ⟨single, creates, created, count, handed, failed⟩

end Call

/-! ## On a session -/

theorem SameRoster.of_listenersOnly {h h' : Host} (kept : ListenersOnly h h') :
    SameRoster h h' := by
  obtain ⟨subscriptions, rfl⟩ := kept
  rfl

namespace Session

variable {σ : Type} [Transport σ]

/-- If some stage of a planned chain is not acknowledged, then what was handed to the board are the
creations up to that of the first such stage and the removals of the others, newest first. The
processors of the roster are those of before, and the error says which stage failed, and why. -/
theorem failed_chain_handed {stages : List Stage} {planned : List Signal}
    (compiles : Stage.plan [] stages = .ok planned) {s s' : Session (Tap σ)} {owner : Nat}
    {t : List Exchange} {result : Except Fault (List Processor)} (idle : s.Idle)
    (solo : Solo Tap.Stirs owner (Call.commitChain stages).run s t result s')
    (fails : (echoedIds t).length < stages.length)
    (fresh : ∀ id ∈ echoedIds t, s.host.roster.get? id = none) :
    ∃ creates reason, Stage.creations [] stages (echoedIds t) = .ok creates ∧
      creates.length = (echoedIds t).length + 1 ∧
      s'.link.wire.handed = s.link.wire.handed ++
        (creates ++ (echoedIds t).reverse.map Processor.removeFrame) ∧
      s'.host.roster.active = s.host.roster.active ∧
      creationFaults t = [reason] ∧ result = .error (.inContext
        s!"creating processor {(echoedIds t).length + 1} of {stages.length}" reason) := by
  obtain ⟨run, carries, -⟩ := carried_of_solo solo idle
  have run : Call.Runs SameRoster (Call.commitChain stages) s.host t result s'.host :=
    run.mono fun _ _ => SameRoster.of_listenersOnly
  obtain ⟨single, creates, created, count, handed, reason, failed, rfl⟩ :=
    Call.trace_commitChain run compiles fails
  obtain ⟨ps, echoed, -, left⟩ := Call.failed_chain run
  refine ⟨creates, reason, created, count, ?_, ?_, failed, rfl⟩
  · rw [Tap.handed_of_carries carries single, handed]
  · rw [echoed] at fresh
    rw [left]
    refine Roster.active_eraseAll_insertAll ?_ ?_
    · intro id
      rw [List.map_reverse, List.mem_reverse]
    · intro id mem
      rw [List.map_reverse, List.mem_reverse] at mem
      exact fresh id mem

/-! A board that creates the first of two processors and loses the answer about the second. -/

/-- Two processors, the second fed by the first. -/
def lossyChain : List Stage :=
  [⟨none, .signal (.root .uint ⟨1, 1, 255⟩
      { widths := [1], units := 1, offset := 0, signed := false }),
      .passthrough .all 0⟩,
    ⟨none, .stage 0, .delay 4⟩]

def lossySession : Session (Tap Board) := .new default ⟨(Board.new 18).loseCreation 2, []⟩ 0 .virtual

theorem lossy_run : ∃ t result s', Solo Tap.Stirs 0 (Call.commitChain lossyChain).run lossySession
    t result s' ∧ echoedIds t = [0] ∧ creationFaults t = [.timeout "09:02" 1000] := by
  have run : Solo Tap.Stirs 0 (Call.commitChain lossyChain).run lossySession _ _ _ :=
    .look (.ask .refl rfl (.update (.look (.ask (.single (.expires ⟨9, 2⟩ 1)) rfl
      (.transmit (.update .done))))))
  exact ⟨_, _, _, run, rfl, rfl⟩

theorem failed_chain_handed_lossy : ∃ t result s', Solo Tap.Stirs 0
    (Call.commitChain lossyChain).run lossySession t result s' ∧
      s'.link.wire.handed =
        [[9, 2, 1, 1, 255, 0, 1, 0, 0, 0], [9, 2, 9, 3, 0, 0, 10, 0, 4], [9, 6, 0]] ∧
      result = .error (.inContext "creating processor 2 of 2" (.timeout "09:02" 1000)) := by
  obtain ⟨t, result, s', run, echoed, timedOut⟩ := lossy_run
  have fails : (echoedIds t).length < lossyChain.length := by
    rw [echoed]
    decide
  have fresh : ∀ id ∈ echoedIds t, lossySession.host.roster.get? id = none := fun _ _ => rfl
  obtain ⟨creates, reason, created, -, handed, -, failed, eq⟩ :=
    failed_chain_handed rfl (idle_new ..) run fails fresh
  rw [echoed] at created handed eq
  obtain rfl := Except.ok.inj created
  obtain ⟨rfl, -⟩ := List.cons.inj (timedOut.symm.trans failed)
  exact ⟨t, result, s', run, handed, eq⟩

end Session

end SensorHost
