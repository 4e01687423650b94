import SensorHost.Proofs.Processor.Lineage
import SensorHost.Proofs.Session.Capturing
import SensorHost.Proofs.Session.Rollback

/-!
# What a stream carries

A stream of a signal is fed by the frames that begin with the address of the signal
(`Session.Tuned.receive`, and `Session.Tuned.receiveAll` for any number of frames). The reports of all
processors come from one register, each behind the id of its processor. So the stream of a processor
carries the samples of this processor and no others, unless the board gave out `noId` as its id: then the
address is one without an id, and every report is taken for one of this processor, with the id for its
first byte (`Session.own_samples_iff`).
-/

namespace SensorHost

/-! ## Reports of processors -/

namespace Processor

/-- The frame with which the board reports what a processor put out. -/
def reportFrame (report : UInt8 × Frame) : Frame :=
  [ModuleId.processor, Register.Processor.output, report.1] ++ report.2

/-- The samples in a report of the processor; there are none in a report of any other. -/
def reported (p : Processor) (report : UInt8 × Frame) : List Sample :=
  if report.1 = p.id then p.output.samples report.2 false else []

/-- The samples that a subscriber of the processor makes of a report. -/
def heard (p : Processor) (report : UInt8 × Frame) : List Sample :=
  if p.id = noId then p.output.samples (report.1 :: report.2) false else p.reported report

end Processor

/-- Only the id decides whether a report reaches the subscriber of a processor, and `noId` lets all of
them through. -/
theorem Subscription.samples_reportFrame {sub : Subscription} {p : Processor}
    (output : sub.signal = p.output) (place : p.output.address = .processorOutput p.id)
    (report : UInt8 × Frame) : sub.samples (Processor.reportFrame report) = p.heard report := by
  obtain ⟨id, payload⟩ := report
  unfold samples payload? Processor.reportFrame Processor.heard Processor.reported
  simp only [output, place, Address.processorOutput, Address.key, Address.isIndexed,
    List.cons_append, List.nil_append]
  by_cases unindexed : p.id = noId
  · simp [unindexed]
  · by_cases own : id = p.id <;> simp [unindexed, own]

namespace Call

variable {Between : Host → Host → Prop} {h h' : Host} {t : List Exchange}

/-- Every processor of a chain puts out where processors do, under the id that the board gave out. -/
theorem place_of_createStages {total : Nat} {stages : List Stage} {created ps : List Processor}
    (run : Runs Between (createStages total stages created) h t (.ok ps) h')
    (places : ∀ p ∈ created, p.output.address = .processorOutput p.id) :
    ∀ p ∈ ps, p.output.address = .processorOutput p.id := by
  induction stages generalizing created h t with
  | nil =>
      obtain ⟨-, same, -⟩ := runs_pure.mp run
      obtain rfl := Except.ok.inj same
      exact places
  | cons stage rest ih =>
      unfold createStages at run
      rw [runs_bind_attempt] at run
      obtain ⟨outcome, t₁, h₁, t₂, rfl, asked, run⟩ := run
      cases outcome with
      | ok p =>
          rw [runs_bind_updateRoster] at run
          refine ih run (List.forall_mem_append.mpr ⟨places, List.forall_mem_singleton.mpr ?_⟩)
          rcases runs_createStage asked with
            ⟨_, -, failed, -⟩ | ⟨input, product, reply, -, produced, -, -, acknowledged⟩
          · contradiction
          · obtain ⟨_, id, -, -, rfl⟩ := Stage.acknowledged_eq_ok acknowledged.symm
            exact (stage.operator.isPutOut_product input product produced).address_withId id
      | error fault =>
          rcases runs_bind.mp run with ⟨_, -, failed⟩ | ⟨_, _, _, _, -, -, thrown⟩
          · contradiction
          · obtain ⟨-, failed, -⟩ := runs_throw.mp thrown
            contradiction

theorem place_of_commitChain {stages : List Stage} {ps : List Processor}
    (run : Runs Between (commitChain stages) h t (.ok ps) h') :
    ∀ p ∈ ps, p.output.address = .processorOutput p.id := by
  unfold commitChain at run
  rw [runs_bind_check] at run
  rcases run with ⟨_, -, -, failed, -⟩ | ⟨_, -, run⟩
  · contradiction
  · exact place_of_createStages run nofun

end Call

namespace Session

variable {σ : Type} {s s₁ : Session σ} {number : Nat} {signal : Signal}

/-! ## Streams -/

/-- The samples among these that were delivered to one subscription. -/
def samplesOf (number : Nat) (delivered : List (Nat × Sample)) : List Sample :=
  delivered.filterMap fun one => if one.1 = number then some one.2 else none

theorem samplesOf_append (number : Nat) (delivered delivered' : List (Nat × Sample)) :
    samplesOf number (delivered ++ delivered') =
      samplesOf number delivered ++ samplesOf number delivered' := List.filterMap_append

theorem samplesOf_own (number : Nat) (samples : List Sample) :
    samplesOf number (samples.map (number, ·)) = samples := by
  have kept : ((fun one => if one.1 = number then some one.2 else none) ∘ (number, ·) :
      Sample → Option Sample) = some := funext fun _ => if_pos rfl
  unfold samplesOf
  rw [List.filterMap_map, kept, List.filterMap_some]

theorem samplesOf_others {subs : List Subscription} (others : ∀ sub ∈ subs, sub.number ≠ number)
    (heard : Subscription → List Sample) :
    samplesOf number (subs.flatMap fun sub => (heard sub).map (sub.number, ·)) = [] := by
  refine List.filterMap_eq_nil_iff.mpr ?_
  rintro ⟨owner, sample⟩ mem
  obtain ⟨sub, isSub, mem⟩ := List.mem_flatMap.mp mem
  obtain ⟨_, -, same⟩ := List.mem_map.mp mem
  obtain ⟨rfl, -⟩ := Prod.mk.inj same
  exact if_neg (others sub isSub)

/-- Somebody listens to the signal under a number of his own, and nobody waits for a frame from its
register. -/
structure Tuned (s : Session σ) (number : Nat) (signal : Signal) : Prop where
  told : s.link.journal = []
  unawaited : s.link.pending signal.address.key = 0
  listens : ∃ others, s.host.subscriptions = others ++ [⟨number, signal, true⟩] ∧
    ∀ sub ∈ others, sub.number ≠ number

variable [Transport σ]

/-- A frame from the register of the signal brings what it has for the address of the signal. -/
theorem Tuned.receive (tuned : s.Tuned number signal) {frame : Frame}
    (on : ReplyKey.ofFrame? frame = some signal.address.key) :
    (s.receive frame).Tuned number signal ∧ samplesOf number (s.receive frame).delivered =
      samplesOf number s.delivered ++ (Subscription.mk number signal true).samples frame := by
  obtain ⟨others, listens, distinct⟩ := tuned.listens
  have noted := Link.receive_of_empty (List.eq_nil_of_length_eq_zero tuned.unawaited) on
  rw [receive_of_noted tuned.told noted, Host.deliver_eq]
  constructor
  · -- Others may be dropped, if they do not listen any more; this one listens.
    refine ⟨tuned.told, tuned.unawaited,
      others.filter fun sub => sub.isOpen || !sub.header.isPrefixOf frame, ?_, fun sub mem => ?_⟩
    · simp only [listens, List.filter_append]
      rfl
    · exact distinct sub (List.mem_filter.mp mem).1
  · simp only [listens, List.flatMap_append, List.flatMap_singleton, samplesOf_append,
      samplesOf_others distinct, List.nil_append, samplesOf_own]
    rfl

/-- The session after frames, in the order in which they came. -/
def receiveAll (s : Session σ) (frames : List Frame) : Session σ := frames.foldl Session.receive s

theorem Tuned.receiveAll (tuned : s.Tuned number signal) {frames : List Frame}
    (on : ∀ frame ∈ frames, ReplyKey.ofFrame? frame = some signal.address.key) :
    samplesOf number (s.receiveAll frames).delivered = samplesOf number s.delivered ++
      frames.flatMap (Subscription.mk number signal true).samples := by
  induction frames generalizing s with
  | nil => exact (List.append_nil _).symm
  | cons frame rest ih =>
      obtain ⟨tuned', heard⟩ := tuned.receive (on frame List.mem_cons_self)
      show samplesOf number ((s.receive frame).receiveAll rest).delivered = _
      rw [ih tuned' fun frame mem => on frame (List.mem_cons_of_mem _ mem), heard,
        List.append_assoc, List.flatMap_cons]

/-! ## Subscribing -/

omit [Transport σ] in
theorem subscriptions_foldl (journal : List LinkEvent) (s : Session σ) :
    (journal.foldl absorbEvent s).host.subscriptions ⊆ s.host.subscriptions := by
  induction journal generalizing s with
  | nil => exact List.Subset.refl _
  | cons event rest ih =>
      refine List.Subset.trans (ih _) ?_
      cases event with
      | unclaimed frame => exact List.filter_sublist.subset
      | _ => exact List.Subset.refl _

/-- A command brings no new listeners. -/
theorem subscriptions_command (s : Session σ) (frame : Frame) :
    (s.run (Call.command frame)).2.host.subscriptions ⊆ s.host.subscriptions := by
  cases recorder : s.host.recorder with
  | idle =>
      rw [run_command_idle recorder]
      exact subscriptions_foldl _ _
  | recording target captured =>
      rw [run_command_recording recorder]
      exact List.Subset.refl _

/-- A call that streams a signal ends with a new listener, and may only lose others. -/
theorem subscriptions_stream (listens : s.run (Call.stream number signal) = (.ok (), s₁)) :
    ∃ others, s₁.host.subscriptions = others ++ [⟨number, signal, true⟩] ∧
      others ⊆ s.host.subscriptions := by
  unfold Call.stream at listens
  by_cases processor : signal.address.isProcessorOutput = true
  · simp only [if_pos processor, run_bind, Call.setNotify] at listens
    have kept := s.subscriptions_command (Processor.notifyFrame signal.address.id true)
    generalize s.run (Call.command (Processor.notifyFrame signal.address.id true)) = notified
      at listens kept
    obtain ⟨_ | _, s'⟩ := notified
    · obtain ⟨failed, -⟩ := Prod.mk.inj listens
      contradiction
    · obtain ⟨-, rfl⟩ := Prod.mk.inj listens
      exact ⟨_, rfl, kept⟩
  · simp only [if_neg processor] at listens
    obtain ⟨-, rfl⟩ := Prod.mk.inj listens
    exact ⟨_, rfl, List.Subset.refl _⟩

/-- Whoever streams a signal under a new number is tuned to it, if nobody waits on its key. -/
theorem tuned_of_stream (reachable : s.Reachable)
    (fresh : ∀ sub ∈ s.host.subscriptions, sub.number ≠ number)
    (listens : s.run (Call.stream number signal) = (.ok (), s₁))
    (unawaited : s₁.link.pending signal.address.key = 0) : s₁.Tuned number signal := by
  have after : s₁.Reachable := by
    have performed := reachable.perform (Call.stream number signal).run
    rwa [show perform (Call.stream number signal).run s = (.ok (), s₁) from listens] at performed
  obtain ⟨others, subscriptions, old⟩ := subscriptions_stream listens
  exact ⟨after.told, unawaited, others, subscriptions, fun sub mem => fresh sub (old mem)⟩

/-! ## Streams of processors -/

/-- Reports of processors bring these samples to one subscription. -/
def Brings (s : Session σ) (number : Nat) (reports : List (UInt8 × Frame)) (samples : List Sample) :
    Prop :=
  samplesOf number (s.receiveAll (reports.map Processor.reportFrame)).delivered =
    samplesOf number s.delivered ++ samples

/-- Reports come in, in any number and order, while no request waits for one. They bring the subscriber of
a processor what it hears of them; this is what the processor itself reported, and nothing else, just if
its id is not `noId`. -/
theorem own_samples_iff {Between : Host → Host → Prop} {h h' : Host} {t : List Exchange}
    {stages : List Stage} {ps : List Processor}
    (created : Call.Runs Between (Call.commitChain stages) h t (.ok ps) h') {p : Processor}
    (mem : p ∈ ps) (reachable : s.Reachable)
    (fresh : ∀ sub ∈ s.host.subscriptions, sub.number ≠ number)
    (listens : s.run (Call.stream number p.output) = (.ok (), s₁))
    (unawaited : s₁.link.pending ⟨ModuleId.processor, Register.Processor.output⟩ = 0) :
    (∀ reports, s₁.Brings number reports (reports.flatMap p.heard)) ∧
      ((∀ reports, s₁.Brings number reports (reports.flatMap p.reported)) ↔ p.id ≠ noId) := by
  have place := Call.place_of_commitChain created p mem
  have key : p.output.address.key = ⟨ModuleId.processor, Register.Processor.output⟩ :=
    congrArg Address.key place
  have tuned := tuned_of_stream reachable fresh listens (key ▸ unawaited)
  -- This holds of every id; the equivalence compares it with what the processor reported.
  have hears : ∀ reports, s₁.Brings number reports (reports.flatMap p.heard) := by
    intro reports
    have on : ∀ frame ∈ reports.map Processor.reportFrame,
        ReplyKey.ofFrame? frame = some p.output.address.key := by
      rw [key]
      exact List.forall_mem_map.mpr fun _ _ => rfl
    unfold Brings
    rw [tuned.receiveAll on, List.flatMap_map]
    congr 2
    funext report
    exact Subscription.samples_reportFrame rfl place report
  refine ⟨hears, fun own unindexed => ?_, fun indexed reports => ?_⟩
  · -- The report of another processor is heard.
    have same := List.append_cancel_left ((hears [(0, [])]).symm.trans (own [(0, [])]))
    simp only [List.flatMap_singleton, Processor.heard, Processor.reported, if_pos unindexed] at same
    rw [if_neg (by rw [unindexed]; decide)] at same
    exact p.output.samples_ne_nil _ _ same
  · have same : p.heard = p.reported := by
      funext report
      exact if_neg indexed
    exact same ▸ hears reports

/-! The board creates a processor that passes on the byte of a register, and somebody listens to it. -/

def byteChain : List Stage := [⟨none, .signal Call.namesakeInput, .passthrough .all 0⟩]

def bytePasser (id : UInt8) : Processor :=
  .created id none (.passthrough .all 0) Call.namesakeInput
    ⟨Call.namesakeInput.outputLike Call.namesakeInput.geometry.fromStart,
      some (.root .uint (.processorState noId) ⟨[2], 1, 0, false⟩)⟩

theorem byteChain_run (id : UInt8) : ∃ t h', Call.Runs SameRoster (Call.commitChain byteChain)
    (.new default) t (.ok [bytePasser id]) h' :=
  ⟨_, _, .look (.ask (.ok [9, 2, id]) rfl (.update .done))⟩

def quietSession : Session Board := .new default (.new 18) 0 .virtual

def byteSession (id : UInt8) : Session Board :=
  (quietSession.run (Call.stream 7 (bytePasser id).output)).2

theorem quietSession_fresh : ∀ sub ∈ quietSession.host.subscriptions, sub.number ≠ 7 := nofun

/-- The reports of two processors, of which somebody listens to the second. -/
theorem own_samples_iff_second : (byteSession 1).Brings 7 [(0, [5]), (1, [6])]
    ((bytePasser 1).output.samples [6] false) := by
  obtain ⟨t, h', created⟩ := byteChain_run 1
  have listens : quietSession.run (Call.stream 7 (bytePasser 1).output) = (.ok (), byteSession 1) :=
    rfl
  have own := own_samples_iff created List.mem_cons_self (.new ..) quietSession_fresh listens
    (by decide +kernel)
  exact own.2.mpr (by decide) [(0, [5]), (1, [6])]

/-- The board gives out its last id, and the report of another processor is heard. -/
theorem others_heard : ¬ ∀ (stages : List Stage) (ps : List Processor) (p : Processor) (h h' : Host)
    (t : List Exchange) (s s₁ : Session Board) (number : Nat) (report : UInt8 × Frame),
    Call.Runs SameRoster (Call.commitChain stages) h t (.ok ps) h' → p ∈ ps → s.Reachable →
    (∀ sub ∈ s.host.subscriptions, sub.number ≠ number) →
    s.run (Call.stream number p.output) = (.ok (), s₁) →
    s₁.link.pending ⟨ModuleId.processor, Register.Processor.output⟩ = 0 →
    s₁.Brings number [report] (p.reported report) := by
  intro own
  obtain ⟨t, h', created⟩ := byteChain_run 255
  have none := own _ _ _ _ _ _ quietSession (byteSession 255) 7 (1, [7]) created
    List.mem_cons_self (.new ..) quietSession_fresh rfl (by decide +kernel)
  exact absurd (congrArg List.length none) (by decide +kernel)

end Session

end SensorHost
