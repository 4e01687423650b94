import SensorHost.Proofs.Processor.Lineage
import SensorHost.Proofs.Session.Prompt

/-!
# Chains that are created and read back

On a board without injected faults a line of stages is created at once, each stage under the next id
(`Session.prompt_createStages`). The way back goes from the last processor to the producer, one read
for each processor (`Session.prompt_retrace`). What was read is what was sent, and it is rebuilt
into the processors that were created (`Session.line_rebuilt`).
-/

namespace SensorHost

/-- The frame that creates a processor as the board describes it. -/
def Hop.creation (hop : Hop) : Frame :=
  ModuleId.processor :: Register.Processor.create ::
    (hop.source.toBytes ++ [hop.selector] ++ hop.operator)

/-- The processors were created on the board, and it is still without injected faults. -/
structure Board.Created (b : Board) (ps : List Processor) (b' : Board) : Prop where
  healthy : b'.Healthy
  next : b'.nextProcessor = b.nextProcessor + UInt8.ofNat ps.length
  sent : b'.sent = b.sent ++ ps.map fun p => p.hop.creation
  stores : ∀ p ∈ ps, b'.processors.get? p.id = some p.record
  keeps : ∀ id ∉ ps.map (·.id), b'.processors.get? id = b.processors.get? id

namespace Board

theorem Healthy.created_nil {b : Board} (h : b.Healthy) : b.Created [] b :=
  ⟨h, (UInt8.add_zero _).symm, (List.append_nil _).symm,
    fun _ mem => absurd mem List.not_mem_nil, fun _ _ => rfl⟩

/-- One creation, and then the others, which are stored under other ids. -/
theorem Created.cons {b b₁ b' : Board} {p : Processor} {ps : List Processor}
    (processors : b₁.processors = b.processors.insert p.id p.record)
    (next : b₁.nextProcessor = b.nextProcessor + 1) (sent : b₁.sent = b.sent ++ [p.hop.creation])
    (fresh : p.id ∉ ps.map (·.id)) (later : b₁.Created ps b') : b.Created (p :: ps) b' where
  healthy := later.healthy
  next := by
    rw [later.next, next, List.length_cons, Nat.add_comm, UInt8.ofNat_add, UInt8.add_assoc]
    rfl
  sent := by rw [later.sent, sent, List.append_assoc, List.map_cons, List.singleton_append]
  stores q mem := by
    rcases List.mem_cons.mp mem with rfl | mem
    · rw [later.keeps q.id fresh, processors, SortedMap.get?_insert, if_pos rfl]
    · exact later.stores q mem
  keeps id other := by
    rw [List.map_cons, List.mem_cons, not_or] at other
    rw [later.keeps id other.2, processors, SortedMap.get?_insert, if_neg other.1]

end Board

namespace Call

/-- What is left to be pulled, when the processors behind `source` were read. -/
def retrace (last : UInt8) (count : Nat) (source : Address) (hops : List Hop) :
    Call true (List Hop) :=
  if source.isProcessorOutput then pullFrom last count source.id hops else return hops

end Call

namespace Session

open Processor

variable {s : Session Board} (owner : Nat)

/-! ## There -/

/-- One stage is created under the next id of the board. -/
theorem prompt_createStage {stage : Stage} {created : List Processor} {input : Signal}
    {product : Product} (idle : s.Idle) (healthy : s.link.wire.Healthy)
    (resolved : stage.feed.resolve (created.map (·.output)) created.length = .ok input)
    (produced : stage.operator.product input = .ok product) :
    ∃ p s₁, p = .created s.link.wire.nextProcessor stage.name stage.operator input product ∧
      Prompt owner (Call.createStage stage created) s (.ok p) s₁ ∧ s₁.Idle ∧
      s₁.link.wire.Healthy ∧
      s₁.link.wire.processors = s.link.wire.processors.insert p.id p.record ∧
      s₁.link.wire.nextProcessor = s.link.wire.nextProcessor + 1 ∧
      s₁.link.wire.sent = s.link.wire.sent ++ [p.hop.creation] := by
  obtain ⟨wire, received, healthy', processors, next, sent⟩ :=
    healthy.receive_create (configuration stage.operator input product.output)
  obtain ⟨s₁, asked, idle', rfl, -⟩ := Prompt.ask owner
    ⟨ModuleId.processor, Register.Processor.create⟩ s.host.settings.responseTimeout idle received
    rfl
  have record := record_created s.link.wire.nextProcessor stage.name stage.operator input product
  refine ⟨_, s₁, rfl, ?_, idle', healthy', ?_, next, ?_⟩
  · unfold Call.createStage
    rw [resolved]
    refine .bind (.check _) ?_
    rw [produced]
    exact .bind (.check _) (.bind .host (.bind asked (.bind (.pure _) (.pure _))))
  · rw [processors, record]
    rfl
  · rw [sent]
    exact congrArg (fun stored => _ ++ [_ :: _ :: stored]) record.symm

/-- A line of stages is created, in order, from the next id of the board on. -/
theorem prompt_createStages {input : Signal} {id : UInt8} {stages : List Stage}
    {ps : List Processor} (line : Line input id stages ps) (distinct : (ps.map (·.id)).Nodup)
    (total : Nat) (created : List Processor) {feed : Feed} (idle : s.Idle)
    (healthy : s.link.wire.Healthy) (next : s.link.wire.nextProcessor = id)
    (inLine : Stage.InLine feed created.length stages)
    (resolved : feed.resolve (created.map (·.output)) created.length = .ok input) :
    ∃ s', Prompt owner (Call.createStages total stages created) s (.ok (created ++ ps)) s' ∧
      s'.Idle ∧ s.link.wire.Created ps s'.link.wire := by
  induction line generalizing s feed created with
  | nil =>
      refine ⟨s, ?_, idle, healthy.created_nil⟩
      rw [List.append_nil]
      exact .pure created
  | @cons input id stage rest product ps produced line ih =>
      obtain ⟨rfl, inLine⟩ := inLine
      obtain ⟨fresh, distinct⟩ := List.nodup_cons.mp distinct
      obtain ⟨p, s₁, same, made, idle₁, healthy₁, processors, next₁, sent⟩ :=
        prompt_createStage owner idle healthy resolved produced
      have next₂ := next₁
      rw [next] at same next₁
      subst same
      -- The others are fed by the processor that is the newest now.
      obtain ⟨s', later, idle', done⟩ := ih distinct (s := { s₁ with
          host := { s₁.host with roster := s₁.host.roster.insert _ } })
        (created ++ [.created id stage.name stage.operator input product])
        ⟨idle₁.link, idle₁.outcomes⟩ healthy₁ next₁ (by rwa [List.length_append])
        (Feed.resolve_newest ..)
      refine ⟨s', ?_, idle', done.cons processors next₂ sent fresh⟩
      rw [List.append_assoc] at later
      exact .bind made.attempt (.bind (.updateRoster _) later)

theorem prompt_commitChain {root : Signal} {stages : List Stage} {ps : List Processor}
    {planned : List Signal} (line : Line root s.link.wire.nextProcessor stages ps)
    (distinct : (ps.map (·.id)).Nodup) (inLine : Stage.InLine (.signal root) 0 stages)
    (compiles : Stage.plan [] stages = .ok planned) (idle : s.Idle)
    (healthy : s.link.wire.Healthy) :
    ∃ s', Prompt owner (Call.commitChain stages) s (.ok ps) s' ∧ s'.Idle ∧
      s.link.wire.Created ps s'.link.wire := by
  obtain ⟨s', created, idle', done⟩ := prompt_createStages owner line distinct stages.length [] idle
    healthy rfl inLine rfl
  refine ⟨s', ?_, idle', done⟩
  unfold Call.commitChain
  rw [compiles]
  exact .bind (.check _) created

/-! ## And back -/

/-- One processor is read, and then those that feed it. -/
theorem prompt_pullFrom (last : UInt8) (count : Nat) (hops : List Hop) {p : Processor}
    (idle : s.Idle) (healthy : s.link.wire.Healthy)
    (stored : s.link.wire.processors.get? p.id = some p.record) :
    ∃ s₁ : Session Board, s₁.Idle ∧ s₁.link.wire.Healthy ∧
      s₁.link.wire.processors = s.link.wire.processors ∧ ∀ {result s'},
        Prompt owner (Call.retrace last count p.input.address (p.hop :: hops)) s₁ result s' →
          Prompt owner (Call.pullFrom last (count + 1) p.id hops) s result s' := by
  obtain ⟨wire, received, healthy', processors⟩ := healthy.receive_read stored
  obtain ⟨s₁, asked, idle', rfl, -⟩ := Prompt.ask owner
    ⟨ModuleId.processor, Register.read Register.Processor.create⟩ s.host.settings.readTimeout idle
    received rfl
  refine ⟨s₁, idle', healthy', processors, ?_⟩
  intro result s' rest
  refine .bind .host (.bind (.within _ asked) ?_)
  rw [ofReply_record]
  exact .bind (.check _) rest

/-- From the end of a line the way back reads all of its processors. -/
theorem prompt_retrace {input : Signal} {id : UInt8} {stages : List Stage} {ps : List Processor}
    (line : Line input id stages ps) (last : UInt8) (count : Nat) (hops : List Hop) (idle : s.Idle)
    (healthy : s.link.wire.Healthy)
    (stored : ∀ p ∈ ps, s.link.wire.processors.get? p.id = some p.record) :
    ∃ s₁ : Session Board, s₁.Idle ∧ s₁.link.wire.Healthy ∧
      s₁.link.wire.processors = s.link.wire.processors ∧ ∀ {result s'},
        Prompt owner (Call.retrace last count input.address (ps.map hop ++ hops)) s₁ result s' →
          Prompt owner (Call.retrace last (ps.length + count) (lastOutput input ps).address hops) s
            result s' := by
  -- The first processor of the line is the last that is read: what is left to do after the others
  -- were read is to read it.
  induction line generalizing count with
  | nil =>
      refine ⟨s, idle, healthy, rfl, ?_⟩
      intro result s' rest
      rw [List.length_nil, Nat.zero_add]
      exact rest
  | @cons input id stage rest product ps produced line ih =>
      obtain ⟨known, others⟩ := List.forall_mem_cons.mp stored
      obtain ⟨s₁, idle₁, healthy₁, processors₁, back⟩ := ih (count + 1) others
      rw [← processors₁] at known
      obtain ⟨s₂, idle₂, healthy₂, processors₂, read⟩ :=
        prompt_pullFrom owner last count (ps.map hop ++ hops) idle₁ healthy₁ known
      refine ⟨s₂, idle₂, healthy₂, processors₂.trans processors₁, ?_⟩
      intro result s' rest
      rw [List.length_cons, Nat.add_assoc, Nat.add_comm 1]
      refine back ?_
      -- What feeds the rest of the line is found where this processor puts out.
      rw [(stage.operator.isPutOut_product input product produced).address_withId]
      exact read rest

/-- Pulling from the last processor of a line that a producer feeds gives all of its hops. -/
theorem prompt_pullChain {root : Signal} {id : UInt8} {stages : List Stage} {ps : List Processor}
    (line : Line root id stages ps) (nonempty : stages ≠ []) (fits : stages.length ≤ 256)
    (producer : root.address.isProcessorOutput = false) (idle : s.Idle)
    (healthy : s.link.wire.Healthy)
    (stored : ∀ p ∈ ps, s.link.wire.processors.get? p.id = some p.record) :
    ∃ last s', ps.getLast? = some last ∧
      Prompt owner (Call.pullChain last.id) s (.ok (ps.map hop)) s' := by
  obtain ⟨last, isLast, ends⟩ := line.ends nonempty
  obtain ⟨s', -, -, -, back⟩ := prompt_retrace owner line last.id
    (Call.processorLimit - ps.length) [] idle healthy stored
  have all : ps.length + (Call.processorLimit - ps.length) = Call.processorLimit := by
    rw [line.length]
    exact Nat.add_sub_of_le fits
  rw [ends, all, List.append_nil] at back
  refine ⟨last, s', isLast, back ?_⟩
  unfold Call.retrace
  rw [producer]
  exact .pure _

/-! ## Both ways -/

/-- A line of exact operators, fed by a producer, is created stage by stage under consecutive ids.
What is read back from its last processor is what was sent, and a session that knows no processor
rebuilds the processors that were created from it, without their names, and knows no others. -/
theorem line_rebuilt {σ : Type} [Transport σ] {root : Signal} {stages : List Stage}
    {planned : List Signal}
    (producer : root.address.isProcessorOutput = false) (nonempty : stages ≠ [])
    (inLine : Stage.InLine (.signal root) 0 stages)
    (exact : ∀ stage ∈ stages, stage.operator.IsExact)
    (compiles : Stage.plan [] stages = .ok planned) {s : Session Board} (idle : s.Idle)
    (healthy : s.link.wire.Healthy)
    (room : s.link.wire.nextProcessor.toNat + stages.length ≤ 256) {other : Session σ}
    (knowsNone : other.host.roster = .empty) :
    ∃ ps last s₁ s₂ other', Line root s.link.wire.nextProcessor stages ps ∧
      ps.map (·.id.toNat) = List.range' s.link.wire.nextProcessor.toNat stages.length ∧
      ps.getLast? = some last ∧
      Prompt owner (Call.commitChain stages) s (.ok ps) s₁ ∧
      Prompt owner (Call.pullChain last.id) s₁ (.ok (ps.map hop)) s₂ ∧
      s₁.link.wire.sent = s.link.wire.sent ++ (ps.map hop).map Hop.creation ∧
      other.run (Call.reconstruct (ps.map hop) root) = (.ok (ps.map unnamed), other') ∧
      (∀ id p, other'.host.roster.get? id = some p ↔ p ∈ ps.map unnamed ∧ p.id = id) ∧
      ∀ name, other'.host.roster.idOf? name = none := by
  obtain ⟨ps, line⟩ : ∃ ps, Line root s.link.wire.nextProcessor stages ps :=
    line_of_plan compiles inLine rfl rfl
  have distinct := line.distinct room
  have fits : stages.length ≤ 256 := by omega
  obtain ⟨s₁, created, idle₁, done⟩ :=
    prompt_commitChain owner line distinct inLine compiles idle healthy
  obtain ⟨last, s₂, isLast, pulled⟩ :=
    prompt_pullChain owner line nonempty fits producer idle₁ done.healthy done.stores
  have rebuilt := run_reconstruct other (ps.map hop) root
  rw [Roster.rebuild_line line exact, knowsNone] at rebuilt
  refine ⟨ps, last, s₁, s₂, _, line, line.ids room, isLast, created, pulled, ?_, rebuilt, ?_, ?_⟩
  · rw [done.sent, List.map_map]
    rfl
  · intro id p
    have same : (ps.map unnamed).map (·.id) = ps.map (·.id) := List.map_map
    rw [Roster.get?_insertAll_iff (same ▸ distinct)]
    exact or_iff_left fun added => nomatch added.2
  · intro name
    refine Roster.idOf?_insertAll_of_unused ?_
    rintro p mem
    obtain ⟨q, -, rfl⟩ := List.mem_map.mp mem
    exact nofun

/-- A number of two bytes. -/
def averagedRoot : Signal :=
  .root .uint ⟨3, 4, 255⟩ { widths := [2], units := 1, offset := 0, signed := false }

/-- Two processors, the second fed by the average that the first puts out. -/
def averagedChain : List Stage :=
  [⟨some "mean", .signal averagedRoot, .average 4 false⟩, ⟨none, .stage 0, .delay 2⟩]

theorem line_rebuilt_averaged : ∃ ps s₁ s₂ s₃,
    Prompt 0 (Call.commitChain averagedChain) (new default (Board.new 18) 0 .virtual) (.ok ps) s₁ ∧
      Prompt 0 (Call.pullChain 1) s₁ (.ok (ps.map hop)) s₂ ∧
      s₁.link.wire.sent = [[9, 2, 3, 4, 255, 32, 3, 5, 4], [9, 2, 9, 3, 0, 32, 10, 1, 2]] ∧
      (new default (Board.new 18) 0 .virtual).run (Call.reconstruct (ps.map hop) averagedRoot) =
        (.ok (ps.map unnamed), s₃) := by
  have nonempty : averagedChain ≠ [] := nofun
  have inLine : Stage.InLine (.signal averagedRoot) 0 averagedChain := ⟨rfl, rfl, trivial⟩
  have knowsNone : (new default (Board.new 18) 0 .virtual).host.roster = .empty := rfl
  obtain ⟨ps, last, s₁, s₂, s₃, line, -, isLast, created, pulled, sent, rebuilt, -⟩ :=
    line_rebuilt 0 rfl nonempty inLine (by decide) rfl (idle_new default (Board.new 18) 0 .virtual)
      (Board.healthy_new 18) (by decide) knowsNone
  cases line with
  | cons produced line =>
  cases line with
  | cons produced' line =>
  cases line
  obtain rfl := Except.ok.inj produced
  obtain rfl := Except.ok.inj produced'
  obtain rfl := Option.some.inj isLast
  exact ⟨_, s₁, s₂, s₃, created, pulled, sent, rebuilt⟩

end Session

end SensorHost
