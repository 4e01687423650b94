import SensorHost.Proofs.Processor.Links
import SensorHost.Proofs.Session.Chains
import SensorHost.Proofs.Session.RoundTrip

/-!
# What recovered processors are fed by

A chain that was created from producers, their axes, and outputs of processors or parts of them is
read back from the board and rebuilt. Every processor is rebuilt at the address that feeds it on the
board. The first one is also given the part of its producer that the board reads; the others are
given the whole output of the one before, whatever part of it the board reads
(`Session.recovered_inputs`).
-/

namespace SensorHost

/-- Producers at different addresses, each with its axes in its own place. -/
structure Producers where
  has : Signal → Prop
  distinct : ∀ {a b : Signal}, has a → has b → a.address = b.address → a = b
  placed : ∀ {root axis : Signal}, has root → axis ∈ root.axes → axis.address = root.address

/-! ## What boards store -/

namespace Producers

variable {c : Producers} {processors : SortedMap UInt8 Frame} {b b' : Board}

/-- The signals that processors may be fed by: producers, their axes, and whatever processors put
out. -/
def Feeds (c : Producers) (s : Signal) : Prop :=
  s.address.isProcessorOutput = true ∨ ∃ root, c.has root ∧ (s = root ∨ s ∈ root.axes)

/-- Every processor on the board was created, fed by such a signal. -/
def FeedsAll (c : Producers) (processors : SortedMap UInt8 Frame) : Prop :=
  ∀ id stored, processors.get? id = some stored → ∃ operator input output,
    stored = Processor.configuration operator input output ∧ c.Feeds input

/-- Boards that were new at first, on which nothing but chains was created, each stage fed by such a
signal or by an earlier stage. Creations may fail, and faults may be injected. -/
inductive Populates (c : Producers) : Board → Prop
  | new (frameLimit : Nat) : Populates c (.new frameLimit)
  | injects {b b' : Board} {frame? : Option Frame} :
    Populates c b → b.Injects frame? b' → Populates c b'
  | commitChain {s s' : Session Board} (stages : List Stage) {owner : Nat}
      {result : Except Fault (List Processor)} : Populates c s.link.wire → s.Idle →
    (∀ stage ∈ stages, ∀ signal, stage.feed = .signal signal → c.Feeds signal) →
    Session.Concludes Board.Injects owner (s.advance owner (Call.commitChain stages).run) result
      s' →
    Populates c s'.link.wire

theorem FeedsAll.insert (feedsAll : c.FeedsAll processors) (id : UInt8) (operator : Operator)
    {input : Signal} (output : Signal) (feeds : c.Feeds input) :
    c.FeedsAll (processors.insert id (Processor.configuration operator input output)) := by
  intro id' stored found
  rw [SortedMap.get?_insert] at found
  split at found
  · obtain rfl := Option.some.inj found
    exact ⟨operator, input, output, rfl, feeds⟩
  · exact feedsAll id' stored found

theorem FeedsAll.erase (feedsAll : c.FeedsAll processors) (id : UInt8) :
    c.FeedsAll (processors.erase id) := by
  intro id' stored found
  rw [SortedMap.get?_erase] at found
  split at found
  · contradiction
  · exact feedsAll id' stored found

/-- The processors created so far put out where processors do, and the board stores processors that
were fed by such signals. -/
def FeedsSoFar (c : Producers) (created : List Processor) (_ : Host) (b : Board) : Prop :=
  (∀ p ∈ created, p.output.address.isProcessorOutput = true) ∧ c.FeedsAll b.processors

theorem feeds_of_resolve {feed : Feed} {created : List Processor} {input : Signal}
    (fed : ∀ signal, feed = .signal signal → c.Feeds signal)
    (outputs : ∀ p ∈ created, p.output.address.isProcessorOutput = true)
    (resolved : feed.resolve (created.map (·.output)) created.length = .ok input) :
    c.Feeds input := by
  cases feed with
  | signal signal =>
      obtain rfl := Except.ok.inj resolved
      exact fed signal rfl
  | stage index =>
      unfold Feed.resolve at resolved
      simp only at resolved
      split at resolved
      · rename_i output found
        obtain rfl := Except.ok.inj resolved
        obtain ⟨mem, -⟩ := Option.filter_eq_some_iff.mp found
        obtain ⟨p, isCreated, rfl⟩ := List.mem_map.mp (List.mem_of_getElem? mem)
        exact .inl (outputs p isCreated)
      · contradiction

theorem feedsSoFar_createStage {stage : Stage}
    (fed : ∀ signal, stage.feed = .signal signal → c.Feeds signal) {created : List Processor}
    {result : Except Fault Processor} {h h' : Host} {t : List Exchange}
    (run : Call.Runs ListenersOnly (Call.createStage stage created) h t result h')
    (carries : Carries Board.Injects b t b') (soFar : c.FeedsSoFar created h b) :
    c.FeedsSoFar created h' b' ∧ ∀ p, result = .ok p →
      c.FeedsSoFar (created ++ [p]) { h' with roster := h'.roster.insert p } b' := by
  obtain ⟨outputs, feedsAll⟩ := soFar
  rcases Call.runs_createStage run with
    ⟨fault, -, rfl, rfl, rfl⟩ | ⟨input, product, reply, resolved, produced, rfl, -, rfl⟩
  · cases carries
    exact ⟨⟨outputs, feedsAll⟩, fun _ ok => absurd ok nofun⟩
  cases carries with
  | asked answers carries =>
      cases carries
      obtain ⟨_, b₁, received, drifts, -⟩ := Board.answered_at_once answers
      obtain ⟨kept, -⟩ := Board.sameProcessors_of_drifts drifts
      have feeds := feeds_of_resolve fed outputs resolved
      have feedsAll' : c.FeedsAll b'.processors := by
        rw [kept]
        rcases b.receive_create _ received with ⟨processors, -⟩ | ⟨processors, -⟩
        · rw [processors]
          exact feedsAll
        · rw [processors]
          exact feedsAll.insert _ stage.operator product.output feeds
      refine ⟨⟨outputs, feedsAll'⟩, fun p ok => ⟨?_, feedsAll'⟩⟩
      refine List.forall_mem_append.mpr ⟨outputs, List.forall_mem_singleton.mpr ?_⟩
      obtain ⟨_, id, -, -, rfl⟩ := Stage.acknowledged_eq_ok ok
      have place : (product.output.withId id).address = .processorOutput id :=
        (stage.operator.isPutOut_product input product produced).address_withId id
      exact congrArg Address.isProcessorOutput place

theorem feedsSoFar_remove (created : List Processor) :
    Call.Removes Board.Injects (c.FeedsSoFar created) := by
  intro id result h h₁ b b' _ carries soFar
  obtain ⟨-, rfl⟩ := carries_sent.mp carries
  generalize received : Transport.send b (Processor.removeFrame id) = outcome
  obtain ⟨-, processors | processors⟩ := b.receive_remove id received
  · exact ⟨soFar.1, processors ▸ soFar.2⟩
  · exact ⟨soFar.1, processors ▸ soFar.2.erase id⟩

theorem Populates.feedsAll (populates : c.Populates b) : c.FeedsAll b.processors := by
  induction populates with
  | new => exact fun _ _ found => absurd found nofun
  | injects _ injects ih =>
      rw [(Board.sameProcessors_of_injects injects).1]
      exact ih
  | commitChain stages _ idle fed concludes ih =>
      obtain ⟨t, solo⟩ := Session.solo_of_concludes concludes
      obtain ⟨run, carries, -⟩ := Session.carried_of_solo solo idle
      have creates : Call.Creates Board.Injects c.FeedsSoFar stages :=
        fun stage mem _ _ _ _ _ _ _ run => feedsSoFar_createStage (fed stage mem) run
      obtain ⟨_, -, feedsAll⟩ := Call.kept_commitChain feedsSoFar_remove creates run carries
        ⟨fun _ mem => absurd mem List.not_mem_nil, ih⟩
      exact feedsAll

/-- A producer is told apart by its address, from its axes as well. -/
theorem view_of_feeds {root s : Signal} (feeds : c.Feeds s) (registered : c.has root)
    (same : s.address = root.address) (producer : root.address.isProcessorOutput = false) :
    s = root ∨ s ∈ root.axes := by
  rcases feeds with putOut | ⟨root', registered', view⟩
  · rw [same, producer] at putOut
    contradiction
  · have place : s.address = root'.address := by
      rcases view with rfl | axis
      · rfl
      · exact c.placed registered' axis
    obtain rfl := c.distinct registered registered' (same.symm.trans place)
    exact view

end Producers

/-! ## Views -/

namespace Signal

theorem viewFor_mem (root : Signal) (selector : UInt8) :
    root.viewFor selector = root ∨ root.viewFor selector ∈ root.axes := by
  unfold viewFor
  split
  · exact .inl rfl
  · cases found : root.axes.find? fun axis => axis.geometry.selector = selector with
    | none => exact .inl rfl
    | some axis => exact .inr (List.mem_of_find?_eq_some found)

/-- The view for the selector of a view has that selector. -/
theorem selector_viewFor {root s : Signal} (view : s = root ∨ s ∈ root.axes) :
    (root.viewFor s.geometry.selector).geometry.selector = s.geometry.selector := by
  unfold viewFor
  split
  · rename_i same
    exact same.symm
  · rename_i other
    rcases view with rfl | axis
    · exact absurd rfl other
    · cases found : root.axes.find? fun axis => axis.geometry.selector = s.geometry.selector with
      | none =>
          have none := List.find?_eq_none.mp found s axis
          simp at none
      | some axis' => simpa using List.find?_some found

end Signal

/-! ## Trails -/

/-- The hop is what the board tells about a processor that it stores. -/
def Told (processors : SortedMap UInt8 Frame) (hop : Hop) : Prop :=
  ∃ stored, processors.get? hop.id = some stored ∧ Hop.ofReply hop.id
    (ModuleId.processor :: Register.read Register.Processor.create :: stored) = .ok hop

/-- Hops that the board tells, of which the first is fed by this address and each other one by the
one before it. -/
inductive Trail (processors : SortedMap UInt8 Frame) : Address → List Hop → Prop
  | nil {source : Address} : Trail processors source []
  | cons {hop : Hop} {rest : List Hop} : Told processors hop →
    Trail processors (.processorOutput hop.id) rest → Trail processors hop.source (hop :: rest)

theorem Told.feeds {c : Producers} {processors : SortedMap UInt8 Frame} {hop : Hop}
    (told : Told processors hop) (feedsAll : c.FeedsAll processors) : ∃ input, c.Feeds input ∧
      hop.source = input.address ∧ hop.selector = input.geometry.selector := by
  obtain ⟨stored, known, reply⟩ := told
  obtain ⟨operator, input, output, rfl, feeds⟩ := feedsAll _ stored known
  rw [Processor.ofReply_configuration] at reply
  have same := Except.ok.inj reply
  exact ⟨input, feeds, by rw [← same], by rw [← same]⟩

theorem Hop.ofReply_eq_ok {id : UInt8} {reply : Frame} {hop : Hop}
    (h : ofReply id reply = .ok hop) : hop.id = id := by
  unfold ofReply at h
  split at h
  · rw [← Except.ok.inj h]
  · contradiction

/-- The answer to a read is a hop that the board tells, and nothing changes. -/
theorem Told.of_answers {id : UInt8} {timeout : Nat} {reply : Frame} {hop : Hop} {b b' : Board}
    (answers : Answers Board.Injects ⟨ModuleId.processor, Register.read Register.Processor.create⟩
      timeout [[ModuleId.processor, Register.read Register.Processor.create, id]] b b' (.ok reply))
    (read : Hop.ofReply id reply = .ok hop) :
    Told b.processors hop ∧ b'.processors = b.processors := by
  obtain ⟨_, b₁, received, drifts, atOnce⟩ := Board.answered_at_once answers
  obtain ⟨processors, stored⟩ := b.receive_read id received
  obtain ⟨kept, -⟩ := Board.sameProcessors_of_drifts drifts
  refine ⟨?_, kept.trans processors⟩
  obtain ⟨frames, taken, first⟩ := atOnce reply rfl
  obtain rfl := Hop.ofReply_eq_ok read
  rcases stored frames taken with rfl | ⟨stored, known, rfl⟩
  · contradiction
  · obtain rfl := Option.some.inj first
    exact ⟨stored, known, read⟩

/-- Pulling goes along a trail, from its end to a producer. -/
theorem Call.trail_pullFrom {last : UInt8} {count : Nat} {id : UInt8} {hops result : List Hop}
    {h h' : Host} {t : List Exchange} {b b' : Board}
    (run : Runs ListenersOnly (pullFrom last count id hops) h t (.ok result) h')
    (carries : Carries Board.Injects b t b')
    (trail : Trail b.processors (.processorOutput id) hops) :
    ∃ source, Trail b.processors source result ∧
      ∀ first ∈ result.head?, first.source.isProcessorOutput = false := by
  induction count generalizing id hops h t b with
  | zero => exact absurd (runs_throw.mp run).2.1 nofun
  | succ count ih =>
      unfold pullFrom at run
      rw [runs_bind_host] at run
      dsimp only at run
      rcases runs_bind.mp run with ⟨_, -, failed⟩ | ⟨reply, t₁, h₁, t₂, rfl, asked, more⟩
      · contradiction
      rw [runs_within_ok] at asked
      obtain ⟨rfl, -⟩ := runs_ask.mp asked
      rw [runs_bind_check] at more
      rcases more with ⟨_, -, -, failed, -⟩ | ⟨hop, read, rest⟩
      · contradiction
      cases carries with
      | asked answers carries =>
      obtain ⟨told, kept⟩ := Told.of_answers answers read
      have longer : Trail b.processors hop.source (hop :: hops) := by
        refine .cons told ?_
        rw [Hop.ofReply_eq_ok read]
        exact trail
      split at rest
      · -- The hop is fed by a processor, which is read next.
        rename_i putOut
        have place := Address.eq_processorOutput putOut
        rw [place, ← kept] at longer
        rw [← kept]
        exact ih rest carries longer
      · rename_i producer
        obtain ⟨-, eq, -⟩ := runs_pure.mp rest
        obtain rfl := Except.ok.inj eq
        refine ⟨_, longer, ?_⟩
        rintro _ ⟨rfl⟩
        simpa using producer

/-! ## Rebuilt processors -/

namespace Roster

variable {input : Signal} {hops : List Hop} {ps : List Processor} {r r' : Roster}
  {processors : SortedMap UInt8 Frame}

/-- Every processor after the first is fed by the whole output of the one before it. -/
theorem input_of_rebuildFrom (rebuilt : rebuildFrom input hops r = (.ok ps, r')) {i : Nat}
    {before p : Processor} (first : ps[i]? = some before) (second : ps[i + 1]? = some p) :
    p.input = before.output := by
  induction hops generalizing input ps r i with
  | nil =>
      obtain ⟨rfl, -⟩ := rebuildFrom_nil_eq_ok.mp rebuilt
      contradiction
  | cons hop rest ih =>
      obtain ⟨operator, product, later, -, -, more, rfl⟩ := rebuildFrom_cons_eq_ok.mp rebuilt
      cases i with
      | succ i => exact ih more first second
      | zero =>
          obtain rfl := Option.some.inj first
          cases rest with
          | nil =>
              obtain ⟨rfl, -⟩ := rebuildFrom_nil_eq_ok.mp more
              contradiction
          | cons hop' rest =>
              obtain ⟨_, _, _, -, -, -, rfl⟩ := rebuildFrom_cons_eq_ok.mp more
              obtain rfl := Option.some.inj second
              rfl

/-- Hops along a trail are rebuilt into processors that are fed by the addresses of the hops. -/
theorem sources_of_rebuildFrom (rebuilt : rebuildFrom input hops r = (.ok ps, r'))
    (trail : Trail processors input.address hops) :
    ps.map (·.input.address) = hops.map (·.source) := by
  induction hops generalizing input ps r with
  | nil =>
      obtain ⟨rfl, -⟩ := rebuildFrom_nil_eq_ok.mp rebuilt
      rfl
  | cons hop rest ih =>
      obtain ⟨operator, product, later, -, produced, more, rfl⟩ :=
        rebuildFrom_cons_eq_ok.mp rebuilt
      generalize source : input.address = address at trail
      cases trail with
      | cons told trail =>
          -- The trail goes on where the rebuilt processor puts out.
          rw [← (operator.isPutOut_product input product produced).address_withId] at trail
          rw [List.map_cons, List.map_cons, ih more trail]
          exact congrArg (· :: _) source

/-- Hops along a trail that begins at a producer are rebuilt into processors that are fed by the
addresses of the hops. The first reads what its hop says, and each other one the whole output of the
one before it. -/
theorem inputs_of_rebuild {c : Producers} {root : Signal} {source : Address}
    (rebuilt : r.rebuild hops root = (.ok ps, r')) (feedsAll : c.FeedsAll processors)
    (trail : Trail processors source hops) (registered : c.has root)
    (feeds : ∀ first ∈ hops.head?, first.source = root.address)
    (producer : ∀ first ∈ hops.head?, first.source.isProcessorOutput = false) :
    ps.map (·.input.address) = hops.map (·.source) ∧
      (∀ p hop, ps[0]? = some p → hops[0]? = some hop →
        p.input.geometry.selector = hop.selector) ∧
      ∀ i before p, ps[i]? = some before → ps[i + 1]? = some p → p.input = before.output := by
  cases trail with
  | nil =>
      obtain rfl := Except.ok.inj (Prod.mk.inj rebuilt).1
      exact ⟨rfl, by simp, by simp⟩
  | @cons first rest told trail =>
      have feeds := feeds first rfl
      have producer := producer first rfl
      obtain ⟨-, rebuilt⟩ := rebuild_cons_eq_ok.mp rebuilt
      have place : first.source = (root.viewFor first.selector).address := by
        rcases root.viewFor_mem first.selector with whole | axis
        · rw [whole, feeds]
        · rw [c.placed registered axis, feeds]
      have whole : Trail processors first.source (first :: rest) := .cons told trail
      rw [place] at whole
      refine ⟨sources_of_rebuildFrom rebuilt whole, ?_, fun _ _ _ => input_of_rebuildFrom rebuilt⟩
      rintro p _ head ⟨rfl⟩
      rw [head_of_rebuildFrom rebuilt head]
      -- What the board stores of the first hop was written for a view of this producer.
      obtain ⟨input, fed, source, selector⟩ := told.feeds feedsAll
      rw [feeds] at source producer
      rw [selector]
      exact Signal.selector_viewFor (c.view_of_feeds fed registered source.symm producer)

end Roster

/-! ## Recovered chains -/

namespace Session

open Processor

/-- A chain that is pulled from a board and rebuilt, with the producer at its first address as its
root. Every processor is fed by the address of its hop. The first reads the part of its input that
its hop names. Each other one reads the whole output of the one before it, and that is what its hop
names exactly if it names all of that output. -/
theorem recovered_inputs {σ : Type} [Transport σ] {c : Producers} {root : Signal} {owner : Nat}
    {id : UInt8} {s s' : Session Board} {hops : List Hop} {ps : List Processor} {r r' : Session σ}
    (populates : c.Populates s.link.wire) (idle : s.Idle)
    (pulled : Concludes Board.Injects owner (advance owner (Call.pullChain id).run s) (.ok hops) s')
    (registered : c.has root) (feeds : ∀ first ∈ hops.head?, first.source = root.address)
    (rebuilt : r.run (Call.reconstruct hops root) = (.ok ps, r')) :
    ps.length = hops.length ∧ ∀ i p hop, ps[i]? = some p → hops[i]? = some hop →
      p.input.address = hop.source ∧
        (p.input.geometry.selector = hop.selector ↔ ∀ j before, i = j + 1 →
          ps[j]? = some before → before.output.geometry.selector = hop.selector) := by
  obtain ⟨t, solo⟩ := solo_of_concludes pulled
  obtain ⟨run, carries, -⟩ := carried_of_solo solo idle
  obtain ⟨source, trail, producer⟩ := Call.trail_pullFrom run carries .nil
  rw [run_reconstruct] at rebuilt
  obtain ⟨addresses, first, later⟩ := Roster.inputs_of_rebuild
    (Prod.ext (Prod.mk.inj rebuilt).1 rfl) populates.feedsAll trail registered feeds producer
  have length : ps.length = hops.length := by simpa using congrArg List.length addresses
  refine ⟨length, fun i p hop isProcessor isHop => ⟨?_, ?_⟩⟩
  · have same := congrArg (·[i]?) addresses
    simpa [isProcessor, isHop] using same
  · cases i with
    | zero =>
        refine iff_of_true (first p hop isProcessor isHop) ?_
        exact fun _ _ zero => absurd zero.symm (Nat.succ_ne_zero _)
    | succ i =>
        obtain ⟨bound, -⟩ := List.getElem?_eq_some_iff.mp isProcessor
        have isBefore := List.getElem?_eq_getElem (Nat.lt_of_succ_lt bound)
        rw [later i _ p isBefore isProcessor]
        constructor
        · rintro same j before ⟨rfl⟩ found
          obtain rfl := Option.some.inj (isBefore.symm.trans found)
          exact same
        · intro reads
          exact reads i _ rfl isBefore

/-! A processor that reads one axis of what another one puts out. -/

/-- A vector of three numbers of two bytes. -/
def vectorRoot : Signal :=
  .withScale (.root .vector ⟨3, 4, 255⟩
    { widths := [2, 2, 2], units := 1, offset := 0, signed := true }) 1

def vectorProducer : Producers where
  has s := s = vectorRoot
  distinct := by
    rintro a b rfl rfl -
    rfl
  placed := by
    rintro root axis rfl mem
    exact Signal.address_of_mem_withAxes mem

/-- The average of the vector, under the id 0. -/
def meanProcessor : Processor :=
  .created 0 none (.average 4 false) vectorRoot
    ⟨vectorRoot.outputLike vectorRoot.geometry.fromStart, none⟩

/-- The second field of the average. -/
def meanAxis : Signal := meanProcessor.output.axes.get ⟨1, by decide⟩

/-- The second field of the average, delayed, under the id 1. -/
def delayProcessor : Processor :=
  .created 1 none (.delay 2) meanAxis ⟨meanAxis.outputLike meanAxis.geometry.fromStart, none⟩

def meanChain : List Stage := [⟨none, .signal vectorRoot, .average 4 false⟩]

def delayChain : List Stage := [⟨none, .signal meanAxis, .delay 2⟩]

theorem meanLine : Line vectorRoot 0 meanChain [meanProcessor] := .cons rfl .nil

theorem delayLine : Line meanAxis 1 delayChain [delayProcessor] := .cons rfl .nil

/-- Both processors are created, and the chain that ends at the second is pulled. -/
theorem axis_pulled : ∃ s s' : Session Board, vectorProducer.Populates s.link.wire ∧ s.Idle ∧
    Prompt 0 (Call.pullChain 1) s (.ok [meanProcessor.hop, delayProcessor.hop]) s' := by
  have idle₀ : (new default (Board.new 18) 0 .virtual).Idle := idle_new ..
  have inLine₀ : Stage.InLine (.signal vectorRoot) 0 meanChain := ⟨rfl, trivial⟩
  have inLine₁ : Stage.InLine (.signal meanAxis) 0 delayChain := ⟨rfl, trivial⟩
  obtain ⟨s₁, mean, idle₁, done₁⟩ := prompt_commitChain 0 meanLine (by decide) inLine₀ rfl idle₀
    (Board.healthy_new 18)
  have next : s₁.link.wire.nextProcessor = 1 := done₁.next
  obtain ⟨s₂, delay, idle₂, done₂⟩ := prompt_commitChain 0 (next.symm ▸ delayLine) (by decide)
    inLine₁ rfl idle₁ done₁.healthy
  have populates₁ : vectorProducer.Populates s₁.link.wire := by
    refine .commitChain meanChain (.new 18) idle₀ ?_ (concludes_of_finished mean)
    intro stage mem signal fed
    obtain rfl := List.mem_singleton.mp mem
    obtain rfl := Feed.signal.inj fed
    exact .inr ⟨vectorRoot, rfl, .inl rfl⟩
  have populates₂ : vectorProducer.Populates s₂.link.wire := by
    refine .commitChain delayChain populates₁ idle₁ ?_ (concludes_of_finished delay)
    intro stage mem signal fed
    obtain rfl := List.mem_singleton.mp mem
    obtain rfl := Feed.signal.inj fed
    exact .inl rfl
  have stored₁ : s₂.link.wire.processors.get? delayProcessor.id = some delayProcessor.record :=
    done₂.stores delayProcessor List.mem_cons_self
  have stored₀ : s₂.link.wire.processors.get? meanProcessor.id = some meanProcessor.record := by
    rw [done₂.keeps meanProcessor.id (by decide)]
    exact done₁.stores meanProcessor List.mem_cons_self
  obtain ⟨s₃, idle₃, healthy₃, processors, read₁⟩ :=
    prompt_pullFrom 0 1 255 [] idle₂ done₂.healthy stored₁
  rw [← processors] at stored₀
  obtain ⟨s₄, -, -, -, read₀⟩ :=
    prompt_pullFrom 0 1 254 [delayProcessor.hop] idle₃ healthy₃ stored₀
  exact ⟨s₂, s₄, populates₂, idle₂, read₁ (read₀ (.pure _))⟩

theorem axis_rebuilt : ∃ p₀ p₁ r', (new default (Board.new 18) 0 .virtual).run
    (Call.reconstruct [meanProcessor.hop, delayProcessor.hop] vectorRoot) = (.ok [p₀, p₁], r') ∧
      p₁.input.geometry.selector ≠ delayProcessor.hop.selector := by
  refine ⟨_, _, _, rfl, ?_⟩
  decide

theorem axis_feeds : ∀ first ∈ [meanProcessor.hop, delayProcessor.hop].head?,
    first.source = vectorRoot.address := by
  rintro _ ⟨rfl⟩
  rfl

/-- The second processor is rebuilt at its address, and reads what its hop says only if that is the
whole average. -/
theorem recovered_inputs_axis : ∃ s s' p₀ p₁ r', vectorProducer.Populates s.link.wire ∧
    Prompt 0 (Call.pullChain 1) s (.ok [meanProcessor.hop, delayProcessor.hop]) s' ∧
    (new default (Board.new 18) 0 .virtual).run (Call.reconstruct
      [meanProcessor.hop, delayProcessor.hop] vectorRoot) = (.ok [p₀, p₁], r') ∧
    p₁.input.address = ⟨9, 3, 0⟩ ∧ (p₁.input.geometry.selector = 34 ↔
      p₀.output.geometry.selector = 34) := by
  obtain ⟨s, s', populates, idle, pulled⟩ := axis_pulled
  obtain ⟨p₀, p₁, r', rebuilt, -⟩ := axis_rebuilt
  obtain ⟨-, views⟩ :=
    recovered_inputs populates idle (concludes_of_finished pulled) rfl axis_feeds rebuilt
  obtain ⟨address, reads⟩ := views 1 p₁ delayProcessor.hop rfl rfl
  refine ⟨s, s', p₀, p₁, r', populates, pulled, rebuilt, address, reads.trans ⟨?_, ?_⟩⟩
  · intro same
    exact same 0 p₀ rfl rfl
  · rintro same j before ⟨rfl⟩ ⟨rfl⟩
    exact same

/-- The board feeds one field of the average to the second processor, and the host rebuilds it as if
it were fed all of them. -/
theorem axis_not_recovered : ∃ (s s' : Session Board) (hops : List Hop) (ps : List Processor)
    (r r' : Session Board) (i : Nat) (p : Processor) (hop : Hop),
      vectorProducer.Populates s.link.wire ∧ s.Idle ∧
      Concludes Board.Injects 0 (advance 0 (Call.pullChain 1).run s) (.ok hops) s' ∧
      vectorProducer.has vectorRoot ∧ (∀ first ∈ hops.head?, first.source = vectorRoot.address) ∧
      r.run (Call.reconstruct hops vectorRoot) = (.ok ps, r') ∧
      ps[i]? = some p ∧ hops[i]? = some hop ∧ p.input.geometry.selector ≠ hop.selector := by
  obtain ⟨s, s', populates, idle, pulled⟩ := axis_pulled
  obtain ⟨p₀, p₁, r', rebuilt, differs⟩ := axis_rebuilt
  exact ⟨s, s', _, _, _, r', 1, p₁, _, populates, idle, concludes_of_finished pulled, rfl,
    axis_feeds, rebuilt, rfl, rfl, differs⟩

end Session

end SensorHost
