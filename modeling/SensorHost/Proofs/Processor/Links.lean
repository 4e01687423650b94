import Mathlib.Data.Fintype.Card
import Mathlib.Logic.Relation
import SensorHost.Processor.Chain

/-!
# Source links

A board stores of every processor the address that feeds it. Where that is the output of another
processor, the stored configurations link the two, and these links lead from a processor to the
producer of its chain (`Route`), to a processor that is not stored or is stored too short, or around
a circle (`Circles`). There is at most one link from each processor, so they lead to one of these
only, and a way without a circle passes every id at most once: it is no longer than 256
(`circles_of_isChain`).
-/

namespace SensorHost

open Relation (ReflTransGen TransGen)

/-- What a board stores of its processors: for each id the bytes of its creation. -/
abbrev Configurations := SortedMap UInt8 Frame

variable {stored : Configurations} {id id' n : UInt8} {hop hop' : Hop} {hops hops' : List Hop}

namespace Hop

/-- The bytes of a creation that the hop describes. -/
def bytes (hop : Hop) : Frame := hop.source.toBytes ++ hop.selector :: hop.operator

theorem ext_bytes (ids : hop.id = hop'.id) (same : hop.bytes = hop'.bytes) : hop = hop' := by
  obtain ⟨id, ⟨moduleId, register, sourceId⟩, selector, operator⟩ := hop
  obtain ⟨id', ⟨moduleId', register', sourceId'⟩, selector', operator'⟩ := hop'
  obtain rfl : id = id' := ids
  simp only [bytes, Address.toBytes, List.cons_append, List.nil_append, List.cons.injEq] at same
  obtain ⟨rfl, rfl, rfl, rfl, rfl⟩ := same
  rfl

/-- An answer is read as a hop, unless there is no operator byte in it. -/
theorem ofReply_cases (id moduleId register : UInt8) (bytes : Frame) :
    (∃ hop, ofReply id (moduleId :: register :: bytes) = .ok hop ∧ hop.id = id ∧
        bytes = hop.bytes ∧ hop.operator ≠ []) ∨
      bytes.length < 5 ∧ ofReply id (moduleId :: register :: bytes) =
        .error (.protocol s!"processor {id} config reply too short ({bytes.length + 2} bytes)") := by
  match bytes with
  | a :: b :: c :: d :: e :: rest => exact .inl ⟨⟨id, ⟨a, b, c⟩, d, e :: rest⟩, rfl, rfl, rfl, nofun⟩
  | [] | [_] | [_, _] | [_, _, _] | [_, _, _, _] => exact .inr ⟨by simp, rfl⟩

end Hop

theorem Address.eq_processorOutput {a : Address} (h : a.isProcessorOutput = true) :
    a = .processorOutput a.id := by
  obtain ⟨moduleId, register, id⟩ := a
  obtain ⟨rfl, rfl⟩ : moduleId = ModuleId.processor ∧ register = Register.Processor.output := by
    simpa [isProcessorOutput] using h
  rfl

/-- The board stores the processor of the hop as the hop says, with at least one operator byte. -/
def Stores (stored : Configurations) (hop : Hop) : Prop :=
  stored.get? hop.id = some hop.bytes ∧ hop.operator ≠ []

/-- The processor `id` is stored as one that the processor `source` feeds. -/
def FedBy (stored : Configurations) (id source : UInt8) : Prop :=
  ∃ hop, Stores stored hop ∧ hop.id = id ∧ hop.source = .processorOutput source

/-- The hops that lead from a producer to the processor, the one fed by the producer first. -/
inductive Route (stored : Configurations) : UInt8 → List Hop → Prop
  | root {hop : Hop} : Stores stored hop → hop.source.isProcessorOutput = false →
    Route stored hop.id [hop]
  | fed {hop : Hop} {source : UInt8} {hops : List Hop} : Stores stored hop →
    hop.source = .processorOutput source → Route stored source hops →
    Route stored hop.id (hops ++ [hop])

/-- The links from the processor lead around a circle. -/
def Circles (stored : Configurations) (id : UInt8) : Prop :=
  ∃ n, ReflTransGen (FedBy stored) id n ∧ TransGen (FedBy stored) n n

/-- The processor is stored without an operator byte. -/
def StoredShort (stored : Configurations) (id : UInt8) : Prop :=
  ∃ bytes, stored.get? id = some bytes ∧ bytes.length < 5

/-! ## Where links end -/

theorem Stores.unique (first : Stores stored hop) (second : Stores stored hop')
    (same : hop.id = hop'.id) : hop = hop' := by
  refine Hop.ext_bytes same (Option.some.inj ?_)
  rw [← first.1, ← second.1, same]

theorem Stores.not_short (stores : Stores stored hop) : ¬ StoredShort stored hop.id := by
  rintro ⟨bytes, known, short⟩
  obtain rfl := Option.some.inj (stores.1.symm.trans known)
  have operator := List.length_pos_iff.mpr stores.2
  simp only [Hop.bytes, Address.toBytes, List.length_append, List.length_cons, List.length_nil]
    at short
  omega

theorem fedBy_rightUnique : Relator.RightUnique (FedBy stored) := by
  rintro id source source' ⟨hop, stores, rfl, fed⟩ ⟨hop', stores', same, fed'⟩
  obtain rfl := stores.unique stores' same.symm
  exact congrArg Address.id (fed.symm.trans fed')

/-- No link leads on from the processor. -/
def Ends (stored : Configurations) (id : UInt8) : Prop := ∀ source, ¬ FedBy stored id source

theorem ends_of_missing (missing : stored.get? id = none) : Ends stored id := by
  rintro source ⟨hop, ⟨known, -⟩, rfl, -⟩
  exact absurd (missing.symm.trans known) nofun

theorem ends_of_short (short : StoredShort stored id) : Ends stored id := by
  rintro source ⟨hop, stores, rfl, -⟩
  exact stores.not_short short

theorem ends_of_producer (stores : Stores stored hop)
    (producer : hop.source.isProcessorOutput = false) : Ends stored hop.id := by
  rintro source ⟨hop', stores', same, fed⟩
  obtain rfl := stores.unique stores' same.symm
  rw [fed] at producer
  contradiction

theorem eq_of_ends (first : ReflTransGen (FedBy stored) id n) (ends : Ends stored n) {m : UInt8}
    (second : ReflTransGen (FedBy stored) id m) (ends' : Ends stored m) : n = m := by
  rcases first.total_of_right_unique fedBy_rightUnique second with on | back
  · rcases on.cases_head with same | ⟨next, link, -⟩
    · exact same
    · exact absurd link (ends next)
  · rcases back.cases_head with same | ⟨next, link, -⟩
    · exact same.symm
    · exact absurd link (ends' next)

/-- Whatever a circle leads to lies on a circle. -/
theorem transGen_of_circle (circle : TransGen (FedBy stored) id id)
    (leads : ReflTransGen (FedBy stored) id n) : TransGen (FedBy stored) n n := by
  induction leads with
  | refl => exact circle
  | tail _ link ih =>
      -- The link is the first one of the circle that was there before.
      obtain ⟨next, first, back⟩ := TransGen.head'_iff.mp ih
      obtain rfl := fedBy_rightUnique first link
      exact .tail' back link

theorem not_circles_of_ends (leads : ReflTransGen (FedBy stored) id n) (ends : Ends stored n) :
    ¬ Circles stored id := by
  rintro ⟨m, leads', circle⟩
  have onward : TransGen (FedBy stored) n n := by
    rcases leads.total_of_right_unique fedBy_rightUnique leads' with on | back
    · rcases on.cases_head with rfl | ⟨next, link, -⟩
      · exact circle
      · exact absurd link (ends next)
    · exact transGen_of_circle circle back
  obtain ⟨next, link, -⟩ := TransGen.head'_iff.mp onward
  exact ends next link

/-! ## Routes -/

/-- A route ends at a processor that a producer feeds. -/
theorem Route.leads (route : Route stored id hops) : ∃ hop, Stores stored hop ∧
    ReflTransGen (FedBy stored) id hop.id ∧ Ends stored hop.id := by
  induction route with
  | @root hop stores producer => exact ⟨hop, stores, .refl, ends_of_producer stores producer⟩
  | @fed hop source hops stores fed _ ih =>
      obtain ⟨first, stores', leads, ends⟩ := ih
      exact ⟨first, stores', .head ⟨hop, stores, rfl, fed⟩ leads, ends⟩

theorem Route.unique (route : Route stored id hops) (route' : Route stored id hops') :
    hops = hops' := by
  induction route generalizing hops' with
  | @root hop stores producer =>
      generalize same : hop.id = id at route'
      cases route' with
      | root stores' _ => rw [stores.unique stores' same]
      | @fed hop' source hops stores' fed _ =>
          obtain rfl := stores.unique stores' same
          rw [fed] at producer
          contradiction
  | @fed hop source hops stores fed _ ih =>
      generalize same : hop.id = id at route'
      cases route' with
      | @root hop' stores' producer =>
          obtain rfl := stores.unique stores' same
          rw [fed] at producer
          contradiction
      | @fed hop' source' hops' stores' fed' route' =>
          obtain rfl := stores.unique stores' same
          obtain rfl : source = source' := congrArg Address.id (fed.symm.trans fed')
          rw [ih route']

/-- A way that passes more processors than there are ids comes back to one of them. -/
theorem circles_of_isChain {way : List UInt8} (links : (id :: way).IsChain (FedBy stored))
    (long : 256 ≤ way.length) : Circles stored id := by
  have later : (id :: way).Pairwise (TransGen (FedBy stored)) :=
    (links.imp fun _ _ link => TransGen.single link).pairwise
  by_contra straight
  have reached (n : UInt8) (mem : n ∈ id :: way) : ReflTransGen (FedBy stored) id n := by
    rcases List.mem_cons.mp mem with rfl | mem
    · exact .refl
    · exact ((List.pairwise_cons.mp later).1 n mem).to_reflTransGen
  have distinct : (id :: way).Nodup := by
    refine later.imp_of_mem ?_
    rintro n m mem - onward rfl
    exact straight ⟨n, reached n mem, onward⟩
  have few : ((id :: way).map UInt8.toFin).length ≤ Fintype.card (Fin 256) :=
    (distinct.map fun _ _ => UInt8.toFin_inj.mp).length_le_card
  rw [List.length_map, List.length_cons, Fintype.card_fin] at few
  omega

end SensorHost
