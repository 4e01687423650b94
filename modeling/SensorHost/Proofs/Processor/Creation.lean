import SensorHost.Proofs.Success
import SensorHost.Processor.Chain

/-!
# Creating what was planned

A chain is planned before the board gives out any id, and created with the ids in place. An id
changes where a signal is found, not what it is: what a processor makes of a signal depends on its
kind and geometry alone (`Operator.form_product`). A chain that was planned can therefore be created
whatever ids the board gives out; `Stage.creations` are the frames that do it.
-/

namespace SensorHost

theorem map_bind {ε α β γ : Type} (g : β → γ) (x : Except ε α) (f : α → Except ε β) :
    (x >>= f).map g = x >>= fun a => (f a).map g := by
  cases x <;> rfl

theorem eq_ok_of_map {ε α β γ : Type} {f : α → γ} {g : β → γ} {x : Except ε α} {y : Except ε β}
    {b : β} (same : x.map f = y.map g) (ok : y = .ok b) : ∃ a, x = .ok a ∧ f a = g b := by
  subst ok
  cases x with
  | error e => contradiction
  | ok a => exact ⟨a, rfl, Except.ok.inj same⟩

/-! ## What a product depends on -/

namespace Signal

/-- What a signal is, wherever it is found: its kind and its geometry. -/
def form (s : Signal) : Kind × Geometry := (s.kind, s.geometry)

theorem form_withId (s : Signal) (id : UInt8) : (s.withId id).form = s.form := rfl

theorem form_outputAs (input : Signal) (kind : Kind) (g : Geometry) :
    (input.outputAs kind g).form = (kind, g) := by
  unfold outputAs
  split
  · rename_i same
    rw [same]
    rfl
  · rfl

end Signal

def Product.form (p : Product) : Kind × Geometry := p.output.form

variable {a b : Signal}

theorem MathOp.form_output (alike : b.form = a.form) (op : MathOp) (x : Float32) :
    (op.output b x).map Signal.form = (op.output a x).map Signal.form := by
  obtain ⟨_, _, _, _, _, _, _⟩ := a
  obtain ⟨kind, _, geometry, _, _, _, _⟩ := b
  obtain ⟨rfl, rfl⟩ := Prod.mk.inj alike
  have outputAs (input : Signal) (kind : Kind) (g : Geometry) :
      Except.map Signal.form (pure (input.outputAs kind g) : Except Fault Signal) =
        .ok (kind, g) :=
    congrArg Except.ok (Signal.form_outputAs input kind g)
  cases op <;> simp only [output, map_bind, outputAs, Signal.passFailOutput] <;> rfl

namespace Operator

theorem form_difference (alike : b.form = a.form) (op : Operator) :
    (op.difference b).map Signal.form = (op.difference a).map Signal.form := by
  obtain ⟨_, _, _, _, _, _, _⟩ := a
  obtain ⟨kind, _, geometry, _, _, _, _⟩ := b
  obtain ⟨rfl, rfl⟩ := Prod.mk.inj alike
  cases kind <;> rfl

/-- The form of what comes out, and whether anything does, depends on the form of what goes in. -/
theorem form_product (alike : b.form = a.form) (op : Operator) :
    (op.product b).map Product.form = (op.product a).map Product.form := by
  have computed (math : MathOp) (x : Float32) := MathOp.form_output alike math x
  have compared := form_difference alike op
  have output (x : Except Fault Signal) :
      (x >>= fun output => pure ⟨output, none⟩).map Product.form = x.map Signal.form := by
    cases x <;> rfl
  obtain ⟨_, _, _, _, _, _, _⟩ := a
  obtain ⟨kind, _, geometry, _, _, _, _⟩ := b
  obtain ⟨rfl, rfl⟩ := Prod.mk.inj alike
  -- Both sides make the same checks; what they return differs in its place only.
  cases op with
  | accumulate counting width =>
      cases counting <;>
        simp only [product, map_bind, Bool.false_eq_true, if_false, if_true] <;> rfl
  | math op x every =>
      simp only [product, map_bind, output, computed]
      rfl
  | pulse mode _ _ => cases mode <;> simp only [product, map_bind] <;> rfl
  | compareMany _ reported _ => cases reported <;> simp only [product, map_bind] <;> rfl
  | threshold mode _ _ => cases mode <;> simp only [product, map_bind] <;> rfl
  | differential mode _ =>
      cases mode with
      | difference =>
          simp only [product, map_bind, output, compared]
          rfl
      | absolute | binary =>
          simp only [product, map_bind]
          rfl
  | packer count =>
      simp only [product]
      split <;> simp only [map_bind] <;> rfl
  | combine mode =>
      by_cases vector : kind = .vector <;>
        simp only [product, vector, if_true, if_false, map_bind] <;> rfl
  | _ =>
      simp only [product, map_bind]
      rfl

end Operator

/-- What can be told of the outputs can be told of the input of the next stage. -/
theorem Feed.map_resolve {α : Type} (f : Signal → α) {outputs outputs' : List Signal}
    (alike : outputs'.map f = outputs.map f) (index : Nat) (feed : Feed) :
    (feed.resolve outputs' index).map f = (feed.resolve outputs index).map f := by
  cases feed with
  | signal s => rfl
  | stage i =>
      have same : outputs'[i]?.map f = outputs[i]?.map f := by
        rw [← List.getElem?_map, ← List.getElem?_map, alike]
      simp only [resolve]
      generalize outputs'[i]? = output', outputs[i]? = output at same ⊢
      cases output' with
      | none =>
          cases output with
          | none => rfl
          | some _ => contradiction
      | some output' =>
          cases output with
          | none => contradiction
          | some output =>
              simp only [Option.filter_some]
              by_cases earlier : i < index
              · simp only [earlier, decide_true, if_true]
                exact congrArg Except.ok (Option.some.inj same)
              · simp only [earlier, decide_false, Bool.false_eq_true, if_false]

namespace Stage

/-- The frames that create the first stages of a chain after those with the given outputs: one
stage for each id that the board gave out, and the one after them. -/
def creations (outputs : List Signal) : List Stage → List UInt8 → Except Fault (List Frame)
  | [], _ => .ok []
  | stage :: rest, ids => do
    let input ← stage.feed.resolve outputs outputs.length
    let product ← stage.operator.product input
    let frame := Processor.createFrame stage.operator input product.output
    match ids with
    | [] => return [frame]
    | id :: ids => return frame :: (← creations (outputs ++ [product.output.withId id]) rest ids)

section

variable {stage : Stage} {rest : List Stage} {outputs : List Signal} {input : Signal}
  {product : Product} (resolved : stage.feed.resolve outputs outputs.length = .ok input)
  (produced : stage.operator.product input = .ok product)
include resolved produced

theorem creations_cons_nil : creations outputs (stage :: rest) [] =
    .ok [Processor.createFrame stage.operator input product.output] := by
  unfold creations
  rw [resolved]
  show (stage.operator.product input >>= _) = _
  rw [produced]
  rfl

theorem creations_cons_cons {id : UInt8} {ids : List UInt8} {creates : List Frame}
    (later : creations (outputs ++ [product.output.withId id]) rest ids = .ok creates) :
    creations outputs (stage :: rest) (id :: ids) =
      .ok (Processor.createFrame stage.operator input product.output :: creates) := by
  unfold creations
  rw [resolved]
  show (stage.operator.product input >>= _) = _
  rw [produced]
  show (creations _ rest ids >>= _) = _
  rw [later]
  rfl

end

/-- The first creation, and those of the rest. -/
theorem creations_cons_eq_ok {stage : Stage} {rest : List Stage} {outputs : List Signal}
    {ids : List UInt8} {creates : List Frame}
    (h : creations outputs (stage :: rest) ids = .ok creates) :
    ∃ input product, stage.feed.resolve outputs outputs.length = .ok input ∧
      stage.operator.product input = .ok product ∧
      (ids = [] → creates = [Processor.createFrame stage.operator input product.output]) ∧
      ∀ id ids', ids = id :: ids' → ∃ later,
        creations (outputs ++ [product.output.withId id]) rest ids' = .ok later ∧
        creates = Processor.createFrame stage.operator input product.output :: later := by
  obtain ⟨input, resolved, h⟩ := bind_eq_ok h
  obtain ⟨product, produced, h⟩ := bind_eq_ok h
  refine ⟨input, product, resolved, produced, ?_, ?_⟩
  · rintro rfl
    exact (Except.ok.inj h).symm
  · rintro id ids' rfl
    obtain ⟨later, created, h⟩ := bind_eq_ok h
    exact ⟨later, created, (Except.ok.inj h).symm⟩

/-- A chain that was planned can be created whatever ids the board gives out. -/
theorem creations_of_plan {stages : List Stage} {outputs outputs' planned : List Signal}
    (compiles : plan outputs stages = .ok planned)
    (alike : outputs'.map Signal.form = outputs.map Signal.form) {ids : List UInt8}
    (fails : ids.length < stages.length) :
    ∃ creates, creations outputs' stages ids = .ok creates ∧ creates.length = ids.length + 1 := by
  induction stages generalizing outputs outputs' ids with
  | nil => exact absurd fails (Nat.not_lt_zero _)
  | cons stage rest ih =>
      obtain ⟨input, resolved, compiles⟩ := bind_eq_ok compiles
      obtain ⟨product, produced, compiles⟩ := bind_eq_ok compiles
      have length : outputs'.length = outputs.length := by
        simpa using congrArg List.length alike
      obtain ⟨input', resolved', same⟩ :=
        eq_ok_of_map (Feed.map_resolve Signal.form alike outputs.length stage.feed) resolved
      obtain ⟨product', produced', form⟩ :=
        eq_ok_of_map (Operator.form_product same stage.operator) produced
      rw [← length] at resolved'
      cases ids with
      | nil => exact ⟨_, creations_cons_nil resolved' produced', rfl⟩
      | cons id ids =>
          have grown : (outputs' ++ [product'.output.withId id]).map Signal.form =
              (outputs ++ [product.output]).map Signal.form := by
            rw [List.map_append, List.map_append, alike]
            exact congrArg (_ ++ [·]) form
          obtain ⟨creates, created, count⟩ := ih compiles grown (Nat.lt_of_succ_lt_succ fails)
          exact ⟨_, creations_cons_cons resolved' produced' created, congrArg (· + 1) count⟩

end Stage

end SensorHost
