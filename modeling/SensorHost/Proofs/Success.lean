import SensorHost.Fault

/-!
# What success tells

A computation that can fail and did not went through each of its steps. These lemmas take it apart.
-/

namespace SensorHost

variable {ε α β : Type}

theorem bind_eq_ok {x : Except ε α} {f : α → Except ε β} {b : β} (h : x >>= f = .ok b) :
    ∃ a, x = .ok a ∧ f a = .ok b := by
  cases x with
  | error e => exact absurd h nofun
  | ok a => exact ⟨a, rfl, h⟩

/-- Whatever the computation gives has the property. -/
def Yields (x : Except ε α) (P : α → Prop) : Prop := ∀ a, x = .ok a → P a

theorem yields_pure {P : α → Prop} {a : α} (h : P a) : Yields (pure a : Except ε α) P := by
  rintro _ ⟨rfl⟩
  exact h

theorem yields_error {P : α → Prop} (e : ε) : Yields (.error e) P := nofun

theorem yields_bind {P : β → Prop} {x : Except ε α} {f : α → Except ε β}
    (h : ∀ a, Yields (f a) P) : Yields (x >>= f) P := by
  intro b eq
  obtain ⟨a, -, eq⟩ := bind_eq_ok eq
  exact h a b eq

/-- What the first step gives may matter for the second. -/
theorem yields_bind_of {P : α → Prop} {Q : β → Prop} {x : Except ε α} {f : α → Except ε β}
    (first : Yields x P) (h : ∀ a, P a → Yields (f a) Q) : Yields (x >>= f) Q := by
  intro b eq
  obtain ⟨a, given, eq⟩ := bind_eq_ok eq
  exact h a (first a given) b eq

/-- Whatever goes wrong in the computation has the property. -/
def Blames (x : Except ε α) (P : ε → Prop) : Prop := ∀ e, x = .error e → P e

theorem blames_pure (P : ε → Prop) (a : α) : Blames (pure a : Except ε α) P := nofun

theorem blames_error {P : ε → Prop} {e : ε} (h : P e) : Blames (.error e : Except ε α) P := by
  rintro _ ⟨rfl⟩
  exact h

theorem blames_bind {P : ε → Prop} {x : Except ε α} {f : α → Except ε β} (first : Blames x P)
    (h : ∀ a, Blames (f a) P) : Blames (x >>= f) P := by
  cases x with
  | error e =>
      rintro _ ⟨rfl⟩
      exact first e rfl
  | ok a => exact h a

theorem Geometry.lift_eq_ok {x : Except GeometryFault α} {a : α} (h : Geometry.lift x = .ok a) :
    x = .ok a := by
  cases x with
  | error e => exact absurd h nofun
  | ok b => exact congrArg Except.ok (Except.ok.inj h)

end SensorHost
