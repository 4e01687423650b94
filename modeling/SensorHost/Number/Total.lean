/-!
# Totals

The total of a size over the items of a list.
-/

namespace SensorHost

/-- The sizes of all items added up. -/
def total {α : Type} (size : α → Nat) : List α → Nat
  | [] => 0
  | a :: rest => size a + total size rest

@[simp] theorem total_nil {α : Type} (size : α → Nat) : total size [] = 0 := rfl

@[simp] theorem total_cons {α : Type} (size : α → Nat) (a : α) (rest : List α) :
    total size (a :: rest) = size a + total size rest := rfl

theorem total_append {α : Type} (size : α → Nat) (as bs : List α) :
    total size (as ++ bs) = total size as + total size bs := by
  induction as with
  | nil => simp
  | cons a rest ih => simp [ih, Nat.add_assoc]

theorem total_map {α β : Type} (size : β → Nat) (f : α → β) (as : List α) :
    total size (as.map f) = total (size ∘ f) as := by
  induction as with
  | nil => rfl
  | cons a rest ih => simp [ih]

theorem total_replicate {α : Type} (size : α → Nat) (count : Nat) (a : α) :
    total size (List.replicate count a) = count * size a := by
  induction count with
  | zero => simp
  | succ count ih => simp [List.replicate_succ, ih, Nat.succ_mul, Nat.add_comm]

end SensorHost
