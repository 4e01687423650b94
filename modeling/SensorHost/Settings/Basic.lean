import SensorHost.Fault

/-!
# Settings of a link

The times and limits of one link. Times are in milliseconds. The defaults suit the firmware.
-/

namespace SensorHost

/-- The times and limits of a link. -/
structure Settings where
  /-- The time within which most requests have to be answered. -/
  responseTimeout : Nat
  /-- The time within which each read of a processor has to be answered. -/
  readTimeout : Nat
  /-- Commands of this length or more are cut in two when they are kept in a script. -/
  frameLimit : Nat
  /-- The pause between opening a script and writing its commands. -/
  settleDelay : Nat
  /-- Whether events copy payload bytes into their commands when they are asked to. -/
  copiesPayload : Bool
deriving DecidableEq, Repr

namespace Settings

def default : Settings where
  responseTimeout := 1000
  readTimeout := 1500
  frameLimit := 18
  settleDelay := 0
  copiesPayload := true

instance : Inhabited Settings := ⟨default⟩

/-- A frame that carries a module, a register and one byte more has this length. -/
def minFrameLimit : Nat := 3

/-- Settings that a link can work with. -/
def Valid (s : Settings) : Prop :=
  s.responseTimeout ≠ 0 ∧ s.readTimeout ≠ 0 ∧ minFrameLimit ≤ s.frameLimit

instance (s : Settings) : Decidable s.Valid := inferInstanceAs (Decidable (_ ∧ _ ∧ _))

/-- Accepts the settings that are valid. -/
def validate (s : Settings) : Except Fault Unit :=
  if s.responseTimeout = 0 ∨ s.readTimeout = 0 then
    .error (.config "timeouts must be non-zero")
  else if s.frameLimit < minFrameLimit then
    .error (.config s!"max_frame_len must be at least {minFrameLimit}, got {s.frameLimit}")
  else .ok ()

theorem validate_eq_ok_iff (s : Settings) : s.validate = .ok () ↔ s.Valid := by
  unfold validate Valid
  split
  · rename_i h
    simp only [reduceCtorEq, false_iff]
    rintro ⟨h₁, h₂, _⟩
    exact h.elim h₁ h₂
  · rename_i h
    split
    · rename_i short
      simp only [reduceCtorEq, false_iff]
      rintro ⟨_, _, h₃⟩
      exact absurd h₃ (Nat.not_le.mpr short)
    · rename_i long
      simp only [true_iff]
      exact ⟨fun e => h (.inl e), fun e => h (.inr e), Nat.not_lt.mp long⟩

end Settings

end SensorHost
