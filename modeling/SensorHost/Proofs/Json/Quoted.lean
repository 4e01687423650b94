import SensorHost.Json.Quoted

/-!
# Quoted text that was written

What is written for a text between quotes ends where it was meant to (`Quoted.split?_encode`), and
stands for that text (`Quoted.decode?_encode`).
-/

namespace SensorHost.Json.Quoted

theorem hexValue?_hexDigit {n : Nat} (digit : n < 16) : hexValue? (hexDigit n) = some n := by
  revert n
  decide

/-- The number of a control is written with four digits. -/
theorem unit?_control {n : Nat} (control : n < 32) :
    unit? '0' '0' (hexDigit (n / 16)) (hexDigit (n % 16)) = some n := by
  have zero : hexValue? '0' = some 0 := by decide
  unfold unit?
  rw [zero, hexValue?_hexDigit (by omega), hexValue?_hexDigit (by omega)]
  show some _ = some n
  congr 1
  omega

/-- How a character may be written. -/
inductive Escaped (c : Char) : List Char → Prop
  /-- By the letter of a short escape. -/
  | short {letter : Char} (known : shortEscape? letter = some c) (other : letter ≠ 'u') :
    Escaped c ['\\', letter]
  /-- By its number. -/
  | control (small : c.toNat < 32) :
    Escaped c ['\\', 'u', '0', '0', hexDigit (c.toNat / 16), hexDigit (c.toNat % 16)]
  /-- As it is. -/
  | plain (quote : c ≠ '"') (backslash : c ≠ '\\') (printable : ¬ c < ' ') : Escaped c [c]

theorem escaped_encodeChar (c : Char) : Escaped c (encodeChar c) := by
  unfold encodeChar
  iterate 7
    split
    · subst c
      exact .short rfl (by decide)
  split
  · rename_i below
    exact .control below
  · exact .plain ‹_› ‹_› ‹_›

theorem split?_escaped {c : Char} {written : List Char} (escaped : Escaped c written)
    (rest : List Char) :
    split? (written ++ rest) = (split? rest).map fun (body, rest) => (written ++ body, rest) := by
  cases escaped with
  | @short letter known other =>
      simp [split?, known, other]
  | control small =>
      simp [split?, unit?_control small]
  | plain quote backslash printable =>
      simp [split?, backslash, printable]

theorem decode?_escaped {c : Char} {written : List Char} (escaped : Escaped c written)
    (rest : List Char) : decode? (written ++ rest) = (decode? rest).map (c :: ·) := by
  cases escaped with
  | @short letter known other =>
      simp [decode?, known, other]
  | control small =>
      have leading : isLeadingHalf c.toNat = false := by
        simp [isLeadingHalf]
        omega
      have trailing : isTrailingHalf c.toNat = false := by
        simp [isTrailingHalf]
        omega
      simp [decode?, unit?_control small, leading, trailing]
  | plain quote backslash printable =>
      simp [decode?, quote, backslash, printable]

/-- What is written for a text ends at the quote after it. -/
theorem split?_encode (text rest : List Char) :
    split? (encode text ++ '"' :: rest) = some (encode text, rest) := by
  induction text with
  | nil => rfl
  | cons c text ih =>
      have first := split?_escaped (escaped_encodeChar c) (encode text ++ '"' :: rest)
      rw [encode, List.flatMap_cons, List.append_assoc]
      rw [encode] at ih first
      rw [first, ih]
      rfl

/-- What is written for a text stands for it. -/
theorem decode?_encode (text : List Char) : decode? (encode text) = some text := by
  induction text with
  | nil => rfl
  | cons c text ih =>
      have first := decode?_escaped (escaped_encodeChar c) (encode text)
      rw [encode] at ih first
      rw [encode, List.flatMap_cons, first, ih]
      rfl

theorem encodeChar_digit {c : Char} (digit : c.isDigit) : encodeChar c = [c] := by
  have range : 48 ≤ c.toNat ∧ c.toNat ≤ 57 := Char.isDigit_iff_toNat.mp digit
  have other {d : Char} (outside : d.toNat < 48 ∨ 57 < d.toNat) : c ≠ d := by
    rintro rfl
    omega
  have printable : ¬ c < ' ' := by
    intro below
    have control : c.toNat < 32 := below
    omega
  unfold encodeChar
  rw [if_neg (other (by decide)), if_neg (other (by decide)), if_neg (other (by decide)),
    if_neg (other (by decide)), if_neg (other (by decide)), if_neg (other (by decide)),
    if_neg (other (by decide)), if_neg printable]

/-- Digits are written as they are. -/
theorem encode_digits {digits : List Char} (all : ∀ c ∈ digits, c.isDigit) :
    encode digits = digits := by
  induction digits with
  | nil => rfl
  | cons c digits ih =>
      obtain ⟨digit, others⟩ := List.forall_mem_cons.mp all
      have rest := ih others
      rw [encode] at rest
      rw [encode, List.flatMap_cons, encodeChar_digit digit, rest]
      rfl

end SensorHost.Json.Quoted
