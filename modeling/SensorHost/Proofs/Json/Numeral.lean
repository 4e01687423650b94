import SensorHost.Json.Document
import SensorHost.Proofs.Number.Digits
import SensorHost.Proofs.Number.Shortest

/-!
# Numerals that were written

A well-formed numeral is read as it was written if what follows it cannot belong to a number
(`readNumeral?_text`). The numerals of natural numbers and of singles are well-formed, and that of a
natural number has it as its value (`Numeral.nat?_ofNat`).
-/

namespace SensorHost.Json

/-! ## Digits -/

theorem splitDigits_append {digits rest : List Char} (all : ∀ c ∈ digits, c.isDigit)
    (ends : ∀ c ∈ rest.head?, c.isDigit = false) :
    splitDigits (digits ++ rest) = (digits, rest) := by
  unfold splitDigits
  rw [List.takeWhile_append_of_pos all, List.dropWhile_append_of_pos all]
  cases rest with
  | nil => simp
  | cons c rest =>
      have other : c.isDigit = false := ends c rfl
      simp [other]

theorem value_toDigits (n : Nat) :
    (Nat.toDigits 10 n).foldl (fun n c => n * 10 + Numeral.digitValue c) 0 = n := by
  have value : Nat.ofDigitChars 10 (Nat.toDigits 10 n) 0 = n := Nat.ofDigitChars_ten_toDigits
  rw [Nat.ofDigitChars_eq_foldl] at value
  simpa only [Nat.mul_comm, Numeral.digitValue] using value

theorem foldl_cast (digits : List Char) (start : Nat) :
    digits.foldl (fun (n : Int) c => n * 10 + (Numeral.digitValue c : Int)) start =
      (digits.foldl (fun n c => n * 10 + Numeral.digitValue c) start : Nat) := by
  induction digits generalizing start with
  | nil => rfl
  | cons c rest ih =>
      rw [List.foldl_cons, List.foldl_cons, ← ih]
      simp

/-! ## Numerals -/

namespace Numeral

/-- A number that the grammar allows: it has digits before the point, and starts with a zero only if
there is no other one. -/
structure WellFormed (n : Numeral) : Prop where
  nonempty : n.whole ≠ []
  leading : n.whole.head? = some '0' → n.whole = ['0']
  whole : ∀ c ∈ n.whole, c.isDigit
  fraction : ∀ c ∈ n.fraction, c.isDigit

/-- What follows a number cannot belong to it. -/
def Ends (rest : List Char) : Prop :=
  ∀ c ∈ rest.head?, c.isDigit = false ∧ c ≠ '.' ∧ c ≠ 'e' ∧ c ≠ 'E'

theorem ends_nil : Ends [] := by
  intro c head
  contradiction

theorem wellFormed_ofNat (n : Nat) : (ofNat n).WellFormed where
  nonempty := Nat.toDigits_ne_nil
  leading := by
    intro zero
    by_cases pos : 0 < n
    · exact absurd zero (head?_toDigits pos)
    · obtain rfl : n = 0 := by omega
      rfl
  whole := isDigit_toDigits n
  fraction := by
    intro c mem
    contradiction

/-- Digits make a well-formed numeral at any place unless they start with a zero. -/
theorem wellFormed_ofDigits (negative : Bool) {digits : List Char} (place : Int)
    (nonempty : digits ≠ []) (all : ∀ c ∈ digits, c.isDigit)
    (leading : digits.head? = some '0' → digits = ['0'] ∧ place = 0) :
    (ofDigits negative digits place).WellFormed := by
  obtain ⟨d, ds, rfl⟩ := List.exists_cons_of_ne_nil nonempty
  have zeros (count : Nat) : ∀ c ∈ List.replicate count '0', c.isDigit := by
    intro c mem
    obtain rfl := List.eq_of_mem_replicate mem
    rfl
  unfold ofDigits
  split
  · exact ⟨by simp, fun zero => by simpa using zero, fun c mem => all c (List.mem_of_mem_take mem),
      fun c mem => all c (List.mem_of_mem_drop mem)⟩
  split
  · refine ⟨by simp, fun _ => rfl, zeros 1, ?_⟩
    exact List.forall_mem_append.mpr ⟨zeros _, all⟩
  · have fraction : ∀ c ∈ (if (d :: ds).length ≤ place.toNat + 1 then ['0']
        else (d :: ds).drop (place.toNat + 1)), c.isDigit := by
      split
      · exact zeros 1
      · exact fun c mem => all c (List.mem_of_mem_drop mem)
    refine ⟨by simp, ?_, ?_, fraction⟩
    · intro zero
      obtain ⟨one, rfl⟩ := leading (by simpa using zero)
      rw [one]
      rfl
    · exact List.forall_mem_append.mpr ⟨fun c mem => all c (List.mem_of_mem_take mem), zeros _⟩

theorem wellFormed_ofSingle (x : Float32) : (ofSingle x).WellFormed := by
  unfold ofSingle
  by_cases zero : x == 0
  · simp only [zero, if_true]
    exact wellFormed_ofDigits _ 0 (by simp) (by simp) fun _ => ⟨rfl, rfl⟩
  · simp only [zero]
    refine wellFormed_ofDigits _ _ Nat.toDigits_ne_nil (isDigit_toDigits _) ?_
    intro leading
    rcases Single.shortest_pos (Bool.not_eq_true _ ▸ zero) with pos | nothing
    · exact absurd leading (head?_toDigits pos)
    · rw [nothing]
      exact ⟨rfl, rfl⟩

end Numeral

theorem readExponent?_text {e : Int} {rest : List Char}
    (ends : ∀ c ∈ rest.head?, c.isDigit = false) :
    readExponent? ((if e < 0 then '-' else '+') :: (Nat.toDigits 10 e.natAbs ++ rest)) =
      some (e, rest) := by
  have split := splitDigits_append (isDigit_toDigits e.natAbs) ends
  have value : (Nat.toDigits 10 e.natAbs).foldl
      (fun (n : Int) c => n * 10 + (Numeral.digitValue c : Int)) (0 : Nat) = e.natAbs := by
    rw [foldl_cast, value_toDigits]
  have nonempty : Nat.toDigits 10 e.natAbs ≠ [] := Nat.toDigits_ne_nil
  generalize Nat.toDigits 10 e.natAbs = digits at split value nonempty ⊢
  unfold readExponent?
  by_cases negative : e < 0
  · simp only [if_pos negative, split]
    cases digits with
    | nil => contradiction
    | cons d ds =>
        simp only [value, if_true, Option.some.injEq, Prod.mk.injEq, and_true]
        omega
  · simp only [if_neg negative, split]
    cases digits with
    | nil => contradiction
    | cons d ds =>
        simp only [value, Bool.false_eq_true, if_false, Option.some.injEq, Prod.mk.injEq, and_true]
        omega

/-! ## Values -/

namespace Numeral

theorem le_foldl (digits : List Char) (start : Nat) :
    start ≤ digits.foldl (fun n c => n * 10 + digitValue c) start := by
  induction digits generalizing start with
  | nil => exact Nat.le_refl _
  | cons c rest ih =>
      have next := ih (start * 10 + digitValue c)
      rw [List.foldl_cons]
      omega

/-- Digits are all absorbed if the number that they write fits into 64 bits. -/
theorem absorb_of_lt {digits : List Char} {start : Nat}
    (fits : digits.foldl (fun n c => n * 10 + digitValue c) start < UInt64.size) :
    absorb start digits = (digits.foldl (fun n c => n * 10 + digitValue c) start, 0) := by
  induction digits generalizing start with
  | nil => rfl
  | cons c rest ih =>
      rw [List.foldl_cons] at fits ⊢
      have next : start * 10 + digitValue c < UInt64.size :=
        Nat.lt_of_le_of_lt (le_foldl rest _) fits
      rw [absorb]
      simp only [if_pos next]
      exact ih fits

/-- The numeral of a natural number has that number as its value, below any bound of at most 64
bits. -/
theorem nat?_ofNat {n bound : Nat} (below : n < bound) (bits : bound ≤ UInt64.size) :
    (ofNat n).nat? bound = some n := by
  have fits : (Nat.toDigits 10 n).foldl (fun n c => n * 10 + digitValue c) 0 < UInt64.size := by
    rw [value_toDigits]
    omega
  have absorbed := absorb_of_lt fits
  rw [value_toDigits] at absorbed
  have value : (ofNat n).int? = some (.ofNat n) := by
    simp [int?, ofNat, absorbed]
  rw [nat?, value]
  exact if_pos below

end Numeral

/-! ## Reading back -/

namespace Numeral

/-- The characters of an exponent. -/
def exponentChars : Option Int → List Char
  | none => []
  | some e => 'e' :: (if e < 0 then '-' else '+') :: Nat.toDigits 10 e.natAbs

/-- The characters of a fraction. -/
def fractionChars (digits : List Char) : List Char :=
  if digits.isEmpty then [] else '.' :: digits

theorem toList_exponentText (exponent : Option Int) :
    (exponentText exponent).toList = exponentChars exponent := by
  cases exponent with
  | none => rfl
  | some e =>
      unfold exponentText exponentChars
      by_cases negative : e < 0 <;> simp [negative]

theorem toList_text (n : Numeral) :
    n.text.toList = (if n.negative then ['-'] else []) ++
      (n.whole ++ (fractionChars n.fraction ++ exponentChars n.exponent)) := by
  unfold text fractionChars
  rw [String.toList_append, String.toList_append, String.toList_append, toList_exponentText]
  by_cases negative : n.negative <;> by_cases whole : n.fraction.isEmpty <;> simp [negative, whole]

end Numeral

open Numeral

section ReadBack

variable {n : Numeral} {rest : List Char}

theorem readPower?_text (ends : Ends rest) (exponent : Option Int) :
    readPower? (exponentChars exponent ++ rest) = some (exponent, rest) := by
  cases exponent with
  | none =>
      cases rest with
      | nil => rfl
      | cons c rest =>
          obtain ⟨-, -, lower, upper⟩ := ends c rfl
          simp [exponentChars, readPower?, lower, upper]
  | some e =>
      have read := readExponent?_text (e := e) fun c head => (ends c head).1
      simp only [exponentChars, List.cons_append, readPower?, read, Option.map_some]

/-- An exponent does not go on with a digit or a point. -/
theorem head_exponentChars (ends : Ends rest) (exponent : Option Int) :
    ∀ c ∈ (exponentChars exponent ++ rest).head?, c.isDigit = false ∧ c ≠ '.' := by
  cases exponent with
  | none =>
      intro c head
      exact ⟨(ends c head).1, (ends c head).2.1⟩
  | some e =>
      rintro _ ⟨rfl⟩
      decide

theorem readFraction?_text {digits rest : List Char} (all : ∀ c ∈ digits, c.isDigit)
    (ends : ∀ c ∈ rest.head?, c.isDigit = false ∧ c ≠ '.') :
    readFraction? (fractionChars digits ++ rest) = some (digits, rest) := by
  cases digits with
  | nil =>
      cases rest with
      | nil => rfl
      | cons c rest =>
          have other := (ends c rfl).2
          simp [fractionChars, readFraction?, other]
  | cons d ds =>
      have split := splitDigits_append all fun c head => (ends c head).1
      rw [List.cons_append] at split
      simp [fractionChars, readFraction?, split]

/-- A fraction does not go on with a digit. -/
theorem head_fractionChars (digits : List Char) {rest : List Char}
    (ends : ∀ c ∈ rest.head?, c.isDigit = false ∧ c ≠ '.') :
    ∀ c ∈ (fractionChars digits ++ rest).head?, c.isDigit = false := by
  cases digits with
  | nil =>
      intro c head
      exact (ends c head).1
  | cons d ds =>
      rintro _ ⟨rfl⟩
      decide

theorem readWhole?_text (formed : n.WellFormed) (ends : ∀ c ∈ rest.head?, c.isDigit = false) :
    readWhole? (n.whole ++ rest) = some (n.whole, rest) := by
  unfold readWhole?
  rw [splitDigits_append formed.whole ends]
  have nonempty := formed.nonempty
  have leading := formed.leading
  generalize n.whole = whole at nonempty leading ⊢
  cases whole with
  | nil => contradiction
  | cons d ds =>
      by_cases zero : d = '0'
      · subst d
        obtain rfl : ds = [] := (List.cons.inj (leading rfl)).2
        rfl
      · simp [zero]

/-- A number that was written is read as it is, whatever follows it that is not part of a number. -/
theorem readNumeral?_text (formed : n.WellFormed) (ends : Ends rest) :
    readNumeral? (n.text.toList ++ rest) = some (n, rest) := by
  have ends₁ := head_exponentChars ends n.exponent
  have power := readPower?_text ends n.exponent
  have fraction := readFraction?_text formed.fraction ends₁
  have whole := readWhole?_text formed (head_fractionChars n.fraction ends₁)
  obtain ⟨d, ds, digits⟩ := List.exists_cons_of_ne_nil formed.nonempty
  have notMinus : d ≠ '-' := by
    rintro rfl
    exact absurd (formed.whole '-' (digits ▸ List.mem_cons_self)) (by decide)
  rw [toList_text, List.append_assoc, List.append_assoc, List.append_assoc]
  unfold readNumeral?
  cases negative : n.negative with
  | true => simp [whole, fraction, power, ← negative]
  | false =>
      have same : (⟨false, d :: ds, n.fraction, n.exponent⟩ : Numeral) = n := by
        rw [← negative, ← digits]
      rw [digits, List.cons_append] at whole
      simp [digits, notMinus, whole, fraction, power, same]

end ReadBack

end SensorHost.Json
