import Mathlib.Data.List.Basic
import SensorHost.Proofs.Number.Digits
import SensorHost.Toml.Document

/-!
# Documents that assign bare keys

A document whose lines assign integers and truth values to bare keys holds what its lines say, in
their order, if no key is assigned twice (`document?_text`). An integer is spelt by its decimal
digits as long as a document can hold it (`spells_toString`).
-/

namespace SensorHost.Toml

/-! ## Runs of characters -/

section Runs

variable {p : Char → Bool} {run : List Char} {c : Char}

theorem takeWhile_run (all : ∀ d ∈ run, p d) (stops : ¬p c) (rest : List Char) :
    (run ++ c :: rest).takeWhile p = run := by
  rw [List.takeWhile_append_of_pos all, List.takeWhile_cons_of_neg stops, List.append_nil]

theorem dropWhile_run (all : ∀ d ∈ run, p d) (stops : ¬p c) (rest : List Char) :
    (run ++ c :: rest).dropWhile p = c :: rest := by
  rw [List.dropWhile_append_of_pos all, List.dropWhile_cons_of_neg stops]

/-- No run starts with a character that it cannot have. -/
theorem run_ne_cons (nonempty : run ≠ []) (all : ∀ d ∈ run, p d) (stops : ¬p c)
    (rest text : List Char) : run ++ rest ≠ c :: text := by
  obtain ⟨d, ds, rfl⟩ := List.exists_cons_of_ne_nil nonempty
  intro same
  cases same
  exact stops (all _ List.mem_cons_self)

theorem not_isBlank (scalar : isScalarChar c) : ¬isBlank c := by
  intro blank
  have which : c = ' ' ∨ c = '\t' := by simpa [isBlank] using blank
  rcases which with rfl | rfl
  · exact absurd scalar (by decide)
  · exact absurd scalar (by decide)

theorem skipBlanks_run (nonempty : run ≠ []) (all : ∀ d ∈ run, isScalarChar d)
    (rest : List Char) : skipBlanks (run ++ rest) = run ++ rest := by
  obtain ⟨d, ds, rfl⟩ := List.exists_cons_of_ne_nil nonempty
  exact List.dropWhile_cons_of_neg (not_isBlank (all d List.mem_cons_self))

end Runs

/-! ## Integers -/

theorem plainDigits?_digits {ds : List Char} (all : ∀ c ∈ ds, c.isDigit) (nonempty : ds ≠ []) :
    plainDigits? Char.isDigit ds = some ds := by
  induction ds with
  | nil => exact absurd rfl nonempty
  | cons d rest ih =>
      obtain ⟨first, others⟩ := List.forall_mem_cons.mp all
      cases rest with
      | nil => simp [plainDigits?, first]
      | cons d' rest =>
          have notMark : d' ≠ '_' := by
            rintro rfl
            exact absurd (others '_' List.mem_cons_self) (by decide)
          have tail := ih others (by simp)
          rw [plainDigits?, if_pos first, tail, Option.map_some]
          · simp
          · simp [notMark]

theorem decimal?_toDigits (n : Nat) : decimal? (Nat.toDigits 10 n) = some (Nat.toDigits 10 n) := by
  unfold decimal?
  rw [plainDigits?_digits (isDigit_toDigits n) Nat.toDigits_ne_nil]
  split
  next d ds starts =>
    -- A zero in front of other digits would be that of zero, which has no other digit.
    have digits : Nat.toDigits 10 n = '0' :: d :: ds := Option.some.inj starts
    by_cases pos : 0 < n
    · exact absurd (digits ▸ rfl) (head?_toDigits pos)
    · obtain rfl : n = 0 := by omega
      cases digits
  next => rfl

theorem ofDigits_toDigits (n : Nat) : ofDigits 10 (Nat.toDigits 10 n) = n := by
  have step (m : Nat) : ∀ c ∈ Nat.toDigits 10 n,
      m * 10 + digitValue c = 10 * m + (c.toNat - '0'.toNat) := by
    intro c mem
    rw [digitValue, if_pos (isDigit_toDigits n c mem), Nat.mul_comm]
  calc ofDigits 10 (Nat.toDigits 10 n)
      = (Nat.toDigits 10 n).foldl (fun m c => 10 * m + (c.toNat - '0'.toNat)) 0 :=
        List.foldl_ext _ _ 0 step
    _ = Nat.ofDigitChars 10 (Nat.toDigits 10 n) 0 := Nat.ofDigitChars_eq_foldl.symm
    _ = n := Nat.ofDigitChars_ten_toDigits

theorem unboundedInteger?_toDigits (n : Nat) :
    unboundedInteger? (Nat.toDigits 10 n) = some (n : Int) := by
  have avoids {c : Char} (other : c.isDigit = false) : c ∉ Nat.toDigits 10 n := by
    intro mem
    simpa [other] using isDigit_toDigits n c mem
  have unsigned : splitSign (Nat.toDigits 10 n) = (false, Nat.toDigits 10 n) := by
    rw [splitSign]
    · intro rest starts
      exact avoids (c := '-') (by decide) (starts ▸ List.mem_cons_self)
    · intro rest starts
      exact avoids (c := '+') (by decide) (starts ▸ List.mem_cons_self)
  rw [unboundedInteger?, unsigned]
  · simp [decimal?_toDigits, ofDigits_toDigits]
  all_goals
    intro rest starts
  · exact avoids (c := 'x') (by decide) (by simp [starts])
  · exact avoids (c := 'o') (by decide) (by simp [starts])
  · exact avoids (c := 'b') (by decide) (by simp [starts])

theorem integer?_toDigits {n : Nat} (fits : (n : Int) ≤ maxInteger) :
    integer? (Nat.toDigits 10 n) = some (n : Int) := by
  have low : minInteger ≤ n := by
    unfold minInteger
    omega
  simp [integer?, unboundedInteger?_toDigits, low, fits]

/-! ## Values without quotes -/

/-- A run of characters that is written for an item. -/
structure Spells (run : List Char) (item : Item) : Prop where
  chars : ∀ c ∈ run, isScalarChar c
  read : scalar? run = some item

theorem Spells.nonempty {run : List Char} {item : Item} (spells : Spells run item) : run ≠ [] := by
  rintro rfl
  have nothing : scalar? [] = none := by rfl
  exact absurd spells.read (by simp [nothing])

theorem spells_toDigits {n : Nat} (fits : (n : Int) ≤ maxInteger) :
    Spells (Nat.toDigits 10 n) (.integer n) where
  chars := by
    intro c mem
    simp [isScalarChar, Char.isAlphanum, isDigit_toDigits n c mem]
  read := by
    have notWord {word : List Char} (letter : ¬word.all Char.isDigit) :
        Nat.toDigits 10 n ≠ word := by
      rintro rfl
      exact letter (List.all_eq_true.mpr (isDigit_toDigits n))
    unfold scalar?
    rw [if_neg (notWord (by decide)), if_neg (notWord (by decide)), integer?_toDigits fits]

theorem spells_toString {n : Nat} (fits : (n : Int) ≤ maxInteger) :
    Spells (toString n).toList (.integer n) := by
  rw [Nat.toString_eq_repr, Nat.toList_repr]
  exact spells_toDigits fits

theorem spells_flag (b : Bool) : Spells (if b then "true" else "false").toList (.boolean b) := by
  cases b
  · exact ⟨List.all_eq_true.mp (by decide), rfl⟩
  · exact ⟨List.all_eq_true.mp (by decide), rfl⟩

section Values

variable {run : List Char} {item : Item}

/-- A value ends with its line. -/
theorem readScalar?_line (spells : Spells run item) (rest : List Char) :
    readScalar? (run ++ '\n' :: rest) = some (item, '\n' :: rest) := by
  have taken := takeWhile_run spells.chars (c := '\n') (by decide) rest
  have left := dropWhile_run spells.chars (c := '\n') (by decide) rest
  unfold readScalar?
  simp only [taken, left, spells.read]
  -- What follows the run is not a blank, so it is no time after a date.
  split
  next blank => cases blank
  next => rfl

theorem readValue?_line (spells : Spells run item) (fuel depth : Nat) (rest : List Char) :
    readValue? (fuel + 1) depth (run ++ '\n' :: rest) = some (item, '\n' :: rest) := by
  have other {c : Char} (mark : ¬isScalarChar c) (text : List Char) :
      run ++ '\n' :: rest ≠ c :: text :=
    run_ne_cons spells.nonempty spells.chars mark _ text
  rw [readValue?, readScalar?_line spells rest]
  · exact other (by decide)
  · exact other (by decide)
  · exact fun _ text _ => other (by decide) text
  · exact fun _ text _ => other (by decide) text

end Values

/-! ## Lines -/

/-- A key that is written without quotes. -/
def IsBare (key : String) : Prop := key.toList ≠ [] ∧ key.toList.all isBareKeyChar

instance (key : String) : Decidable (IsBare key) := inferInstanceAs (Decidable (_ ∧ _))

/-- A line that assigns an item to a bare key. -/
structure Assignment where
  key : String
  value : String
  item : Item
  bare : IsBare key
  spells : Spells value.toList item

namespace Assignment

/-- The line as text. -/
def text (a : Assignment) : String := a.key ++ " = " ++ a.value ++ "\n"

variable (a : Assignment)

theorem isBareKeyChar_key : ∀ c ∈ a.key.toList, isBareKeyChar c := List.all_eq_true.mp a.bare.2

/-- No line starts with a character that a bare key cannot have. -/
theorem key_ne_cons {c : Char} (mark : ¬isBareKeyChar c) (rest text : List Char) :
    a.key.toList ++ rest ≠ c :: text :=
  run_ne_cons a.bare.1 a.isBareKeyChar_key mark rest text

theorem skipBlanks_key (rest : List Char) :
    skipBlanks (a.key.toList ++ rest) = a.key.toList ++ rest := by
  have scalar : ∀ c ∈ a.key.toList, isScalarChar c := by
    intro c mem
    have bare := a.isBareKeyChar_key c mem
    unfold isBareKeyChar at bare
    unfold isScalarChar
    grind
  exact skipBlanks_run a.bare.1 scalar rest

theorem readKeyPart?_key (rest : List Char) :
    readKeyPart? (a.key.toList ++ ' ' :: rest) = some (a.key, ' ' :: rest) := by
  have nonempty := a.bare.1
  have chars := a.isBareKeyChar_key
  rw [readKeyPart?, takeWhile_run chars (by decide), dropWhile_run chars (by decide),
    if_neg (by simpa using nonempty), String.ofList_toList]
  · exact a.key_ne_cons (by decide) _
  · exact a.key_ne_cons (by decide) _

theorem readKey?_key (rest : List Char) :
    readKey? (a.key.toList ++ ' ' :: '=' :: rest) = some ([], a.key, '=' :: rest) := by
  have part := a.readKeyPart?_key ('=' :: rest)
  have blank : skipBlanks (' ' :: '=' :: rest) = '=' :: rest := rfl
  unfold readKey? nestingLimit readKeyParts?
  rw [skipBlanks_key, part]
  simp [blank]

theorem toList_text_append (rest : List Char) :
    a.text.toList ++ rest =
      a.key.toList ++ ' ' :: '=' :: ' ' :: (a.value.toList ++ '\n' :: rest) := by
  simp [text]

/-- A line is read as its assignment. -/
theorem readStatement?_text (rest : List Char) :
    readStatement? (a.text.toList ++ rest) = some (.assign [] a.key a.item, rest) := by
  have key := a.readKey?_key (' ' :: (a.value.toList ++ '\n' :: rest))
  have blank : skipBlanks (' ' :: (a.value.toList ++ '\n' :: rest)) =
      a.value.toList ++ '\n' :: rest :=
    skipBlanks_run a.spells.nonempty a.spells.chars ('\n' :: rest)
  have value (fuel : Nat) := readValue?_line a.spells fuel nestingLimit rest
  have ends : afterLine? ('\n' :: rest) = some rest := rfl
  rw [toList_text_append, readStatement?, key]
  · simp [after?, blank, value, ends]
  · exact fun _ => a.key_ne_cons (by decide) _ _
  · exact a.key_ne_cons (by decide) _

/-! ## Documents -/

/-- A line and what follows it are read one after the other. -/
theorem readStatements?_text (fuel : Nat) (rest : List Char) :
    readStatements? (fuel + 1) (a.text.toList ++ rest) =
      (readStatements? fuel rest).map (.assign [] a.key a.item :: ·) := by
  have statement := a.readStatement?_text rest
  rw [readStatements?]
  rw [toList_text_append] at statement ⊢
  rw [skipBlanks_key]
  split
  next nothing => exact absurd nothing (by simp)
  next lineBreak => exact absurd lineBreak (a.key_ne_cons (by decide) _ _)
  next lineBreak => exact absurd lineBreak (a.key_ne_cons (by decide) _ _)
  next comment => exact absurd comment (a.key_ne_cons (by decide) _ _)
  next =>
    simp only [statement, Option.bind_eq_bind, Option.bind_some]
    cases readStatements? fuel rest <;> rfl

end Assignment

section Documents

variable (as : List Assignment)

/-- The characters of lines. -/
theorem toList_texts :
    (String.join (as.map (·.text))).toList = as.flatMap fun a => a.text.toList := by
  simp [String.toList_join, List.flatMap_map]

theorem readStatements?_texts {fuel : Nat}
    (enough : (as.flatMap fun a => a.text.toList).length < fuel) :
    readStatements? fuel (as.flatMap fun a => a.text.toList) =
      some (as.map fun a => .assign [] a.key a.item) := by
  induction as generalizing fuel with
  | nil =>
      obtain ⟨fuel, rfl⟩ := Nat.exists_eq_add_one_of_ne_zero (Nat.ne_zero_of_lt enough)
      rfl
  | cons a as ih =>
      obtain ⟨fuel, rfl⟩ := Nat.exists_eq_add_one_of_ne_zero (Nat.ne_zero_of_lt enough)
      have long : 0 < a.text.toList.length := by
        simp only [Assignment.text, String.toList_append, List.length_append]
        exact Nat.lt_add_left _ (by decide)
      rw [List.flatMap_cons, List.length_append] at enough
      have left : (as.flatMap fun a => a.text.toList).length < fuel := by omega
      rw [List.flatMap_cons, a.readStatements?_text, ih left]
      rfl

theorem statements?_texts :
    statements? (String.join (as.map (·.text))) =
      some (as.map fun a => .assign [] a.key a.item) := by
  have read := readStatements?_texts as (Nat.lt_add_one _)
  have unmarked (rest : List Char) : (as.flatMap fun a => a.text.toList) ≠ '\ufeff' :: rest := by
    cases as with
    | nil => simp
    | cons a as =>
        rw [List.flatMap_cons, a.toList_text_append]
        exact a.key_ne_cons (by decide) _ _
  unfold statements?
  rw [toList_texts]
  split
  next mark => exact absurd mark (unmarked _)
  next => exact read

/-- Assignments to keys that are new add their items at the end. -/
theorem ofStatements?_assign (entries : Entries)
    (distinct : (entries.map Prod.fst ++ as.map (·.key)).Nodup) :
    Entries.ofStatements? [] (as.map fun a => .assign [] a.key a.item) entries =
      some (entries ++ as.map fun a => (a.key, a.item)) := by
  induction as generalizing entries with
  | nil => simp [Entries.ofStatements?]
  | cons a as ih =>
      have fresh : entries.lookup a.key = none := by
        refine List.lookup_eq_none_iff.mpr ?_
        intro entry mem
        have other := (List.nodup_append.mp distinct).2.2 entry.1 (List.mem_map_of_mem mem)
          a.key List.mem_cons_self
        simpa using other.symm
      have added : entries.insertUnder [] [] a.key a.item = some (entries ++ [(a.key, a.item)]) := by
        simp [Entries.insertUnder, Entries.changeAt, Entries.insert, Entries.addNew, fresh]
      have next := ih (entries ++ [(a.key, a.item)]) (by simpa using distinct)
      simp [Entries.ofStatements?, added, next]

/-- The text of lines that assign to different keys is the document of their items. -/
theorem document?_text (distinct : (as.map (·.key)).Nodup) :
    document? (String.join (as.map (·.text))) = some (as.map fun a => (a.key, a.item)) := by
  unfold document?
  rw [statements?_texts]
  exact ofStatements?_assign as [] distinct

end Documents

end SensorHost.Toml
