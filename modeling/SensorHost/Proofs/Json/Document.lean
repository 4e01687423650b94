import SensorHost.Proofs.Json.Numeral
import SensorHost.Proofs.Json.Quoted

/-!
# Documents that were written

A tree whose numbers are well formed and whose texts were encoded is written as a document that
reads back as that tree, however deep it nests (`ofText?_render`).
-/

namespace SensorHost.Json

/-- Trees whose numbers are well formed and whose texts and keys were encoded. -/
inductive Written : Json → Prop
  | null : Written null
  | bool (value : Bool) : Written (bool value)
  | number {numeral : Numeral} : numeral.WellFormed → Written (number numeral)
  | string (text : List Char) : Written (string (Quoted.encode text))
  | array {items : List Json} : (∀ item ∈ items, Written item) → Written (array items)
  | object {members : List (List Char × Json)} :
    (∀ member ∈ members, ∃ text, member.1 = Quoted.encode text) →
    (∀ member ∈ members, Written member.2) → Written (object members)

/-! ## Blanks -/

/-- The characters of a line break and the blanks after it. -/
def lineChars (depth : Nat) : List Char := '\n' :: List.replicate (2 * depth) ' '

@[simp] theorem toList_lineAt (depth : Nat) : (lineAt depth).toList = lineChars depth :=
  String.toList_ofList

theorem skipBlanks_lineChars (depth : Nat) (rest : List Char) :
    skipBlanks (lineChars depth ++ rest) = skipBlanks rest := by
  have blank : ∀ c ∈ lineChars depth, isBlank c := by
    intro c mem
    rcases List.mem_cons.mp mem with rfl | mem
    · rfl
    · obtain rfl := List.eq_of_mem_replicate mem
      rfl
  exact List.dropWhile_append_of_pos blank

theorem skipBlanks_of_head {c : Char} (visible : isBlank c = false) (rest : List Char) :
    skipBlanks (c :: rest) = c :: rest := by
  simp [skipBlanks, visible]

theorem length_lineChars (depth : Nat) : 1 ≤ (lineChars depth).length := by
  simp [lineChars]

/-- Blanks before a value do not matter. -/
theorem readValue?_congr {cs cs' : List Char} (same : skipBlanks cs = skipBlanks cs') (fuel : Nat) :
    readValue? fuel cs = readValue? fuel cs' := by
  cases fuel with
  | zero => rw [readValue?, readValue?]
  | succ fuel => rw [readValue?, readValue?, same]

theorem readItems?_lineChars (fuel depth : Nat) (rest : List Char) :
    readItems? fuel (lineChars depth ++ rest) = readItems? fuel rest := by
  cases fuel with
  | zero => rw [readItems?, readItems?]
  | succ fuel =>
      rw [readItems?, readItems?, readValue?_congr (skipBlanks_lineChars depth rest)]

theorem readMembers?_lineChars (fuel depth : Nat) (rest : List Char) :
    readMembers? fuel (lineChars depth ++ rest) = readMembers? fuel rest := by
  cases fuel with
  | zero => rw [readMembers?, readMembers?]
  | succ fuel => rw [readMembers?, readMembers?, skipBlanks_lineChars]

/-! ## Characters of values -/

def quotedChars (body : List Char) : List Char := '"' :: body ++ ['"']

@[simp] theorem toList_quoted (body : List Char) : (quoted body).toList = quotedChars body := by
  simp [quoted, quotedChars]

def chars (depth : Nat) (j : Json) : List Char := (renderAt depth j).toList

def itemsChars (depth : Nat) (items : List Json) : List Char := (renderItems depth items).toList

def membersChars (depth : Nat) (members : List (List Char × Json)) : List Char :=
  (renderMembers depth members).toList

theorem chars_array (depth : Nat) (item : Json) (items : List Json) :
    chars depth (array (item :: items)) =
      '[' :: (lineChars (depth + 1) ++ (chars (depth + 1) item ++
        (itemsChars (depth + 1) items ++ (lineChars depth ++ [']'])))) := by
  simp [chars, itemsChars, renderAt]

theorem itemsChars_cons (depth : Nat) (item : Json) (items : List Json) :
    itemsChars depth (item :: items) =
      ',' :: (lineChars depth ++ (chars depth item ++ itemsChars depth items)) := by
  simp [chars, itemsChars, renderItems]

theorem chars_object (depth : Nat) (key : List Char) (value : Json)
    (members : List (List Char × Json)) :
    chars depth (object ((key, value) :: members)) = '\x7b' :: (lineChars (depth + 1) ++
      (quotedChars key ++ ':' :: ' ' :: (chars (depth + 1) value ++
        (membersChars (depth + 1) members ++ (lineChars depth ++ ['\x7d']))))) := by
  simp [chars, membersChars, renderAt]

theorem membersChars_cons (depth : Nat) (key : List Char) (value : Json)
    (members : List (List Char × Json)) :
    membersChars depth ((key, value) :: members) = ',' :: (lineChars depth ++ (quotedChars key ++
      ':' :: ' ' :: (chars depth value ++ membersChars depth members))) := by
  simp [chars, membersChars, renderMembers]

/-! ## Reading back -/

/-- The value is read back, whatever follows it that cannot belong to a number. -/
def ReadsBack (j : Json) : Prop :=
  ∀ depth fuel rest, Numeral.Ends rest → (chars depth j).length < fuel →
    readValue? fuel (chars depth j ++ rest) = some (j, rest)

theorem ends_comma (rest : List Char) : Numeral.Ends (',' :: rest) := by
  rintro _ ⟨rfl⟩
  decide

theorem ends_lineChars (depth : Nat) (rest : List Char) :
    Numeral.Ends (lineChars depth ++ rest) := by
  rintro _ ⟨rfl⟩
  decide

/-- What follows an item is a comma or a line break. -/
theorem ends_itemsChars (depth outer : Nat) (items : List Json) (rest : List Char) :
    Numeral.Ends (itemsChars depth items ++ (lineChars outer ++ rest)) := by
  cases items with
  | nil => exact ends_lineChars outer rest
  | cons item items =>
      rw [itemsChars_cons]
      exact ends_comma _

theorem ends_membersChars (depth outer : Nat) (members : List (List Char × Json))
    (rest : List Char) :
    Numeral.Ends (membersChars depth members ++ (lineChars outer ++ rest)) := by
  cases members with
  | nil => exact ends_lineChars outer rest
  | cons member members =>
      rw [membersChars_cons]
      exact ends_comma _

theorem readsBack_null : ReadsBack null := by
  intro depth fuel rest _ enough
  cases fuel with
  | zero => contradiction
  | succ fuel =>
      simp [chars, renderAt, readValue?, skipBlanks, isBlank]

theorem readsBack_bool (value : Bool) : ReadsBack (bool value) := by
  intro depth fuel rest _ enough
  cases fuel with
  | zero => contradiction
  | succ fuel =>
      cases value <;> simp [chars, renderAt, readValue?, skipBlanks, isBlank]

theorem readsBack_string (text : List Char) : ReadsBack (string (Quoted.encode text)) := by
  intro depth fuel rest _ enough
  cases fuel with
  | zero => contradiction
  | succ fuel =>
      have split := Quoted.split?_encode text rest
      simp [chars, renderAt, quotedChars, readValue?, skipBlanks, isBlank, split]

/-- A number starts with a digit or a minus. -/
theorem head_number {numeral : Numeral} (formed : numeral.WellFormed) :
    ∃ c rest, numeral.text.toList = c :: rest ∧
      ∀ other : Char, other.isDigit = false ∧ other ≠ '-' → c ≠ other := by
  rw [Numeral.toList_text]
  cases numeral.negative with
  | true => exact ⟨'-', _, rfl, fun other plain => plain.2.symm⟩
  | false =>
      obtain ⟨d, ds, digits⟩ := List.exists_cons_of_ne_nil formed.nonempty
      have digit := formed.whole d (digits ▸ List.mem_cons_self)
      rw [digits]
      refine ⟨d, _, rfl, ?_⟩
      rintro other ⟨plain, -⟩ rfl
      rw [digit] at plain
      contradiction

theorem isBlank_of_apart {c : Char}
    (apart : ∀ other : Char, other.isDigit = false ∧ other ≠ '-' → c ≠ other) :
    isBlank c = false := by
  simp [isBlank, apart ' ' (by decide), apart '\n' (by decide), apart '\t' (by decide),
    apart '\r' (by decide)]

theorem readsBack_number {numeral : Numeral} (formed : numeral.WellFormed) :
    ReadsBack (number numeral) := by
  intro depth fuel rest ends enough
  cases fuel with
  | zero => contradiction
  | succ fuel =>
      have read := readNumeral?_text formed ends
      obtain ⟨c, more, text, apart⟩ := head_number formed
      show readValue? (fuel + 1) (numeral.text.toList ++ rest) = _
      rw [text, List.cons_append] at read ⊢
      rw [readValue?, skipBlanks_of_head (isBlank_of_apart apart)]
      simp [read, apart 'n' (by decide), apart 't' (by decide), apart 'f' (by decide),
        apart '"' (by decide), apart '[' (by decide), apart '\x7b' (by decide)]

/-- No value starts with a blank or with the end of a list. -/
theorem head_chars {j : Json} (written : Written j) (depth : Nat) :
    ∃ c rest, chars depth j = c :: rest ∧ isBlank c = false ∧ c ≠ ']' := by
  cases written with
  | null => exact ⟨'n', ['u', 'l', 'l'], by simp [chars, renderAt], by decide⟩
  | bool value =>
      cases value with
      | true => exact ⟨'t', ['r', 'u', 'e'], by simp [chars, renderAt], by decide⟩
      | false => exact ⟨'f', ['a', 'l', 's', 'e'], by simp [chars, renderAt], by decide⟩
  | number formed =>
      obtain ⟨c, rest, text, apart⟩ := head_number formed
      exact ⟨c, rest, text, isBlank_of_apart apart, apart ']' (by decide)⟩
  | string text =>
      show ∃ c rest, (quoted _).toList = _ ∧ _
      rw [toList_quoted]
      exact ⟨'"', _, rfl, by decide⟩
  | @array items _ =>
      cases items with
      | nil => exact ⟨'[', [']'], by simp [chars, renderAt], by decide⟩
      | cons item items =>
          rw [chars_array]
          exact ⟨'[', _, rfl, by decide⟩
  | @object members _ _ =>
      cases members with
      | nil => exact ⟨'\x7b', ['\x7d'], by simp [chars, renderAt], by decide⟩
      | cons member members =>
          rw [chars_object]
          exact ⟨'\x7b', _, rfl, by decide⟩

/-- Items that read back do so in a list. -/
theorem readItems?_text {item : Json} {items : List Json}
    (reads : ∀ j ∈ item :: items, ReadsBack j) (depth outer fuel : Nat) (rest : List Char)
    (enough : (chars depth item).length + (itemsChars depth items).length + 1 < fuel) :
    readItems? fuel (chars depth item ++ (itemsChars depth items ++
      (lineChars outer ++ ']' :: rest))) = some (item :: items, rest) := by
  induction items generalizing item fuel with
  | nil =>
      obtain ⟨fuel, rfl⟩ := Nat.exists_eq_succ_of_ne_zero (Nat.ne_of_gt (Nat.zero_lt_of_lt enough))
      have first := reads item List.mem_cons_self depth fuel (lineChars outer ++ ']' :: rest)
        (ends_lineChars outer _) (by omega)
      have bracket := skipBlanks_of_head (c := ']') (by decide) rest
      show readItems? _ (chars depth item ++ (lineChars outer ++ ']' :: rest)) = _
      simp [readItems?, first, skipBlanks_lineChars, bracket]
  | cons next items ih =>
      obtain ⟨fuel, rfl⟩ := Nat.exists_eq_succ_of_ne_zero (Nat.ne_of_gt (Nat.zero_lt_of_lt enough))
      have first := reads item List.mem_cons_self depth fuel _
        (ends_itemsChars depth outer (next :: items) (']' :: rest)) (by omega)
      rw [itemsChars_cons] at enough first ⊢
      simp only [List.length_cons, List.length_append] at enough
      have others := ih (fun j mem => reads j (List.mem_cons_of_mem _ mem)) fuel (by omega)
      have comma (rest : List Char) := skipBlanks_of_head (c := ',') (by decide) rest
      simp only [List.cons_append, List.append_assoc] at first ⊢
      simp [readItems?, first, comma, readItems?_lineChars, others]

theorem readsBack_array {items : List Json} (written : ∀ item ∈ items, Written item)
    (reads : ∀ item ∈ items, ReadsBack item) : ReadsBack (array items) := by
  intro depth fuel rest _ enough
  obtain ⟨fuel, rfl⟩ := Nat.exists_eq_succ_of_ne_zero (Nat.ne_of_gt (Nat.zero_lt_of_lt enough))
  cases items with
  | nil => simp [chars, renderAt, readValue?, skipBlanks, isBlank]
  | cons item items =>
      rw [chars_array] at enough ⊢
      simp only [List.length_cons, List.length_append] at enough
      have line := length_lineChars depth
      have line' := length_lineChars (depth + 1)
      have all := readItems?_text reads (depth + 1) depth fuel rest (by omega)
      obtain ⟨c, more, first, visible, open'⟩ :=
        head_chars (written item List.mem_cons_self) (depth + 1)
      have bracket (rest : List Char) := skipBlanks_of_head (c := '[') (by decide) rest
      rw [first] at all ⊢
      simp only [List.cons_append, List.append_assoc, List.nil_append] at all ⊢
      rw [readValue?, bracket]
      simp [skipBlanks_lineChars, skipBlanks_of_head visible, open', all]

/-- The first member of an object is read up to the comma or the brace after it. -/
theorem readMember?_text {key : List Char} {value : Json}
    (encoded : ∃ text, key = Quoted.encode text) (reads : ReadsBack value) (depth fuel : Nat)
    {rest : List Char} (ends : Numeral.Ends rest) (enough : (chars depth value).length < fuel) :
    readMembers? (fuel + 1) (quotedChars key ++ ':' :: ' ' :: (chars depth value ++ rest)) =
      match skipBlanks rest with
      | ',' :: rest => (readMembers? fuel rest).map fun (members, rest) =>
          ((key, value) :: members, rest)
      | '\x7d' :: rest => some ([(key, value)], rest)
      | _ => none := by
  obtain ⟨text, rfl⟩ := encoded
  have quote (rest : List Char) := skipBlanks_of_head (c := '"') (by decide) rest
  have colon (rest : List Char) := skipBlanks_of_head (c := ':') (by decide) rest
  have split := Quoted.split?_encode text (':' :: ' ' :: (chars depth value ++ rest))
  have blank : readValue? fuel (' ' :: (chars depth value ++ rest)) = some (value, rest) := by
    rw [← reads depth fuel rest ends enough]
    exact readValue?_congr (by simp [skipBlanks, isBlank]) fuel
  simp only [quotedChars, List.cons_append, List.append_assoc, List.nil_append]
  rw [readMembers?, quote]
  simp only [split, colon, blank, Option.bind_eq_bind, Option.bind_some]
  simp only [Option.map_eq_bind]
  rfl

/-- Members whose values read back do so in an object. -/
theorem readMembers?_text {key : List Char} {value : Json} {members : List (List Char × Json)}
    (keys : ∀ member ∈ (key, value) :: members, ∃ text, member.1 = Quoted.encode text)
    (reads : ∀ member ∈ (key, value) :: members, ReadsBack member.2) (depth outer fuel : Nat)
    (rest : List Char)
    (enough : (chars depth value).length + (membersChars depth members).length + 1 < fuel) :
    readMembers? fuel (quotedChars key ++ ':' :: ' ' :: (chars depth value ++
      (membersChars depth members ++ (lineChars outer ++ '\x7d' :: rest)))) =
        some ((key, value) :: members, rest) := by
  induction members generalizing key value fuel with
  | nil =>
      obtain ⟨fuel, rfl⟩ := Nat.exists_eq_succ_of_ne_zero (Nat.ne_of_gt (Nat.zero_lt_of_lt enough))
      have encoded : ∃ text, key = Quoted.encode text := keys (key, value) List.mem_cons_self
      have valueReads : ReadsBack value := reads (key, value) List.mem_cons_self
      have brace := skipBlanks_of_head (c := '\x7d') (by decide) rest
      have after : skipBlanks (membersChars depth [] ++ (lineChars outer ++ '\x7d' :: rest)) =
          '\x7d' :: rest := (skipBlanks_lineChars outer _).trans brace
      rw [readMember?_text encoded valueReads depth fuel (ends_membersChars depth outer [] _)
        (by omega), after]
      rfl
  | cons next members ih =>
      obtain ⟨fuel, rfl⟩ := Nat.exists_eq_succ_of_ne_zero (Nat.ne_of_gt (Nat.zero_lt_of_lt enough))
      have encoded : ∃ text, key = Quoted.encode text := keys (key, value) List.mem_cons_self
      have valueReads : ReadsBack value := reads (key, value) List.mem_cons_self
      have comma (rest : List Char) := skipBlanks_of_head (c := ',') (by decide) rest
      rw [readMember?_text encoded valueReads depth fuel
        (ends_membersChars depth outer (next :: members) _) (by omega)]
      rw [membersChars_cons] at enough ⊢
      simp only [List.length_cons, List.length_append] at enough
      have others := ih (fun m mem => keys m (List.mem_cons_of_mem _ mem))
        (fun m mem => reads m (List.mem_cons_of_mem _ mem)) fuel (by omega)
      simp only [List.cons_append, List.append_assoc] at others ⊢
      simp [comma, readMembers?_lineChars, others]

theorem readsBack_object {members : List (List Char × Json)}
    (keys : ∀ member ∈ members, ∃ text, member.1 = Quoted.encode text)
    (reads : ∀ member ∈ members, ReadsBack member.2) : ReadsBack (object members) := by
  intro depth fuel rest _ enough
  obtain ⟨fuel, rfl⟩ := Nat.exists_eq_succ_of_ne_zero (Nat.ne_of_gt (Nat.zero_lt_of_lt enough))
  cases members with
  | nil => simp [chars, renderAt, readValue?, skipBlanks, isBlank]
  | cons member members =>
      obtain ⟨key, value⟩ := member
      rw [chars_object] at enough ⊢
      simp only [List.length_cons, List.length_append] at enough
      have all := readMembers?_text keys reads (depth + 1) depth fuel rest (by omega)
      have brace (rest : List Char) := skipBlanks_of_head (c := '\x7b') (by decide) rest
      have quote (rest : List Char) := skipBlanks_of_head (c := '"') (by decide) rest
      simp only [quotedChars, List.cons_append, List.append_assoc, List.nil_append] at all ⊢
      rw [readValue?, brace]
      simp [skipBlanks_lineChars, quote, all]

theorem readsBack_of_written {j : Json} (written : Written j) : ReadsBack j := by
  induction written with
  | null => exact readsBack_null
  | bool value => exact readsBack_bool value
  | number formed => exact readsBack_number formed
  | string text => exact readsBack_string text
  | array written reads => exact readsBack_array written reads
  | object keys _ reads => exact readsBack_object keys reads

/-- A tree that was made of numbers and encoded texts is written as a document that reads back. -/
theorem ofText?_render {j : Json} (written : Written j) : ofText? j.render = some j := by
  have ends : Numeral.Ends [] := fun c head => nomatch head
  have read := readsBack_of_written written 0 (j.render.toList.length + 1) [] ends
    (Nat.lt_succ_self _)
  rw [List.append_nil] at read
  unfold ofText?
  have value : readValue? (j.render.toList.length + 1) j.render.toList = some (j, []) := read
  simp only [value]
  rfl

end SensorHost.Json
