import Mathlib.Data.List.Nodup
import SensorHost.Proofs.Toml.Document
import SensorHost.Settings.Text

/-!
# Settings that were written

Valid settings are read back from their text as they are, if TOML can hold their numbers, and also
when lines are missing that say what is the default anyway. No text gives settings that are not
valid (`Settings.kept_as_text`).
-/

namespace SensorHost

open Toml

/-! ## The lines of a text -/

/-- A setting, which has a line of its own. -/
inductive Setting where
  | responseTimeout
  | readTimeout
  | frameLimit
  | settleDelay
  | copiesPayload
deriving DecidableEq, Repr

namespace Setting

/-- Every setting, in the order of the lines. -/
def all : List Setting := [.responseTimeout, .readTimeout, .frameLimit, .settleDelay, .copiesPayload]

def key : Setting → String
  | .responseTimeout => "response_timeout_ms"
  | .readTimeout => "config_read_timeout_ms"
  | .frameLimit => "max_frame_len"
  | .settleDelay => "macro_settle_delay_ms"
  | .copiesPayload => "event_feedback_enabled"

/-- How the value of a setting is written. -/
def value (s : Settings) : Setting → String
  | .responseTimeout => toString s.responseTimeout
  | .readTimeout => toString s.readTimeout
  | .frameLimit => toString s.frameLimit
  | .settleDelay => toString s.settleDelay
  | .copiesPayload => if s.copiesPayload then "true" else "false"

/-- The value of a setting. -/
def item (s : Settings) : Setting → Item
  | .responseTimeout => .integer s.responseTimeout
  | .readTimeout => .integer s.readTimeout
  | .frameLimit => .integer s.frameLimit
  | .settleDelay => .integer s.settleDelay
  | .copiesPayload => .boolean s.copiesPayload

/-- The line of a setting. -/
def line (s : Settings) (k : Setting) : String := Settings.line k.key (k.value s)

/-- The document of some settings. -/
def entries (s : Settings) (kept : List Setting) : Entries := kept.map fun k => (k.key, k.item s)

theorem lines_eq (s : Settings) : s.lines = all.map (line s) := rfl

theorem key_injective : Function.Injective key := by
  intro k k' same
  cases k <;> cases k' <;> first | rfl | (revert same; decide)

theorem bare_key (k : Setting) : IsBare k.key := by
  cases k <;> decide

variable {s : Settings}

theorem spells_value (fits : s.Fits) (k : Setting) : Spells (k.value s).toList (k.item s) := by
  cases k with
  | responseTimeout => exact spells_toString (fits _ (by simp))
  | readTimeout => exact spells_toString (fits _ (by simp))
  | frameLimit => exact spells_toString (fits _ (by simp))
  | settleDelay => exact spells_toString (fits _ (by simp))
  | copiesPayload => exact spells_flag s.copiesPayload

/-- The line of a setting assigns its value to its key. -/
def assignment (fits : s.Fits) (k : Setting) : Assignment where
  key := k.key
  value := k.value s
  item := k.item s
  bare := k.bare_key
  spells := spells_value fits k

/-- The text of some lines is the document of their settings. -/
theorem document?_lines (fits : s.Fits) {kept : List Setting} (distinct : kept.Nodup) :
    document? (String.join (kept.map (line s))) = some (entries s kept) := by
  have texts : kept.map (line s) = (kept.map (assignment fits)).map (·.text) := by
    rw [List.map_map]
    rfl
  have keys : ((kept.map (assignment fits)).map (·.key)).Nodup := by
    rw [List.map_map]
    exact distinct.map key_injective
  rw [texts, document?_text _ keys, List.map_map]
  rfl

/-! ## Defaults -/

theorem lookup_entries (kept : List Setting) (k : Setting) :
    (entries s kept).lookup k.key = if k ∈ kept then some (k.item s) else none := by
  unfold entries
  induction kept with
  | nil => rfl
  | cons k' rest ih =>
      by_cases same : k = k'
      · subst k'
        simp
      · have other : (k.key == k'.key) = false := by
          simpa using key_injective.ne same
        simp [List.lookup_cons, other, same, ih]

/-- A setting whose line is kept or holds the default is read as it is. -/
theorem given?_kept {α : Type} (read? : Item → Option α) {x default : α} {kept : List Setting}
    (k : Setting) (omitted : k ∉ kept → k.item s = k.item .default)
    (reads : read? (k.item s) = some x) (falls : read? (k.item .default) = some default) :
    Settings.given? (entries s kept) k.key read? default = some x := by
  unfold Settings.given?
  rw [lookup_entries]
  by_cases mem : k ∈ kept
  · rw [if_pos mem]
    exact reads
  · rw [if_neg mem, ← falls, ← omitted mem]
    exact reads

end Setting

namespace Settings

theorem natural?_natural (n : Nat) : natural? (.integer n) = some n := by
  simp [natural?]

/-- A document with some of the lines gives the settings, if the other lines hold defaults. -/
theorem ofEntries?_kept {s : Settings} {kept : List Setting}
    (omitted : ∀ k ∉ kept, k.item s = k.item .default) :
    ofEntries? (Setting.entries s kept) = some s := by
  have response := Setting.given?_kept natural? .responseTimeout (omitted _) (natural?_natural _)
    (natural?_natural _)
  have read := Setting.given?_kept natural? .readTimeout (omitted _) (natural?_natural _)
    (natural?_natural _)
  have frame := Setting.given?_kept natural? .frameLimit (omitted _) (natural?_natural _)
    (natural?_natural _)
  have settle := Setting.given?_kept natural? .settleDelay (omitted _) (natural?_natural _)
    (natural?_natural _)
  have copies := Setting.given?_kept flag? .copiesPayload (omitted _) rfl rfl
  simp only [Setting.key] at response read frame settle copies
  simp [ofEntries?, response, read, frame, settle, copies]

/-- So does the text of these lines, if the settings are valid. -/
theorem ofText_kept {s : Settings} (valid : s.validate = .ok ()) (fits : s.Fits)
    {kept : List Setting} (distinct : kept.Nodup)
    (omitted : ∀ k ∉ kept, k.item s = k.item .default) :
    ofText (String.join (kept.map (Setting.line s))) = .ok s := by
  unfold ofText
  rw [Setting.document?_lines fits distinct, Option.bind_some, ofEntries?_kept omitted]
  simp only [valid]
  rfl

/-- What a text gives is valid. -/
theorem validate_of_ofText {text : String} {s : Settings} (read : ofText text = .ok s) :
    s.validate = .ok () := by
  unfold ofText at read
  split at read
  next => cases read
  next t given =>
    cases valid : t.validate with
    | error fault =>
        rw [valid] at read
        cases read
    | ok u =>
        rw [valid] at read
        cases read
        exact valid

/-- Valid settings whose numbers TOML can hold are written, and read back from their text as they
are, also if lines are taken out that hold the default. Whatever a text gives is valid. -/
theorem kept_as_text :
    (∀ s : Settings, s.validate = .ok () → s.Fits →
        s.toText = .ok (String.join (Setting.all.map (Setting.line s))) ∧
        ofText (String.join (Setting.all.map (Setting.line s))) = .ok s ∧
        ∀ kept : List Setting, kept.Sublist Setting.all →
          (∀ k ∉ kept, k.item s = k.item .default) →
          ofText (String.join (kept.map (Setting.line s))) = .ok s) ∧
      ∀ (text : String) (s : Settings), ofText text = .ok s → s.validate = .ok () := by
  have distinct : Setting.all.Nodup := by decide
  have complete (k : Setting) : k ∈ Setting.all := by
    cases k <;> decide
  refine ⟨?survives, fun text s => validate_of_ofText⟩
  intro s valid fits
  refine ⟨?written, ?whole, ?sparse⟩
  case written =>
    rw [toText, if_pos fits, Setting.lines_eq]
  case whole =>
    exact ofText_kept valid fits distinct fun k missing => absurd (complete k) missing
  case sparse =>
    intro kept sub omitted
    exact ofText_kept valid fits (distinct.sublist sub) omitted

/-- Two lines are enough for settings that differ from the defaults in two places. -/
theorem kept_as_text_two :
    ofText "macro_settle_delay_ms = 20\nevent_feedback_enabled = false\n" =
        .ok { default with settleDelay := 20, copiesPayload := false } ∧
      { default with settleDelay := 20, copiesPayload := false }.validate = .ok () := by
  have omitted : ∀ k ∉ [Setting.settleDelay, .copiesPayload],
      k.item { default with settleDelay := 20, copiesPayload := false } = k.item .default := by
    intro k missing
    cases k with
    | settleDelay | copiesPayload => simp at missing
    | responseTimeout | readTimeout | frameLimit => rfl
  have survives := kept_as_text.1 { default with settleDelay := 20, copiesPayload := false }
    (by decide) (by decide)
  have read : ofText "macro_settle_delay_ms = 20\nevent_feedback_enabled = false\n" =
      .ok { default with settleDelay := 20, copiesPayload := false } :=
    survives.2.2 [.settleDelay, .copiesPayload] (by decide) omitted
  exact ⟨read, kept_as_text.2 _ _ read⟩

end Settings

end SensorHost
