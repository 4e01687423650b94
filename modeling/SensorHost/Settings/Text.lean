import SensorHost.Settings.Basic
import SensorHost.Toml.Document

/-!
# Settings as text

Settings are kept as a TOML document with one key per setting. A setting that the document does
not have takes its default, and a key that no setting has is passed over. The settings that a
text gives are validated.
-/

namespace SensorHost.Settings

/-! ## Writing -/

/-- One line of the text. -/
def line (key value : String) : String := key ++ " = " ++ value ++ "\n"

/-- The lines of the text, in order. -/
def lines (s : Settings) : List String :=
  [line "response_timeout_ms" (toString s.responseTimeout),
   line "config_read_timeout_ms" (toString s.readTimeout),
   line "max_frame_len" (toString s.frameLimit),
   line "macro_settle_delay_ms" (toString s.settleDelay),
   line "event_feedback_enabled" (if s.copiesPayload then "true" else "false")]

/-- Whether every number is an integer of TOML. -/
def Fits (s : Settings) : Prop :=
  ∀ n ∈ [s.responseTimeout, s.readTimeout, s.frameLimit, s.settleDelay], (n : Int) ≤ Toml.maxInteger

instance (s : Settings) : Decidable s.Fits := inferInstanceAs (Decidable (∀ n ∈ _, _))

/-- The text of the settings. A number that is too large for TOML cannot be written. -/
def toText (s : Settings) : Except Fault String :=
  if s.Fits then .ok (String.join s.lines)
  else .error (.config "Failed to serialize link config")

/-! ## Reading -/

/-- The fault of a text that gives no settings. -/
def unreadable : Fault := .config "Failed to parse link config"

/-- A number that is not negative. -/
def natural? : Toml.Item → Option Nat
  | .integer n => if 0 ≤ n then some n.toNat else none
  | _ => none

def flag? : Toml.Item → Option Bool
  | .boolean b => some b
  | _ => none

/-- What a document gives for a key: the default if the key is absent, and nothing if its value is
not of the right kind. -/
def given? {α : Type} (entries : Toml.Entries) (key : String) (read? : Toml.Item → Option α)
    (default : α) : Option α :=
  match entries.lookup key with
  | none => some default
  | some item => read? item

/-- The settings of a document. -/
def ofEntries? (entries : Toml.Entries) : Option Settings := do
  return {
    responseTimeout := ← given? entries "response_timeout_ms" natural? default.responseTimeout
    readTimeout := ← given? entries "config_read_timeout_ms" natural? default.readTimeout
    frameLimit := ← given? entries "max_frame_len" natural? default.frameLimit
    settleDelay := ← given? entries "macro_settle_delay_ms" natural? default.settleDelay
    copiesPayload := ← given? entries "event_feedback_enabled" flag? default.copiesPayload }

/-- The settings of a text, if they are valid. -/
def ofText (text : String) : Except Fault Settings :=
  match (Toml.document? text).bind ofEntries? with
  | none => .error unreadable
  | some s => do
    s.validate
    return s

end SensorHost.Settings
