import SensorHost.Json.Document
import SensorHost.SortedMap

/-!
# Values of JSON documents

How the parts of a program's state are read from a tree. A record is an object whose members are
named, in any order, or an array of its fields in order. A choice is the name of the alternative
alone, or an object whose only member is the alternative with its content.

Readers are told how deep the value may still nest; records, choices with content, lists and maps
take one level each. Members that no reader asks for are not looked at and may nest to any depth.
-/

namespace SensorHost.Json

/-- Reads a value that may nest up to the given depth. -/
abbrev Reader (α : Type) := Nat → Json → Option α

/-- The depth up to which a document may nest. -/
def nestingLimit : Nat := 127

/-! ## Plain values -/

/-- The text between two quotes. -/
def decoded? (body : List Char) : Option String := (Quoted.decode? body).map String.ofList

def readText? : Reader String
  | _, string body => decoded? body
  | _, _ => none

def readBool? : Reader Bool
  | _, bool value => some value
  | _, _ => none

/-- Reads a natural number below a bound. -/
def readNat? (bound : Nat) : Reader Nat
  | _, number numeral => numeral.nat? bound
  | _, _ => none

def readByte? : Reader UInt8 := fun depth j => (readNat? 256 depth j).map UInt8.ofNat

def readSingle? : Reader Float32
  | _, number numeral => numeral.single?
  | _, _ => none

/-- Reads a value that may be null. -/
def readOptional? {α : Type} (read : Reader α) : Reader (Option α)
  | _, null => some none
  | depth, j => (read depth j).map some

/-! ## Lists and maps -/

def readList? {α : Type} (read : Reader α) : Reader (List α)
  | depth + 1, array items => items.mapM (read depth)
  | _, _ => none

/-- Reads a map; a key that is repeated has its last value. -/
def readMap? {κ ν : Type} [Ord κ] [Std.TransOrd κ] [Std.LawfulEqOrd κ]
    (readKey : List Char → Option κ) (read : Reader ν) : Reader (SortedMap κ ν)
  | depth + 1, object members =>
    (members.mapM fun (key, value) => do return (← readKey key, ← read depth value)).map
      SortedMap.ofList
  | _, _ => none

/-- A key that is a byte in decimal. -/
def byteKey? (body : List Char) : Option UInt8 :=
  match readNumeral? body with
  | some (numeral, []) => (numeral.nat? 256).map UInt8.ofNat
  | _ => none

/-! ## Records -/

/-- The values of the named fields, each of which is given once at most. -/
def fields? (names : List String) : Json → Option (List (Option Json))
  | array items => if items.length = names.length then some (items.map some) else none
  | object members => do
    let named ← members.mapM fun (key, value) => do return (← decoded? key, value)
    names.mapM fun name =>
      match named.filter (·.1 = name) with
      | [] => some none
      | [(_, value)] => some (some value)
      | _ => none
  | _ => none

/-- Reads a record from the values of its named fields. -/
def readRecord? {α : Type} (names : List String) (read : Nat → List (Option Json) → Option α) :
    Reader α
  | depth + 1, j => do read depth (← fields? names j)
  | 0, _ => none

/-- A field that has to be there. -/
def required? {α : Type} (read : Reader α) (depth : Nat) (field : Option Json) : Option α :=
  field.bind (read depth)

/-- A field that may be left out or null. -/
def optional? {α : Type} (read : Reader α) (depth : Nat) : Option Json → Option (Option α)
  | none => some none
  | some j => readOptional? read depth j

/-! ## Choices -/

/-- The name of an alternative, and its content with the depth that is left for it. -/
def choice? : Reader (String × Option (Nat × Json))
  | _, string body => (decoded? body).map (·, none)
  | depth + 1, object [(key, value)] => (decoded? key).map (·, some (depth, value))
  | _, _ => none

/-- An alternative without content. -/
def plain? : Option (Nat × Json) → Option Unit
  | none | some (_, null) => some ()
  | _ => none

/-- The value that a table gives a name. -/
def named? {α : Type} (table : List (α × String)) (name : String) : Option α :=
  (table.find? (·.2 = name)).map (·.1)

/-- The name that a table gives a value. -/
def nameIn {α : Type} [BEq α] (table : List (α × String)) (a : α) : String :=
  (table.lookup a).getD ""

/-- Reads one of the names of a table. -/
def readName? {α : Type} (table : List (α × String)) : Reader α := fun depth j => do
  let (name, content) ← choice? depth j
  plain? content
  named? table name

/-- One of the names of a table. -/
def name {α : Type} [BEq α] (table : List (α × String)) (a : α) : Json := text (nameIn table a)

end SensorHost.Json
