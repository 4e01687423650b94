import SensorHost.Json.Numeral
import SensorHost.Json.Quoted

/-!
# JSON documents

A JSON document is a tree. Numbers and quoted texts are kept in it as they are written, because
what a number or a text is depends on who reads it, and a part that nobody reads is not looked
at. The members of an object keep their order and may repeat a key.
-/

namespace SensorHost

/-- A JSON value. -/
inductive Json where
  | null
  | bool (value : Bool)
  | number (numeral : Json.Numeral)
  /-- The characters between the quotes. -/
  | string (body : List Char)
  | array (items : List Json)
  /-- The members, each under the characters between the quotes of its key. -/
  | object (members : List (List Char × Json))

namespace Json

instance : Inhabited Json := ⟨null⟩

/-! ## Making values -/

def text (s : String) : Json := string (Quoted.encode s.toList)

def nat (n : Nat) : Json := number (.ofNat n)

/-- A single; what is not finite has no numeral and is null. -/
def single (x : Float32) : Json := if x.isFinite then number (.ofSingle x) else null

def optional {α : Type} (write : α → Json) : Option α → Json
  | none => null
  | some a => write a

def list {α : Type} (write : α → Json) (items : List α) : Json := array (items.map write)

/-- An object with these members. -/
def record (members : List (String × Json)) : Json :=
  object (members.map fun (key, value) => (Quoted.encode key.toList, value))

/-! ## Writing documents -/

def quoted (body : List Char) : String := "\"" ++ String.ofList body ++ "\""

/-- A line break and the blanks before what stands at this depth. -/
def lineAt (depth : Nat) : String := String.ofList ('\n' :: List.replicate (2 * depth) ' ')

mutual

/-- The value as it is written at a depth, without the blanks before it. -/
def renderAt : Nat → Json → String
  | _, null => "null"
  | _, bool value => if value then "true" else "false"
  | _, number numeral => numeral.text
  | _, string body => quoted body
  | _, array [] => "[]"
  | depth, array (item :: items) =>
    "[" ++ lineAt (depth + 1) ++ renderAt (depth + 1) item ++ renderItems (depth + 1) items
      ++ lineAt depth ++ "]"
  | _, object [] => "\x7b\x7d"
  | depth, object ((key, value) :: members) =>
    "\x7b" ++ lineAt (depth + 1) ++ quoted key ++ ": " ++ renderAt (depth + 1) value
      ++ renderMembers (depth + 1) members ++ lineAt depth ++ "\x7d"

/-- The further items of an array. -/
def renderItems : Nat → List Json → String
  | _, [] => ""
  | depth, item :: items => "," ++ lineAt depth ++ renderAt depth item ++ renderItems depth items

/-- The further members of an object. -/
def renderMembers : Nat → List (List Char × Json) → String
  | _, [] => ""
  | depth, (key, value) :: members =>
    "," ++ lineAt depth ++ quoted key ++ ": " ++ renderAt depth value ++ renderMembers depth members

end

/-- The document, each item and member on a line of its own. -/
def render (j : Json) : String := renderAt 0 j

end Json

end SensorHost
