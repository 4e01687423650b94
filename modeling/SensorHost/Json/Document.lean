import SensorHost.Json.Basic

/-!
# Reading JSON documents

A text is read into the tree that it writes. The text has to keep to the grammar everywhere, and
nothing but blanks may stand around the value.
-/

namespace SensorHost.Json

def isBlank (c : Char) : Bool := c = ' ' || c = '\n' || c = '\t' || c = '\r'

def skipBlanks (cs : List Char) : List Char := cs.dropWhile isBlank

/-! ## Numbers -/

/-- The digits at the start of a text and what follows them. -/
def splitDigits (cs : List Char) : List Char × List Char :=
  (cs.takeWhile Char.isDigit, cs.dropWhile Char.isDigit)

/-- Reads the digits of an exponent, which may have a sign. -/
def readExponent? (cs : List Char) : Option (Int × List Char) :=
  let (negative, cs) := match cs with
    | '-' :: rest => (true, rest)
    | '+' :: rest => (false, rest)
    | cs => (false, cs)
  match splitDigits cs with
  | ([], _) => none
  | (digits, rest) =>
    let value : Int := digits.foldl (fun n c => n * 10 + Numeral.digitValue c) (0 : Nat)
    some (if negative then -value else value, rest)

/-- Reads the digits before the point. They start with a zero only if there is no other one. -/
def readWhole? (cs : List Char) : Option (List Char × List Char) :=
  match splitDigits cs with
  | ([], _) => none
  | ('0' :: _ :: _, _) => none
  | parts => some parts

/-- Reads the digits after the point, if there is a point. -/
def readFraction? : List Char → Option (List Char × List Char)
  | '.' :: rest =>
    match splitDigits rest with
    | ([], _) => none
    | parts => some parts
  | cs => some ([], cs)

/-- Reads the exponent, if there is one. -/
def readPower? : List Char → Option (Option Int × List Char)
  | 'e' :: rest => (readExponent? rest).map fun (e, rest) => (some e, rest)
  | 'E' :: rest => (readExponent? rest).map fun (e, rest) => (some e, rest)
  | cs => some (none, cs)

/-- Reads a number. -/
def readNumeral? (cs : List Char) : Option (Numeral × List Char) := do
  let (negative, cs) := match cs with
    | '-' :: rest => (true, rest)
    | cs => (false, cs)
  let (whole, cs) ← readWhole? cs
  let (fraction, cs) ← readFraction? cs
  let (exponent, cs) ← readPower? cs
  return (⟨negative, whole, fraction, exponent⟩, cs)

/-! ## Values -/

mutual

/-- Reads a value; every turn takes at least one character. -/
def readValue? : Nat → List Char → Option (Json × List Char)
  | 0, _ => none
  | fuel + 1, cs =>
    match skipBlanks cs with
    | 'n' :: 'u' :: 'l' :: 'l' :: rest => some (null, rest)
    | 't' :: 'r' :: 'u' :: 'e' :: rest => some (bool true, rest)
    | 'f' :: 'a' :: 'l' :: 's' :: 'e' :: rest => some (bool false, rest)
    | '"' :: rest => (Quoted.split? rest).map fun (body, rest) => (string body, rest)
    | '[' :: rest =>
      match skipBlanks rest with
      | ']' :: rest => some (array [], rest)
      | rest => (readItems? fuel rest).map fun (items, rest) => (array items, rest)
    | '\x7b' :: rest =>
      match skipBlanks rest with
      | '\x7d' :: rest => some (object [], rest)
      | rest => (readMembers? fuel rest).map fun (members, rest) => (object members, rest)
    | cs => (readNumeral? cs).map fun (numeral, rest) => (number numeral, rest)

/-- Reads the items of an array, of which there is one at least, and its closing bracket. -/
def readItems? : Nat → List Char → Option (List Json × List Char)
  | 0, _ => none
  | fuel + 1, cs => do
    let (item, rest) ← readValue? fuel cs
    match skipBlanks rest with
    | ',' :: rest =>
      let (items, rest) ← readItems? fuel rest
      return (item :: items, rest)
    | ']' :: rest => return ([item], rest)
    | _ => none

/-- Reads the members of an object, of which there is one at least, and its closing brace. -/
def readMembers? : Nat → List Char → Option (List (List Char × Json) × List Char)
  | 0, _ => none
  | fuel + 1, cs =>
    match skipBlanks cs with
    | '"' :: rest => do
      let (key, rest) ← Quoted.split? rest
      match skipBlanks rest with
      | ':' :: rest =>
        let (value, rest) ← readValue? fuel rest
        match skipBlanks rest with
        | ',' :: rest =>
          let (members, rest) ← readMembers? fuel rest
          return ((key, value) :: members, rest)
        | '\x7d' :: rest => return ([(key, value)], rest)
        | _ => none
      | _ => none
    | _ => none

end

/-- The value that a text writes. -/
def ofText? (text : String) : Option Json :=
  let cs := text.toList
  match readValue? (cs.length + 1) cs with
  | some (value, rest) => if (skipBlanks rest).isEmpty then some value else none
  | none => none

end SensorHost.Json
