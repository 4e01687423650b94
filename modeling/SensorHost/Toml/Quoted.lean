import SensorHost.Toml.Scalar

/-!
# Quoted strings

A string stands between double quotes, where a backslash starts an escape, or between single
quotes, where every character stands for itself. Three quotes at the start make it a string of
many lines. Controls other than the tab have to be written as escapes.
-/

namespace SensorHost.Toml

/-- Characters that may stand in a comment or string as they are. -/
def isPlainChar (c : Char) : Bool := c = '\t' || (' ' ≤ c && c ≠ '\x7f')

def isBlank (c : Char) : Bool := c = ' ' || c = '\t'

/-- What follows a line break. -/
def afterBreak? : List Char → Option (List Char)
  | '\n' :: rest => some rest
  | '\r' :: '\n' :: rest => some rest
  | _ => none

/-- The character with this number, if there is one. -/
def scalarValue? (n : Nat) : Option Char :=
  if n.isValidChar then some (Char.ofNat n) else none

/-- A character given by a fixed number of hexadecimal digits. -/
def coded? (count : Nat) (cs : List Char) : Option (Char × List Char) :=
  let digits := cs.take count
  if digits.length = count ∧ digits.all isHexDigit then
    (scalarValue? (ofDigits 16 digits)).map fun c => (c, cs.drop count)
  else none

/-- The character that an escape stands for, after its backslash. -/
def escaped? : List Char → Option (Char × List Char)
  | 'b' :: rest => some ('\x08', rest)
  | 't' :: rest => some ('\t', rest)
  | 'n' :: rest => some ('\n', rest)
  | 'f' :: rest => some ('\x0c', rest)
  | 'r' :: rest => some ('\r', rest)
  | '"' :: rest => some ('"', rest)
  | '\\' :: rest => some ('\\', rest)
  | 'u' :: rest => coded? 4 rest
  | 'U' :: rest => coded? 8 rest
  | _ => none

/-- Drops blanks and line breaks. -/
def skipBreaks : Nat → List Char → List Char
  | 0, cs => cs
  | fuel + 1, cs =>
    let cs := cs.dropWhile isBlank
    match afterBreak? cs with
    | some rest => skipBreaks fuel rest
    | none => cs

/-- What follows a backslash that ends its line: the text goes on at the next character that is
neither blank nor a line break. -/
def joinedLine? (cs : List Char) : Option (List Char) :=
  (afterBreak? (cs.dropWhile isBlank)).map fun rest => skipBreaks rest.length rest

/-- Puts characters in front of what is read next. -/
def prepend (front : List Char) (tail : Option (List Char × List Char)) :
    Option (List Char × List Char) :=
  tail.map fun (text, rest) => (front ++ text, rest)

/-- Reads the rest of a string on one line. -/
def lineTail? (quote : Char) (escapes : Bool) : Nat → List Char → Option (List Char × List Char)
  | 0, _ => none
  | _, [] => none
  | fuel + 1, c :: rest =>
    if c = quote then some ([], rest)
    else if c = '\\' ∧ escapes then do
      let (c, rest) ← escaped? rest
      prepend [c] (lineTail? quote escapes fuel rest)
    else if isPlainChar c then prepend [c] (lineTail? quote escapes fuel rest)
    else none

/-- Reads the rest of a string of many lines. Up to two quotes belong to the text, also right
before the three that end it. -/
def linesTail? (quote : Char) (escapes : Bool) : Nat → List Char → Option (List Char × List Char)
  | 0, _ => none
  | _, [] => none
  | fuel + 1, c :: rest =>
    if c = quote then
      let quotes := (c :: rest).takeWhile (· = quote)
      if 3 ≤ quotes.length then
        let taken := min quotes.length 5
        some (List.replicate (taken - 3) quote, (c :: rest).drop taken)
      else prepend quotes (linesTail? quote escapes fuel ((c :: rest).drop quotes.length))
    else if c = '\\' ∧ escapes then
      match joinedLine? rest with
      | some rest => linesTail? quote escapes fuel rest
      | none => do
        let (c, rest) ← escaped? rest
        prepend [c] (linesTail? quote escapes fuel rest)
    else
      match afterBreak? (c :: rest) with
      | some rest => prepend ['\n'] (linesTail? quote escapes fuel rest)
      | none =>
        if isPlainChar c then prepend [c] (linesTail? quote escapes fuel rest) else none

/-- Reads a string on one line, after its first quote. -/
def readLine? (quote : Char) (cs : List Char) : Option (String × List Char) :=
  (lineTail? quote (quote = '"') (cs.length + 1) cs).map fun (text, rest) =>
    (String.ofList text, rest)

/-- Reads a string, after its first quote. -/
def readQuoted? (quote : Char) (cs : List Char) : Option (String × List Char) :=
  match cs with
  | q₂ :: q₃ :: rest =>
    if q₂ = quote ∧ q₃ = quote then
      let rest := (afterBreak? rest).getD rest
      (linesTail? quote (quote = '"') (rest.length + 1) rest).map fun (text, rest) =>
        (String.ofList text, rest)
    else readLine? quote cs
  | _ => readLine? quote cs

end SensorHost.Toml
