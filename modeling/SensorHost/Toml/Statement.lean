import SensorHost.Toml.Quoted

/-!
# Statements of a TOML document

A document is a sequence of statements: keys with their values, and headers. Blank lines and
comments lie between them. This module reads the text into statements; what they add up to is
the document's matter.

Arrays and tables in braces nest up to a fixed depth, and a dotted key has a fixed number of
parts, so that no text can exhaust a reader.
-/

namespace SensorHost.Toml

/-- One line of a document, or more if its value spans them. -/
inductive Statement where
  | assign (path : List String) (key : String) (value : Item)
  /-- The header of a table. -/
  | table (path : List String) (key : String)
  /-- The header of the next table in an array of tables. -/
  | element (path : List String) (key : String)

/-- Arrays and braces nest, and keys have parts, up to this number. -/
def nestingLimit : Nat := 79

def skipBlanks (cs : List Char) : List Char := cs.dropWhile isBlank

/-- What follows this character. -/
def after? (c : Char) : List Char → Option (List Char)
  | c' :: rest => if c = c' then some rest else none
  | [] => none

/-! ## Keys -/

def isBareKeyChar (c : Char) : Bool := c.isAlphanum || c = '_' || c = '-'

/-- Reads one part of a key. -/
def readKeyPart? : List Char → Option (String × List Char)
  | '"' :: rest => readLine? '"' rest
  | '\'' :: rest => readLine? '\'' rest
  | cs =>
    let bare := cs.takeWhile isBareKeyChar
    if bare.isEmpty then none else some (String.ofList bare, cs.dropWhile isBareKeyChar)

/-- Reads at most `parts` parts with dots between them, and the blanks around them. -/
def readKeyParts? : Nat → List Char → Option (List String × List Char)
  | 0, _ => none
  | parts + 1, cs => do
    let (part, rest) ← readKeyPart? (skipBlanks cs)
    match skipBlanks rest with
    | '.' :: rest =>
      let (more, rest) ← readKeyParts? parts rest
      return (part :: more, rest)
    | rest => return ([part], rest)

/-- Reads a key: the path to its table, and its last part. -/
def readKey? (cs : List Char) : Option (List String × String × List Char) := do
  let (parts, rest) ← readKeyParts? nestingLimit cs
  return (parts.dropLast, ← parts.getLast?, rest)

/-! ## Blanks between values -/

/-- What follows a comment on the same line. -/
def skipComment : List Char → List Char
  | '#' :: rest => rest.dropWhile isPlainChar
  | cs => cs

/-- Drops blanks, line breaks and comments; a comment ends with its line. -/
def skipLines : Nat → List Char → List Char
  | 0, cs => cs
  | fuel + 1, cs =>
    let cs := skipBlanks cs
    match afterBreak? (skipComment cs) with
    | some rest => skipLines fuel rest
    | none => cs

/-- What follows the end of a line on which nothing but a comment is left. -/
def afterLine? (cs : List Char) : Option (List Char) :=
  match skipComment (skipBlanks cs) with
  | [] => some []
  | rest => afterBreak? rest

/-! ## Values -/

mutual

/-- Reads a value that nests up to `depth`. -/
def readValue? : Nat → Nat → List Char → Option (Item × List Char)
  | 0, _, _ => none
  | _ + 1, _, '"' :: rest => do
    let (text, rest) ← readQuoted? '"' rest
    return (.string text, rest)
  | _ + 1, _, '\'' :: rest => do
    let (text, rest) ← readQuoted? '\'' rest
    return (.string text, rest)
  | fuel + 1, depth + 1, '[' :: rest => do
    let (items, rest) ← readItems? fuel depth rest
    return (.array items, rest)
  | fuel + 1, depth + 1, '\x7b' :: rest => do
    let (entries, rest) ←
      match skipBlanks rest with
      | '\x7d' :: rest => some ([], rest)
      | rest => readPairs? fuel depth [] rest
    return (.table .braces entries, rest)
  | _ + 1, _, cs => readScalar? cs

/-- Reads the items of an array up to its closing bracket; a comma may follow the last. -/
def readItems? : Nat → Nat → List Char → Option (List Item × List Char)
  | 0, _, _ => none
  | fuel + 1, depth, cs =>
    match skipLines cs.length cs with
    | ']' :: rest => some ([], rest)
    | cs => do
      let (item, rest) ← readValue? fuel depth cs
      match skipLines rest.length rest with
      | ',' :: rest =>
        let (items, rest) ← readItems? fuel depth rest
        return (item :: items, rest)
      | ']' :: rest => return ([item], rest)
      | _ => none

/-- Reads the keys and values in braces, of which there is one at least, and adds them to
`entries`; no comma follows the last. -/
def readPairs? : Nat → Nat → Entries → List Char → Option (Entries × List Char)
  | 0, _, _, _ => none
  | fuel + 1, depth, entries, cs => do
    let (path, key, rest) ← readKey? cs
    let (value, rest) ← readValue? fuel depth (skipBlanks (← after? '=' rest))
    let entries ← entries.insert path key value
    match skipBlanks rest with
    | ',' :: rest => readPairs? fuel depth entries rest
    | '\x7d' :: rest => return (entries, rest)
    | _ => none

end

/-! ## Statements -/

/-- Reads a statement up to the end of its line. -/
def readStatement? : List Char → Option (Statement × List Char)
  | '[' :: '[' :: rest => do
    let (path, key, rest) ← readKey? rest
    return (.element path key, ← afterLine? (← after? ']' (← after? ']' rest)))
  | '[' :: rest => do
    let (path, key, rest) ← readKey? rest
    return (.table path key, ← afterLine? (← after? ']' rest))
  | cs => do
    let (path, key, rest) ← readKey? cs
    let text := skipBlanks (← after? '=' rest)
    let (value, rest) ← readValue? (text.length + 1) nestingLimit text
    return (.assign path key value, ← afterLine? rest)

/-- Reads the statements of a text; every round takes at least one character. -/
def readStatements? : Nat → List Char → Option (List Statement)
  | 0, _ => none
  | fuel + 1, cs =>
    match skipBlanks cs with
    | [] => some []
    | '\n' :: rest => readStatements? fuel rest
    | '\r' :: rest => do readStatements? fuel (← after? '\n' rest)
    | '#' :: rest => do readStatements? fuel (← afterLine? ('#' :: rest))
    | cs => do
      let (statement, rest) ← readStatement? cs
      return statement :: (← readStatements? fuel rest)

/-- The statements of a text; a byte order mark before them is dropped. -/
def statements? (text : String) : Option (List Statement) :=
  let cs := match text.toList with
    | '\ufeff' :: rest => rest
    | cs => cs
  readStatements? (cs.length + 1) cs

end SensorHost.Toml
