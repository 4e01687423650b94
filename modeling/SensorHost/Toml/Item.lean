/-!
# Items of a TOML document

What a key of a TOML document can hold, and the rules by which keys and headers add to a table.
No key may be given twice, and how a table came about decides what may still be added to it: a
header reopens a table only if nothing but longer headers led to it, and a dotted key adds only
to tables that no header and no braces defined.
-/

namespace SensorHost.Toml

/-- How a table came about. -/
inductive Origin where
  /-- Its own header, or the start of the document. -/
  | header
  /-- A longer header that leads through it. -/
  | throughHeader
  /-- A dotted key that leads through it. -/
  | throughKey
  /-- Braces. -/
  | braces
deriving DecidableEq, Repr

/-- The value of a key. -/
inductive Item where
  | integer (value : Int)
  | boolean (value : Bool)
  /-- A number with a fraction or an exponent, an infinity, or what is not a number. -/
  | real (lexeme : String)
  | string (value : String)
  /-- A date, a time, or both. -/
  | moment (lexeme : String)
  | array (items : List Item)
  | table (origin : Origin) (entries : List (String × Item))
  /-- The tables of an array that grows by headers, the newest last. -/
  | tables (elements : List (List (String × Item)))

/-- The keys of a table and what they hold, in order of definition. -/
abbrev Entries := List (String × Item)

namespace Entries

/-- The entries with the value of `key` set. -/
def set (key : String) (value : Item) : Entries → Entries
  | [] => [(key, value)]
  | (key', value') :: rest =>
    if key = key' then (key, value) :: rest else (key', value') :: set key value rest

/-- What opening an absent key on the way to a table makes of it. -/
def openedBy (dotted : Bool) : Origin := if dotted then .throughKey else .throughHeader

/-- Whether a dotted key may lead through a table. -/
def admitsKeys : Origin → Bool
  | .throughHeader | .throughKey => true
  | .header | .braces => false

/-- Changes the table at the end of a path, which is reached through tables only; of an array of
tables through its newest. `change` is told how the table came about. -/
def changeAt (dotted : Bool) (change : Origin → Entries → Option Entries) :
    List String → Origin → Entries → Option Entries
  | [], origin, entries => change origin entries
  | key :: path, _, entries =>
    match entries.lookup key with
    | none => do
      let inner ← changeAt dotted change path (openedBy dotted) []
      return set key (.table (openedBy dotted) inner) entries
    | some (.table origin inner) =>
      if origin = .braces ∨ (dotted ∧ !admitsKeys origin) then none
      else do
        let inner ← changeAt dotted change path origin inner
        return set key (.table origin inner) entries
    | some (.tables elements) =>
      match elements.reverse with
      | [] => none
      | newest :: older => do
        let newest ← changeAt dotted change path .header newest
        return set key (.tables (newest :: older).reverse) entries
    | some _ => none

/-- Adds a key that the table does not have yet. -/
def addNew (key : String) (value : Item) (entries : Entries) : Option Entries :=
  match entries.lookup key with
  | none => some (entries ++ [(key, value)])
  | some _ => none

/-- Adds a key that may be dotted: `path` leads to the table and `key` is new in it. -/
def insert (path : List String) (key : String) (value : Item) (entries : Entries) :
    Option Entries :=
  changeAt true
    (fun origin inner =>
      if path.isEmpty ∨ origin = .throughKey then addNew key value inner else none)
    path .header entries

/-- Opens the table of a header. -/
def openTable (path : List String) (key : String) (entries : Entries) : Option Entries :=
  changeAt false
    (fun _ inner =>
      match inner.lookup key with
      | none => some (inner ++ [(key, .table .header [])])
      | some (.table .throughHeader held) => some (set key (.table .header held) inner)
      | some _ => none)
    path .header entries

/-- Starts the next table of an array of tables. -/
def openElement (path : List String) (key : String) (entries : Entries) : Option Entries :=
  changeAt false
    (fun _ inner =>
      match inner.lookup key with
      | none => some (inner ++ [(key, .tables [[]])])
      | some (.tables elements) => some (set key (.tables (elements ++ [[]])) inner)
      | some _ => none)
    path .header entries

/-- Adds a key to the table that the last header opened. -/
def insertUnder (header path : List String) (key : String) (value : Item) (entries : Entries) :
    Option Entries :=
  changeAt false (fun _ inner => inner.insert path key value) header .header entries

end Entries

end SensorHost.Toml
