import SensorHost.Toml.Statement

/-!
# TOML documents

A document is the table that the statements of a text add up to: each key goes to the table that
the last header opened.
-/

namespace SensorHost.Toml

namespace Entries

/-- Adds up statements; `header` leads to the table that is open. -/
def ofStatements? : List String → List Statement → Entries → Option Entries
  | _, [], entries => some entries
  | header, .assign path key value :: rest, entries => do
    ofStatements? header rest (← entries.insertUnder header path key value)
  | _, .table path key :: rest, entries => do
    ofStatements? (path ++ [key]) rest (← entries.openTable path key)
  | _, .element path key :: rest, entries => do
    ofStatements? (path ++ [key]) rest (← entries.openElement path key)

end Entries

/-- The keys and values of a text, unless it is no TOML document. -/
def document? (text : String) : Option Entries := do
  Entries.ofStatements? [] (← statements? text) []

end SensorHost.Toml
