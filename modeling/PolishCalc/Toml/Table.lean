import PolishCalc.Toml.Scalar

/-!
# Tables of TOML

The values of a document and the rules by which headers and dotted keys put them together. A table
remembers how it came about, because that decides who may still add to it: an inline table is
closed, a table made by dotted keys takes more dotted keys but no header, a table that a header
only passed through takes one header of its own, and a table with a header takes sub-tables.
-/

namespace PolishCalc.Toml

/-- How a table came about. -/
inductive TableKind where
  /-- Written between braces. -/
  | inline
  /-- Made by a dotted key. -/
  | dotted
  /-- Passed through by the header of a sub-table. -/
  | implied
  /-- Opened by a header of its own. -/
  | header
  deriving DecidableEq, Repr

/-- A value of a document. -/
inductive Node where
  | scalar (value : Scalar)
  | array (items : List Node)
  | table (kind : TableKind) (entries : List (String × Node))
  /-- The tables that repeated headers `[[…]]` have opened. -/
  | tables (rows : List (List (String × Node)))

/-- The keys of a table with their values, in the order of their first appearance. -/
abbrev Entries := List (String × Node)

namespace Entries

/-- The value of a key. -/
def find? (entries : Entries) (key : String) : Option Node :=
  entries.lookup key

/-- Gives a key a value, in its old place if it has one. -/
def assign (key : String) (node : Node) : Entries → Entries
  | [] => [(key, node)]
  | (k, old) :: rest => if k = key then (k, node) :: rest else (k, old) :: assign key node rest

/-- Changes the table at the end of a path, and refuses where there is none. Tables that are missing
on the way are made: by a dotted key as dotted tables, by a header as implied ones. A repeated
header leads to its last table. A dotted key does not enter a table with a header of its own. -/
def change (dotted : Bool) (action : TableKind → Entries → Option Entries) :
    TableKind → List String → Entries → Option Entries
  | kind, [], entries => action kind entries
  | _, key :: path, entries =>
    match entries.find? key with
    | none => do
      let kind := if dotted then TableKind.dotted else .implied
      return entries.assign key (.table kind (← change dotted action kind path []))
    | some (.table kind inner) =>
      if kind = .inline || (dotted && kind = .header) then
        none
      else do
        return entries.assign key (.table kind (← change dotted action kind path inner))
    | some (.tables rows) => do
      let last ← rows.getLast?
      let changed ← change dotted action .header path last
      return entries.assign key (.tables (rows.dropLast ++ [changed]))
    | some _ => none

/-- Gives a new key a value. A dotted key adds to tables of dotted keys only. -/
def define (path : List String) (key : String) (node : Node) (entries : Entries) :
    Option Entries :=
  change true (fun kind entries =>
    if kind = .dotted && (entries.find? key).isNone then some (entries ++ [(key, node)]) else none)
    .dotted path entries

/-- Opens the table of a header. -/
def openTable (path : List String) (key : String) (entries : Entries) : Option Entries :=
  change false (fun _ entries =>
    match entries.find? key with
    | none => some (entries.assign key (.table .header []))
    | some (.table .implied inner) => some (entries.assign key (.table .header inner))
    | some _ => none)
    .header path entries

/-- Opens one more table of a repeated header. -/
def openRow (path : List String) (key : String) (entries : Entries) : Option Entries :=
  change false (fun _ entries =>
    match entries.find? key with
    | none => some (entries.assign key (.tables [[]]))
    | some (.tables rows) => some (entries.assign key (.tables (rows ++ [[]])))
    | some _ => none)
    .header path entries

end Entries

/-- A dotted key: the keys before the last one, and the last one. -/
structure Key where
  path : List String
  last : String
  deriving DecidableEq, Repr

/-- The keys of a dotted key in order. -/
def Key.parts (key : Key) : List String :=
  key.path ++ [key.last]

/-- The table that pairs of keys and values make up, unless a key is defined twice. -/
def Entries.ofPairs? (pairs : List (Key × Node)) : Option Entries :=
  pairs.foldlM (fun entries (key, node) => entries.define key.path key.last node) []

/-- A line of a document. -/
inductive Statement where
  | define (key : Key) (value : Node)
  | openTable (key : Key)
  | openRow (key : Key)

/-- The document so far, and the path of the table that keys are added to. -/
structure Document where
  entries : Entries := []
  current : List String := []

/-- Takes in one line. -/
def Document.step (document : Document) : Statement → Option Document
  | .define key value => do
    let entries ← Entries.change false (fun _ entries => entries.define key.path key.last value)
      .header document.current document.entries
    return { document with entries }
  | .openTable key => do
    return { entries := ← document.entries.openTable key.path key.last, current := key.parts }
  | .openRow key => do
    return { entries := ← document.entries.openRow key.path key.last, current := key.parts }

/-- The top-level table of a document. -/
def Entries.ofStatements? (statements : List Statement) : Option Entries := do
  return (← statements.foldlM Document.step {}).entries

end PolishCalc.Toml
