/-!
# TOML documents

A document is a table of keys with values, filled by its statements in order. A key
has one value for good: a table is opened by one header only, and dotted keys go
through tables of their own kind, never through one that a header or braces made.
-/

namespace Passage.Toml

/-- How a table came about. -/
inductive TableKind
  /-- By a header of its own, or as the whole document. -/
  | header
  /-- On the way to a header further in. -/
  | passed
  /-- On the way of a dotted key. -/
  | dotted
  /-- By a value in braces, which is complete. -/
  | inline
  deriving DecidableEq, Repr

inductive Item
  | string (s : String)
  | integer (n : Int)
  | float (text : List Char)
  | boolean (b : Bool)
  | date (text : List Char)
  | array (items : List Item)
  | table (kind : TableKind) (entries : List (String × Item))
  /-- The tables of a repeated header. -/
  | tables (each : List (List (String × Item)))
  deriving Repr, Inhabited

abbrev Entries := List (String × Item)

namespace Entries

def get? (es : Entries) (key : String) : Option Item := (es.find? (·.1 == key)).map (·.2)

/-- Puts `f` of a key's value, or of its absence, in place of the value. -/
def alter (key : String) (f : Option Item → Option Item) : Entries → Option Entries
  | [] => (f none).map fun v => [(key, v)]
  | (k, v) :: rest =>
    if k = key then (f (some v)).map fun w => (k, w) :: rest
    else (alter key f rest).map ((k, v) :: ·)

/-- Applies `f` to the last of the tables. -/
def atLast (f : Entries → Option Entries) : List Entries → Option (List Entries)
  | [] => none
  | [es] => (f es).map ([·])
  | es :: rest => (atLast f rest).map (es :: ·)

/-- Applies `f` to the table at the end of a path, making tables on the way. A path of dotted
keys passes only tables that no header made. -/
def within (dotted : Bool) : List String → (TableKind → Entries → Option Entries) →
    TableKind → Entries → Option Entries
  | [], f, kind, es => f kind es
  | key :: path, f, _, es =>
    let made := if dotted then TableKind.dotted else .passed
    alter key (fun
      | none => (within dotted path f made []).map (.table made)
      | some (.table .inline _) => none
      | some (.table kind inner) =>
        if dotted && kind = .header then none
        else (within dotted path f kind inner).map (.table kind)
      | some (.tables each) => (atLast (within dotted path f .header) each).map .tables
      | some _ => none) es

/-- Gives a key its value; a second value is refused. -/
def define (key : String) (v : Item) (es : Entries) : Option Entries :=
  alter key (fun
    | none => some v
    | some _ => none) es

/-- Gives a dotted key its value in a table. The table that the key's way ends in was made by
dotted keys, unless there is no way. -/
def assign (keys : List String) (v : Item) (kind : TableKind) (es : Entries) : Option Entries :=
  match keys.reverse with
  | [] => none
  | key :: way =>
    within true way.reverse (fun k inner =>
      if way = [] || k = .dotted then define key v inner else none) kind es

/-- Opens the table of a header. -/
def openTable (key : String) (es : Entries) : Option Entries :=
  alter key (fun
    | none => some (.table .header [])
    | some (.table .passed inner) => some (.table .header inner)
    | some _ => none) es

/-- Adds a table to those of a repeated header. -/
def addTable (key : String) (es : Entries) : Option Entries :=
  alter key (fun
    | none => some (.tables [[]])
    | some (.tables each) => some (.tables (each ++ [[]]))
    | some _ => none) es

end Entries

/-! ## Statements -/

inductive Statement
  | table (path : List String)
  | repeated (path : List String)
  | pair (keys : List String) (value : Item)

/-- A document that is being filled, and the header that is in force. -/
structure Filling where
  entries : Entries
  header : List String

/-- Applies `f` with the last key of a path to the table in front of it. -/
def atParent (f : String → Entries → Option Entries) (path : List String) (es : Entries) :
    Option Entries :=
  match path.reverse with
  | [] => none
  | key :: way => Entries.within false way.reverse (fun _ inner => f key inner) .header es

def Filling.apply (d : Filling) : Statement → Option Filling
  | .table path => (atParent Entries.openTable path d.entries).map fun es => ⟨es, path⟩
  | .repeated path => (atParent Entries.addTable path d.entries).map fun es => ⟨es, path⟩
  | .pair keys v =>
    (Entries.within false d.header (Entries.assign keys v) .header d.entries).map fun es =>
      ⟨es, d.header⟩

/-- The table that the statements fill. -/
def ofStatements (statements : List Statement) : Option Entries :=
  (statements.foldlM Filling.apply ⟨[], []⟩).map Filling.entries

/-- The table of the pairs in braces. -/
def ofPairs (pairs : List (List String × Item)) : Option Entries :=
  pairs.foldlM (fun es (keys, v) => es.assign keys v .header) []

end Passage.Toml
