import Screencast.Toml.Value

/-! # Building the tables of a settings file

A file is a sequence of assignments and headers. No value is ever replaced: a key is assigned once,
a table has one header, and a dotted key adds only to tables that dotted keys have made.
-/

namespace Screencast.Toml

/-- One line of a file; a path is a key in its parts. -/
inductive Statement
  | assign (path : List String) (value : Value)
  | openTable (path : List String)
  /-- A header in double brackets, which begins the next table of an array. -/
  | openItem (path : List String)

namespace Entries

/-- Puts another value in the place of a key's. -/
def set (t : Entries) (key : String) (value : Value) : Entries :=
  t.map fun e => if e.1 = key then (key, value) else e

/-- Changes the table at the end of a path, and makes the tables on the way that are not there. An
array of tables stands for its last table. A path of a dotted key leads only through tables that are
still open. -/
def within (dotted : Bool) (change : Origin → Entries → Option Entries) (origin : Origin)
    (t : Entries) : List String → Option Entries
  | [] => change origin t
  | key :: path =>
    match t.lookup key with
    | none => do
      let made := if dotted then Origin.dotted else .implied
      let inner ← within dotted change made [] path
      return t ++ [(key, .table made inner)]
    | some (.table found inner) =>
      if found = .inlined || (dotted && !found.isOpen) then none else do
      let inner ← within dotted change found inner path
      return t.set key (.table found inner)
    | some (.tables items) => do
      let last ← within dotted change .header (← items.getLast?) path
      return t.set key (.tables (items.dropLast ++ [last]))
    | some _ => none

/-- Changes the table that holds the last part of a path. -/
def atEnd (dotted : Bool) (t : Entries) (path : List String)
    (change : Origin → Entries → String → Option Entries) : Option Entries := do
  let key ← path.getLast?
  within dotted (fun origin t => change origin t key) .header t path.dropLast

/-- Assigns a value to a new key. -/
def assign (t : Entries) (path : List String) (value : Value) : Option Entries :=
  atEnd true t path fun origin t key =>
    if (1 < path.length && origin != .dotted) || (t.lookup key).isSome then none
    else some (t ++ [(key, value)])

/-- Begins a table. -/
def openTable (t : Entries) (path : List String) : Option Entries :=
  atEnd false t path fun _ t key =>
    match t.lookup key with
    | none => some (t ++ [(key, .table .header [])])
    | some (.table .implied inner) => some (t.set key (.table .header inner))
    | some _ => none

/-- Begins a further table of an array. -/
def openItem (t : Entries) (path : List String) : Option Entries :=
  atEnd false t path fun _ t key =>
    match t.lookup key with
    | none => some (t ++ [(key, .tables [[]])])
    | some (.tables items) => some (t.set key (.tables (items ++ [[]])))
    | some _ => none

/-- The table between braces. -/
def ofAssignments? (entries : List (List String × Value)) : Option Entries :=
  entries.foldlM (fun t e => t.assign e.1 e.2) []

end Entries

/-- The tables read so far, and the path of the header that assignments belong to. -/
structure Draft where
  tables : Entries := []
  header : List String := []

def Draft.step (d : Draft) : Statement → Option Draft
  | .assign path value => do
    let tables ← d.tables.within false (fun _ t => t.assign path value) .header d.header
    return { d with tables }
  | .openTable path => do return ⟨← d.tables.openTable path, path⟩
  | .openItem path => do return ⟨← d.tables.openItem path, path⟩

/-- The tables that the statements of a file make, unless two of them contradict each other. -/
def Entries.ofStatements? (statements : List Statement) : Option Entries := do
  let draft ← statements.foldlM Draft.step {}
  return draft.tables

end Screencast.Toml
