import RebasingProxy.Toml.Text
import RebasingProxy.Toml.Value

/-! # Where a value goes

A value is placed behind a way through tables, and tables that are missing on the way are
made. A table may be opened by one header only, a table written between braces is
complete, and dotted keys add only to tables that no header has opened.
-/
namespace RebasingProxy.Toml

def TableKind.isOpenToDots : TableKind → Bool
  | implied | dotted => true
  | closed | header => false

def setEntry (name : String) (value : Value) (entries : Entries) : Entries :=
  entries.map fun entry => if entry.1 = name then (name, value) else entry

/-- Follows the path and changes the table at its end. On the way an array of tables
stands for its last table. -/
def changeAt (byDots : Bool) (change : TableKind → Entries → Option Entries) :
    List String → TableKind → Entries → Option Entries
  | [], kind, entries => change kind entries
  | name :: path, _, entries =>
    match entries.lookup name with
    | none => do
      let kind := if byDots then TableKind.dotted else TableKind.implied
      return entries ++ [(name, .table kind (← changeAt byDots change path kind []))]
    | some (.tables elements) => do
      let last ← changeAt byDots change path .header (← elements.getLast?)
      return setEntry name (.tables (elements.dropLast ++ [last])) entries
    | some (.table kind inner) =>
      if kind = .closed || (byDots && !kind.isOpenToDots) then none
      else do
        return setEntry name (.table kind (← changeAt byDots change path kind inner)) entries
    | some _ => none

/-- Adds a new name. Behind a dotted path only tables made by dotted keys take one. -/
def addEntry (key : Key) (value : Value) (kind : TableKind) (entries : Entries) :
    Option Entries :=
  let byDots := !key.path.isEmpty
  if (kind == .dotted) != byDots || (entries.lookup key.name).isSome then none
  else some (entries ++ [(key.name, value)])

def place (key : Key) (value : Value) (kind : TableKind) (entries : Entries) :
    Option Entries :=
  changeAt true (addEntry key value) key.path kind entries

/-- Opens a table. One that was only named on the way to others moves to the end. -/
def openTable (key : Key) (root : Entries) : Option Entries :=
  let opened (inner : Entries) := (key.name, Value.table .header inner)
  let change (_ : TableKind) (entries : Entries) : Option Entries :=
    match entries.lookup key.name with
    | none => some (entries ++ [opened []])
    | some (.table .implied inner) =>
      some ((entries.filter fun entry => entry.1 != key.name) ++ [opened inner])
    | some _ => none
  changeAt false change key.path .header root

def openElement (key : Key) (root : Entries) : Option Entries :=
  let change (_ : TableKind) (entries : Entries) : Option Entries :=
    match entries.lookup key.name with
    | none => some (entries ++ [(key.name, .tables [[]])])
    | some (.tables elements) => some (setEntry key.name (.tables (elements ++ [[]])) entries)
    | some _ => none
  changeAt false change key.path .header root

end RebasingProxy.Toml
