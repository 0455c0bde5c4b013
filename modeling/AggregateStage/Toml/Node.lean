import AggregateStage.Named

/-! Documents of nested tables. A table remembers how it came about, since that decides
what may still be added to it. -/
namespace AggregateStage.Toml

/-- How a table came about. -/
inductive Origin where
  /-- By a header of its own. -/
  | declared
  /-- On the way to a table that a header declares. -/
  | implied
  /-- By a dotted key. -/
  | dotted
  deriving DecidableEq, Repr

inductive Node where
  | text (value : String)
  | integer (value : Int)
  | real (value : Float)
  | boolean (value : Bool)
  /-- A date, a time or both; which one is not kept. -/
  | date
  | array (items : List Node)
  /-- A table in braces, or one that a dotted key makes within braces. -/
  | braces (dotted : Bool) (entries : List (String × Node))
  | table (origin : Origin) (entries : List (String × Node))
  /-- Tables declared one after the other under one name; the last one is open. -/
  | tables (elements : List (List (String × Node)))
  deriving Repr

/-- Values by name in the order in which the names came up. -/
abbrev Entries := List (String × Node)

namespace Entries

/-- Adds a value under a name that is still free. -/
def add (entries : Entries) (name : String) (node : Node) : Option Entries :=
  match entries.lookup name with
  | none => some (entries ++ [(name, node)])
  | some _ => none

/-- Changes the table at the end of a path. Tables that are missing on the way are made;
a dotted path does not enter a table that has a header. -/
def change (dotted : Bool) (change : Origin → Entries → Option Entries) (path : List String)
    (origin : Origin) (entries : Entries) : Option Entries :=
  match path with
  | [] => change origin entries
  | name :: path =>
    match entries.lookup name with
    | none => do
      let origin := if dotted then Origin.dotted else Origin.implied
      let under ← Entries.change dotted change path origin []
      return Named.put entries name (.table origin under)
    | some (.table origin under) =>
      if dotted && origin == .declared then none
      else do
        let under ← Entries.change dotted change path origin under
        return Named.put entries name (.table origin under)
    | some (.tables elements) => do
      let under ← Entries.change dotted change path .declared (elements.getLast?.getD [])
      return Named.put entries name (.tables (elements.dropLast ++ [under]))
    | some _ => none

/-- Changes the table at the end of a dotted path within braces. -/
def changeWithin (change : Entries → Option Entries) (path : List String) (entries : Entries) :
    Option Entries :=
  match path with
  | [] => change entries
  | name :: path =>
    match entries.lookup name with
    | none => do return Named.put entries name (.braces true (← changeWithin change path []))
    | some (.braces true under) => do
      return Named.put entries name (.braces true (← changeWithin change path under))
    | some _ => none

/-- Adds a value under a dotted key within braces. -/
def addWithin (entries : Entries) (path : List String) (name : String) (node : Node) :
    Option Entries :=
  entries.changeWithin (fun under => under.add name node) path

end Entries

/-- A document while it is read, with the path of the table that is being filled. -/
structure Document where
  entries : Entries
  current : List String
  deriving Repr

namespace Document

def empty : Document := ⟨[], []⟩

/-- Changes the entries of the table that holds the last name of a path. -/
def declare (d : Document) (path : List String) (enter : Entries → String → Option Entries) :
    Option Document :=
  match path.getLast? with
  | none => none
  | some name => do
    let entries ← d.entries.change false (fun _ under => enter under name) path.dropLast .declared
    return ⟨entries, path⟩

/-- Begins a table by its header; it may have come up on the way to another one. -/
def declareTable (d : Document) (path : List String) : Option Document :=
  d.declare path fun under name =>
    match under.lookup name with
    | none => some (Named.put under name (.table .declared []))
    | some (.table .implied entries) => some (Named.put under name (.table .declared entries))
    | some _ => none

/-- Begins one more of the tables under a name. -/
def declareElement (d : Document) (path : List String) : Option Document :=
  d.declare path fun under name =>
    match under.lookup name with
    | none => some (Named.put under name (.tables [[]]))
    | some (.tables elements) => some (Named.put under name (.tables (elements ++ [[]])))
    | some _ => none

/-- Adds a value to the open table. A dotted key leads only to tables that dotted keys made. -/
def add (d : Document) (path : List String) (name : String) (node : Node) : Option Document := do
  let fill (origin : Origin) (under : Entries) : Option Entries :=
    if (origin == .dotted) == path.isEmpty then none else under.add name node
  let entries ← d.entries.change false (fun origin under => under.change true fill path origin)
    d.current .declared
  return { d with entries := entries }

end Document

end AggregateStage.Toml
