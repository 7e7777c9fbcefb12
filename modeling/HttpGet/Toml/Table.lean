/-
Building the tables of a document.

A table comes into being in one of four ways: by its own header, on the way to the table
of a longer header, by a dotted key, or as an inline table.  The way decides what may
still be added to it, so it is kept while the document is read:

* a table that only stood on the way to another may still get its own header;
* a dotted key may go through tables that have no header of their own and adds to one
  that dotted keys made;
* an inline table and a list of values are closed; only a list that headers made may
  grow, and a path through it leads to its last table.
-/
import HttpGet.Toml.Tree

namespace HttpGet.Toml

/-- A key with its span. -/
structure Key where
  span : Span
  name : String
deriving DecidableEq, Repr

/-- How a table came into being. -/
inductive Origin where
  | header
  | onTheWay
  | dotted
deriving DecidableEq, Repr

/-- A part of a document that is being read: a value that is closed, a table, or a list of
tables with the newest first. -/
inductive Node where
  | value (tree : Tree)
  | table (span : Span) (origin : Origin) (entries : List (String × Node))
  | tables (span : Span) (newest : Span × List (String × Node))
      (older : List (Span × List (String × Node)))

/-- The entries of a table that is being read. -/
abbrev Entries := List (String × Node)

/-- Replace the entry of a key. -/
def replaceEntry (key : String) (node : Node) (entries : Entries) : Entries :=
  entries.map fun e => if e.1 = key then (key, node) else e

/-- Change the table that a path leads to from a table of this origin.  Tables that are
missing on the way are made, by a dotted key or by a header; a dotted key does not go
through a table that has a header. -/
def within (byDottedKey : Bool) (change : Origin → Entries → Option Entries) :
    List Key → Origin → Entries → Option Entries
  | [], origin, entries => change origin entries
  | key :: path, _, entries =>
    match entries.lookup key.name with
    | none =>
      let origin := if byDottedKey then .dotted else .onTheWay
      (within byDottedKey change path origin []).map fun inner =>
        insertEntry key.name (.table key.span origin inner) entries
    | some (.table span origin inner) =>
      if byDottedKey && origin = .header then none
      else (within byDottedKey change path origin inner).map fun inner =>
        replaceEntry key.name (.table span origin inner) entries
    | some (.tables span (newest, inner) older) =>
      (within byDottedKey change path .header inner).map fun inner =>
        replaceEntry key.name (.tables span (newest, inner) older) entries
    | some (.value _) => none

/-- Add a new entry; a key is set once. -/
def addNew (key : Key) (node : Node) (entries : Entries) : Option Entries :=
  match entries.lookup key.name with
  | none => some (insertEntry key.name node entries)
  | some _ => none

/-- Set a key of a table to a value.  A dotted key adds only to a table that dotted keys
made. -/
def assign (path : List Key) (key : Key) (value : Tree) (entries : Entries) : Option Entries :=
  within true (fun origin inner =>
    if path.isEmpty || origin = .dotted then addNew key (.value value) inner else none)
    path .header entries

/-- Open the table of a header. -/
def openTable (path : List Key) (key : Key) (span : Span) (root : Entries) : Option Entries :=
  within false (fun _ inner =>
    match inner.lookup key.name with
    | none => some (insertEntry key.name (.table span .header []) inner)
    | some (.table _ .onTheWay own) =>
      some (replaceEntry key.name (.table span .header own) inner)
    | some _ => none)
    path .header root

/-- Append a table to the list of a header. -/
def appendTable (path : List Key) (key : Key) (span : Span) (root : Entries) :
    Option Entries :=
  within false (fun _ inner =>
    match inner.lookup key.name with
    | none => some (insertEntry key.name (.tables span (span, []) []) inner)
    | some (.tables first newest older) =>
      some (replaceEntry key.name (.tables first (span, []) (newest :: older)) inner)
    | some _ => none)
    path .header root

mutual

/-- The value of a part of a document. -/
def Node.tree : Node → Tree
  | .value tree => tree
  | .table span _ entries => .table span (entryTrees entries)
  | .tables span newest older => .array span (tableTrees older [tableTree newest])
termination_by structural n => n

/-- The values of the entries of a table. -/
def entryTrees : List (String × Node) → List (String × Tree)
  | [] => []
  | e :: rest => entryTree e :: entryTrees rest
termination_by structural es => es

/-- The value of an entry. -/
def entryTree : String × Node → String × Tree
  | (key, node) => (key, node.tree)
termination_by structural e => e

/-- The tables of a list in front of those that followed them. -/
def tableTrees : List (Span × List (String × Node)) → List Tree → List Tree
  | [], later => later
  | t :: rest, later => tableTrees rest (tableTree t :: later)
termination_by structural ts => ts

/-- The value of a table of a list. -/
def tableTree : Span × List (String × Node) → Tree
  | (span, entries) => .table span (entryTrees entries)
termination_by structural t => t

end

end HttpGet.Toml
