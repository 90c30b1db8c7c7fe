/-
Tables that are being filled in.

While a settings file is read, a table can be met in three ways: as part of the name of another
one, in a header of its own, or on the way to a value whose key has points in it.  How a table was
met decides what may still be added to it, so that no table is defined twice:

  * a header may open a table that is new or was only part of a name;
  * a key with points goes through tables that no header has opened, and adds only to tables that
    keys with points have made;
  * a key without points adds to the table of the last header;
  * values in brackets or braces are finished.

A list of tables grows by a header in double brackets, and only its last table is open.
-/
import AnalysisDesk.Toml.Value

namespace AnalysisDesk.Toml

/-- How a table was met. -/
inductive TableKind where
  /-- In the name of another table. -/
  | implied
  /-- In a header. -/
  | headed
  /-- In a key with points. -/
  | dotted
deriving DecidableEq, Repr

/-- A table that is being filled in, or something in it. -/
inductive Draft where
  /-- A finished value. -/
  | value (content : Toml)
  | table (kind : TableKind) (entries : List (String × Draft))
  /-- A list of tables, the last one first. -/
  | tables (last : List (String × Draft)) (before : List (List (String × Draft)))
deriving Inhabited

abbrev Entries : Type := List (String × Draft)

namespace Draft

/-- Puts an entry in the place of the one with its key, or after all others. -/
def put (key : String) (draft : Draft) : Entries → Entries
  | [] => [(key, draft)]
  | entry :: rest =>
    if entry.1 = key then (key, draft) :: rest else entry :: put key draft rest

/-- Adds a value with the key `key` to the table at the end of a path of keys.  `dotted` says
whether the key was written with points, `within` whether the table was made by such keys. -/
def addAt (dotted : Bool) (key : String) (content : Toml) :
    List String → Bool → Entries → Option Entries
  | [], within, entries =>
    if within = dotted ∧ (entries.lookup key).isNone then
      some (entries ++ [(key, .value content)])
    else none
  | step :: path, _, entries =>
    match entries.lookup step with
    | none => (addAt dotted key content path true []).map fun sub =>
        put step (.table .dotted sub) entries
    | some (.value _) => none
    | some (.table kind sub) =>
      if kind = .headed then none
      else (addAt dotted key content path (kind = .dotted) sub).map fun sub =>
        put step (.table kind sub) entries
    | some (.tables last before) =>
      (addAt dotted key content path false last).map fun last =>
        put step (.tables last before) entries

/-- Adds a value under a key, which has points if the path is not empty. -/
def add (path : List String) (key : String) (content : Toml) (entries : Entries) :
    Option Entries :=
  addAt (!path.isEmpty) key content path false entries

/-- Changes the table with a name; tables that the name implies are made. -/
def change (f : Entries → Option Entries) : List String → Entries → Option Entries
  | [], entries => f entries
  | step :: path, entries =>
    match entries.lookup step with
    | none => (change f path []).map fun sub => put step (.table .implied sub) entries
    | some (.value _) => none
    | some (.table kind sub) =>
      (change f path sub).map fun sub => put step (.table kind sub) entries
    | some (.tables last before) =>
      (change f path last).map fun last => put step (.tables last before) entries

/-- Opens a table by a header. -/
def openTable (key : String) (entries : Entries) : Option Entries :=
  match entries.lookup key with
  | none => some (put key (.table .headed []) entries)
  | some (.table .implied sub) => some (put key (.table .headed sub) entries)
  | some _ => none

/-- Opens the next table of a list by a header. -/
def openNext (key : String) (entries : Entries) : Option Entries :=
  match entries.lookup key with
  | none => some (put key (.tables [] []) entries)
  | some (.tables last before) => some (put key (.tables [] (last :: before)) entries)
  | some _ => none

mutual

/-- The value that a draft has become. -/
def finish : Draft → Toml
  | .value content => content
  | .table _ entries => .table (finishEntries entries)
  | .tables last before => .arr ((.table (finishEntries last) :: finishTables before).reverse)

def finishEntries : List (String × Draft) → TomlTable
  | [] => []
  | (key, draft) :: rest => (key, finish draft) :: finishEntries rest

def finishTables : List (List (String × Draft)) → List Toml
  | [] => []
  | entries :: rest => .table (finishEntries entries) :: finishTables rest

end

end Draft

end AnalysisDesk.Toml
