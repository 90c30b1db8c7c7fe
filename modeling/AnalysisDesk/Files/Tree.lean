/-
Trees of directories.

A tree says what is at each place: a directory, a text, or a database.  A path leads somewhere
only if every step but the last is a directory; the last may be missing.
-/
import AnalysisDesk.Files.Path
import AnalysisDesk.Store.Basic

namespace AnalysisDesk

/-- What is at a place. -/
inductive Entry where
  | directory
  | text (content : String)
  | database (store : Store)
deriving DecidableEq

/-- Directories and the files in them. -/
structure Tree where
  entries : List (Place × Entry)
deriving DecidableEq

namespace Tree

def empty : Tree := ⟨[]⟩

instance : Inhabited Tree := ⟨empty⟩

/-- What is at a place; the root is a directory. -/
def entry? (t : Tree) : Place → Option Entry
  | [] => some .directory
  | place => t.entries.lookup place

def isDirectory (t : Tree) (place : Place) : Bool :=
  match t.entry? place with
  | some .directory => true
  | _ => false

/-- Puts an entry where another was, or after all. -/
def putEntry (place : Place) (entry : Entry) : List (Place × Entry) → List (Place × Entry)
  | [] => [(place, entry)]
  | other :: rest =>
    if other.1 = place then (place, entry) :: rest else other :: putEntry place entry rest

/-- The tree with something at a place. -/
def put (t : Tree) (place : Place) (entry : Entry) : Tree := ⟨putEntry place entry t.entries⟩

/-! ### Following paths -/

/-- Where steps lead from a place, if they can be taken. -/
def follow (t : Tree) : Place → List String → Option Place
  | here, [] => some here
  | here, step :: rest =>
    if !t.isDirectory here then none
    else if step = "" ∨ step = "." then t.follow here rest
    else if step = ".." then t.follow here.dropLast rest
    else t.follow (here ++ [step]) rest

/-- Where a path leads from a directory.  The empty path leads nowhere. -/
def resolve? (t : Tree) (here : Place) (path : String) : Option Place :=
  if path.isEmpty then none else t.follow (Path.origin here path) (Path.steps path)

/-- What is at the end of a path. -/
def find? (t : Tree) (here : Place) (path : String) : Option Entry :=
  (t.resolve? here path).bind t.entry?

/-- Writes a text at the end of a path, where no directory and no missing directory is. -/
def write? (t : Tree) (here : Place) (path : String) (content : String) : Option Tree := do
  let place ← t.resolve? here path
  match t.entry? place with
  | some .directory => none
  | _ => if t.isDirectory place.dropLast then some (t.put place (.text content)) else none

/-- Makes the directories of steps that are missing. -/
def makeFrom (t : Tree) : Place → List String → Option Tree
  | here, [] => if t.isDirectory here then some t else none
  | here, step :: rest =>
    if step = "" ∨ step = "." then t.makeFrom here rest
    else if step = ".." then t.makeFrom here.dropLast rest
    else
      let next := here ++ [step]
      match t.entry? next with
      | some .directory => t.makeFrom next rest
      | some _ => none
      | none => (t.put next .directory).makeFrom next rest

/-- Makes the directories of a path that are missing. -/
def makeDirectories? (t : Tree) (here : Place) (path : String) : Option Tree :=
  t.makeFrom (Path.origin here path) (Path.steps path)

/-! ### Databases -/

/-- Opens the database at a path.  It is made where nothing is, or an empty file; its directory
has to be there.  Points in the path are carried out without looking. -/
def openDatabase? (t : Tree) (here : Place) (path : String) : Option (Store × Tree) :=
  let place := Path.place here path
  match t.entry? place with
  | some (.database store) => some (store, t)
  | some .directory => none
  | some (.text content) =>
    if content.isEmpty then some (.empty, t.put place (.database .empty)) else none
  | none =>
    if t.isDirectory place.dropLast then some (.empty, t.put place (.database .empty)) else none

/-- Keeps a store in the database at a path. -/
def keepDatabase (t : Tree) (here : Place) (path : String) (store : Store) : Tree :=
  t.put (Path.place here path) (.database store)

/-! ### Files -/

/-- Puts a text at a place, and the directories above it. -/
def plant (t : Tree) (place : Place) (content : String) : Tree :=
  let tree := (Path.ancestors place.dropLast).foldl (fun t above =>
    match above, t.entry? above with
    | _ :: _, none => t.put above .directory
    | _, _ => t) t
  tree.put place (.text content)

/-- The files below a place, by the steps that lead there. -/
def filesBelow (t : Tree) (place : Place) : List Place :=
  t.entries.filterMap fun (other, entry) =>
    match entry with
    | .directory => none
    | _ =>
      if other.take place.length = place ∧ place.length < other.length then
        some (other.drop place.length)
      else none

end Tree

end AnalysisDesk
