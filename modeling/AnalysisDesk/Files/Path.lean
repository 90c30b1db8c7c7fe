/-
Paths.

A path is a row of steps with slashes between them.  It begins at the root if a slash stands at
its front, and at the working directory otherwise.  A single point stays where it is, two points
lead one directory up.
-/
import AnalysisDesk.Text.Pieces

namespace AnalysisDesk

/-- A place in the tree of directories, as the names that lead to it from the root. -/
abbrev Place : Type := List String

namespace Path

def isAbsolute (path : String) : Bool := path.toList.head? == some '/'

/-- The steps of a path; an empty step stands where slashes meet. -/
def steps (path : String) : List String := (Text.cutAt '/' path.toList).map String.ofList

/-- Where a path begins. -/
def origin (here : Place) (path : String) : Place := if isAbsolute path then [] else here

/-- The place that a path leads to if its steps are taken one by one, whatever is there. -/
def walk : Place → List String → Place
  | here, [] => here
  | here, step :: rest =>
    if step = "" ∨ step = "." then walk here rest
    else if step = ".." then walk here.dropLast rest
    else walk (here ++ [step]) rest

/-- The place that a path names. -/
def place (here : Place) (path : String) : Place := walk (origin here path) (steps path)

/-- The text of a place. -/
def text (place : Place) : String := "/" ++ "/".intercalate place

/-- One path after another; a path from the root replaces what is before it. -/
def append (path more : String) : String :=
  if isAbsolute more then more
  else if path.isEmpty || path.endsWith "/" then path ++ more
  else path ++ "/" ++ more

/-- The steps that matter: without empty ones, and without points except at the front. -/
def bareSteps (path : String) : List String :=
  let all := (steps path).filter (· != "")
  match isAbsolute path, all with
  | false, "." :: rest => "." :: rest.filter (· != ".")
  | _, all => all.filter (· != ".")

/-- The path of the directory in which a path ends.  It is empty for a single step, and the root
is in none. -/
def parent? (path : String) : Option String :=
  match isAbsolute path, bareSteps path with
  | _, [] => none
  | absolute, steps =>
    some ((if absolute then "/" else "") ++ "/".intercalate steps.dropLast)

/-- A place and all those above it, the place itself first. -/
def ancestors (place : Place) : List Place :=
  (List.range (place.length + 1)).reverse.map fun n => place.take n

end Path

end AnalysisDesk
