/-
Which log lines are written.

A filter is a list of directives with commas between them.  A directive is a level, or a target
with a level after an equals sign; spans and their fields stand in brackets after the target.
The filter may be given from outside, asked for on the command line, or configured.
-/
import AnalysisDesk.Text.Alphanumeric
import AnalysisDesk.Text.Blank
import AnalysisDesk.Text.Pieces

namespace AnalysisDesk.LogFilter

/-- The filter where none is given. -/
def standard : String := "codesage=info,tower_http=info"

/-- The filter of those who want to see more. -/
def verbose : String := "codesage=debug,tower_http=debug"

/-- The filter from outside counts first, then the wish to see more, then the configured one. -/
def choose (outside configured : Option String) (more : Bool) : String :=
  match outside.bind Text.nonBlank? with
  | some filter => filter
  | none => if more then verbose else configured.getD standard

/-! ### Directives -/

/-- The names of levels. -/
def levelNames : List String := ["error", "warn", "info", "debug", "trace", "off"]

/-- Whether a text is a level: empty, a name, or a number up to five. -/
def isLevel (cs : List Char) : Bool :=
  let digits := match cs with
    | '+' :: rest => rest
    | cs => cs
  cs.isEmpty || levelNames.contains (String.ofList cs).toLower
    || match (digits.dropWhile (· == '0'), digits.isEmpty) with
      | ([], false) => true
      | ([c], false) => '1' ≤ c ∧ c ≤ '5'
      | _ => false

/-- Where one stands in a directive.  The marks are counted in characters from its front. -/
inductive Place where
  | front
  | target
  | level (mark : Nat)
  | span
  | field (mark : Nat)
  | fieldsEnd
  | spanEnd
deriving DecidableEq, Repr

/-- The place after the character at `index`; a field must not be empty. -/
def Place.after (index : Nat) (c : Char) : Place → Option Place
  | .front =>
    if c = '[' then some .span
    else if c = '-' ∨ c = ':' ∨ c = '_' ∨ Text.isAlphanumeric c then some .target
    else none
  | .target =>
    if c = '=' then some (.level (index + 1)) else if c = '[' then some .span else some .target
  | .spanEnd => if c = '=' then some (.level (index + 1)) else none
  | .span =>
    if c = ']' then some .spanEnd
    else if c = '\x7b' then some (.field (index + 1))
    else some .span
  | .field mark =>
    if c = '\x7d' then if mark = index then none else some .fieldsEnd else some (.field mark)
  | .fieldsEnd => if c = ']' then some .spanEnd else none
  | .level mark => some (.level mark)

/-- The place at the end of some characters, the first of which has the index `index`. -/
def Place.walk : Place → Nat → List Char → Option Place
  | place, _, [] => some place
  | place, index, c :: rest =>
    match place.after index c with
    | some place => place.walk (index + 1) rest
    | none => none

/-- Whether a directive can be understood.  Blanks around it do not count, but a level is read
from its mark in the whole text. -/
def isDirective (cs : List Char) : Bool :=
  match Place.front.walk 0 (Text.trim (String.ofList cs)).toList with
  | some .target | some .spanEnd => true
  | some (.level mark) => isLevel (cs.drop mark)
  | _ => false

/-- Whether a filter can be understood. -/
def isValid (filter : String) : Bool :=
  (Text.cutAt ',' filter.toList).all fun piece => piece.isEmpty || isDirective piece

end AnalysisDesk.LogFilter
