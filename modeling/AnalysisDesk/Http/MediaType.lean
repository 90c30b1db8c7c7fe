/-
Media types.

A media type is two names with a slash between them, as in `application/json`.  Behind the last
plus of the second name stands the name of a format, as in `application/problem+json`.  Parameters
may follow; what they say does not matter here, but they have to be well formed.
-/
import AnalysisDesk.Http.Request

namespace AnalysisDesk

/-- A media type, in lower case and without its parameters. -/
structure MediaType where
  type : String
  subtype : String
  /-- The format behind the last plus. -/
  format : Option String
deriving DecidableEq, Repr

namespace MediaType

/-! ### Parameters -/

/-- Where a reader of parameters stands. -/
inductive Spot where
  /-- Before a name. -/
  | start
  | name
  /-- Behind the equals sign. -/
  | equals
  | value
  /-- Behind an opening quote. -/
  | opened
  | quoted
  /-- Behind a closing quote. -/
  | closed
deriving DecidableEq, Repr

/-- The next place; nothing if the character must not stand here.  The first character after an
opening quote does not close it. -/
def Spot.step (spot : Spot) (c : Char) : Option Spot :=
  let isToken := HttpRequest.isTokenChar c
  let isQuotable := 0x20 ≤ c.toNat && c.toNat ≠ 0x7F
  match spot with
  | .start => if c = ' ' then some .start else if isToken then some .name else none
  | .name => if isToken then some .name else if c = '=' then some .equals else none
  | .equals => if c = '"' then some .opened else if isToken then some .value else none
  | .value => if isToken then some .value else if c = ';' then some .start else none
  | .opened => if isQuotable then some .quoted else none
  | .quoted => if c = '"' then some .closed else if isQuotable then some .quoted else none
  | .closed => if c = ' ' then some .closed else if c = ';' then some .start else none

/-- Whether the parameters may end here. -/
def Spot.canEnd : Spot → Bool
  | .start | .equals | .value | .closed => true
  | .name | .opened | .quoted => false

/-- Whether parameters are well formed. -/
def areParameters (cs : List Char) : Bool :=
  match cs.foldlM Spot.step .start with
  | some spot => spot.canEnd
  | none => false

/-! ### Reading -/

/-- The two parts of the second name, as long as there is something before the plus. -/
def atPlus (cs : List Char) : List Char × Option (List Char) :=
  let behind := cs.reverse.takeWhile (· != '+')
  let before := cs.take (cs.length - behind.length - 1)
  if before.isEmpty then (cs, none) else (before, some behind.reverse)

/-- Reads a media type. -/
def ofText? (s : String) : Option MediaType :=
  let lower (cs : List Char) : String := (String.ofList cs).toLower
  let type := s.toList.takeWhile HttpRequest.isTokenChar
  match s.toList.drop type.length with
  | '/' :: rest =>
    let second := rest.takeWhile HttpRequest.isTokenChar
    let wellFormed :=
      match rest.drop second.length with
      | [] => true
      | mark :: parameters => (mark = ';' || mark = ' ') && !second.isEmpty && areParameters parameters
    if type.isEmpty || !wellFormed then none
    else
      let (subtype, format) := atPlus second
      some ⟨lower type, lower subtype, format.map lower⟩
  | _ => none

/-- Whether documents are of this type. -/
def isDocument (m : MediaType) : Bool :=
  m.type = "application" && (m.subtype = "json" || m.format = some "json")

example : (ofText? "application/json; charset=utf-8").map isDocument = some true := by decide +kernel
example : (ofText? "application/problem+json").map isDocument = some true := by decide +kernel
example : (ofText? "application/json; charset").map isDocument = none := by decide +kernel
example : (ofText? "application/+json").map isDocument = some false := by decide +kernel

end MediaType

end AnalysisDesk
