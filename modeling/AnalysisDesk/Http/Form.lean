/-
Queries as forms.

A query is a row of `name=value` pieces with `&` between them.  A plus stands for a blank, and any
byte can be written with a percent sign.  A form names the fields that it knows; others are passed
over.  Each known field may be given once, and the first fault in the order of the query counts.
-/
import AnalysisDesk.Http.Request
import AnalysisDesk.Text.Numeral
import AnalysisDesk.Views.Page
import AnalysisDesk.Text.Pieces

namespace AnalysisDesk

namespace Form

/-- The text of a name or value. -/
def decodedPiece (cs : List Char) : String :=
  Text.ofBytesLossy (Text.percentDecoded
    (Text.bytes (String.ofList (cs.map fun c => if c = '+' then ' ' else c))))

/-- The names and values of a query. -/
def pairs (query : String) : List (String × String) :=
  ((Text.cutAt '&' query.toList).filter fun piece => !piece.isEmpty).map fun piece =>
    let name := piece.takeWhile (· != '=')
    (decodedPiece name, decodedPiece ((piece.drop name.length).drop 1))

/-- Why a query does not fill a form. -/
inductive Fault where
  | repeated (field : String)
  | badNumber (field : String) (fault : Text.NumeralFault)
  | badSeverity (field value : String)
deriving DecidableEq, Repr

def Fault.message : Fault → String
  | .repeated field => (Decode.Cause.repeated field).message
  | .badNumber field fault => field ++ ": " ++ fault.message
  | .badSeverity field value =>
    field ++ ": " ++ (Decode.Cause.unknownLabel value (Severity.all.map Severity.label)).message

/-- What a field of a form holds. -/
inductive Kind where
  | text
  | number
  | severity
deriving DecidableEq, Repr

/-- The fault of a field's value, if it has one. -/
def Kind.fault? (kind : Kind) (field value : String) : Option Fault :=
  match kind with
  | .text => none
  | .number =>
    match Text.readNatural Limit.word32 value with
    | .ok _ => none
    | .error fault => some (.badNumber field fault)
  | .severity => if (Severity.ofLabel? value).isNone then some (.badSeverity field value) else none

/-- The first fault of a row of pairs; `seen` are the fields met before. -/
def fault? (fields : List (String × Kind)) : List String → List (String × String) → Option Fault
  | _, [] => none
  | seen, (name, value) :: rest =>
    match fields.lookup name with
    | none => fault? fields seen rest
    | some kind =>
      if seen.contains name then some (.repeated name)
      else
        match kind.fault? name value with
        | some fault => some fault
        | none => fault? fields (name :: seen) rest

/-- The pairs of a query that fills a form. -/
def read (fields : List (String × Kind)) (query : Option String) :
    Except Fault (List (String × String)) :=
  let given := pairs (query.getD "")
  match fault? fields [] given with
  | some fault => .error fault
  | none => .ok given

/-- The number in a field. -/
def number? (given : List (String × String)) (field : String) : Option Nat :=
  (given.lookup field).bind fun value => (Text.readNatural Limit.word32 value).toOption

def severity? (given : List (String × String)) (field : String) : Option Severity :=
  (given.lookup field).bind Severity.ofLabel?

/-! ### The forms of the service -/

/-- Which page is wanted. -/
def page (query : Option String) : Except Fault PageRequest :=
  (read [("page", .number), ("limit", .number)] query).map fun given =>
    ⟨number? given "page", number? given "limit"⟩

/-- How many of the latest jobs are wanted. -/
def latest (query : Option String) : Except Fault (Option Nat) :=
  (read [("limit", .number)] query).map fun given => number? given "limit"

/-- Which issues are wanted, and which page of them. -/
def issues (query : Option String) : Except Fault (IssueFilter × PageRequest) :=
  (read [("severity", .severity), ("category", .text), ("page", .number), ("limit", .number)]
    query).map fun given =>
      (⟨severity? given "severity", given.lookup "category"⟩,
        ⟨number? given "page", number? given "limit"⟩)

/-- Which metrics are wanted. -/
def metrics (query : Option String) : Except Fault MetricFilter :=
  (read [("metric_type", .text), ("file_path", .text)] query).map fun given =>
    ⟨given.lookup "metric_type", given.lookup "file_path"⟩

end Form

end AnalysisDesk
