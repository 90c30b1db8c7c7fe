/-
Changing the tables by hand.

Somebody with access to the tables can put other contents into a row, or take rows away, without
asking the desk.  The tables defend themselves to some degree: a column of numbers turns a text
that looks like a number into one, a column of texts turns a number into its text, and a change
that leaves the tables inconsistent is refused.

`Store.isConsistent` says what that means: row numbers, names of users and identifiers of jobs
occur once, every reference leads to a row, and no repository has two active jobs.
-/
import AnalysisDesk.Store.Basic
import AnalysisDesk.Number.Written
import AnalysisDesk.Text.Blank

namespace AnalysisDesk

/-- A content that somebody puts into a column. -/
inductive Cell where
  | null
  | int (value : Int)
  | real (value : Double)
  | text (content : String)
deriving DecidableEq, Repr, Inhabited

namespace Cell

/-! ### Numbers in texts -/

/-- Digits at the front of a text, and what follows them. -/
def leadingDigits (cs : List Char) : List Char × List Char := cs.span Char.isDigit

def digitsValue (digits : List Char) : Nat :=
  digits.foldl (fun n c => 10 * n + (c.toNat - '0'.toNat)) 0

/-- A sign at the front of a text: whether it is a minus, and what follows it. -/
def leadingSign : List Char → Bool × List Char
  | '-' :: rest => (true, rest)
  | '+' :: rest => (false, rest)
  | cs => (false, cs)

/-- The exponent at the front of a text, zero if there is none. -/
def exponent : List Char → Option Int
  | [] => some 0
  | c :: rest =>
    if c = 'e' ∨ c = 'E' then
      let (negative, afterSign) := leadingSign rest
      match leadingDigits afterSign with
      | ([], _) => none
      | (digits, []) => some (if negative then -(digitsValue digits : Int) else digitsValue digits)
      | _ => none
    else none

/-- Blanks that may surround a number. -/
def isPad (c : Char) : Bool := c = ' ' || ('\t' ≤ c && c ≤ '\r')

/-- The number that a text looks like. -/
def ofNumeric? (s : String) : Option Cell :=
  let body := Text.dropEndWhile isPad (s.toList.dropWhile isPad)
  let (negative, unsigned) := leadingSign body
  let (whole, afterWhole) := leadingDigits unsigned
  let (places, afterPoint) := match afterWhole with
    | '.' :: rest => leadingDigits rest
    | rest => ([], rest)
  let isWhole := afterWhole.isEmpty
  if whole.isEmpty ∧ places.isEmpty then none
  else
    match exponent afterPoint with
    | none => none
    | some e =>
      let n := digitsValue (whole ++ places)
      let signed : Int := if negative then -(n : Int) else n
      if isWhole ∧ Limit.holds64 signed then some (.int signed)
      else
        let size := (Double.ofDecimal? n (e - places.length)).getD .infinity
        some (.real (if negative then size.negate else size))

/-! ### Columns of numbers -/

/-- The whole number that a double is, if it is one of at most fifty-one bits. -/
def wholeOf? (d : Double) : Option Int :=
  let (m, q) := d.significand
  if d.isFinite then
    let value? : Option Nat :=
      if 0 ≤ q then (if q ≤ 11 then some (m * twoTo q.toNat) else none)
      else if q < -60 then (if m = 0 then some 0 else none)
      else if m % twoTo (-q).toNat = 0 then some (m / twoTo (-q).toNat) else none
    value?.bind fun n =>
      let i : Int := if d.isNegative then -(n : Int) else n
      if Limit.holds64 i then some i else none
  else none

/-- What a column of whole numbers makes of a content. -/
def toWhole : Cell → Slot Int
  | .null => .empty
  | .int i => .value i
  | .real d =>
    match wholeOf? d with
    | some i => .value i
    | none => .foreign (.real d)
  | .text s =>
    match ofNumeric? s with
    | some (.int i) => .value i
    | some (.real d) =>
      match wholeOf? d with
      | some i => .value i
      | none => .foreign (.real d)
    | _ => .foreign (.text s)

/-- What a column of floating-point numbers makes of a content. -/
def toReal : Cell → Slot Double
  | .null => .empty
  | .int i => .value (.ofInt i)
  | .real d => d.kept
  | .text s =>
    match ofNumeric? s with
    | some (.int i) => .value (.ofInt i)
    | some (.real d) => d.kept
    | _ => .foreign (.text s)

/-- What a column of texts makes of a content. -/
def toText : Cell → Option String
  | .null => none
  | .int i => some (toString i)
  | .real d => some ((NumberFormat.mk (-4) 14).double d)
  | .text s => some s

/-- A whole number for a column that takes nothing else. -/
def whole? (cell : Cell) : Option Int :=
  match cell.toWhole with
  | .value i => some i
  | _ => none

/-- A content for a column that must not be empty. -/
def filled {α : Type} : Slot α → Option (Slot α)
  | .empty => none
  | slot => some slot

end Cell

/-! ### One column of a row -/

/-- The row with another content in a column; none if there is no such column or it does not take
the content. -/
def UserRow.amend (row : UserRow) (cell : Cell) : String → Option UserRow
  | "id" => cell.whole?.map fun id => { row with id }
  | "username" => cell.toText.map fun username => { row with username }
  | "created_at" => cell.toText.map fun createdAt => { row with createdAt }
  | _ => none

def RepositoryRow.amend (row : RepositoryRow) (cell : Cell) : String → Option RepositoryRow
  | "id" => cell.whole?.map fun id => { row with id }
  | "user_id" => cell.whole?.map fun userId => { row with userId }
  | "name" => cell.toText.map fun name => { row with name }
  | "clone_url" => cell.toText.map fun cloneUrl => { row with cloneUrl }
  | "default_branch" => cell.toText.map fun defaultBranch => { row with defaultBranch }
  | "created_at" => cell.toText.map fun createdAt => { row with createdAt }
  | _ => none

def JobRow.amend (row : JobRow) (cell : Cell) : String → Option JobRow
  | "id" => cell.toText.map fun id => { row with id }
  | "repository_id" => cell.whole?.map fun repositoryId => { row with repositoryId }
  | "clone_url" => cell.toText.map fun cloneUrl => { row with cloneUrl }
  | "branch" => cell.toText.map fun branch => { row with branch }
  | "commit_sha" => some { row with commitSha := cell.toText }
  | "status" => cell.toText.map fun status => { row with status }
  | "quality_score" => some { row with qualityScore := cell.toReal }
  | "maintainability_index" => some { row with maintainabilityIndex := cell.toReal }
  | "complexity_score" => some { row with complexityScore := cell.toReal }
  | "security_rating" => some { row with securityRating := cell.toReal }
  | "issues_found" => some { row with issuesFound := cell.toWhole }
  | "files_analyzed" => some { row with filesAnalyzed := cell.toWhole }
  | "external_handle" => some { row with externalHandle := cell.toText }
  | "error" => some { row with error := cell.toText }
  | "created_at" => cell.toText.map fun createdAt => { row with createdAt }
  | "dispatched_at" => some { row with dispatchedAt := cell.toText }
  | "completed_at" => some { row with completedAt := cell.toText }
  | _ => none

def IssueRow.amend (row : IssueRow) (cell : Cell) : String → Option IssueRow
  | "id" => cell.whole?.map fun id => { row with id }
  | "analysis_id" => cell.toText.map fun jobId => { row with jobId }
  | "severity" => cell.toText.map fun severity => { row with severity }
  | "severity_rank" => (Cell.filled cell.toWhole).map fun severityRank => { row with severityRank }
  | "category" => cell.toText.map fun category => { row with category }
  | "title" => cell.toText.map fun title => { row with title }
  | "description" => some { row with description := cell.toText }
  | "suggestion" => some { row with suggestion := cell.toText }
  | "file_path" => cell.toText.map fun filePath => { row with filePath }
  | "line_number" => some { row with lineNumber := cell.toWhole }
  | _ => none

def MetricRow.amend (row : MetricRow) (cell : Cell) : String → Option MetricRow
  | "id" => cell.whole?.map fun id => { row with id }
  | "analysis_id" => cell.toText.map fun jobId => { row with jobId }
  | "metric_type" => cell.toText.map fun metricType => { row with metricType }
  | "value" => (Cell.filled cell.toReal).map fun value => { row with value }
  | "file_path" => some { row with filePath := cell.toText }
  | _ => none

namespace Store

/-- Whether no two members of a list are the same. -/
def allDistinct {α : Type} [DecidableEq α] : List α → Bool
  | [] => true
  | a :: rest => !rest.contains a && allDistinct rest

/-- What every store satisfies that nobody has gone around the tables of. -/
def isConsistent (s : Store) : Bool :=
  allDistinct (s.users.map (·.id)) && allDistinct (s.users.map (·.username))
    && allDistinct (s.repositories.map (·.id))
    && s.repositories.all (fun row => s.users.any fun user => user.id == row.userId)
    && allDistinct (s.jobs.map (·.id))
    && s.jobs.all (fun row => s.repositories.any fun repository =>
        repository.id == row.repositoryId)
    && allDistinct ((s.jobs.filter JobRow.isActive).map (·.repositoryId))
    && allDistinct (s.issues.map (·.id))
    && s.issues.all (fun row => s.jobs.any fun job => job.id == row.jobId)
    && allDistinct (s.metrics.map (·.id))
    && s.metrics.all (fun row => s.jobs.any fun job => job.id == row.jobId)

/-- The five tables by name. -/
inductive Table where
  | users
  | repositories
  | jobs
  | issues
  | metrics
deriving DecidableEq, Repr

/-- The table with a name. -/
def Table.ofName? : String → Option Table
  | "users" => some .users
  | "repositories" => some .repositories
  | "analyses" => some .jobs
  | "issues" => some .issues
  | "metrics" => some .metrics
  | _ => none

/-- Amends the rows that are wanted; none if one of them does not take the content. -/
def amendRows {α : Type} (wanted : α → Bool) (amend : α → Option α) : List α → Option (List α)
  | [] => some []
  | row :: rest =>
    match if wanted row then amend row else some row, amendRows wanted amend rest with
    | some row, some rest => some (row :: rest)
    | _, _ => none

/-- The greatest number among rows and a lower bound. -/
def greatest {α : Type} (number : α → Int) (least : Int) (rows : List α) : Int :=
  rows.foldl (fun acc row => max acc (number row)) least

/-- Puts a content into one column of the row with a key.  The answer is how many rows there are
with that key; none if the tables refuse the change. -/
def amend (s : Store) (table : Table) (column key : String) (cell : Cell) : Option (Nat × Store) :=
  let answer (count : Nat) (s' : Store) : Option (Nat × Store) :=
    if count = 0 then some (0, s) else if s'.isConsistent then some (count, s') else none
  match table with
  | .users =>
    let wanted (row : UserRow) : Bool := toString row.id == key
    (amendRows wanted (·.amend cell column) s.users).bind fun users =>
      answer (s.users.countP wanted)
        { s with users, lastUser := greatest UserRow.id s.lastUser users }
  | .repositories =>
    let wanted (row : RepositoryRow) : Bool := toString row.id == key
    (amendRows wanted (·.amend cell column) s.repositories).bind fun repositories =>
      answer (s.repositories.countP wanted)
        { s with
          repositories, lastRepository := greatest RepositoryRow.id s.lastRepository repositories }
  | .jobs =>
    let wanted (row : JobRow) : Bool := row.id == key
    (amendRows wanted (·.amend cell column) s.jobs).bind fun jobs =>
      answer (s.jobs.countP wanted) { s with jobs }
  | .issues =>
    let wanted (row : IssueRow) : Bool := toString row.id == key
    (amendRows wanted (·.amend cell column) s.issues).bind fun issues =>
      answer (s.issues.countP wanted)
        { s with issues, lastIssue := greatest IssueRow.id s.lastIssue issues }
  | .metrics =>
    let wanted (row : MetricRow) : Bool := toString row.id == key
    (amendRows wanted (·.amend cell column) s.metrics).bind fun metrics =>
      answer (s.metrics.countP wanted)
        { s with metrics, lastMetric := greatest MetricRow.id s.lastMetric metrics }

/-! ### Taking rows away -/

/-- Without the findings whose job does not exist. -/
def dropLooseFindings (s : Store) : Store :=
  { s with
    issues := s.issues.filter fun row => s.jobs.any fun job => job.id == row.jobId
    metrics := s.metrics.filter fun row => s.jobs.any fun job => job.id == row.jobId }

/-- Without the jobs whose repository does not exist. -/
def dropLooseJobs (s : Store) : Store :=
  dropLooseFindings
    { s with
      jobs := s.jobs.filter fun row => s.repositories.any fun repository =>
        repository.id == row.repositoryId }

/-- Without the repositories whose owner does not exist. -/
def dropLooseRepositories (s : Store) : Store :=
  dropLooseJobs
    { s with
      repositories := s.repositories.filter fun row => s.users.any fun user =>
        user.id == row.userId }

/-- Takes away the row with a key, and all rows that refer to it. -/
def remove (s : Store) (table : Table) (key : String) : Store :=
  match table with
  | .users =>
    dropLooseRepositories { s with users := s.users.filter fun row => toString row.id != key }
  | .repositories =>
    dropLooseJobs
      { s with repositories := s.repositories.filter fun row => toString row.id != key }
  | .jobs => dropLooseFindings { s with jobs := s.jobs.filter fun row => row.id != key }
  | .issues => { s with issues := s.issues.filter fun row => toString row.id != key }
  | .metrics => { s with metrics := s.metrics.filter fun row => toString row.id != key }

/-- How many rows the tables have. -/
def sizes (s : Store) : Json :=
  .object [("users", .nat s.users.length), ("repositories", .nat s.repositories.length),
    ("analyses", .nat s.jobs.length), ("issues", .nat s.issues.length),
    ("metrics", .nat s.metrics.length)]

end Store

end AnalysisDesk
