/-
The store.

Five tables: users, repositories, jobs, issues and metrics.  Rows stand in the order in which
they were inserted.  Labels, identifiers and timestamps are kept as texts, so a row has to be read
before it is of use, and reading can fail: somebody may have changed the table by hand, or a year
may have more digits than a timestamp has room for.

A `Slot` is a column of numbers.  It is empty, holds a number, or holds something else that was
put there by hand.
-/
import AnalysisDesk.Job.Basic

namespace AnalysisDesk

/-- What a column of numbers holds when it is no number of its kind. -/
inductive Foreign where
  | real (value : Double)
  | text (content : String)
deriving DecidableEq, Repr, Inhabited

/-- A column of numbers. -/
inductive Slot (α : Type) where
  | empty
  | value (a : α)
  | foreign (content : Foreign)
deriving DecidableEq, Repr, Inhabited

namespace Slot

/-- The content of a column that takes an optional number. -/
def ofOption {α : Type} : Option α → Slot α
  | none => .empty
  | some a => .value a

/-- The place of a whole number among the contents of a column: empty ones come first, foreign
ones last. -/
def key : Slot Int → Nat × Int
  | .empty => (0, 0)
  | .value i => (1, i)
  | .foreign _ => (2, 0)

/-- The same for floating-point numbers. -/
def realKey : Slot Double → Nat × Int
  | .empty => (0, 0)
  | .value d => (1, d.numericKey)
  | .foreign _ => (2, 0)

def isEmpty {α : Type} : Slot α → Bool
  | .empty => true
  | _ => false

end Slot

/-- A number as a column of floating-point numbers keeps it: a NaN is no value, and zero has no
sign. -/
def Double.kept (d : Double) : Slot Double :=
  if d.isNaN then .empty else if d.isZero then .value .zero else .value d

def keptOption : Option Double → Slot Double
  | none => .empty
  | some d => d.kept

/-- A row of the table of users. -/
structure UserRow where
  id : Int
  username : String
  createdAt : String
deriving DecidableEq, Repr, Inhabited

/-- A row of the table of repositories. -/
structure RepositoryRow where
  id : Int
  userId : Int
  name : String
  cloneUrl : String
  defaultBranch : String
  createdAt : String
deriving DecidableEq, Repr, Inhabited

/-- A row of the table of jobs. -/
structure JobRow where
  id : String
  repositoryId : Int
  cloneUrl : String
  branch : String
  commitSha : Option String
  status : String
  qualityScore : Slot Double
  maintainabilityIndex : Slot Double
  complexityScore : Slot Double
  securityRating : Slot Double
  issuesFound : Slot Int
  filesAnalyzed : Slot Int
  externalHandle : Option String
  error : Option String
  createdAt : String
  dispatchedAt : Option String
  completedAt : Option String
deriving DecidableEq, Repr, Inhabited

/-- A row of the table of issues. -/
structure IssueRow where
  id : Int
  jobId : String
  severity : String
  severityRank : Slot Int
  category : String
  title : String
  description : Option String
  suggestion : Option String
  filePath : String
  lineNumber : Slot Int
deriving DecidableEq, Repr, Inhabited

/-- A row of the table of metrics. -/
structure MetricRow where
  id : Int
  jobId : String
  metricType : String
  value : Slot Double
  filePath : Option String
deriving DecidableEq, Repr, Inhabited

/-- The five tables, and the greatest row number that each numbered table has given out. -/
structure Store where
  users : List UserRow
  repositories : List RepositoryRow
  jobs : List JobRow
  issues : List IssueRow
  metrics : List MetricRow
  lastUser : Int
  lastRepository : Int
  lastIssue : Int
  lastMetric : Int
deriving DecidableEq, Repr

namespace Store

/-- The store without rows. -/
def empty : Store := ⟨[], [], [], [], [], 0, 0, 0, 0⟩

instance : Inhabited Store := ⟨empty⟩

end Store

/-- Whether a row's status is one of the two active labels. -/
def JobRow.isActive (row : JobRow) : Bool :=
  row.status = JobStatus.pending.label || row.status = JobStatus.processing.label

end AnalysisDesk
