/-
The store as a text.

A database file holds the five tables as one document.  Floating-point numbers are written by
their bits, so that every store reads back as it was.
-/
import AnalysisDesk.Json.Reading
import AnalysisDesk.Json.Writer
import AnalysisDesk.Store.Basic

namespace AnalysisDesk

namespace Saved

/-! ### Writing -/

def realJson (d : Double) : Json := .nat d.bits.toNat

/-- A column of numbers: what is no number of its kind stands in an object. -/
def slotJson {α : Type} (encode : α → Json) : Slot α → Json
  | .empty => .null
  | .value a => encode a
  | .foreign (.real d) => .object [("real", realJson d)]
  | .foreign (.text content) => .object [("text", .str content)]

def textJson : Option String → Json := .option .str

def userJson (row : UserRow) : Json :=
  .arr [.int row.id, .str row.username, .str row.createdAt]

def repositoryJson (row : RepositoryRow) : Json :=
  .arr [.int row.id, .int row.userId, .str row.name, .str row.cloneUrl, .str row.defaultBranch,
    .str row.createdAt]

def jobJson (row : JobRow) : Json :=
  .arr [.str row.id, .int row.repositoryId, .str row.cloneUrl, .str row.branch,
    textJson row.commitSha, .str row.status, slotJson realJson row.qualityScore,
    slotJson realJson row.maintainabilityIndex, slotJson realJson row.complexityScore,
    slotJson realJson row.securityRating, slotJson .int row.issuesFound,
    slotJson .int row.filesAnalyzed, textJson row.externalHandle, textJson row.error,
    .str row.createdAt, textJson row.dispatchedAt, textJson row.completedAt]

def issueJson (row : IssueRow) : Json :=
  .arr [.int row.id, .str row.jobId, .str row.severity, slotJson .int row.severityRank,
    .str row.category, .str row.title, textJson row.description, textJson row.suggestion,
    .str row.filePath, slotJson .int row.lineNumber]

def metricJson (row : MetricRow) : Json :=
  .arr [.int row.id, .str row.jobId, .str row.metricType, slotJson realJson row.value,
    textJson row.filePath]

def storeJson (s : Store) : Json :=
  .arr [.arr (s.users.map userJson), .arr (s.repositories.map repositoryJson),
    .arr (s.jobs.map jobJson), .arr (s.issues.map issueJson), .arr (s.metrics.map metricJson),
    .int s.lastUser, .int s.lastRepository, .int s.lastIssue, .int s.lastMetric]

/-! ### Reading -/

def real? : Json → Option Double
  | .int (.ofNat n) => if n ≤ Limit.word64 then some ⟨UInt64.ofNat n⟩ else none
  | _ => none

def slot? {α : Type} (decode : Json → Option α) : Json → Option (Slot α)
  | .null => some .empty
  | .obj [("real", value)] => (real? value).map fun d => .foreign (.real d)
  | .obj [("text", .str content)] => some (.foreign (.text content))
  | value => (decode value).map .value

def text? : Json → Option (Option String)
  | .null => some none
  | .str text => some (some text)
  | _ => none

def user? : Json → Option UserRow
  | .arr [.int id, .str username, .str createdAt] => some ⟨id, username, createdAt⟩
  | _ => none

def repository? : Json → Option RepositoryRow
  | .arr [.int id, .int userId, .str name, .str cloneUrl, .str defaultBranch, .str createdAt] =>
    some ⟨id, userId, name, cloneUrl, defaultBranch, createdAt⟩
  | _ => none

def job? : Json → Option JobRow
  | .arr [.str id, .int repositoryId, .str cloneUrl, .str branch, commitSha, .str status, quality,
      maintainability, complexity, security, issues, files, handle, error, .str createdAt,
      dispatchedAt, completedAt] => do
    some {
      id, repositoryId, cloneUrl, branch, status, createdAt
      commitSha := ← text? commitSha
      qualityScore := ← slot? real? quality
      maintainabilityIndex := ← slot? real? maintainability
      complexityScore := ← slot? real? complexity
      securityRating := ← slot? real? security
      issuesFound := ← slot? Json.int? issues
      filesAnalyzed := ← slot? Json.int? files
      externalHandle := ← text? handle
      error := ← text? error
      dispatchedAt := ← text? dispatchedAt
      completedAt := ← text? completedAt }
  | _ => none

def issue? : Json → Option IssueRow
  | .arr [.int id, .str jobId, .str severity, rank, .str category, .str title, description,
      suggestion, .str filePath, lineNumber] => do
    some {
      id, jobId, severity, category, title, filePath
      severityRank := ← slot? Json.int? rank
      description := ← text? description
      suggestion := ← text? suggestion
      lineNumber := ← slot? Json.int? lineNumber }
  | _ => none

def metric? : Json → Option MetricRow
  | .arr [.int id, .str jobId, .str metricType, value, filePath] => do
    some ⟨id, jobId, metricType, ← slot? real? value, ← text? filePath⟩
  | _ => none

def store? : Json → Option Store
  | .arr [.arr users, .arr repositories, .arr jobs, .arr issues, .arr metrics, .int lastUser,
      .int lastRepository, .int lastIssue, .int lastMetric] => do
    some {
      users := ← users.mapM user?
      repositories := ← repositories.mapM repository?
      jobs := ← jobs.mapM job?
      issues := ← issues.mapM issue?
      metrics := ← metrics.mapM metric?
      lastUser, lastRepository, lastIssue, lastMetric }
  | _ => none

end Saved

/-- The text of a store. -/
def Store.save (s : Store) : String := (Saved.storeJson s).write

/-- The store that a text holds. -/
def Store.ofSaved? (text : String) : Option Store := (Json.read? text).bind Saved.store?

end AnalysisDesk
