/-
What a store can fail with.

Each failure has a message of its own and the messages of what lies behind it, innermost last.
-/
import AnalysisDesk.Store.Basic

namespace AnalysisDesk

/-- Why a call on the store fails. -/
inductive StoreError where
  /-- A user of that name exists. -/
  | userNotInserted (username : String)
  /-- The owner of a new repository does not exist. -/
  | repositoryNotInserted
  | userVanished
  | repositoryVanished
  | jobVanished
  /-- A new job's identifier is in use, or its repository does not exist. -/
  | jobRefused (repositoryId : Int)
  /-- A job cannot go from the one status to the other. -/
  | illegalStep (source target : JobStatus)
  | issueNotInserted
  | metricNotInserted
  /-- A column of a row holds something of another kind. -/
  | unreadableRow (table : String) (kind : String) (index : Nat) (column : String)
  | unknownStatus (text : String)
  | unknownSeverity (text : String)
  | badTimestamp (text : String) (fault : TimestampFault)
  | badJobId (text : String)
  /-- The time limit of jobs is longer than any span between two instants. -/
  | timeoutOutOfRange
  /-- The time limit reaches back beyond the earliest instant.  This stands for a subtraction of dates
  by which the program falls over, and a command that meets it collapses. -/
  | cutoffOutOfRange
deriving DecidableEq, Repr

namespace StoreError

/-- The failure's own message. -/
def message : StoreError → String
  | .userNotInserted username => "Failed to insert user '" ++ username ++ "'"
  | .repositoryNotInserted => "Failed to insert repository"
  | .userVanished => "User not found after insert"
  | .repositoryVanished => "Repository not found after insert"
  | .jobVanished => "Analysis not found after insert"
  | .jobRefused repositoryId =>
    "Constraint violation inserting analysis for repository " ++ toString repositoryId
  | .illegalStep source target =>
    "Illegal analysis transition " ++ source.label ++ " -> " ++ target.label
  | .issueNotInserted => "Failed to insert issue"
  | .metricNotInserted => "Failed to insert metric"
  | .unreadableRow table _ _ _ => "Failed to read " ++ table ++ " row"
  | .unknownStatus _ => "Failed to parse analysis status"
  | .unknownSeverity _ => "Failed to parse issue severity"
  | .badTimestamp text _ => "Invalid timestamp '" ++ text ++ "'"
  | .badJobId text => "Invalid analysis id '" ++ text ++ "'"
  | .timeoutOutOfRange => "Poll timeout out of range"
  | .cutoffOutOfRange => "`DateTime - TimeDelta` overflowed"

/-- The messages of what lies behind it. -/
def causes : StoreError → List String
  | .userNotInserted _ => ["UNIQUE constraint failed: users.username"]
  | .repositoryNotInserted => ["FOREIGN KEY constraint failed"]
  | .metricNotInserted => ["NOT NULL constraint failed: metrics.value"]
  | .unreadableRow _ kind index column =>
    ["Invalid column type " ++ kind ++ " at index: " ++ toString index ++ ", name: " ++ column]
  | .unknownStatus text => [JobStatus.unknownMessage text]
  | .unknownSeverity text => [Severity.unknownMessage text]
  | .badTimestamp _ fault => [fault.message]
  | .badJobId text => [(JobId.flaw text).message]
  | .timeoutOutOfRange => ["Source duration value is out of range for the target type"]
  | _ => []

/-- All the messages, outermost first. -/
def chain (e : StoreError) : String := ": ".intercalate (e.message :: e.causes)

end StoreError

/-! ### Reading rows -/

/-- Reads a stored timestamp. -/
def readTimestamp (text : String) : Except StoreError Instant :=
  match Timestamp.read text with
  | .ok t => .ok t
  | .error fault => .error (.badTimestamp text fault)

def readTimestamp? : Option String → Except StoreError (Option Instant)
  | none => .ok none
  | some text => (readTimestamp text).map some

/-- Reads a stored identifier. -/
def readJobId (text : String) : Except StoreError JobId :=
  match JobId.read? text with
  | some id => .ok id
  | none => .error (.badJobId text)

/-- Reads a stored severity. -/
def readSeverity (text : String) : Except StoreError Severity :=
  match Severity.ofLabel? text with
  | some severity => .ok severity
  | none => .error (.unknownSeverity text)

def readStatus (text : String) : Except StoreError JobStatus :=
  match JobStatus.ofLabel? text with
  | some status => .ok status
  | none => .error (.unknownStatus text)

/-- The kind of a foreign content. -/
def Foreign.kind : Foreign → String
  | .real _ => "Real"
  | .text _ => "Text"

/-- Reads an optional number from column `index` of a table. -/
def Slot.read {α : Type} (table : String) (index : Nat) (column : String) :
    Slot α → Except StoreError (Option α)
  | .empty => .ok none
  | .value a => .ok (some a)
  | .foreign content => .error (.unreadableRow table content.kind index column)

/-- Reads a number that has to be there. -/
def Slot.readValue {α : Type} (table : String) (index : Nat) (column : String) (slot : Slot α) :
    Except StoreError α :=
  match slot with
  | .empty => .error (.unreadableRow table "Null" index column)
  | .value a => .ok a
  | .foreign content => .error (.unreadableRow table content.kind index column)

namespace UserRow

def read (row : UserRow) : Except StoreError User := do
  let createdAt ← readTimestamp row.createdAt
  return ⟨row.id, row.username, createdAt⟩

end UserRow

namespace RepositoryRow

def read (row : RepositoryRow) : Except StoreError Repository := do
  let createdAt ← readTimestamp row.createdAt
  return ⟨row.id, row.userId, row.name, row.cloneUrl, row.defaultBranch, createdAt⟩

end RepositoryRow

namespace JobRow

/-- Reads a job: first all columns of numbers, then the status, the identifier and the times. -/
def read (row : JobRow) : Except StoreError Job := do
  let qualityScore ← row.qualityScore.read "analysis" 6 "quality_score"
  let maintainabilityIndex ← row.maintainabilityIndex.read "analysis" 7 "maintainability_index"
  let complexityScore ← row.complexityScore.read "analysis" 8 "complexity_score"
  let securityRating ← row.securityRating.read "analysis" 9 "security_rating"
  let issuesFound ← row.issuesFound.read "analysis" 10 "issues_found"
  let filesAnalyzed ← row.filesAnalyzed.read "analysis" 11 "files_analyzed"
  let status ← readStatus row.status
  let id ← readJobId row.id
  let createdAt ← readTimestamp row.createdAt
  let dispatchedAt ← readTimestamp? row.dispatchedAt
  let completedAt ← readTimestamp? row.completedAt
  return {
    id, repositoryId := row.repositoryId, cloneUrl := row.cloneUrl, branch := row.branch
    commitSha := row.commitSha, status, qualityScore, maintainabilityIndex, complexityScore
    securityRating, issuesFound, filesAnalyzed, externalHandle := row.externalHandle
    error := row.error, createdAt, dispatchedAt, completedAt }

end JobRow

namespace IssueRow

def read (row : IssueRow) : Except StoreError Issue := do
  let lineNumber ← row.lineNumber.read "issue" 8 "line_number"
  let severity ← readSeverity row.severity
  let jobId ← readJobId row.jobId
  return ⟨row.id, jobId, severity, row.category, row.title, row.description, row.suggestion,
    row.filePath, lineNumber⟩

end IssueRow

namespace MetricRow

def read (row : MetricRow) : Except StoreError Metric := do
  let value ← row.value.readValue "metric" 3 "value"
  let jobId ← readJobId row.jobId
  return ⟨row.id, jobId, row.metricType, value, row.filePath⟩

end MetricRow

/-- Reads rows in their order, up to the first that cannot be read. -/
def readAll {α β : Type} (read : α → Except StoreError β) : List α → Except StoreError (List β)
  | [] => .ok []
  | row :: rest =>
    match read row with
    | .error e => .error e
    | .ok b =>
      match readAll read rest with
      | .error e => .error e
      | .ok bs => .ok (b :: bs)

end AnalysisDesk
