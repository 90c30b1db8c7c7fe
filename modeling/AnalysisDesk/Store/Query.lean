/-
Reading the store.

A query picks rows, puts them in order and reads them.  It fails with the first of the picked rows
that cannot be read.  Rows that are only counted are not read.
-/
import AnalysisDesk.Store.Error

namespace AnalysisDesk

/-- Which issues of a job are wanted. -/
structure IssueFilter where
  severity : Option Severity
  category : Option String
deriving DecidableEq, Repr, Inhabited

/-- Which metrics of a job are wanted. -/
structure MetricFilter where
  metricType : Option String
  filePath : Option String
deriving DecidableEq, Repr, Inhabited

/-- A part of a listing: at most `limit` rows after the first `offset`. -/
structure Window where
  limit : Nat
  offset : Nat
deriving DecidableEq, Repr, Inhabited

namespace Window

/-- Offsets that have no room in sixty-four bits with sign count as none. -/
def start (w : Window) : Nat := if Limit.holds64 w.offset then w.offset else 0

/-- The rows that lie in the window. -/
def cut {α : Type} (w : Window) (rows : List α) : List α := (rows.drop w.start).take w.limit

end Window

/-- Whether a text is what an optional criterion asks for. -/
def meets (criterion : Option String) (text : String) : Bool :=
  match criterion with
  | none => true
  | some wanted => text == wanted

namespace IssueFilter

def all : IssueFilter := ⟨none, none⟩

def admits (f : IssueFilter) (row : IssueRow) : Bool :=
  meets (f.severity.map Severity.label) row.severity && meets f.category row.category

end IssueFilter

namespace MetricFilter

def all : MetricFilter := ⟨none, none⟩

def admits (f : MetricFilter) (row : MetricRow) : Bool :=
  meets f.metricType row.metricType &&
    match f.filePath with
    | none => true
    | some wanted => row.filePath == some wanted

end MetricFilter

namespace Store

/-! ### Users and repositories -/

/-- The only row of a list that is read, if there is one. -/
def readOne {α β : Type} (read : α → Except StoreError β) (row : Option α) :
    Except StoreError (Option β) :=
  match row with
  | none => .ok none
  | some row => (read row).map some

def userRow? (s : Store) (id : Int) : Option UserRow := s.users.find? fun row => row.id == id

def repositoryRow? (s : Store) (id : Int) : Option RepositoryRow :=
  s.repositories.find? fun row => row.id == id

/-- The user with an id. -/
def user? (s : Store) (id : Int) : Except StoreError (Option User) :=
  readOne UserRow.read (s.userRow? id)

/-- The repository with an id. -/
def repository? (s : Store) (id : Int) : Except StoreError (Option Repository) :=
  readOne RepositoryRow.read (s.repositoryRow? id)

/-- The repository with an id, provided the user owns it. -/
def ownedRepository? (s : Store) (id user : Int) : Except StoreError (Option Repository) :=
  readOne RepositoryRow.read (s.repositories.find? fun row => row.id == id && row.userId == user)

/-- A user's repositories by id. -/
def repositoriesOf (s : Store) (user : Int) : Except StoreError (List Repository) :=
  readAll RepositoryRow.read
    ((s.repositories.filter fun row => row.userId == user).mergeSort fun a b => a.id ≤ b.id)

/-! ### Jobs -/

/-- Whether a user owns the repository of a job. -/
def owns (s : Store) (user : Int) (row : JobRow) : Bool :=
  s.repositories.any fun repository =>
    repository.id == row.repositoryId && repository.userId == user

def jobRow? (s : Store) (id : JobId) : Option JobRow := s.jobs.find? fun row => row.id == id.text

/-- The job with an identifier. -/
def job? (s : Store) (id : JobId) : Except StoreError (Option Job) :=
  readOne JobRow.read (s.jobRow? id)

/-- The job with an identifier, provided the user owns its repository. -/
def ownedJob? (s : Store) (id : JobId) (user : Int) : Except StoreError (Option Job) :=
  readOne JobRow.read (s.jobs.find? fun row => row.id == id.text && s.owns user row)

/-- The row of a repository's active job. -/
def activeRow? (s : Store) (repository : Int) : Option JobRow :=
  s.jobs.find? fun row => row.repositoryId == repository && row.isActive

/-- The identifier of a repository's active job. -/
def activeJob? (s : Store) (repository : Int) : Except StoreError (Option JobId) :=
  match s.activeRow? repository with
  | none => .ok none
  | some row => (readJobId row.id).map some

/-- Rows from the youngest to the oldest; of rows created in the same millisecond the one that
was inserted later comes first. -/
def newestFirst (rows : List JobRow) : List JobRow :=
  rows.reverse.mergeSort fun a b => b.createdAt ≤ a.createdAt

/-- Rows from the oldest to the youngest; rows created in the same millisecond keep the order of
their insertion. -/
def oldestFirst (rows : List JobRow) : List JobRow :=
  rows.mergeSort fun a b => a.createdAt ≤ b.createdAt

def repositoryJobRows (s : Store) (repository : Int) : List JobRow :=
  s.jobs.filter fun row => row.repositoryId == repository

def userJobRows (s : Store) (user : Int) : List JobRow := s.jobs.filter fun row => s.owns user row

/-- A part of a repository's jobs, newest first, and how many there are in all. -/
def jobsOfRepository (s : Store) (repository : Int) (w : Window) :
    Except StoreError (List Job × Nat) :=
  let rows := s.repositoryJobRows repository
  (readAll JobRow.read (w.cut (newestFirst rows))).map fun jobs => (jobs, rows.length)

/-- A part of a user's jobs in all repositories, newest first, and how many there are in all. -/
def recentJobsOf (s : Store) (user : Int) (w : Window) : Except StoreError (List Job × Nat) :=
  let rows := s.userJobRows user
  (readAll JobRow.read (w.cut (newestFirst rows))).map fun jobs => (jobs, rows.length)

/-- A user's jobs in all repositories, oldest first. -/
def jobsOf (s : Store) (user : Int) : Except StoreError (List Job) :=
  readAll JobRow.read (oldestFirst (s.userJobRows user))

/-- The jobs that the analyzer works on. -/
def processingJobs (s : Store) : Except StoreError (List Job) :=
  readAll JobRow.read (s.jobs.filter fun row => row.status == JobStatus.processing.label)

/-- Whether an active job has waited since before the cutoff, both as stored texts: a processing
one since it was dispatched, a pending one since it was created. -/
def isStale (cutoff : String) (row : JobRow) : Bool :=
  (row.status == JobStatus.processing.label && row.dispatchedAt.getD row.createdAt < cutoff) ||
    (row.status == JobStatus.pending.label && row.createdAt < cutoff)

/-- The active jobs that have waited since before the cutoff. -/
def staleJobs (s : Store) (cutoff : Instant) : Except StoreError (List Job) :=
  readAll JobRow.read (s.jobs.filter (isStale cutoff.stored))

/-! ### Findings -/

/-- Worst first, then by line with unknown lines last, then in the order of insertion. -/
def issueBefore (a b : IssueRow) : Bool :=
  let rank := compareLex (compareOn (·.1)) (compareOn (·.2)) a.severityRank.key b.severityRank.key
  let unknown := compare a.lineNumber.isEmpty b.lineNumber.isEmpty
  let line := compareLex (compareOn (·.1)) (compareOn (·.2)) a.lineNumber.key b.lineNumber.key
  (rank.then (unknown.then (line.then (compare a.id b.id)))).isLE

/-- Greatest value first, then in the order of insertion. -/
def metricBefore (a b : MetricRow) : Bool :=
  let value := compareLex (compareOn (·.1)) (compareOn (·.2)) b.value.realKey a.value.realKey
  (value.then (compare a.id b.id)).isLE

def issueRowsOf (s : Store) (job : JobId) (filter : IssueFilter) : List IssueRow :=
  s.issues.filter fun row => row.jobId == job.text && filter.admits row

/-- The issues of a job, or a part of them, and how many there are in all. -/
def issuesOf (s : Store) (job : JobId) (filter : IssueFilter) (w : Option Window) :
    Except StoreError (List Issue × Nat) :=
  let rows := s.issueRowsOf job filter
  let sorted := rows.mergeSort issueBefore
  let part := match w with
    | none => sorted
    | some w => w.cut sorted
  (readAll IssueRow.read part).map fun issues => (issues, rows.length)

/-- The metrics of a job. -/
def metricsOf (s : Store) (job : JobId) (filter : MetricFilter) : Except StoreError (List Metric) :=
  readAll MetricRow.read
    ((s.metrics.filter fun row => row.jobId == job.text && filter.admits row).mergeSort metricBefore)

/-- Puts a text in its place among ascending ones and counts it. -/
def tally (text : String) : List (String × Nat) → List (String × Nat)
  | [] => [(text, 1)]
  | entry :: rest =>
    if text = entry.1 then (entry.1, entry.2 + 1) :: rest
    else if text < entry.1 then (text, 1) :: entry :: rest
    else entry :: tally text rest

/-- How often each text occurs, in ascending order. -/
def tallied (texts : List String) : List (String × Nat) :=
  texts.foldl (fun counts text => tally text counts) []

/-- The issues of a user's completed jobs. -/
def completedIssueRows (s : Store) (user : Int) : List IssueRow :=
  s.issues.filter fun issue =>
    s.jobs.any fun row =>
      row.id == issue.jobId && row.status == JobStatus.completed.label && s.owns user row

/-- How many issues of each severity a user's completed jobs have. -/
def severityCounts (s : Store) (user : Int) : Except StoreError (List (Severity × Nat)) :=
  readAll (fun entry => (readSeverity entry.1).map fun severity => (severity, entry.2))
    (tallied ((s.completedIssueRows user).map (·.severity)))

end Store

end AnalysisDesk
