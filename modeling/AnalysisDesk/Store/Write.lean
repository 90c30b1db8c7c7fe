/-
Writing the store.

Every write that changes a job's status is conditional: it happens only if the job stands where
the writer thinks it does, and the answer says whether it did.  Which steps a writer may attempt
at all is checked against the table of allowed steps before the store is touched.

A call returns its answer, or the reason why it fails, together with the store afterwards.
-/
import AnalysisDesk.Store.Query

namespace AnalysisDesk

/-- What became of the attempt to create a job. -/
inductive Creation where
  | created (job : Job)
  /-- The repository has an active job already. -/
  | active (id : JobId)
deriving DecidableEq, Inhabited

/-- One insert of a report's findings, by its place in the report. -/
inductive FindingSite where
  | issue (index : Nat)
  | metric (index : Nat)
deriving DecidableEq, Repr

namespace Store

/-- The answer of a call, or its failure, and the store afterwards. -/
abbrev Outcome (α : Type) : Type := Except StoreError α × Store

/-! ### Users and repositories -/

/-- Adds a user; no two have the same name. -/
def createUser (s : Store) (username : String) (now : Instant) : Outcome User :=
  if s.users.any fun row => row.username == username then (.error (.userNotInserted username), s)
  else
    let id := s.lastUser + 1
    let row : UserRow := ⟨id, username, now.stored⟩
    let s' := { s with users := s.users ++ [row], lastUser := id }
    match s'.user? id with
    | .error e => (.error e, s')
    | .ok none => (.error .userVanished, s')
    | .ok (some user) => (.ok user, s')

/-- Adds a repository to an existing user. -/
def createRepository (s : Store) (user : Int) (name cloneUrl defaultBranch : String)
    (now : Instant) : Outcome Repository :=
  if (s.userRow? user).isNone then (.error .repositoryNotInserted, s)
  else
    let id := s.lastRepository + 1
    let row : RepositoryRow := ⟨id, user, name, cloneUrl, defaultBranch, now.stored⟩
    let s' := { s with repositories := s.repositories ++ [row], lastRepository := id }
    match s'.repository? id with
    | .error e => (.error e, s')
    | .ok none => (.error .repositoryVanished, s')
    | .ok (some repository) => (.ok repository, s')

/-! ### Jobs -/

/-- The row of a new job. -/
def pendingRow (id : JobId) (job : NewJob) (now : Instant) : JobRow where
  id := id.text
  repositoryId := job.repositoryId
  cloneUrl := job.cloneUrl
  branch := job.branch
  commitSha := job.commitSha
  status := JobStatus.pending.label
  qualityScore := .empty
  maintainabilityIndex := .empty
  complexityScore := .empty
  securityRating := .empty
  issuesFound := .empty
  filesAnalyzed := .empty
  externalHandle := none
  error := none
  createdAt := now.stored
  dispatchedAt := none
  completedAt := none

/-- Adds a pending job, unless its repository has an active one. -/
def createJob (s : Store) (id : JobId) (job : NewJob) (now : Instant) : Outcome Creation :=
  match s.activeJob? job.repositoryId with
  | .error e => (.error e, s)
  | .ok (some existing) => (.ok (.active existing), s)
  | .ok none =>
    if (s.jobRow? id).isSome || (s.repositoryRow? job.repositoryId).isNone then
      (.error (.jobRefused job.repositoryId), s)
    else
      let s' := { s with jobs := s.jobs ++ [pendingRow id job now] }
      match s'.job? id with
      | .error e => (.error e, s')
      | .ok none => (.error .jobVanished, s')
      | .ok (some created) => (.ok (.created created), s')

/-- The first step of a list that is not allowed. -/
def illegalStep? (sources : List JobStatus) (target : JobStatus) : Option StoreError :=
  (sources.find? fun source => !source.canBecome target).map fun source =>
    .illegalStep source target

/-- Whether a row is the job with an identifier and stands in one of the given statuses. -/
def standsIn (id : JobId) (sources : List JobStatus) (row : JobRow) : Bool :=
  row.id == id.text && sources.any fun source => row.status == source.label

/-- Changes the job with an identifier if it stands in one of the given statuses, and says whether
it does. -/
def changeJob (s : Store) (id : JobId) (sources : List JobStatus) (change : JobRow → JobRow) :
    Bool × Store :=
  if s.jobs.any (standsIn id sources) then
    (true, { s with jobs := s.jobs.map fun row => if standsIn id sources row then change row else row })
  else (false, s)

/-- The conditional step of a job to a status. -/
def step (s : Store) (id : JobId) (sources : List JobStatus) (target : JobStatus)
    (change : JobRow → JobRow) : Outcome Bool :=
  match illegalStep? sources target with
  | some e => (.error e, s)
  | none =>
    let (changed, s') :=
      s.changeJob id sources fun row => change { row with status := target.label }
    (.ok changed, s')

/-- A pending job has been taken by the analyzer under a handle. -/
def markDispatched (s : Store) (id : JobId) (handle : String) (now : Instant) : Outcome Bool :=
  s.step id [.pending] .processing fun row =>
    { row with externalHandle := some handle, dispatchedAt := some now.stored }

/-- Keeps the handle of a job that has none. -/
def recordHandle (s : Store) (id : JobId) (handle : String) : Outcome Unit :=
  (.ok (), { s with
    jobs := s.jobs.map fun row =>
      if row.id == id.text && row.externalHandle.isNone then
        { row with externalHandle := some handle }
      else row })

/-- A job has failed. -/
def failJob (s : Store) (id : JobId) (source : JobStatus) (reason : String) (now : Instant) :
    Outcome Bool :=
  s.step id [source] .failed fun row =>
    { row with error := some reason, completedAt := some now.stored }

/-- An active job is cancelled. -/
def cancelJob (s : Store) (id : JobId) (reason : String) (now : Instant) : Outcome Bool :=
  s.step id [.pending, .processing] .cancelled fun row =>
    { row with error := some reason, completedAt := some now.stored }

/-! ### Reports -/

/-- Adds an issue to a job. -/
def insertIssue (s : Store) (job : JobId) (issue : CheckedIssue) : Store :=
  let id := s.lastIssue + 1
  let row : IssueRow :=
    { id, jobId := job.text, severity := issue.severity.label
      severityRank := .value issue.severity.rank, category := issue.category, title := issue.title
      description := issue.description, suggestion := issue.suggestion, filePath := issue.filePath
      lineNumber := .ofOption issue.lineNumber }
  { s with issues := s.issues ++ [row], lastIssue := id }

/-- Adds a metric to a job; a NaN is no value and cannot be added. -/
def insertMetric (s : Store) (job : JobId) (metric : CheckedMetric) : Except StoreError Store :=
  if metric.value.isNaN then .error .metricNotInserted
  else
    let id := s.lastMetric + 1
    let row : MetricRow :=
      { id, jobId := job.text, metricType := metric.metricType, value := metric.value.kept
        filePath := metric.filePath }
    .ok { s with metrics := s.metrics ++ [row], lastMetric := id }

/-- Adds issues from index `index` on; the inserts at the `refused` places fail. -/
def insertIssues (refused : FindingSite → Bool) (job : JobId) :
    Nat → List CheckedIssue → Store → Except StoreError Store
  | _, [], s => .ok s
  | index, issue :: rest, s =>
    if refused (.issue index) then .error .issueNotInserted
    else insertIssues refused job (index + 1) rest (s.insertIssue job issue)

/-- Adds metrics from index `index` on; the inserts at the `refused` places fail. -/
def insertMetrics (refused : FindingSite → Bool) (job : JobId) :
    Nat → List CheckedMetric → Store → Except StoreError Store
  | _, [], s => .ok s
  | index, metric :: rest, s =>
    if refused (.metric index) then .error .metricNotInserted
    else
      match s.insertMetric job metric with
      | .error e => .error e
      | .ok s' => insertMetrics refused job (index + 1) rest s'

/-- What a report changes in the row of its job. -/
def reportedRow (report : CheckedReport) (now : Instant) (row : JobRow) : JobRow :=
  { row with
    qualityScore := keptOption report.qualityScore
    maintainabilityIndex := keptOption report.maintainabilityIndex
    complexityScore := keptOption report.complexityScore
    securityRating := keptOption report.securityRating
    issuesFound := .value report.issuesFound
    filesAnalyzed := .ofOption report.filesAnalyzed
    error := report.error
    completedAt := some now.stored }

/-- Writes a report and its findings, all of it or nothing: if an insert fails, the store is as it
was.  The answer is no, and nothing is written, when the job is not processing. -/
def applyReport (s : Store) (refused : FindingSite → Bool) (id : JobId) (report : CheckedReport)
    (now : Instant) : Outcome Bool :=
  match s.step id [.processing] report.status (reportedRow report now) with
  | (.error e, _) => (.error e, s)
  | (.ok false, _) => (.ok false, s)
  | (.ok true, updated) =>
    match insertIssues refused id 0 report.issues updated with
    | .error e => (.error e, s)
    | .ok withIssues =>
      match insertMetrics refused id 0 report.metrics withIssues with
      | .error e => (.error e, s)
      | .ok complete => (.ok true, complete)

/-- Every insert succeeds that can. -/
def noneRefused : FindingSite → Bool := fun _ => false

end Store

end AnalysisDesk
