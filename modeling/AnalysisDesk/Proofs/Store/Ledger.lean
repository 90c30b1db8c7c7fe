/-
What was written, as values.

A store keeps texts, and it keeps less than it was given: a time loses what is finer than
a millisecond, a zero loses its sign.  A ledger keeps what the operations were given, in
the types in which they were given it, and has no texts at all.  `Ledger.after` says what
each operation enters into it.

The store is the ledger, written out: `Operation.after_store` says that writing a ledger
out and running an operation may change places.  So after any operations the store holds
the rows of the ledger and nothing else, and what is read of it can be said of values.
-/
import AnalysisDesk.Proofs.Store.Onward
import AnalysisDesk.Proofs.Store.Readback

namespace AnalysisDesk

/-! ### Rows of values -/

/-- The row in which a user is kept. -/
def User.row (user : User) : UserRow := ⟨user.id, user.username, user.createdAt.stored⟩

/-- The row in which a repository is kept. -/
def Repository.row (repository : Repository) : RepositoryRow where
  id := repository.id
  userId := repository.userId
  name := repository.name
  cloneUrl := repository.cloneUrl
  defaultBranch := repository.defaultBranch
  createdAt := repository.createdAt.stored

/-- The row in which a job is kept. -/
def Job.row (job : Job) : JobRow where
  id := job.id.text
  repositoryId := job.repositoryId
  cloneUrl := job.cloneUrl
  branch := job.branch
  commitSha := job.commitSha
  status := job.status.label
  qualityScore := keptOption job.qualityScore
  maintainabilityIndex := keptOption job.maintainabilityIndex
  complexityScore := keptOption job.complexityScore
  securityRating := keptOption job.securityRating
  issuesFound := .ofOption job.issuesFound
  filesAnalyzed := .ofOption job.filesAnalyzed
  externalHandle := job.externalHandle
  error := job.error
  createdAt := job.createdAt.stored
  dispatchedAt := job.dispatchedAt.map Instant.stored
  completedAt := job.completedAt.map Instant.stored

/-- The row in which an issue is kept. -/
def Issue.row (issue : Issue) : IssueRow := Store.issueRow issue.jobId issue.id issue.content

/-- The row in which a metric is kept. -/
def Metric.row (metric : Metric) : MetricRow := Store.metricRow metric.jobId metric.id metric.content

/-- A job with a report on it. -/
def Job.reported (job : Job) (report : CheckedReport) (now : Instant) : Job :=
  { job with
    qualityScore := report.qualityScore
    maintainabilityIndex := report.maintainabilityIndex
    complexityScore := report.complexityScore
    securityRating := report.securityRating
    issuesFound := some report.issuesFound
    filesAnalyzed := report.filesAnalyzed
    error := report.error
    completedAt := some now }

/-- Whether a job has an identifier and one of several statuses. -/
def Job.standsIn (id : JobId) (sources : List JobStatus) (job : Job) : Bool :=
  job.id == id && sources.contains job.status

/-! ### Ledgers -/

/-- What was written of users, repositories, jobs, issues and metrics, in the order of insertion. -/
structure Ledger where
  users : List User
  repositories : List Repository
  jobs : List Job
  issues : List Issue
  metrics : List Metric

namespace Ledger

def empty : Ledger := ⟨[], [], [], [], []⟩

/-- The store that holds what is in a ledger. -/
def store (l : Ledger) : Store where
  users := l.users.map User.row
  repositories := l.repositories.map Repository.row
  jobs := l.jobs.map Job.row
  issues := l.issues.map Issue.row
  metrics := l.metrics.map Metric.row
  lastUser := l.users.length
  lastRepository := l.repositories.length
  lastIssue := l.issues.length
  lastMetric := l.metrics.length

/-- Some of the jobs are changed. -/
def edit (l : Ledger) (ready : Job → Bool) (change : Job → Job) : Ledger :=
  { l with jobs := l.jobs.map fun job => if ready job then change job else job }

/-- A job takes another status, if that is an allowed step from each of those it may stand in. -/
def step (l : Ledger) (id : JobId) (sources : List JobStatus) (target : JobStatus)
    (change : Job → Job) : Ledger :=
  if ∀ source ∈ sources, source.canBecome target = true then
    l.edit (Job.standsIn id sources) fun job => change { job with status := target }
  else l

/-- A job may be created: its repository exists and is idle, and its identifier is free. -/
def Admits (l : Ledger) (id : JobId) (job : NewJob) : Prop :=
  (∀ other ∈ l.jobs, other.repositoryId = job.repositoryId → other.status.isActive = false) ∧
    (∀ other ∈ l.jobs, other.id ≠ id) ∧
    ∃ repository ∈ l.repositories, repository.id = job.repositoryId

instance (l : Ledger) (id : JobId) (job : NewJob) : Decidable (l.Admits id job) :=
  inferInstanceAs (Decidable (_ ∧ _ ∧ _))

/-- A report may be written: its job is processing and may take its status, no insert fails, and no
metric is a NaN. -/
def Takes (l : Ledger) (refused : FindingSite → Bool) (id : JobId) (report : CheckedReport) : Prop :=
  (JobStatus.processing.canBecome report.status = true ∧
      l.jobs.any (Job.standsIn id [.processing]) = true) ∧
    (∀ place < report.issues.length, refused (.issue place) = false) ∧
    (∀ place < report.metrics.length, refused (.metric place) = false) ∧
    ∀ metric ∈ report.metrics, metric.value.isNaN = false

instance (l : Ledger) (refused : FindingSite → Bool) (id : JobId) (report : CheckedReport) :
    Decidable (l.Takes refused id report) :=
  inferInstanceAs (Decidable ((_ ∧ _) ∧ _ ∧ _ ∧ _))

/-- The findings of a report are added, with the numbers that come next. -/
def withFindings (l : Ledger) (id : JobId) (report : CheckedReport) : Ledger :=
  { l with
    issues := l.issues ++ report.issues.zipIdx.map fun entry =>
      Store.reportedIssue id (l.issues.length + entry.2 + 1) entry.1
    metrics := l.metrics ++ report.metrics.zipIdx.map fun entry =>
      ⟨l.metrics.length + entry.2 + 1, id, entry.1.metricType, entry.1.value, entry.1.filePath⟩ }

/-- What an operation enters into a ledger. -/
def after (now : Instant) (l : Ledger) : Store.Operation → Ledger
  | .createUser username =>
    if ∃ user ∈ l.users, user.username = username then l
    else { l with users := l.users ++ [⟨l.users.length + 1, username, now⟩] }
  | .createRepository owner name cloneUrl defaultBranch =>
    if ∃ user ∈ l.users, user.id = owner then
      { l with
        repositories := l.repositories ++
          [⟨l.repositories.length + 1, owner, name, cloneUrl, defaultBranch, now⟩] }
    else l
  | .createJob id job =>
    if l.Admits id job then { l with jobs := l.jobs ++ [Store.pendingJob id job now] } else l
  | .markDispatched id handle =>
    l.step id [.pending] .processing fun job =>
      { job with externalHandle := some handle, dispatchedAt := some now }
  | .recordHandle id handle =>
    l.edit (fun job => job.id == id && job.externalHandle.isNone) fun job =>
      { job with externalHandle := some handle }
  | .failJob id source reason =>
    l.step id [source] .failed fun job => { job with error := some reason, completedAt := some now }
  | .cancelJob id reason =>
    l.step id [.pending, .processing] .cancelled fun job =>
      { job with error := some reason, completedAt := some now }
  | .applyReport refused id report =>
    if l.Takes refused id report then
      (l.step id [.processing] report.status fun job => job.reported report now).withFindings id report
    else l

/-- The ledger after some operations. -/
def afterAll (l : Ledger) (ops : List (Store.Operation × Instant)) : Ledger :=
  ops.foldl (fun l op => l.after op.2 op.1) l

/-! ### Writing out -/

variable {l : Ledger} {id : JobId} {now : Instant}

theorem standsIn_row (id : JobId) (sources : List JobStatus) (job : Job) :
    Store.standsIn id sources job.row = job.standsIn id sources := by
  rw [Bool.eq_iff_iff, Store.standsIn_iff, Job.standsIn, Bool.and_eq_true, beq_iff_eq,
    List.contains_iff_mem]
  show job.id.text = id.text ∧ (∃ source ∈ sources, job.status.label = source.label) ↔ _
  simp only [JobId.text_inj, JobStatus.label_inj, exists_eq_right']

/-- Rows are changed as their values are. -/
theorem edit_store (l : Ledger) {ready : JobRow → Bool} {readyJob : Job → Bool}
    {change : JobRow → JobRow} {changeJob : Job → Job}
    (hready : ∀ job : Job, ready job.row = readyJob job)
    (hchange : ∀ job : Job, change job.row = (changeJob job).row) :
    (l.edit readyJob changeJob).store
      = { l.store with
          jobs := l.store.jobs.map fun row => if ready row then change row else row } := by
  have hjobs : (l.jobs.map fun job => if readyJob job then changeJob job else job).map Job.row
      = (l.jobs.map Job.row).map fun row => if ready row then change row else row := by
    rw [List.map_map, List.map_map]
    refine List.map_congr_left fun job _ => ?_
    simp only [Function.comp_apply, hready, hchange]
    split <;> rfl
  exact congrArg (fun jobs => { l.store with jobs := jobs }) hjobs

/-- A conditional step is taken by the store as by the ledger, and its answer is whether the ledger
has the job. -/
theorem step_store (id : JobId) (sources : List JobStatus) (target : JobStatus)
    {change : JobRow → JobRow} {changeJob : Job → Job}
    (hchange : ∀ job : Job, change job.row = (changeJob job).row) :
    (l.store.step id sources target change).2 = (l.step id sources target changeJob).store ∧
      ((∀ source ∈ sources, source.canBecome target = true) →
        l.store.step id sources target change
          = (.ok (l.jobs.any (Job.standsIn id sources)),
            (l.step id sources target changeJob).store)) := by
  by_cases hlegal : ∀ source ∈ sources, source.canBecome target = true
  · have hany : l.store.jobs.any (Store.standsIn id sources)
        = l.jobs.any (Job.standsIn id sources) := by
      show (l.jobs.map Job.row).any _ = _
      rw [List.any_map]
      exact congrArg l.jobs.any (funext fun job => standsIn_row id sources job)
    have hedited : (l.step id sources target changeJob).store
        = { l.store with
            jobs := l.store.jobs.map fun row =>
              if Store.standsIn id sources row then change { row with status := target.label }
              else row } := by
      rw [step, if_pos hlegal]
      exact l.edit_store (fun job => standsIn_row id sources job)
        fun job => hchange { job with status := target }
    have hstep : l.store.step id sources target change
        = (.ok (l.jobs.any (Job.standsIn id sources)),
          (l.step id sources target changeJob).store) := by
      rw [Store.step, Store.illegalStep?_eq_none_iff.mpr hlegal, Store.changeJob, hany, hedited]
      cases hfound : l.jobs.any (Job.standsIn id sources) with
      | true => rfl
      | false =>
          have hsame : (l.store.jobs.map fun row =>
              if Store.standsIn id sources row then change { row with status := target.label }
              else row) = l.store.jobs := by
            rw [← hany, List.any_eq_false] at hfound
            refine (List.map_congr_left fun row hrow => if_neg ?_).trans (List.map_id _)
            exact hfound row hrow
          rw [hsame]
          rfl
    exact ⟨congrArg Prod.snd hstep, fun _ => hstep⟩
  · refine ⟨?_, fun h => absurd h hlegal⟩
    rw [step, if_neg hlegal, Store.step]
    cases hill : Store.illegalStep? sources target with
    | none => exact absurd (Store.illegalStep?_eq_none_iff.mp hill) hlegal
    | some e => rfl

theorem withFindings_store (l : Ledger) (id : JobId) (report : CheckedReport) :
    (l.withFindings id report).store = l.store.withFindings id report := by
  have hissues : Store.issueRows id l.issues.length report.issues
      = report.issues.zipIdx.map fun entry =>
          Store.issueRow id (l.issues.length + entry.2 + 1) entry.1 :=
    eq_map_zipIdx (fun _ => rfl) (fun _ _ _ => rfl) _ _
  have hmetrics : Store.metricRows id l.metrics.length report.metrics
      = report.metrics.zipIdx.map fun entry =>
          Store.metricRow id (l.metrics.length + entry.2 + 1) entry.1 :=
    eq_map_zipIdx (fun _ => rfl) (fun _ _ _ => rfl) _ _
  unfold withFindings store Store.withFindings
  simp only [List.map_append, List.map_map, List.length_append, List.length_map,
    List.length_zipIdx, Int.natCast_add, hissues, hmetrics]
  rfl

/-- A report is written to the store as to the ledger. -/
theorem applyReport_store (l : Ledger) (refused : FindingSite → Bool) (id : JobId)
    (report : CheckedReport) (now : Instant) :
    (l.store.applyReport refused id report now).2
      = (l.after now (.applyReport refused id report)).store := by
  have hchange : ∀ job : Job,
      Store.reportedRow report now job.row = (job.reported report now).row := fun _ => rfl
  obtain ⟨-, hstep⟩ := step_store (l := l) id [.processing] report.status hchange
  rw [List.forall_mem_singleton] at hstep
  show _ = (if l.Takes refused id report then _ else l).store
  by_cases htaken : JobStatus.processing.canBecome report.status = true ∧
      l.jobs.any (Job.standsIn id [.processing]) = true
  · obtain ⟨hlegal, hany⟩ := htaken
    unfold Store.applyReport
    rw [hstep hlegal, hany]
    dsimp only
    have hissues := @Store.exists_insertIssues_iff id refused report.issues 0
      (l.step id [.processing] report.status fun job => job.reported report now).store
    cases hinsert : Store.insertIssues refused id 0 report.issues
        (l.step id [.processing] report.status fun job => job.reported report now).store with
    | error e =>
        rw [if_neg]
        rintro ⟨-, hplaces, -⟩
        obtain ⟨s', hs'⟩ := hissues.mpr (by simpa using hplaces)
        rw [hinsert] at hs'
        exact nomatch hs'
    | ok withIssues =>
        have hmetrics := @Store.exists_insertMetrics_iff id refused report.metrics 0 withIssues
        have hplaces := hissues.mp ⟨withIssues, hinsert⟩
        dsimp only
        cases hinsert' : Store.insertMetrics refused id 0 report.metrics withIssues with
        | error e =>
            rw [if_neg]
            rintro ⟨-, -, hplaces', hnumbers⟩
            obtain ⟨s', hs'⟩ := hmetrics.mpr ⟨by simpa using hplaces', hnumbers⟩
            rw [hinsert'] at hs'
            exact nomatch hs'
        | ok complete =>
            obtain ⟨hplaces', hnumbers⟩ := hmetrics.mp ⟨complete, hinsert'⟩
            rw [if_pos ⟨⟨hlegal, hany⟩, by simpa using hplaces, by simpa using hplaces', hnumbers⟩,
              withFindings_store, Store.insertMetrics_ok _ _ hinsert',
              Store.insertIssues_ok _ _ hinsert]
            rfl
  · rw [if_neg fun h => htaken h.1]
    unfold Store.applyReport
    by_cases hlegal : JobStatus.processing.canBecome report.status = true
    · have hany : l.jobs.any (Job.standsIn id [.processing]) = false :=
        Bool.eq_false_iff.mpr fun h => htaken ⟨hlegal, h⟩
      rw [hstep hlegal, hany]
    · have hill : ¬ ∀ source ∈ [JobStatus.processing], source.canBecome report.status = true := by
        rwa [List.forall_mem_singleton]
      rw [Store.step]
      cases hfirst : Store.illegalStep? [.processing] report.status with
      | none => exact absurd (Store.illegalStep?_eq_none_iff.mp hfirst) hill
      | some e => rfl

end Ledger

namespace Store

variable {l : Ledger} {now : Instant}

/-- **Writing out a ledger and running an operation may change places.** -/
theorem Operation.after_store (l : Ledger) (op : Operation) (now : Instant) :
    op.after now l.store = (l.after now op).store := by
  cases op with
  | createUser username =>
      have htaken : (l.store.users.any fun row => row.username == username) = true ↔
          ∃ user ∈ l.users, user.username = username := by
        show ((l.users.map User.row).any _) = true ↔ _
        simp [User.row]
      show (l.store.createUser username now).2 = (if _ then l else _).store
      unfold Store.createUser
      by_cases h : ∃ user ∈ l.users, user.username = username
      · rw [if_pos h, if_pos (htaken.mpr h)]
      · rw [if_neg h, if_neg (mt htaken.mp h)]
        dsimp only
        split <;> simp [Ledger.store, User.row]
  | createRepository owner name cloneUrl defaultBranch =>
      have hexists : (l.store.userRow? owner).isNone = true ↔
          ¬ ∃ user ∈ l.users, user.id = owner := by
        show ((l.users.map User.row).find? _).isNone = true ↔ _
        simp [User.row]
      show (l.store.createRepository owner name cloneUrl defaultBranch now).2
        = (if _ then _ else l).store
      unfold Store.createRepository
      by_cases h : ∃ user ∈ l.users, user.id = owner
      · rw [if_pos h, if_neg fun hc => hexists.mp hc h]
        dsimp only
        split <;> simp [Ledger.store, Repository.row]
      · rw [if_neg h, if_pos (hexists.mpr h)]
  | createJob id job =>
      have hnamed : ∀ row ∈ l.store.jobs, ∃ id : JobId, row.id = id.text := by
        intro row hrow
        obtain ⟨kept, -, rfl⟩ := List.mem_map.mp hrow
        exact ⟨kept.id, rfl⟩
      have hactive : ∀ other : Job, other.row.isActive = other.status.isActive := fun other =>
        JobRow.isActive_of_status rfl
      have hadmits : l.Admits id job ↔
          (∀ row ∈ l.store.jobs, row.repositoryId = job.repositoryId → row.isActive = false) ∧
            l.store.jobRow? id = none ∧ (l.store.repositoryRow? job.repositoryId).isSome = true := by
        have hrepository : (l.store.repositoryRow? job.repositoryId).isSome = true ↔
            ∃ repository ∈ l.repositories, repository.id = job.repositoryId := by
          show ((l.repositories.map Repository.row).find? _).isSome = true ↔ _
          simp [Repository.row]
        rw [Ledger.Admits, jobRow?_eq_none_iff, hrepository]
        show _ ↔ (∀ row ∈ l.jobs.map Job.row, _) ∧ (∀ row ∈ l.jobs.map Job.row, _) ∧ _
        rw [List.forall_mem_map, List.forall_mem_map]
        simp only [hactive, ne_eq, show ∀ other : Job, other.row.id = other.id.text from fun _ => rfl,
          JobId.text_inj]
        rfl
      show (l.store.createJob id job now).2 = (if l.Admits id job then _ else l).store
      have hcreate := createJob_outcome hnamed id job now
      generalize l.store.createJob id job now = outcome at hcreate ⊢
      cases hcreate with
      | active row hmem hrepository hrow =>
          rw [if_neg fun h => ?_]
          exact Bool.noConfusion (hrow.symm.trans ((hadmits.mp h).1 row hmem hrepository))
      | refused hidle hbad =>
          rw [if_neg fun h => ?_]
          obtain ⟨-, hnew, hhoused⟩ := hadmits.mp h
          rcases hbad with hbad | hbad
          · exact hbad hnew
          · rw [hbad] at hhoused
            exact Bool.noConfusion hhoused
      | created hidle hnew hrepository =>
          rw [if_pos (hadmits.mpr ⟨hidle, hnew, hrepository⟩)]
          show { l.store with jobs := l.jobs.map Job.row ++ [(pendingJob id job now).row] } = _
          rw [← List.map_singleton, ← List.map_append]
          rfl
  | markDispatched id handle => exact (Ledger.step_store id _ _ fun _ => rfl).1
  | recordHandle id handle =>
      have hready : ∀ job : Job, (job.row.id == id.text && job.row.externalHandle.isNone)
          = (job.id == id && job.externalHandle.isNone) := fun job => by
        rw [Bool.eq_iff_iff, Bool.and_eq_true, Bool.and_eq_true, beq_iff_eq, beq_iff_eq]
        exact and_congr_left fun _ => JobId.text_inj
      exact (l.edit_store hready fun _ => rfl).symm
  | failJob id source reason => exact (Ledger.step_store id _ _ fun _ => rfl).1
  | cancelJob id reason => exact (Ledger.step_store id _ _ fun _ => rfl).1
  | applyReport refused id report => exact Ledger.applyReport_store l refused id report now

/-- **After any operations the store holds what is in the ledger.** -/
theorem afterAll_store (l : Ledger) (ops : List (Operation × Instant)) :
    l.store.afterAll ops = (l.afterAll ops).store := by
  induction ops generalizing l with
  | nil => rfl
  | cons op rest ih =>
      show (op.1.after op.2 l.store).afterAll rest = ((l.after op.2 op.1).afterAll rest).store
      rw [op.1.after_store l op.2]
      exact ih (l.after op.2 op.1)

end Store

end AnalysisDesk
