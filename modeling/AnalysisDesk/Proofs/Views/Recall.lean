/-
What is read is what was written.

A ledger keeps what operations were given; the store holds it written out.  Reading takes
the texts apart again, and nothing is lost but what the store does not keep: `kept` cuts
times to milliseconds and takes the sign from a zero.  That it succeeds needs two things
of the values: a year of four digits in each time, and no score or metric that is infinite
or no number.  Operations at such instants with reports that were checked give no others,
`Keepable.afterAll`.

From there on each read is the same exchange: what it does with rows, it does with values,
because labels, identifiers and stored times compare as what they stand for.
-/
import AnalysisDesk.Proofs.Store.Ledger
import AnalysisDesk.Proofs.Views.Statistics

namespace AnalysisDesk

/-! ### Values that can be kept -/

/-- A user as it is read back. -/
def User.kept (user : User) : User := { user with createdAt := user.createdAt.cut }

/-- A repository as it is read back. -/
def Repository.kept (repository : Repository) : Repository :=
  { repository with createdAt := repository.createdAt.cut }

/-- A job as it is read back. -/
def Job.kept (job : Job) : Job :=
  { job with
    qualityScore := job.qualityScore.map Double.readBack
    maintainabilityIndex := job.maintainabilityIndex.map Double.readBack
    complexityScore := job.complexityScore.map Double.readBack
    securityRating := job.securityRating.map Double.readBack
    createdAt := job.createdAt.cut
    dispatchedAt := job.dispatchedAt.map Instant.cut
    completedAt := job.completedAt.map Instant.cut }

/-- A metric as it is read back. -/
def Metric.kept (metric : Metric) : Metric := { metric with value := metric.value.readBack }

/-- A job whose times have room in timestamps and whose scores are numbers. -/
structure Job.Keepable (job : Job) : Prop where
  createdAt : job.createdAt.HasPlainYear
  dispatchedAt : ∀ t, job.dispatchedAt = some t → t.HasPlainYear
  completedAt : ∀ t, job.completedAt = some t → t.HasPlainYear
  finite : ∀ score ∈ [job.qualityScore, job.maintainabilityIndex, job.complexityScore,
    job.securityRating], ∀ value, score = some value → value.isFinite = true

/-- A ledger everything in which can be kept. -/
structure Ledger.Keepable (l : Ledger) : Prop where
  users : ∀ user ∈ l.users, user.createdAt.HasPlainYear
  repositories : ∀ repository ∈ l.repositories, repository.createdAt.HasPlainYear
  jobs : ∀ job ∈ l.jobs, job.Keepable
  metrics : ∀ metric ∈ l.metrics, metric.value.isFinite = true

/-- An operation that writes no report but one that was checked. -/
def Store.Operation.IsChecked : Store.Operation → Prop
  | .applyReport _ _ report => ∃ given : Report, given.check = .ok report
  | _ => True

namespace Ledger

variable {l : Ledger} {now : Instant}

theorem Keepable.edit (h : l.Keepable) {ready : Job → Bool} {change : Job → Job}
    (hchange : ∀ job : Job, job.Keepable → (change job).Keepable) :
    (l.edit ready change).Keepable := by
  refine ⟨h.users, h.repositories, fun job hjob => ?_, h.metrics⟩
  obtain ⟨old, hold, rfl⟩ := List.mem_map.mp hjob
  split
  · exact hchange old (h.jobs old hold)
  · exact h.jobs old hold

theorem Keepable.step (h : l.Keepable) (id : JobId) (sources : List JobStatus) (target : JobStatus)
    {change : Job → Job} (hchange : ∀ job : Job, job.Keepable → (change job).Keepable) :
    (l.step id sources target change).Keepable := by
  unfold Ledger.step
  split
  · exact h.edit fun job hjob => hchange _ ⟨hjob.1, hjob.2, hjob.3, hjob.4⟩
  · exact h

private theorem keepable_dispatched {job : Job} (h : job.Keepable) (hyear : now.HasPlainYear)
    (handle : String) :
    ({ job with externalHandle := some handle, dispatchedAt := some now } : Job).Keepable :=
  ⟨h.createdAt, fun _ ht => Option.some.inj ht ▸ hyear, h.completedAt, h.finite⟩

private theorem keepable_completed {job : Job} (h : job.Keepable) (hyear : now.HasPlainYear)
    (reason : String) :
    ({ job with error := some reason, completedAt := some now } : Job).Keepable :=
  ⟨h.createdAt, h.dispatchedAt, fun _ ht => Option.some.inj ht ▸ hyear, h.finite⟩

/-- An operation enters nothing that cannot be kept. -/
theorem Keepable.after (h : l.Keepable) (hyear : now.HasPlainYear) {op : Store.Operation}
    (hchecked : op.IsChecked) : (l.after now op).Keepable := by
  cases op with
  | createUser username =>
      show (if _ then l else _ : Ledger).Keepable
      split
      · exact h
      · refine ⟨fun user huser => ?_, h.repositories, h.jobs, h.metrics⟩
        rcases List.mem_append.mp huser with hold | hnew
        · exact h.users user hold
        · rw [List.mem_singleton.mp hnew]
          exact hyear
  | createRepository owner name cloneUrl defaultBranch =>
      show (if _ then _ else l : Ledger).Keepable
      split
      · refine ⟨h.users, fun repository hrepository => ?_, h.jobs, h.metrics⟩
        rcases List.mem_append.mp hrepository with hold | hnew
        · exact h.repositories repository hold
        · rw [List.mem_singleton.mp hnew]
          exact hyear
      · exact h
  | createJob id job =>
      show (if _ then _ else l : Ledger).Keepable
      split
      · refine ⟨h.users, h.repositories, fun other hother => ?_, h.metrics⟩
        rcases List.mem_append.mp hother with hold | hnew
        · exact h.jobs other hold
        · rw [List.mem_singleton.mp hnew]
          refine ⟨hyear, fun _ ht => (nomatch ht), fun _ ht => (nomatch ht), ?_⟩
          simp [Store.pendingJob]
      · exact h
  | markDispatched id handle =>
      exact h.step id _ _ fun job hjob => keepable_dispatched hjob hyear handle
  | recordHandle id handle => exact h.edit fun job hjob => ⟨hjob.1, hjob.2, hjob.3, hjob.4⟩
  | failJob id source reason =>
      exact h.step id _ _ fun job hjob => keepable_completed hjob hyear reason
  | cancelJob id reason =>
      exact h.step id _ _ fun job hjob => keepable_completed hjob hyear reason
  | applyReport refused id report =>
      obtain ⟨given, hgiven⟩ := hchecked
      have hsound := Report.check_sound hgiven
      show (if _ then _ else l : Ledger).Keepable
      split
      · have hstep := h.step id [.processing] report.status fun job hjob =>
          (⟨hjob.createdAt, hjob.dispatchedAt, fun _ ht => Option.some.inj ht ▸ hyear,
            hsound.finite⟩ : (job.reported report now).Keepable)
        refine ⟨hstep.users, hstep.repositories, hstep.jobs, fun metric hmetric => ?_⟩
        rcases List.mem_append.mp hmetric with hold | hnew
        · exact hstep.metrics metric hold
        · obtain ⟨entry, hentry, rfl⟩ := List.mem_map.mp hnew
          exact hsound.metrics entry.1 (List.fst_mem_of_mem_zipIdx hentry)
      · exact h

/-- Operations in years of four digits with reports that were checked enter nothing that cannot be
kept. -/
theorem Keepable.afterAll {ops : List (Store.Operation × Instant)}
    (hyears : ∀ op ∈ ops, op.2.HasPlainYear) (hchecked : ∀ op ∈ ops, op.1.IsChecked)
    (h : l.Keepable) : (l.afterAll ops).Keepable := by
  induction ops generalizing l with
  | nil => exact h
  | cons op rest ih =>
      rw [List.forall_mem_cons] at hyears hchecked
      exact ih hyears.2 hchecked.2 (h.after hyears.1 hchecked.1)

theorem keepable_empty : empty.Keepable :=
  ⟨fun _ h => (nomatch h), fun _ h => (nomatch h), fun _ h => (nomatch h), fun _ h => nomatch h⟩

end Ledger

/-! ### Reading rows of values -/

theorem User.row_read {user : User} (h : user.createdAt.HasPlainYear) :
    user.row.read = .ok user.kept := by
  show (do let createdAt ← readTimestamp user.createdAt.stored; _) = _
  rw [readTimestamp_stored_eq h]
  rfl

theorem Repository.row_read {repository : Repository} (h : repository.createdAt.HasPlainYear) :
    repository.row.read = .ok repository.kept := by
  show (do let createdAt ← readTimestamp repository.createdAt.stored; _) = _
  rw [readTimestamp_stored_eq h]
  rfl

theorem Job.row_written (job : Job) : job.row.Written := by
  refine ⟨?_, ?_, ?_⟩
  · rintro text (htext | htext | htext)
    · exact ⟨job.createdAt, htext.symm⟩
    · obtain ⟨t, -, rfl⟩ := Option.map_eq_some_iff.mp htext
      exact ⟨t, rfl⟩
    · obtain ⟨t, -, rfl⟩ := Option.map_eq_some_iff.mp htext
      exact ⟨t, rfl⟩
  · simp only [JobRow.scores, Job.row, List.forall_mem_cons]
    exact ⟨isNative_keptOption _, isNative_keptOption _, isNative_keptOption _,
      isNative_keptOption _, List.forall_mem_nil _⟩
  · simp only [JobRow.counters, Job.row, List.forall_mem_cons]
    exact ⟨Slot.isNative_ofOption _, Slot.isNative_ofOption _, List.forall_mem_nil _⟩

theorem Job.Keepable.row_read {job : Job} (h : job.Keepable) : job.row.read = .ok job.kept := by
  have hid : job.row.id = job.id.text := rfl
  have hstatus : job.row.status = job.status.label := rfl
  have hfinite := h.finite
  simp only [List.forall_mem_cons] at hfinite
  obtain ⟨hquality, hmaintainability, hcomplexity, hsecurity, -⟩ := hfinite
  rw [job.row_written.read_eq hid hstatus]
  show (do
    let createdAt ← readTimestamp job.createdAt.stored
    let dispatchedAt ← readTimestamp? (job.dispatchedAt.map Instant.stored)
    let completedAt ← readTimestamp? (job.completedAt.map Instant.stored)
    return job.row.shown job.id job.status createdAt dispatchedAt completedAt) = _
  rw [readTimestamp_stored_eq h.createdAt, readTimestamp?_stored_eq h.dispatchedAt,
    readTimestamp?_stored_eq h.completedAt]
  refine congrArg Except.ok ?_
  unfold JobRow.shown Job.row Job.kept
  simp only [keptOption_value? hquality, keptOption_value? hmaintainability,
    keptOption_value? hcomplexity, keptOption_value? hsecurity, Slot.value?_ofOption]

theorem Issue.row_read (issue : Issue) : issue.row.read = .ok issue :=
  Store.issueRow_read issue.id issue.content

theorem Metric.row_read {metric : Metric} (h : metric.value.isFinite = true) :
    metric.row.read = .ok metric.kept := by
  have hcontent : metric.content.value.isFinite = true := h
  exact Store.metricRow_read hcontent metric.id

/-! ### Reads of values -/

/-- Whether a job is active and has waited since before the cutoff, to the millisecond. -/
def Job.isStale (cutoff : Instant) (job : Job) : Bool :=
  (job.status == .processing
      && (job.dispatchedAt.getD job.createdAt).stored < cutoff.stored)
    || (job.status == .pending && job.createdAt.stored < cutoff.stored)

/-- Issues by what they say, and then as they came. -/
def Issue.before (a b : Issue) : Bool :=
  ((a.content.order b.content).then (compare a.id b.id)).isLE

/-- Metrics by their values, and then as they came. -/
def Metric.before (a b : Metric) : Bool :=
  ((a.content.order b.content).then (compare a.id b.id)).isLE

namespace Ledger

/-- Whether a user owns the repository of a job. -/
def owns (l : Ledger) (user : Int) (job : Job) : Bool :=
  l.repositories.any fun repository =>
    repository.id == job.repositoryId && repository.userId == user

/-- Jobs from the youngest to the oldest, to the millisecond; of jobs that were created in the same
millisecond the one that came later stands first. -/
def newestFirst (jobs : List Job) : List Job :=
  jobs.reverse.mergeSort fun a b => b.createdAt.millis ≤ a.createdAt.millis

/-- Jobs from the oldest to the youngest; those of one millisecond stay as they came. -/
def oldestFirst (jobs : List Job) : List Job :=
  jobs.mergeSort fun a b => a.createdAt.millis ≤ b.createdAt.millis

def repositoryJobs (l : Ledger) (repository : Int) : List Job :=
  l.jobs.filter fun job => job.repositoryId == repository

def userJobs (l : Ledger) (user : Int) : List Job := l.jobs.filter fun job => l.owns user job

/-- The issues of a job that a filter asks for. -/
def issuesOf (l : Ledger) (job : JobId) (filter : IssueFilter) : List Issue :=
  (l.issues.filter fun issue => issue.jobId == job && filter.wants issue).mergeSort Issue.before

/-- The metrics of a job that a filter asks for. -/
def metricsOf (l : Ledger) (job : JobId) (filter : MetricFilter) : List Metric :=
  (l.metrics.filter fun metric => metric.jobId == job && filter.wants metric).mergeSort Metric.before

/-- The issues of a user's completed jobs. -/
def completedIssues (l : Ledger) (user : Int) : List Issue :=
  l.issues.filter fun issue =>
    l.jobs.any fun job => job.id == issue.jobId && job.status == .completed && l.owns user job

end Ledger

/-! ### What a store tells -/

namespace Store

/-- Each row is read as what was last written to each of its columns. -/
structure RowsTell (s : Store) (l : Ledger) : Prop where
  users : s.users.map UserRow.read = l.users.map fun user => .ok user.kept
  repositories : s.repositories.map RepositoryRow.read
    = l.repositories.map fun repository => .ok repository.kept
  jobs : s.jobs.map JobRow.read = l.jobs.map fun job => .ok job.kept
  issues : s.issues.map IssueRow.read = l.issues.map .ok
  metrics : s.metrics.map MetricRow.read = l.metrics.map fun metric => .ok metric.kept

/-- What is looked up is found as it was written. -/
structure LookupsTell (s : Store) (l : Ledger) : Prop where
  user : ∀ id, s.user? id = .ok ((l.users.find? fun user => user.id == id).map User.kept)
  repository : ∀ id, s.repository? id
    = .ok ((l.repositories.find? fun repository => repository.id == id).map Repository.kept)
  ownedRepository : ∀ id user, s.ownedRepository? id user
    = .ok ((l.repositories.find? fun repository =>
        repository.id == id && repository.userId == user).map Repository.kept)
  job : ∀ id, s.job? id = .ok ((l.jobs.find? fun job => job.id == id).map Job.kept)
  ownedJob : ∀ id user, s.ownedJob? id user
    = .ok ((l.jobs.find? fun job => job.id == id && l.owns user job).map Job.kept)
  activeJob : ∀ repository, s.activeJob? repository
    = .ok ((l.jobs.find? fun job =>
        job.repositoryId == repository && job.status.isActive).map (·.id))

/-- What is listed is what was written, in the order of what was written. -/
structure ListingsTell (s : Store) (l : Ledger) : Prop where
  repositoriesOf : ∀ user, s.repositoriesOf user
    = .ok (((l.repositories.filter fun repository => repository.userId == user).mergeSort
        fun a b => a.id ≤ b.id).map Repository.kept)
  processingJobs : s.processingJobs
    = .ok ((l.jobs.filter fun job => job.status == .processing).map Job.kept)
  staleJobs : ∀ cutoff, s.staleJobs cutoff = .ok ((l.jobs.filter (Job.isStale cutoff)).map Job.kept)
  jobsOfRepository : ∀ repository (w : Window), s.jobsOfRepository repository w
    = .ok ((w.cut (Ledger.newestFirst (l.repositoryJobs repository))).map Job.kept,
        (l.repositoryJobs repository).length)
  recentJobsOf : ∀ user (w : Window), s.recentJobsOf user w
    = .ok ((w.cut (Ledger.newestFirst (l.userJobs user))).map Job.kept, (l.userJobs user).length)
  jobsOf : ∀ user, s.jobsOf user = .ok ((Ledger.oldestFirst (l.userJobs user)).map Job.kept)
  allIssuesOf : ∀ job filter, s.issuesOf job filter none
    = .ok (l.issuesOf job filter, (l.issuesOf job filter).length)
  issuesOf : ∀ job filter (w : Window), s.issuesOf job filter (some w)
    = .ok (w.cut (l.issuesOf job filter), (l.issuesOf job filter).length)
  metricsOf : ∀ job filter, s.metricsOf job filter = .ok ((l.metricsOf job filter).map Metric.kept)
  severityCounts : ∀ user, ∃ counts, s.severityCounts user = .ok counts ∧ ∀ severity,
    (SeverityTable.ofCounts counts).get severity
      = (l.completedIssues user).countP fun issue => issue.severity == severity

end Store

namespace Ledger

variable {l : Ledger}

/-! ### Rows -/

theorem Keepable.rows (h : l.Keepable) : l.store.RowsTell l where
  users := by
    rw [store, List.map_map]
    exact List.map_congr_left fun user huser => User.row_read (h.users user huser)
  repositories := by
    rw [store, List.map_map]
    exact List.map_congr_left fun repository hrepository =>
      Repository.row_read (h.repositories repository hrepository)
  jobs := by
    rw [store, List.map_map]
    exact List.map_congr_left fun job hjob => (h.jobs job hjob).row_read
  issues := by
    rw [store, List.map_map]
    exact List.map_congr_left fun issue _ => issue.row_read
  metrics := by
    rw [store, List.map_map]
    exact List.map_congr_left fun metric hmetric => Metric.row_read (h.metrics metric hmetric)

/-! ### Lookups -/

/-- The first row that is wanted is that of the first value that is wanted. -/
theorem readOne_find? {α β γ : Type} {read : β → Except StoreError γ} {row : α → β} {shown : α → γ}
    {as : List α} {wanted : β → Bool} {wants : α → Bool} (hwants : ∀ a, wanted (row a) = wants a)
    (hread : ∀ a ∈ as, read (row a) = .ok (shown a)) :
    Store.readOne read ((as.map row).find? wanted) = .ok ((as.find? wants).map shown) := by
  have hsame : wanted ∘ row = wants := funext hwants
  rw [List.find?_map, hsame]
  cases hfound : as.find? wants with
  | none => rfl
  | some a =>
      show (read (row a)).map some = _
      rw [hread a (List.mem_of_find?_eq_some hfound)]
      rfl

theorem owns_row (l : Ledger) (user : Int) (job : Job) :
    l.store.owns user job.row = l.owns user job := by
  show (l.repositories.map Repository.row).any _ = _
  rw [List.any_map]
  rfl

theorem id_row (id : JobId) (job : Job) : (job.row.id == id.text) = (job.id == id) := by
  rw [Bool.eq_iff_iff, beq_iff_eq, beq_iff_eq]
  exact JobId.text_inj

theorem status_row (status : JobStatus) (job : Job) :
    (job.row.status == status.label) = (job.status == status) := by
  rw [Bool.eq_iff_iff, beq_iff_eq, beq_iff_eq]
  exact JobStatus.label_inj

theorem isActive_row (job : Job) : job.row.isActive = job.status.isActive :=
  JobRow.isActive_of_status rfl

theorem Keepable.lookups (h : l.Keepable) : l.store.LookupsTell l where
  user id := readOne_find? (fun _ => rfl) fun user huser => User.row_read (h.users user huser)
  repository id := readOne_find? (fun _ => rfl) fun repository hrepository =>
    Repository.row_read (h.repositories repository hrepository)
  ownedRepository id user := readOne_find? (fun _ => rfl) fun repository hrepository =>
    Repository.row_read (h.repositories repository hrepository)
  job id := readOne_find? (id_row id) fun job hjob => (h.jobs job hjob).row_read
  ownedJob id user := by
    refine readOne_find? (fun job => ?_) fun job hjob => (h.jobs job hjob).row_read
    rw [id_row, owns_row]
  activeJob repository := by
    have hsame : (fun row : JobRow => row.repositoryId == repository && row.isActive) ∘ Job.row
        = fun job => job.repositoryId == repository && job.status.isActive := by
      funext job
      show (job.repositoryId == repository && job.row.isActive) = _
      rw [isActive_row]
    have hrow : l.store.activeRow? repository = (l.jobs.find? fun job =>
        job.repositoryId == repository && job.status.isActive).map Job.row := by
      show (l.jobs.map Job.row).find? _ = _
      rw [List.find?_map, hsame]
    rw [Store.activeJob?, hrow]
    cases l.jobs.find? fun job => job.repositoryId == repository && job.status.isActive with
    | none => rfl
    | some job =>
        show (readJobId job.id.text).map some = _
        rw [Store.readJobId_text]
        rfl

/-! ### Listings -/

/-- The rows that are wanted are those of the values that are wanted. -/
theorem filter_rows {α β : Type} {row : α → β} {wanted : β → Bool} {wants : α → Bool}
    (hwants : ∀ a, wanted (row a) = wants a) (as : List α) :
    (as.map row).filter wanted = (as.filter wants).map row := by
  rw [List.filter_map]
  exact congrArg (fun p => (as.filter p).map row) (funext hwants)

theorem cut_map {α β : Type} (w : Window) (f : α → β) (as : List α) :
    w.cut (as.map f) = (w.cut as).map f := by
  rw [Window.cut, Window.cut, List.map_take, List.map_drop]

theorem mem_of_mem_cut {α : Type} {w : Window} {as : List α} {a : α} (h : a ∈ w.cut as) : a ∈ as :=
  List.mem_of_mem_drop (List.mem_of_mem_take h)

theorem mem_of_mem_userJobs {user : Int} {job : Job} (h : job ∈ l.userJobs user) : job ∈ l.jobs :=
  (List.mem_filter.mp h).1

theorem mem_of_mem_repositoryJobs {repository : Int} {job : Job}
    (h : job ∈ l.repositoryJobs repository) : job ∈ l.jobs := (List.mem_filter.mp h).1

theorem userJobRows_store (l : Ledger) (user : Int) :
    l.store.userJobRows user = (l.userJobs user).map Job.row :=
  filter_rows (owns_row l user) l.jobs

theorem repositoryJobRows_store (l : Ledger) (repository : Int) :
    l.store.repositoryJobRows repository = (l.repositoryJobs repository).map Job.row :=
  filter_rows (fun _ => rfl) l.jobs

/-- Rows of jobs are put in order as the jobs are. -/
theorem newestFirst_rows {jobs : List Job} (h : ∀ job ∈ jobs, job.Keepable) :
    Store.newestFirst (jobs.map Job.row) = (newestFirst jobs).map Job.row := by
  unfold Store.newestFirst newestFirst
  rw [← List.map_reverse]
  refine (List.map_mergeSort fun a ha b hb => ?_).symm
  exact decide_eq_decide.mpr (Instant.stored_le_stored_iff
    (h b (List.mem_reverse.mp hb)).createdAt (h a (List.mem_reverse.mp ha)).createdAt).symm

theorem oldestFirst_rows {jobs : List Job} (h : ∀ job ∈ jobs, job.Keepable) :
    Store.oldestFirst (jobs.map Job.row) = (oldestFirst jobs).map Job.row := by
  unfold Store.oldestFirst oldestFirst
  refine (List.map_mergeSort fun a ha b hb => ?_).symm
  exact decide_eq_decide.mpr
    (Instant.stored_le_stored_iff (h a ha).createdAt (h b hb).createdAt).symm

theorem isStale_row (cutoff : Instant) (job : Job) :
    Store.isStale cutoff.stored job.row = job.isStale cutoff := by
  have hsince : job.row.dispatchedAt.getD job.row.createdAt
      = (job.dispatchedAt.getD job.createdAt).stored := by
    show (job.dispatchedAt.map Instant.stored).getD job.createdAt.stored = _
    cases job.dispatchedAt <;> rfl
  unfold Store.isStale Job.isStale
  rw [status_row, status_row, hsince]
  rfl

theorem wants_row (job : JobId) (filter : IssueFilter) (issue : Issue) :
    (issue.row.jobId == job.text && filter.admits issue.row)
      = (issue.jobId == job && filter.wants issue) := by
  rw [filter.admits_eq issue.row_read, Bool.eq_iff_iff, Bool.and_eq_true, Bool.and_eq_true,
    beq_iff_eq, beq_iff_eq]
  exact and_congr_left fun _ => JobId.text_inj

theorem issueRowsOf_store (l : Ledger) (job : JobId) (filter : IssueFilter) :
    (l.store.issueRowsOf job filter).mergeSort Store.issueBefore
      = (l.issuesOf job filter).map Issue.row := by
  show ((l.issues.map Issue.row).filter _).mergeSort _ = _
  rw [filter_rows (wants_row job filter)]
  refine (List.map_mergeSort fun a _ b _ => ?_).symm
  -- the order does not depend on the job, so both rows may be taken for those of one
  have hsame : Store.issueBefore a.row b.row
      = Store.issueBefore (Store.issueRow a.jobId a.id a.content)
          (Store.issueRow a.jobId b.id b.content) := rfl
  rw [hsame, Store.issueBefore_issueRow]
  rfl

theorem length_issueRowsOf (l : Ledger) (job : JobId) (filter : IssueFilter) :
    (l.store.issueRowsOf job filter).length = (l.issuesOf job filter).length := by
  rw [← (List.mergeSort_perm _ Store.issueBefore).length_eq, issueRowsOf_store, List.length_map]

theorem metricWants_row (job : JobId) (filter : MetricFilter) {metric : Metric}
    (h : metric.value.isFinite = true) :
    (metric.row.jobId == job.text && filter.admits metric.row)
      = (metric.jobId == job && filter.wants metric) := by
  have hwants : filter.wants metric.kept = filter.wants metric := rfl
  rw [filter.admits_eq (Metric.row_read h), hwants, Bool.eq_iff_iff, Bool.and_eq_true,
    Bool.and_eq_true, beq_iff_eq, beq_iff_eq]
  exact and_congr_left fun _ => JobId.text_inj

theorem Keepable.metricRowsOf (h : l.Keepable) (job : JobId) (filter : MetricFilter) :
    (l.store.metrics.filter fun row => row.jobId == job.text && filter.admits row).mergeSort
        Store.metricBefore = (l.metricsOf job filter).map Metric.row := by
  have hpicked : (l.store.metrics.filter fun row => row.jobId == job.text && filter.admits row)
      = (l.metrics.filter fun metric => metric.jobId == job && filter.wants metric).map
          Metric.row := by
    show (l.metrics.map Metric.row).filter _ = _
    rw [List.filter_map]
    exact congrArg (List.map Metric.row) (List.filter_congr fun metric hmetric =>
      metricWants_row job filter (h.metrics metric hmetric))
  have hfinite : ∀ metric ∈ l.metrics.filter fun metric =>
      metric.jobId == job && filter.wants metric, metric.content.value.isFinite = true :=
    fun metric hmetric => h.metrics metric (List.mem_filter.mp hmetric).1
  rw [hpicked]
  refine (List.map_mergeSort fun a ha b hb => ?_).symm
  have hsame : Store.metricBefore a.row b.row
      = Store.metricBefore (Store.metricRow a.jobId a.id a.content)
          (Store.metricRow a.jobId b.id b.content) := rfl
  rw [hsame, Store.metricBefore_metricRow (hfinite a ha) (hfinite b hb)]
  rfl

theorem Keepable.readAll_jobs (h : l.Keepable) {jobs : List Job} (hjobs : ∀ job ∈ jobs, job ∈ l.jobs) :
    readAll JobRow.read (jobs.map Job.row) = .ok (jobs.map Job.kept) :=
  readAll_map fun job hjob => (h.jobs job (hjobs job hjob)).row_read

theorem mem_of_mem_newestFirst {jobs : List Job} {job : Job} (h : job ∈ newestFirst jobs) :
    job ∈ jobs :=
  List.mem_reverse.mp ((List.mergeSort_perm _ _).mem_iff.mp h)

/-- A part of some of the jobs, newest first. -/
theorem Keepable.readAll_newest (h : l.Keepable) (w : Window) {jobs : List Job}
    (hjobs : ∀ job ∈ jobs, job ∈ l.jobs) :
    readAll JobRow.read (w.cut (Store.newestFirst (jobs.map Job.row)))
      = .ok ((w.cut (newestFirst jobs)).map Job.kept) := by
  rw [newestFirst_rows fun job hjob => h.jobs job (hjobs job hjob), cut_map]
  exact h.readAll_jobs fun job hjob => hjobs job (mem_of_mem_newestFirst (mem_of_mem_cut hjob))

theorem completedIssueRows_store (l : Ledger) (user : Int) :
    l.store.completedIssueRows user = (l.completedIssues user).map Issue.row := by
  refine filter_rows (fun issue => ?_) l.issues
  show (l.jobs.map Job.row).any _ = _
  rw [List.any_map]
  refine congrArg l.jobs.any (funext fun job => ?_)
  show (job.row.id == issue.jobId.text && job.row.status == JobStatus.completed.label
    && l.store.owns user job.row) = _
  rw [id_row, status_row, owns_row]

theorem Keepable.listings (h : l.Keepable) (hs : l.store.Reached) : l.store.ListingsTell l where
  repositoriesOf user := by
    have hsorted : (l.store.repositories.filter fun row => row.userId == user).mergeSort
        (fun a b => a.id ≤ b.id) = ((l.repositories.filter fun repository =>
          repository.userId == user).mergeSort fun a b => a.id ≤ b.id).map Repository.row := by
      show ((l.repositories.map Repository.row).filter _).mergeSort _ = _
      rw [filter_rows fun _ => rfl]
      refine (List.map_mergeSort fun a _ b _ => ?_).symm
      rfl
    rw [Store.repositoriesOf, hsorted]
    refine readAll_map fun repository hrepository => Repository.row_read (h.repositories _ ?_)
    exact (List.mem_filter.mp ((List.mergeSort_perm _ _).mem_iff.mp hrepository)).1
  processingJobs := by
    show readAll JobRow.read ((l.jobs.map Job.row).filter _) = _
    rw [filter_rows (status_row .processing)]
    exact h.readAll_jobs fun job hjob => (List.mem_filter.mp hjob).1
  staleJobs cutoff := by
    show readAll JobRow.read ((l.jobs.map Job.row).filter _) = _
    rw [filter_rows (isStale_row cutoff)]
    exact h.readAll_jobs fun job hjob => (List.mem_filter.mp hjob).1
  jobsOfRepository repository w := by
    rw [Store.jobsOfRepository, repositoryJobRows_store, List.length_map,
      h.readAll_newest w fun _ => mem_of_mem_repositoryJobs]
    rfl
  recentJobsOf user w := by
    rw [Store.recentJobsOf, userJobRows_store, List.length_map,
      h.readAll_newest w fun _ => mem_of_mem_userJobs]
    rfl
  jobsOf user := by
    rw [Store.jobsOf, userJobRows_store,
      oldestFirst_rows fun job hjob => h.jobs job (mem_of_mem_userJobs hjob)]
    exact h.readAll_jobs fun job hjob =>
      mem_of_mem_userJobs ((List.mergeSort_perm _ _).mem_iff.mp hjob)
  allIssuesOf job filter := by
    rw [Store.issuesOf, issueRowsOf_store, length_issueRowsOf]
    rw [readAll_map fun issue _ => issue.row_read, List.map_id']
    rfl
  issuesOf job filter w := by
    rw [Store.issuesOf, issueRowsOf_store, length_issueRowsOf]
    rw [cut_map, readAll_map fun issue _ => issue.row_read, List.map_id']
    rfl
  metricsOf job filter := by
    rw [Store.metricsOf, h.metricRowsOf]
    refine readAll_map fun metric hmetric => Metric.row_read (h.metrics metric ?_)
    exact (List.mem_filter.mp ((List.mergeSort_perm _ _).mem_iff.mp hmetric)).1
  severityCounts user := by
    obtain ⟨counts, hcounts, hsums⟩ := hs.severityCounts_eq user
    refine ⟨counts, hcounts, fun severity => ?_⟩
    rw [hsums, completedIssueRows_store, List.countP_map]
    refine List.countP_congr fun issue _ => ?_
    show (issue.severity.label == severity.label) = true ↔ (issue.severity == severity) = true
    rw [beq_iff_eq, beq_iff_eq, Severity.label_inj]

end Ledger

/-- **The store never writes what it cannot read.**  After any operations, at instants whose years
have four digits and with reports that were checked, every read of the store succeeds, and what it
gives is what was written: each row the values that were last given for its columns, with times cut
to milliseconds and zeros without a sign, and each lookup and listing the rows that these values
call for, in their order. -/
theorem reads_what_was_written (ops : List (Store.Operation × Instant))
    (hyears : ∀ op ∈ ops, op.2.HasPlainYear) (hchecked : ∀ op ∈ ops, op.1.IsChecked) :
    (Store.empty.afterAll ops).RowsTell (Ledger.empty.afterAll ops) ∧
      (Store.empty.afterAll ops).LookupsTell (Ledger.empty.afterAll ops) ∧
      (Store.empty.afterAll ops).ListingsTell (Ledger.empty.afterAll ops) := by
  have hstore : Store.empty.afterAll ops = (Ledger.empty.afterAll ops).store :=
    Store.afterAll_store .empty ops
  have hs : (Ledger.empty.afterAll ops).store.Reached :=
    hstore ▸ (Store.leads_afterAll .empty ops).reached .empty
  have hkeepable : (Ledger.empty.afterAll ops).Keepable :=
    Ledger.keepable_empty.afterAll hyears hchecked
  rw [hstore]
  exact ⟨hkeepable.rows, hkeepable.lookups, hkeepable.listings hs⟩

namespace Small

/-- Operations between two milliseconds, and a report all of whose numbers are negative zeros. -/
def zeros : List (Store.Operation × Instant) :=
  [(.createUser "ada", ⟨1500000⟩),
    (.createRepository 1 "site" "https://git.example.com/site.git" "main", ⟨1600000⟩),
    (.createJob default ⟨1, "https://git.example.com/site.git", "main", none⟩, ⟨2500000⟩),
    (.markDispatched default "h-1", ⟨2900000⟩),
    (.applyReport Store.noneRefused default
      { status := .completed, qualityScore := some .negZero, maintainabilityIndex := none,
        complexityScore := none, securityRating := none, issuesFound := 0, filesAnalyzed := none,
        issues := [], metrics := [⟨"lines", .negZero, none⟩], error := none }, ⟨3000001⟩)]

end Small

theorem reads_what_was_written_played :
    (Ledger.empty.afterAll Small.zeros).jobs.map
        (fun job => (job.qualityScore, job.createdAt, job.completedAt))
      = [(some .negZero, ⟨2500000⟩, some ⟨3000001⟩)] ∧
    (∃ job, (Store.empty.afterAll Small.zeros).job? default = .ok (some job) ∧
      (job.qualityScore, job.createdAt, job.completedAt)
        = (some .zero, ⟨2000000⟩, some ⟨3000000⟩)) ∧
    (Store.empty.afterAll Small.zeros).RowsTell (Ledger.empty.afterAll Small.zeros) ∧
    (Store.empty.afterAll Small.zeros).LookupsTell (Ledger.empty.afterAll Small.zeros) ∧
    (Store.empty.afterAll Small.zeros).ListingsTell (Ledger.empty.afterAll Small.zeros) := by
  have hchecked : ∀ op ∈ Small.zeros, op.1.IsChecked := by
    simp only [Small.zeros, List.forall_mem_cons]
    exact ⟨trivial, trivial, trivial, trivial,
      ⟨⟨.completed, some .negZero, none, none, none, some 0, none, [], [⟨"lines", .negZero, none⟩],
        none⟩, rfl⟩, fun _ h => nomatch h⟩
  have htold := reads_what_was_written Small.zeros (by decide +kernel) hchecked
  refine ⟨by decide +kernel, ⟨_, htold.2.1.job default, ?_⟩, htold⟩
  decide +kernel

end AnalysisDesk
