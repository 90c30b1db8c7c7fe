/-
What a job that was read says about the row it was read from.

Reading never invents: the identifier, the status and the handle of a job are
those of its row, and every job of a listing comes from a row that was listed.
-/
import AnalysisDesk.Proofs.Store.WellFormed

namespace AnalysisDesk

/-- A row and the job that is read from it. -/
structure JobRow.Shows (row : JobRow) (job : Job) : Prop where
  id : row.id = job.id.text
  status : row.status = job.status.label
  handle : row.externalHandle = job.externalHandle

/-- What succeeds has succeeded at its first step. -/
theorem bind_ok {ε α β : Type} {x : Except ε α} {f : α → Except ε β} {b : β}
    (h : (x >>= f) = .ok b) : ∃ a, x = .ok a ∧ f a = .ok b := by
  cases x with
  | error e => exact nomatch h
  | ok a => exact ⟨a, rfl, h⟩

theorem JobRow.read_shows {row : JobRow} {job : Job}
    (hstatus : ∃ status : JobStatus, row.status = status.label)
    (hnamed : ∃ id : JobId, row.id = id.text) (h : row.read = .ok job) : row.Shows job := by
  obtain ⟨status, hstatus⟩ := hstatus
  obtain ⟨id, hid⟩ := hnamed
  unfold JobRow.read at h
  -- six columns of numbers, of which nothing is said here
  obtain ⟨_, -, h⟩ := bind_ok h
  obtain ⟨_, -, h⟩ := bind_ok h
  obtain ⟨_, -, h⟩ := bind_ok h
  obtain ⟨_, -, h⟩ := bind_ok h
  obtain ⟨_, -, h⟩ := bind_ok h
  obtain ⟨_, -, h⟩ := bind_ok h
  obtain ⟨readStatus', hreadStatus, h⟩ := bind_ok h
  obtain ⟨readId, hreadId, h⟩ := bind_ok h
  obtain ⟨_, -, h⟩ := bind_ok h
  obtain ⟨_, -, h⟩ := bind_ok h
  obtain ⟨_, -, h⟩ := bind_ok h
  rw [hstatus, readStatus, JobStatus.ofLabel?_label] at hreadStatus
  rw [hid, Store.readJobId_text] at hreadId
  cases hreadStatus
  cases hreadId
  cases h
  exact ⟨hid, hstatus, rfl⟩

/-- The time of dispatch of a job is read of its row. -/
theorem JobRow.read_dispatchedAt {row : JobRow} {job : Job} (h : row.read = .ok job) :
    readTimestamp? row.dispatchedAt = .ok job.dispatchedAt := by
  unfold JobRow.read at h
  -- six columns of numbers, the status, the identifier and the first of the times
  obtain ⟨_, -, h⟩ := bind_ok h
  obtain ⟨_, -, h⟩ := bind_ok h
  obtain ⟨_, -, h⟩ := bind_ok h
  obtain ⟨_, -, h⟩ := bind_ok h
  obtain ⟨_, -, h⟩ := bind_ok h
  obtain ⟨_, -, h⟩ := bind_ok h
  obtain ⟨_, -, h⟩ := bind_ok h
  obtain ⟨_, -, h⟩ := bind_ok h
  obtain ⟨_, -, h⟩ := bind_ok h
  obtain ⟨dispatchedAt, hread, h⟩ := bind_ok h
  obtain ⟨_, -, h⟩ := bind_ok h
  cases h
  exact hread

/-- A repository is read as its row says, but for its time. -/
theorem RepositoryRow.read_shows {row : RepositoryRow} {repository : Repository}
    (h : row.read = .ok repository) :
    ∃ createdAt, repository
      = ⟨row.id, row.userId, row.name, row.cloneUrl, row.defaultBranch, createdAt⟩ := by
  unfold RepositoryRow.read at h
  obtain ⟨createdAt, -, h⟩ := bind_ok h
  cases h
  exact ⟨createdAt, rfl⟩

/-- An issue says what its row does, as far as it can be filtered. -/
theorem IssueRow.read_shows {row : IssueRow} {issue : Issue} (h : row.read = .ok issue) :
    row.severity = issue.severity.label ∧ row.category = issue.category := by
  unfold IssueRow.read at h
  obtain ⟨_, -, h⟩ := bind_ok h
  obtain ⟨severity, hseverity, h⟩ := bind_ok h
  obtain ⟨_, -, h⟩ := bind_ok h
  cases h
  refine ⟨?_, rfl⟩
  unfold readSeverity at hseverity
  split at hseverity
  · rename_i found hfound
    cases hseverity
    exact Severity.eq_label_of_ofLabel? hfound
  · exact nomatch hseverity

/-- A metric says what its row does, as far as it can be filtered. -/
theorem MetricRow.read_shows {row : MetricRow} {metric : Metric} (h : row.read = .ok metric) :
    row.metricType = metric.metricType ∧ row.filePath = metric.filePath := by
  unfold MetricRow.read at h
  obtain ⟨_, -, h⟩ := bind_ok h
  obtain ⟨_, -, h⟩ := bind_ok h
  cases h
  exact ⟨rfl, rfl⟩

theorem readAll_mem {α β : Type} {read : α → Except StoreError β} :
    ∀ {rows : List α} {bs : List β} {b : β}, readAll read rows = .ok bs → b ∈ bs →
      ∃ row ∈ rows, read row = .ok b := by
  intro rows
  induction rows with
  | nil =>
      intro bs b h hb
      rw [readAll, Except.ok.injEq] at h
      subst h
      exact nomatch hb
  | cons row rest ih =>
      intro bs b h hb
      rw [readAll] at h
      cases hread : read row with
      | error e => rw [hread] at h; exact nomatch h
      | ok first =>
          cases hrest : readAll read rest with
          | error e => rw [hread, hrest] at h; exact nomatch h
          | ok others =>
              rw [hread, hrest, Except.ok.injEq] at h
              subst h
              rcases List.mem_cons.mp hb with rfl | hb
              · exact ⟨row, List.mem_cons_self .., hread⟩
              · obtain ⟨row', hmem, hrow'⟩ := ih hrest hb
                exact ⟨row', List.mem_cons_of_mem _ hmem, hrow'⟩

namespace Store

/-- The job that a pending row shows. -/
def pendingJob (id : JobId) (job : NewJob) (createdAt : Instant) : Job where
  id := id
  repositoryId := job.repositoryId
  cloneUrl := job.cloneUrl
  branch := job.branch
  commitSha := job.commitSha
  status := .pending
  qualityScore := none
  maintainabilityIndex := none
  complexityScore := none
  securityRating := none
  issuesFound := none
  filesAnalyzed := none
  externalHandle := none
  error := none
  createdAt := createdAt
  dispatchedAt := none
  completedAt := none

/-- Nothing of a pending row but its time can fail to be read. -/
theorem pendingRow_read (id : JobId) (job : NewJob) (now : Instant) :
    (pendingRow id job now).read = (readTimestamp now.stored).map (pendingJob id job) := by
  have hstatus : readStatus JobStatus.pending.label = .ok .pending := by
    rw [readStatus, JobStatus.ofLabel?_label]
  simp only [JobRow.read, pendingRow, Slot.read, readTimestamp?, hstatus, readJobId_text]
  cases readTimestamp now.stored <;> rfl

theorem pendingJob_of_read {id : JobId} {job : NewJob} {now : Instant} {created : Job}
    (h : (pendingRow id job now).read = .ok created) :
    ∃ createdAt, created = pendingJob id job createdAt := by
  rw [pendingRow_read] at h
  cases hread : readTimestamp now.stored with
  | error e => rw [hread] at h; exact nomatch h
  | ok createdAt => rw [hread] at h; exact ⟨createdAt, (Except.ok.inj h).symm⟩

variable {s : Store}

theorem WF.shows (h : s.WF) {row : JobRow} {job : Job} (hmem : row ∈ s.jobs)
    (hread : row.read = .ok job) : row.Shows job :=
  JobRow.read_shows (h.status row hmem) (h.named row hmem) hread

theorem readOne_some {α β : Type} {read : α → Except StoreError β} {row? : Option α} {b : β}
    (h : readOne read row? = .ok (some b)) : ∃ row, row? = some row ∧ read row = .ok b := by
  cases row? with
  | none => exact nomatch h
  | some row =>
      cases hread : read row with
      | error e => rw [readOne, hread] at h; cases h
      | ok read =>
          rw [readOne, hread] at h
          cases h
          exact ⟨row, rfl, hread⟩

theorem readOne_none {α β : Type} {read : α → Except StoreError β} {row? : Option α}
    (h : readOne read row? = .ok none) : row? = none := by
  cases row? with
  | none => rfl
  | some row =>
      cases hread : read row with
      | error e => rw [readOne, hread] at h; cases h
      | ok read => rw [readOne, hread] at h; cases h

/-- A job that was asked for by its identifier. -/
theorem WF.job?_shows (h : s.WF) {id : JobId} {job : Job} (hjob : s.job? id = .ok (some job)) :
    ∃ row, s.jobRow? id = some row ∧ row.read = .ok job ∧ row.Shows job := by
  obtain ⟨row, hrow, hread⟩ := readOne_some hjob
  exact ⟨row, hrow, hread, h.shows (jobRow?_mem hrow).1 hread⟩

theorem job?_of_row {id : JobId} {row : JobRow} (hrow : s.jobRow? id = some row) :
    s.job? id = row.read.map some := by
  rw [job?, hrow]
  rfl

theorem job?_none {id : JobId} (hjob : s.job? id = .ok none) : s.jobRow? id = none :=
  readOne_none hjob

/-- A job that was asked for by its owner. -/
theorem WF.ownedJob?_shows (h : s.WF) {id : JobId} {user : Int} {job : Job}
    (hjob : s.ownedJob? id user = .ok (some job)) :
    ∃ row, s.jobRow? id = some row ∧ row.Shows job := by
  obtain ⟨row, hfound, hread⟩ := readOne_some hjob
  have hmem := List.mem_of_find?_eq_some hfound
  have hid := List.find?_some hfound
  rw [Bool.and_eq_true, beq_iff_eq] at hid
  exact ⟨row, (jobRow?_eq_some_iff h.ids).mpr ⟨hmem, hid.1⟩, h.shows hmem hread⟩

/-- The owner of a job is not told that it does not exist. -/
theorem ownedJob?_ne_none {id : JobId} {user : Int} {row : JobRow} (hrow : s.jobRow? id = some row)
    (howns : s.owns user row = true) : s.ownedJob? id user ≠ .ok none := by
  intro hjob
  obtain ⟨hmem, hid⟩ := jobRow?_mem hrow
  have hc := List.find?_eq_none.mp (readOne_none hjob) row hmem
  rw [hid, howns] at hc
  simp at hc

/-- A job that was listed as stale. -/
theorem WF.staleJobs_shows (h : s.WF) {cutoff : Instant} {jobs : List Job}
    (hjobs : s.staleJobs cutoff = .ok jobs) {job : Job} (hmem : job ∈ jobs) :
    ∃ row, s.jobRow? job.id = some row ∧ row.Shows job := by
  obtain ⟨row, hrow, hread⟩ := readAll_mem hjobs hmem
  have hin : row ∈ s.jobs := (List.mem_filter.mp hrow).1
  have hshows := h.shows hin hread
  exact ⟨row, (jobRow?_eq_some_iff h.ids).mpr ⟨hin, hshows.id⟩, hshows⟩

end Store

end AnalysisDesk
