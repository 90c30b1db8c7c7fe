/-
What the end of a processing job makes of the store.

A job that is processing can be failed, and a report that was checked can be written
on it: no number in it is missing, so no insert is refused.  Either write leaves the
other jobs and their findings alone.  What the owner of the job reads after a report
is the job with the report on it, and the findings in their order.
-/
import AnalysisDesk.Proofs.Store.Onward
import AnalysisDesk.Proofs.Store.Readback

namespace AnalysisDesk

namespace Store

variable {s s' : Store} {job : JobId} {row : JobRow} {now : Instant}

/-! ### The two writes -/

/-- A conditional step of a job that stands where it should. -/
theorem step_of_status (hs : s.WF) (hrow : s.jobRow? job = some row) {source : JobStatus}
    (hstatus : row.status = source.label) {target : JobStatus}
    (hlegal : source.canBecome target = true) (change : JobRow → JobRow) :
    s.step job [source] target change
      = (.ok true, s.putRow job (change { row with status := target.label })) := by
  have hstep := step_stepped hs.ids job [source] target change
  generalize s.step job [source] target change = outcome at hstep ⊢
  cases hstep with
  | illegal source' hmem hillegal =>
      rw [List.mem_singleton.mp hmem, hlegal] at hillegal
      exact Bool.noConfusion hillegal
  | unchanged hnot => exact absurd hstatus (hnot row hrow _ (List.mem_singleton_self _))
  | changed row' hrow' =>
      obtain rfl := Option.some.inj (hrow.symm.trans hrow')
      rfl

/-- A job that is processing can be failed. -/
theorem failJob_of_processing (hs : s.WF) (hrow : s.jobRow? job = some row)
    (hstatus : row.status = JobStatus.processing.label) (reason : String) (now : Instant) :
    s.failJob job .processing reason now
      = (.ok true, s.putRow job (row.ended .failed reason now)) := by
  have hlegal : JobStatus.processing.canBecome .failed = true := rfl
  exact step_of_status hs hrow hstatus hlegal _

/-- A report whose findings can all be added is written on a job that is processing. -/
theorem applyReport_of_inserts (hs : s.WF) (hrow : s.jobRow? job = some row)
    (hstatus : row.status = JobStatus.processing.label) {report : CheckedReport}
    (hlegal : JobStatus.processing.canBecome report.status = true) {refused : FindingSite → Bool}
    (hissues : ∀ place < report.issues.length, refused (.issue place) = false)
    (hmetrics : ∀ place < report.metrics.length, refused (.metric place) = false)
    (hnan : ∀ metric ∈ report.metrics, metric.value.isNaN = false) (now : Instant) :
    s.applyReport refused job report now
      = (.ok true, (s.putRow job (rowWithReport report now row)).withFindings job report) := by
  have hstep : s.step job [.processing] report.status (reportedRow report now)
      = (.ok true, s.putRow job (rowWithReport report now row)) :=
    step_of_status hs hrow hstatus hlegal _
  have hissues' : ∃ s', insertIssues refused job 0 report.issues
      (s.putRow job (rowWithReport report now row)) = .ok s' := by
    rw [exists_insertIssues_iff]
    simpa using hissues
  obtain ⟨withIssues, hissues'⟩ := hissues'
  have hmetrics' : ∃ s', insertMetrics refused job 0 report.metrics withIssues = .ok s' := by
    rw [exists_insertMetrics_iff]
    simpa using ⟨hmetrics, hnan⟩
  obtain ⟨complete, hmetrics'⟩ := hmetrics'
  have hcomplete : complete
      = (s.putRow job (rowWithReport report now row)).withFindings job report := by
    rw [insertMetrics_ok _ _ hmetrics', insertIssues_ok _ _ hissues']
    rfl
  unfold applyReport
  rw [hstep]
  dsimp only
  rw [hissues']
  dsimp only
  rw [hmetrics', hcomplete]

/-- **A report that was checked can be written** on a job that is processing. -/
theorem applyReport_of_processing (hs : s.WF) (hrow : s.jobRow? job = some row)
    (hstatus : row.status = JobStatus.processing.label) {report : CheckedReport}
    (hsound : report.Sound) (now : Instant) :
    s.applyReport noneRefused job report now
      = (.ok true, (s.putRow job (rowWithReport report now row)).withFindings job report) := by
  have hlegal : JobStatus.processing.canBecome report.status = true := by
    rcases hsound.status with hto | hto <;> rw [hto] <;> rfl
  exact applyReport_of_inserts hs hrow hstatus hlegal (fun _ _ => rfl) (fun _ _ => rfl)
    (fun metric hmem => Double.not_isNaN_of_isFinite (hsound.metrics metric hmem)) now

/-! ### What has changed -/

/-- Nothing has changed but one job and its findings. -/
structure OnlyChanged (job : JobId) (s s' : Store) : Prop where
  users : s'.users = s.users
  repositories : s'.repositories = s.repositories
  ids : s'.jobs.map (·.id) = s.jobs.map (·.id)
  others : ∀ other, other ≠ job → SameJob s s' other

theorem OnlyChanged.putRow (hrow : s.jobRow? job = some row) {row' : JobRow}
    (hid : row'.id = row.id) : OnlyChanged job s (s.putRow job row') := by
  have hid' : row'.id = job.text := hid.trans (jobRow?_mem hrow).2
  refine ⟨rfl, rfl, putRow_ids hid', fun other hne => ⟨?_, rfl⟩⟩
  rw [jobRow?_putRow hrow hid', if_neg hne]

theorem OnlyChanged.withFindings (h : OnlyChanged job s s') (report : CheckedReport) :
    OnlyChanged job s (s'.withFindings job report) := by
  refine ⟨h.users, h.repositories, h.ids, fun other hne => ⟨(h.others other hne).1, ?_⟩⟩
  rw [findingsOf_withFindings_of_ne _ _ hne]
  exact (h.others other hne).2

/-! ### What the owner reads -/

/-- The owner of a job gets what is read of its row. -/
theorem ownedJob?_of_row (hs : s.WF) (hrow : s.jobRow? job = some row) {owner : Int}
    (howns : s.owns owner row = true) : s.ownedJob? job owner = row.read.map some := by
  have hfound : (s.jobs.find? fun row => row.id == job.text && s.owns owner row) = some row := by
    cases hother : s.jobs.find? fun row => row.id == job.text && s.owns owner row with
    | none =>
        have hnot := List.find?_eq_none.mp hother row (jobRow?_mem hrow).1
        rw [(jobRow?_mem hrow).2, howns] at hnot
        simp at hnot
    | some other =>
        have hid := List.find?_some hother
        rw [Bool.and_eq_true, beq_iff_eq] at hid
        have hagain := (jobRow?_eq_some_iff hs.ids).mpr ⟨List.mem_of_find?_eq_some hother, hid.1⟩
        exact hagain.symm.trans hrow
  unfold ownedJob?
  rw [hfound]
  rfl

/-- The owner of a job that can be read gets it with its findings. -/
theorem jobDetail_of_read (hs : s.WF) (hrow : s.jobRow? job = some row) {owner : Int}
    (howns : s.owns owner row = true) {found : Job} (hread : row.read = .ok found)
    {issues : List Issue} {count : Nat} (hissues : s.issuesOf job .all none = .ok (issues, count))
    {metrics : List Metric} (hmetrics : s.metricsOf job .all = .ok metrics) :
    s.jobDetail job owner
      = .ok (some ⟨found, issues, metrics, Summary.ofFindings issues metrics⟩) := by
  have howned : s.ownedJob? job owner = .ok (some found) := by
    rw [ownedJob?_of_row hs hrow howns, hread]
    rfl
  unfold jobDetail
  rw [howned]
  dsimp only
  rw [hissues]
  dsimp only
  rw [hmetrics]

end Store

/-- A job after a report was written on it. -/
def Job.withReport (job : Job) (report : CheckedReport) (now : Instant) : Job :=
  { job with
    status := report.status
    qualityScore := report.qualityScore.map Double.readBack
    maintainabilityIndex := report.maintainabilityIndex.map Double.readBack
    complexityScore := report.complexityScore.map Double.readBack
    securityRating := report.securityRating.map Double.readBack
    issuesFound := some report.issuesFound
    filesAnalyzed := report.filesAnalyzed
    error := report.error
    completedAt := some now.cut }

/-- The findings of a job are those of a report, in stable order. -/
structure JobDetail.Tells (detail : JobDetail) (report : CheckedReport) : Prop where
  issues : detail.issues.map Issue.content = report.issues.mergeSort CheckedIssue.before
  metrics : detail.metrics.map Metric.content
    = (report.metrics.mergeSort CheckedMetric.before).map CheckedMetric.readBack
  totalIssues : detail.summary.totalIssues = report.issues.length
  totalMetrics : detail.summary.totalMetrics = report.metrics.length

theorem JobDetail.tells_of_content {found : Job} {issues : List Issue} {metrics : List Metric}
    {report : CheckedReport}
    (hissues : issues.map Issue.content = report.issues.mergeSort CheckedIssue.before)
    (hmetrics : metrics.map Metric.content
      = (report.metrics.mergeSort CheckedMetric.before).map CheckedMetric.readBack) :
    JobDetail.Tells ⟨found, issues, metrics, Summary.ofFindings issues metrics⟩ report := by
  refine ⟨hissues, hmetrics, ?_, ?_⟩
  · have hlength := congrArg List.length hissues
    rwa [List.length_map, List.length_mergeSort] at hlength
  · have hlength := congrArg List.length hmetrics
    rwa [List.length_map, List.length_map, List.length_mergeSort] at hlength

namespace JobRow

variable {row : JobRow} {now : Instant}

/-- A row that a report was written on shows the job with the report. -/
theorem Written.read_rowWithReport (h : row.Written) {id : JobId} (hid : row.id = id.text)
    {status : JobStatus} (hstatus : row.status = status.label) {current : Job}
    (hread : row.read = .ok current) {report : CheckedReport} (hsound : report.Sound)
    (hyear : now.HasPlainYear) :
    (Store.rowWithReport report now row).read = .ok (current.withReport report now) := by
  have hscores := hsound.finite
  simp only [List.forall_mem_cons] at hscores
  obtain ⟨hquality, hmaintainability, hcomplexity, hsecurity, -⟩ := hscores
  rcases h.read_cases hid hstatus with ⟨t, -, -, hfailed⟩ |
    ⟨-, createdAt, dispatchedAt, completedAt, hcreated, hdispatched, -, hshown⟩
  · rw [hread] at hfailed
    exact nomatch hfailed
  · obtain rfl := Except.ok.inj (hread.symm.trans hshown)
    have hcompleted : readTimestamp? (some now.stored) = .ok (some now.cut) := by
      rw [readTimestamp?, readTimestamp_of_stored, if_pos hyear]
      rfl
    have hto : (Store.rowWithReport report now row).status = report.status.label := rfl
    rw [(Store.rowWithReport_written h report now).read_eq hid hto]
    show (do
      let createdAt ← readTimestamp row.createdAt
      let dispatchedAt ← readTimestamp? row.dispatchedAt
      let completedAt ← readTimestamp? (some now.stored)
      return (Store.rowWithReport report now row).shown id report.status createdAt dispatchedAt
        completedAt) = _
    rw [hcreated, hdispatched, hcompleted]
    refine congrArg Except.ok ?_
    unfold shown Job.withReport Store.rowWithReport
    simp only [keptOption_value? hquality, keptOption_value? hmaintainability,
      keptOption_value? hcomplexity, keptOption_value? hsecurity, Slot.value?_ofOption]
    rfl

end JobRow

end AnalysisDesk
