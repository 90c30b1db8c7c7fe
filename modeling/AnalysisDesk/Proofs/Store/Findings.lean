/-
The findings that a report brings.

A report is written in three parts: the row of its job, its issues and its
metrics.  The findings become rows at the end of their tables, in the order of
the report and with consecutive ids, and nothing else changes; if one of them is
refused the store is as it was before the first part.  `applyReport_reported` is
the whole of it.
-/
import AnalysisDesk.Proofs.Store.Rows

namespace AnalysisDesk

namespace Store

/-- The row of an issue. -/
def issueRow (job : JobId) (id : Int) (issue : CheckedIssue) : IssueRow where
  id := id
  jobId := job.text
  severity := issue.severity.label
  severityRank := .value issue.severity.rank
  category := issue.category
  title := issue.title
  description := issue.description
  suggestion := issue.suggestion
  filePath := issue.filePath
  lineNumber := .ofOption issue.lineNumber

/-- The rows of issues, with the ids that follow `last`. -/
def issueRows (job : JobId) : Int → List CheckedIssue → List IssueRow
  | _, [] => []
  | last, issue :: rest => issueRow job (last + 1) issue :: issueRows job (last + 1) rest

/-- The row of a metric. -/
def metricRow (job : JobId) (id : Int) (metric : CheckedMetric) : MetricRow where
  id := id
  jobId := job.text
  metricType := metric.metricType
  value := metric.value.kept
  filePath := metric.filePath

/-- The rows of metrics, with the ids that follow `last`. -/
def metricRows (job : JobId) : Int → List CheckedMetric → List MetricRow
  | _, [] => []
  | last, metric :: rest => metricRow job (last + 1) metric :: metricRows job (last + 1) rest

/-- The store with the findings of a report. -/
def withFindings (s : Store) (job : JobId) (report : CheckedReport) : Store :=
  { s with
    issues := s.issues ++ issueRows job s.lastIssue report.issues
    lastIssue := s.lastIssue + report.issues.length
    metrics := s.metrics ++ metricRows job s.lastMetric report.metrics
    lastMetric := s.lastMetric + report.metrics.length }

variable {job : JobId} {refused : FindingSite → Bool}

theorem issueRows_jobId : ∀ (issues : List CheckedIssue) (last : Int) {row : IssueRow},
    row ∈ issueRows job last issues → row.jobId = job.text := by
  intro issues
  induction issues with
  | nil => intro last row h; simp [issueRows] at h
  | cons issue rest ih =>
      intro last row h
      rcases List.mem_cons.mp h with rfl | h
      · rfl
      · exact ih _ h

theorem metricRows_jobId : ∀ (metrics : List CheckedMetric) (last : Int) {row : MetricRow},
    row ∈ metricRows job last metrics → row.jobId = job.text := by
  intro metrics
  induction metrics with
  | nil => intro last row h; simp [metricRows] at h
  | cons metric rest ih =>
      intro last row h
      rcases List.mem_cons.mp h with rfl | h
      · rfl
      · exact ih _ h

/-! ### Inserting -/

theorem insertIssues_ok : ∀ (issues : List CheckedIssue) (index : Nat) {s s' : Store},
    insertIssues refused job index issues s = .ok s' →
      s' = { s with
        issues := s.issues ++ issueRows job s.lastIssue issues
        lastIssue := s.lastIssue + issues.length } := by
  intro issues
  induction issues with
  | nil =>
      intro index s s' h
      rw [insertIssues, Except.ok.injEq] at h
      simp [← h, issueRows]
  | cons issue rest ih =>
      intro index s s' h
      rw [insertIssues] at h
      split at h
      · exact nomatch h
      · rw [ih _ h]
        simp only [insertIssue, issueRows, issueRow, List.append_assoc, List.singleton_append,
          List.length_cons, Int.natCast_succ]
        congr 1
        omega

/-- What holds at a number of places holds at the first of them and at those behind it. -/
private theorem forall_places_iff {p : Nat → Prop} (index count : Nat) :
    (∀ place < count + 1, p (index + place)) ↔
      p index ∧ ∀ place < count, p (index + 1 + place) := by
  rw [Nat.forall_lt_succ_left]
  simp only [Nat.add_zero, Nat.add_assoc, Nat.add_comm 1]

/-- Issues can be added unless the insert at one of their places fails. -/
theorem exists_insertIssues_iff : ∀ (issues : List CheckedIssue) (index : Nat) (s : Store),
    (∃ s', insertIssues refused job index issues s = .ok s') ↔
      ∀ place < issues.length, refused (.issue (index + place)) = false := by
  intro issues
  induction issues with
  | nil => intro index s; simp [insertIssues]
  | cons issue rest ih =>
      intro index s
      rw [insertIssues, List.length_cons,
        forall_places_iff (p := fun place => refused (.issue place) = false)]
      by_cases hfails : refused (.issue index) = true
      · simp [hfails]
      · rw [if_neg hfails, ih]
        simp [hfails]

theorem insertMetrics_ok : ∀ (metrics : List CheckedMetric) (index : Nat) {s s' : Store},
    insertMetrics refused job index metrics s = .ok s' →
      s' = { s with
        metrics := s.metrics ++ metricRows job s.lastMetric metrics
        lastMetric := s.lastMetric + metrics.length } := by
  intro metrics
  induction metrics with
  | nil =>
      intro index s s' h
      rw [insertMetrics, Except.ok.injEq] at h
      simp [← h, metricRows]
  | cons metric rest ih =>
      intro index s s' h
      rw [insertMetrics] at h
      split at h
      · exact nomatch h
      · unfold insertMetric at h
        by_cases hnan : metric.value.isNaN = true
        · simp only [hnan, if_true] at h
          exact nomatch h
        · simp only [hnan, Bool.false_eq_true, if_false] at h
          rw [ih _ h]
          simp only [metricRows, metricRow, List.append_assoc, List.singleton_append,
            List.length_cons, Int.natCast_succ]
          congr 1
          omega

/-- Metrics can be added unless one of them is a NaN or the insert at one of their places fails. -/
theorem exists_insertMetrics_iff : ∀ (metrics : List CheckedMetric) (index : Nat) (s : Store),
    (∃ s', insertMetrics refused job index metrics s = .ok s') ↔
      (∀ place < metrics.length, refused (.metric (index + place)) = false) ∧
        ∀ metric ∈ metrics, metric.value.isNaN = false := by
  intro metrics
  induction metrics with
  | nil => intro index s; simp [insertMetrics]
  | cons metric rest ih =>
      intro index s
      rw [insertMetrics, List.length_cons, List.forall_mem_cons,
        forall_places_iff (p := fun place => refused (.metric place) = false)]
      by_cases hfails : refused (.metric index) = true
      · simp [hfails]
      · rw [if_neg hfails]
        unfold insertMetric
        by_cases hnan : metric.value.isNaN = true
        · simp [hnan]
        · rw [if_neg hnan]
          dsimp only
          rw [ih]
          simp [hfails, hnan]

/-! ### Reports -/

/-- The row of a job after a report: these columns are the report's, and the others are as they
were. -/
def rowWithReport (report : CheckedReport) (now : Instant) (row : JobRow) : JobRow :=
  { row with
    status := report.status.label
    qualityScore := keptOption report.qualityScore
    maintainabilityIndex := keptOption report.maintainabilityIndex
    complexityScore := keptOption report.complexityScore
    securityRating := keptOption report.securityRating
    issuesFound := .value report.issuesFound
    filesAnalyzed := .ofOption report.filesAnalyzed
    completedAt := some now.stored
    error := report.error }

/-- What can come of writing a report. -/
inductive Reported (s : Store) (id : JobId) (report : CheckedReport) (now : Instant) :
    Outcome Bool → Prop
  | refused (e : StoreError) : Reported s id report now (.error e, s)
  | applied (row : JobRow) (hrow : s.jobRow? id = some row)
      (hlegal : JobStatus.processing.canBecome report.status = true)
      (hstatus : row.status = JobStatus.processing.label)
      (hnumbers : ∀ metric ∈ report.metrics, metric.value.isNaN = false) :
      Reported s id report now
        (.ok true, (s.putRow id (rowWithReport report now row)).withFindings id report)
  | ignored (h : ∀ row, s.jobRow? id = some row → row.status ≠ JobStatus.processing.label) :
      Reported s id report now (.ok false, s)

/-- A report is refused, written as a whole, or ignored. -/
theorem applyReport_reported {s : Store} (hids : (s.jobs.map (·.id)).Nodup)
    (refused : FindingSite → Bool) (id : JobId) (report : CheckedReport) (now : Instant) :
    Reported s id report now (s.applyReport refused id report now) := by
  unfold applyReport
  have hstep := step_stepped hids id [.processing] report.status (reportedRow report now)
  generalize s.step id [.processing] report.status (reportedRow report now) = outcome at hstep ⊢
  cases hstep with
  | illegal source hmem h => exact .refused _
  | unchanged h => exact .ignored fun row hrow => h row hrow _ (List.mem_singleton_self _)
  | changed row hrow source hmem hlegal hstatus =>
      rw [List.mem_singleton] at hmem
      subst hmem
      cases hissues : insertIssues refused id 0 report.issues
          (s.putRow id (reportedRow report now { row with status := report.status.label })) with
      | error e => simp only [hissues]; exact .refused e
      | ok withIssues =>
          cases hmetrics : insertMetrics refused id 0 report.metrics withIssues with
          | error e => simp only [hissues, hmetrics]; exact .refused e
          | ok complete =>
              have hcomplete : complete
                  = (s.putRow id (rowWithReport report now row)).withFindings id report := by
                rw [insertMetrics_ok _ _ hmetrics, insertIssues_ok _ _ hissues]
                rfl
              simp only [hissues, hmetrics, hcomplete]
              exact .applied row hrow hlegal hstatus
                ((exists_insertMetrics_iff _ _ _).mp ⟨complete, hmetrics⟩).2

/-! ### The findings of one job -/

/-- The issues and the metrics of a job. -/
def findingsOf (s : Store) (job : JobId) : List IssueRow × List MetricRow :=
  (s.issues.filter fun row => row.jobId == job.text, s.metrics.filter fun row => row.jobId == job.text)

/-- The rows that a report adds for its job. -/
def newFindings (s : Store) (job : JobId) (report : CheckedReport) :
    List IssueRow × List MetricRow :=
  (issueRows job s.lastIssue report.issues, metricRows job s.lastMetric report.metrics)

theorem findingsOf_withFindings (s : Store) (report : CheckedReport) :
    (s.withFindings job report).findingsOf job
      = ((s.findingsOf job).1 ++ (s.newFindings job report).1,
          (s.findingsOf job).2 ++ (s.newFindings job report).2) := by
  have hissues : (issueRows job s.lastIssue report.issues).filter (fun row => row.jobId == job.text)
      = issueRows job s.lastIssue report.issues :=
    List.filter_eq_self.mpr fun row hrow => by simpa using issueRows_jobId _ _ hrow
  have hmetrics : (metricRows job s.lastMetric report.metrics).filter
      (fun row => row.jobId == job.text) = metricRows job s.lastMetric report.metrics :=
    List.filter_eq_self.mpr fun row hrow => by simpa using metricRows_jobId _ _ hrow
  unfold findingsOf withFindings newFindings
  rw [List.filter_append, List.filter_append, hissues, hmetrics]

theorem findingsOf_withFindings_of_ne (s : Store) (report : CheckedReport) {other : JobId}
    (hne : other ≠ job) : (s.withFindings job report).findingsOf other = s.findingsOf other := by
  have htext : job.text ≠ other.text := fun hc => hne (JobId.text_inj.mp hc).symm
  have hissues : (issueRows job s.lastIssue report.issues).filter
      (fun row => row.jobId == other.text) = [] := by
    rw [List.filter_eq_nil_iff]
    intro row hrow
    rw [issueRows_jobId _ _ hrow]
    simpa using htext
  have hmetrics : (metricRows job s.lastMetric report.metrics).filter
      (fun row => row.jobId == other.text) = [] := by
    rw [List.filter_eq_nil_iff]
    intro row hrow
    rw [metricRows_jobId _ _ hrow]
    simpa using htext
  unfold findingsOf withFindings
  rw [List.filter_append, List.filter_append, hissues, hmetrics, List.append_nil, List.append_nil]

end Store

end AnalysisDesk
