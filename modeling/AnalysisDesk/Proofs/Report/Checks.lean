/-
What a report that was checked can be relied on for.

The store writes a checked report as it is, so whatever has to hold of the columns
of a job that a report has ended must hold of the report: it ends a job, a
completed one has a score, no number in it is infinite or none at all, and nothing
is counted below zero.
-/
import AnalysisDesk.Report.Checked

namespace AnalysisDesk

theorem Double.not_isNaN_of_isFinite {d : Double} (h : d.isFinite = true) : d.isNaN = false := by
  have hplace : d.magnitude / fractionCount < 2047 := of_decide_eq_true h
  have hbelow : d.magnitude < 2047 * fractionCount :=
    (Nat.div_lt_iff_lt_mul (by decide)).mp hplace
  exact decide_eq_false (by omega)

/-- What every report that was checked satisfies. -/
structure CheckedReport.Sound (report : CheckedReport) : Prop where
  status : report.status = .completed ∨ report.status = .failed
  scored : report.status = .completed → report.qualityScore ≠ none
  finite : ∀ score ∈ [report.qualityScore, report.maintainabilityIndex, report.complexityScore,
    report.securityRating], ∀ value, score = some value → value.isFinite = true
  issuesFound : 0 ≤ report.issuesFound
  filesAnalyzed : ∀ value, report.filesAnalyzed = some value → 0 ≤ value
  metrics : ∀ metric ∈ report.metrics, metric.value.isFinite = true

namespace Report

theorem badScore?_eq_none_iff {scores : List (String × Option Double)} :
    badScore? scores = none ↔
      ∀ score ∈ scores, ∀ value, score.2 = some value → value.isFinite = true := by
  unfold badScore?
  rw [List.findSome?_eq_none_iff]
  refine forall₂_congr fun score _ => ?_
  cases score.2 with
  | none => simp
  | some value => simp

theorem badCounter?_eq_none_iff {counters : List (String × Option Int)} :
    badCounter? counters = none ↔
      ∀ counter ∈ counters, ∀ value, counter.2 = some value → 0 ≤ value := by
  unfold badCounter?
  rw [List.findSome?_eq_none_iff]
  refine forall₂_congr fun counter _ => ?_
  cases counter.2 with
  | none => simp
  | some value => simp

theorem checkMetrics_finite {metrics : List ReportedMetric} {checked : List CheckedMetric}
    (h : checkMetrics metrics = .ok checked) : ∀ metric ∈ checked, metric.value.isFinite = true := by
  induction metrics generalizing checked with
  | nil =>
      obtain rfl := Except.ok.inj h
      exact fun _ hmem => nomatch hmem
  | cons metric rest ih =>
      unfold checkMetrics at h
      by_cases hfinite : metric.value.isFinite = true
      · rw [if_pos hfinite] at h
        cases hrest : checkMetrics rest with
        | error problem => rw [hrest] at h; exact nomatch h
        | ok others =>
            rw [hrest] at h
            obtain rfl := Except.ok.inj h
            intro other hother
            rcases List.mem_cons.mp hother with rfl | hother
            · exact hfinite
            · exact ih hrest other hother
      · rw [if_neg hfinite] at h
        exact nomatch h

/-- **A report that was checked is sound.** -/
theorem check_sound {report : Report} {checked : CheckedReport} (h : report.check = .ok checked) :
    checked.Sound := by
  unfold check at h
  split at h
  · exact nomatch h
  rename_i hscored
  split at h
  · exact nomatch h
  rename_i hscores
  split at h
  · exact nomatch h
  rename_i hcounters
  split at h
  · exact nomatch h
  rename_i issues hissues
  split at h
  · exact nomatch h
  rename_i metrics hmetrics
  obtain rfl := Except.ok.inj h
  have hfinite := badScore?_eq_none_iff.mp hscores
  have hcounted := badCounter?_eq_none_iff.mp hcounters
  refine ⟨?_, ?_, ?_, ?_, ?_, checkMetrics_finite hmetrics⟩
  · show report.status.jobStatus = _ ∨ report.status.jobStatus = _
    cases report.status
    · exact Or.inl rfl
    · exact Or.inr rfl
  · intro hcompleted hnone
    have hstatus : report.status = .completed := by
      cases hstatus : report.status with
      | completed => rfl
      | failed =>
          have hc : report.status.jobStatus = JobStatus.completed := hcompleted
          rw [hstatus] at hc
          exact nomatch hc
    have hnone' : report.qualityScore = none := hnone
    simp [isCompletedUnscored, hstatus, hnone'] at hscored
  · simpa [scores] using hfinite
  · have hissuesFound := hcounted ("issues_found", report.issuesFound) (by simp [counters])
    show 0 ≤ report.issuesFound.getD report.issues.length
    cases hcount : report.issuesFound with
    | none => exact Int.natCast_nonneg _
    | some value => exact hissuesFound value hcount
  · exact hcounted ("files_analyzed", report.filesAnalyzed) (by simp [counters])

/-- A checked report ends a job as the report says. -/
theorem status_of_check {report : Report} {checked : CheckedReport}
    (h : report.check = .ok checked) : checked.status = report.status.jobStatus := by
  unfold check at h
  split at h
  · exact nomatch h
  split at h
  · exact nomatch h
  split at h
  · exact nomatch h
  split at h
  · exact nomatch h
  split at h
  · exact nomatch h
  obtain rfl := Except.ok.inj h
  rfl

end Report

end AnalysisDesk
