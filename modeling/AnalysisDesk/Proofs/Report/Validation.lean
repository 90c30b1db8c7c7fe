/-
Which reports are accepted.

What a report has to satisfy is a list of conditions in order, one for each part that is looked at.
A check stops at the first condition that does not hold and names the problem that goes with it, so
the claim about problems is a claim about one list: `FirstBad` says which item of a list is the first
bad one, and there is at most one such item.

The check goes through the list in pieces, some by searching and some by building a list of checked
items.  Of each piece it is shown what a problem says; together with what an accepted report says
both directions follow, since a report with a first bad condition is none that all hold of.
-/
import AnalysisDesk.Proofs.Report.Checks
import Mathlib.Data.List.Forall2

namespace AnalysisDesk

/-! ### The first bad item of a list -/

/-- The first item of a list that is not good. -/
inductive FirstBad {α : Type} (good : α → Prop) : List α → α → Prop
  | here {item : α} {rest : List α} (hbad : ¬ good item) : FirstBad good (item :: rest) item
  | later {other item : α} {rest : List α} (hgood : good other) (h : FirstBad good rest item) :
      FirstBad good (other :: rest) item

namespace FirstBad

variable {α β : Type} {good : α → Prop} {item other : α} {items : List α}

theorem not_all (h : FirstBad good items item) : ¬ ∀ other ∈ items, good other := by
  induction h with
  | here hbad => exact fun hall => hbad (hall _ List.mem_cons_self)
  | later _ _ ih => exact fun hall => ih fun _ hmem => hall _ (List.mem_cons_of_mem _ hmem)

theorem unique (h : FirstBad good items item) (h' : FirstBad good items other) : item = other := by
  induction h with
  | here hbad =>
      cases h' with
      | here => rfl
      | later hgood => exact absurd hgood hbad
  | later hgood _ ih =>
      cases h' with
      | here hbad => exact absurd hgood hbad
      | later _ h' => exact ih h'

theorem append_left (h : FirstBad good items item) (more : List α) :
    FirstBad good (items ++ more) item := by
  induction h with
  | here hbad => exact .here hbad
  | later hgood _ ih => exact .later hgood ih

theorem append_right {more : List α} (hgood : ∀ other ∈ items, good other)
    (h : FirstBad good more item) : FirstBad good (items ++ more) item := by
  induction items with
  | nil => exact h
  | cons first rest ih =>
      exact .later (hgood first List.mem_cons_self)
        (ih fun _ hmem => hgood _ (List.mem_cons_of_mem _ hmem))

theorem map {good : β → Prop} (f : α → β) (h : FirstBad (fun item => good (f item)) items item) :
    FirstBad good (items.map f) (f item) := by
  induction h with
  | here hbad => exact .here hbad
  | later hgood _ ih => exact .later hgood ih

/-- A search that finds something in bad items only finds it in the first of them. -/
theorem of_findSome? {find : α → Option β} {found : β} {tell : α → β}
    (h : items.findSome? find = some found) (hgood : ∀ item, find item = none → good item)
    (hbad : ∀ item, find item = some found → ¬ good item ∧ tell item = found) :
    ∃ item, FirstBad good items item ∧ tell item = found := by
  induction items with
  | nil => exact nomatch h
  | cons first rest ih =>
      rw [List.findSome?_cons] at h
      cases hfirst : find first with
      | none =>
          rw [hfirst] at h
          obtain ⟨item, hitem, htell⟩ := ih h
          exact ⟨item, .later (hgood first hfirst) hitem, htell⟩
      | some other =>
          rw [hfirst] at h
          obtain ⟨hnot, htell⟩ := hbad first (hfirst.trans h)
          exact ⟨first, .here hnot, htell⟩

end FirstBad

namespace Report

/-! ### What a report has to satisfy -/

/-- Something that a report has to satisfy. -/
inductive Condition where
  /-- A completed report has a quality score. -/
  | scored (status : ReportStatus) (score : Option Double)
  /-- A score that is given is a finite number. -/
  | finite (field : String) (score : Option Double)
  /-- A counter that is given is not negative. -/
  | counted (field : String) (counter : Option Int)
  /-- An issue has one of the four severities. -/
  | graded (index : Nat) (issue : ReportedIssue)
  /-- The value of a metric is a finite number. -/
  | measured (metric : ReportedMetric)

namespace Condition

def Holds : Condition → Prop
  | .scored status score => status = .completed → score ≠ none
  | .finite _ score => ∀ value, score = some value → value.isFinite = true
  | .counted _ counter => ∀ value, counter = some value → 0 ≤ value
  | .graded _ issue => issue.severity ∈ ["critical", "high", "medium", "low"]
  | .measured metric => metric.value.isFinite = true

/-- The problem of a report that does not satisfy a condition. -/
def problem : Condition → ReportProblem
  | .scored _ _ => .noQualityScore
  | .finite field _ => .scoreNotFinite field
  | .counted field counter => .counterNegative field (counter.getD 0)
  | .graded index issue => .unknownSeverity index issue.severity
  | .measured metric => .metricNotFinite metric.metricType

end Condition

/-- The conditions on a report, in the order in which they matter. -/
def conditions (r : Report) : List Condition :=
  [.scored r.status r.qualityScore] ++
    ([.finite "quality_score" r.qualityScore,
      .finite "maintainability_index" r.maintainabilityIndex,
      .finite "complexity_score" r.complexityScore, .finite "security_rating" r.securityRating] ++
    ([.counted "issues_found" r.issuesFound, .counted "files_analyzed" r.filesAnalyzed] ++
    (r.issues.zipIdx.map (fun entry => .graded entry.2 entry.1) ++ r.metrics.map .measured)))

/-- A report is fit to be written down. -/
structure WellFormed (r : Report) : Prop where
  scored : r.status = .completed → r.qualityScore ≠ none
  scores : ∀ score ∈ [r.qualityScore, r.maintainabilityIndex, r.complexityScore,
    r.securityRating], ∀ value, score = some value → value.isFinite = true
  counters : ∀ counter ∈ [r.issuesFound, r.filesAnalyzed], ∀ value, counter = some value → 0 ≤ value
  issues : ∀ issue ∈ r.issues, issue.severity ∈ ["critical", "high", "medium", "low"]
  metrics : ∀ metric ∈ r.metrics, metric.value.isFinite = true

theorem wellFormed_iff {r : Report} :
    r.WellFormed ↔ ∀ condition ∈ r.conditions, condition.Holds := by
  have hscores : (∀ condition ∈ [Condition.finite "quality_score" r.qualityScore,
        .finite "maintainability_index" r.maintainabilityIndex,
        .finite "complexity_score" r.complexityScore,
        .finite "security_rating" r.securityRating], condition.Holds) ↔
      ∀ score ∈ [r.qualityScore, r.maintainabilityIndex, r.complexityScore, r.securityRating],
        ∀ value, score = some value → value.isFinite = true := by
    simp only [List.forall_mem_cons, Condition.Holds, List.not_mem_nil]
    simp
  have hcounters : (∀ condition ∈ [Condition.counted "issues_found" r.issuesFound,
        .counted "files_analyzed" r.filesAnalyzed], condition.Holds) ↔
      ∀ counter ∈ [r.issuesFound, r.filesAnalyzed], ∀ value, counter = some value → 0 ≤ value := by
    simp only [List.forall_mem_cons, Condition.Holds, List.not_mem_nil]
    simp
  have hissues : (∀ entry ∈ r.issues.zipIdx, (Condition.graded entry.2 entry.1).Holds) ↔
      ∀ issue ∈ r.issues, issue.severity ∈ ["critical", "high", "medium", "low"] := by
    have hfst : r.issues.zipIdx.map Prod.fst = r.issues := List.zipIdx_map_fst 0 r.issues
    constructor
    · intro h issue hmem
      rw [← hfst] at hmem
      obtain ⟨entry, hentry, rfl⟩ := List.mem_map.mp hmem
      exact h entry hentry
    · intro h entry hentry
      exact h entry.1 (hfst ▸ List.mem_map_of_mem hentry)
  unfold conditions
  rw [List.forall_mem_append, List.forall_mem_append, List.forall_mem_append,
    List.forall_mem_append, List.forall_mem_map, List.forall_mem_map, List.forall_mem_singleton,
    hscores, hcounters, hissues]
  constructor
  · intro h
    exact ⟨h.scored, h.scores, h.counters, h.issues, h.metrics⟩
  · rintro ⟨hscored, hscores, hcounters, hissues, hmetrics⟩
    exact ⟨hscored, hscores, hcounters, hissues, hmetrics⟩

end Report

/-! ### What is kept of a report -/

/-- A checked issue says what the reported one says. -/
structure CheckedIssue.Keeps (checked : CheckedIssue) (issue : ReportedIssue) : Prop where
  severity : checked.severity.label = issue.severity
  category : checked.category = issue.category
  title : checked.title = issue.title
  description : checked.description = issue.description
  suggestion : checked.suggestion = issue.suggestion
  filePath : checked.filePath = issue.filePath
  lineNumber : checked.lineNumber = issue.lineNumber

/-- A checked metric says what the reported one says. -/
structure CheckedMetric.Keeps (checked : CheckedMetric) (metric : ReportedMetric) : Prop where
  metricType : checked.metricType = metric.metricType
  value : checked.value = metric.value
  filePath : checked.filePath = metric.filePath

/-- A checked report says what the report says, and how many issues were found in any case. -/
structure CheckedReport.Keeps (checked : CheckedReport) (r : Report) : Prop where
  status : checked.status.label = r.status.label
  qualityScore : checked.qualityScore = r.qualityScore
  maintainabilityIndex : checked.maintainabilityIndex = r.maintainabilityIndex
  complexityScore : checked.complexityScore = r.complexityScore
  securityRating : checked.securityRating = r.securityRating
  issuesFound : checked.issuesFound = r.issuesFound.getD r.issues.length
  filesAnalyzed : checked.filesAnalyzed = r.filesAnalyzed
  issues : List.Forall₂ CheckedIssue.Keeps checked.issues r.issues
  metrics : List.Forall₂ CheckedMetric.Keeps checked.metrics r.metrics
  error : checked.error = r.error

theorem CheckedIssue.Keeps.unique {checked checked' : CheckedIssue} {issue : ReportedIssue}
    (h : checked.Keeps issue) (h' : checked'.Keeps issue) : checked = checked' := by
  obtain ⟨severity, category, title, description, suggestion, filePath, lineNumber⟩ := checked
  obtain ⟨severity', category', title', description', suggestion', filePath', lineNumber'⟩ :=
    checked'
  congr 1
  · exact Severity.label_inj.mp (h.severity.trans h'.severity.symm)
  · exact h.category.trans h'.category.symm
  · exact h.title.trans h'.title.symm
  · exact h.description.trans h'.description.symm
  · exact h.suggestion.trans h'.suggestion.symm
  · exact h.filePath.trans h'.filePath.symm
  · exact h.lineNumber.trans h'.lineNumber.symm

theorem CheckedMetric.Keeps.unique {checked checked' : CheckedMetric} {metric : ReportedMetric}
    (h : checked.Keeps metric) (h' : checked'.Keeps metric) : checked = checked' := by
  obtain ⟨metricType, value, filePath⟩ := checked
  obtain ⟨metricType', value', filePath'⟩ := checked'
  congr 1
  · exact h.metricType.trans h'.metricType.symm
  · exact h.value.trans h'.value.symm
  · exact h.filePath.trans h'.filePath.symm

/-- There is only one way to say it. -/
theorem CheckedReport.Keeps.unique {checked checked' : CheckedReport} {r : Report}
    (h : checked.Keeps r) (h' : checked'.Keeps r) : checked = checked' := by
  have hstatus : some checked.status = some checked'.status := by
    rw [← JobStatus.ofLabel?_label, ← JobStatus.ofLabel?_label, h.status, h'.status]
  have hissue : Relator.LeftUnique CheckedIssue.Keeps := fun _ _ _ h h' => h.unique h'
  have hissues : checked.issues = checked'.issues :=
    List.left_unique_forall₂' hissue h.issues h'.issues
  have hmetric : Relator.LeftUnique CheckedMetric.Keeps := fun _ _ _ h h' => h.unique h'
  have hmetrics : checked.metrics = checked'.metrics :=
    List.left_unique_forall₂' hmetric h.metrics h'.metrics
  obtain ⟨status, quality, maintainability, complexity, security, found, files, issues, metrics,
    error⟩ := checked
  obtain ⟨status', quality', maintainability', complexity', security', found', files', issues',
    metrics', error'⟩ := checked'
  congr 1
  · exact Option.some.inj hstatus
  · exact h.qualityScore.trans h'.qualityScore.symm
  · exact h.maintainabilityIndex.trans h'.maintainabilityIndex.symm
  · exact h.complexityScore.trans h'.complexityScore.symm
  · exact h.securityRating.trans h'.securityRating.symm
  · exact h.issuesFound.trans h'.issuesFound.symm
  · exact h.filesAnalyzed.trans h'.filesAnalyzed.symm
  · exact h.error.trans h'.error.symm

/-! ### The parts of a report -/

namespace Report

open Condition

variable {r : Report} {problem : ReportProblem}

/-- The problem is that of the first condition that does not hold. -/
def Refused (conditions : List Condition) (problem : ReportProblem) : Prop :=
  ∃ condition, FirstBad Holds conditions condition ∧ condition.problem = problem

namespace Refused

variable {conditions more : List Condition}

theorem before (h : Refused conditions problem) (more : List Condition) :
    Refused (conditions ++ more) problem := by
  obtain ⟨condition, hbad, hproblem⟩ := h
  exact ⟨condition, hbad.append_left more, hproblem⟩

theorem after (h : Refused more problem) (hholds : ∀ condition ∈ conditions, condition.Holds) :
    Refused (conditions ++ more) problem := by
  obtain ⟨condition, hbad, hproblem⟩ := h
  exact ⟨condition, hbad.append_right hholds, hproblem⟩

theorem of_map {α : Type} {items : List α} {condition : α → Condition}
    (h : ∃ item, FirstBad (fun item => (condition item).Holds) items item ∧
      (condition item).problem = problem) : Refused (items.map condition) problem := by
  obtain ⟨item, hbad, hproblem⟩ := h
  exact ⟨condition item, hbad.map condition, hproblem⟩

end Refused

theorem refused_of_badScore {scores : List (String × Option Double)}
    (h : badScore? scores = some problem) :
    Refused (scores.map fun score => finite score.1 score.2) problem := by
  unfold badScore? at h
  refine Refused.of_map (FirstBad.of_findSome? h ?_ ?_)
  · rintro ⟨field, score⟩ hnone value rfl
    by_contra hfinite
    exact nomatch (if_neg hfinite).symm.trans hnone
  · rintro ⟨field, score⟩ hfound
    cases score with
    | none => exact nomatch hfound
    | some value =>
        by_cases hfinite : value.isFinite = true
        · exact nomatch (if_pos hfinite).symm.trans hfound
        · have hsame := Option.some.inj ((if_neg hfinite).symm.trans hfound)
          exact ⟨fun hholds => hfinite (hholds value rfl), hsame⟩

theorem refused_of_badCounter {counters : List (String × Option Int)}
    (h : badCounter? counters = some problem) :
    Refused (counters.map fun counter => counted counter.1 counter.2) problem := by
  unfold badCounter? at h
  refine Refused.of_map (FirstBad.of_findSome? h ?_ ?_)
  · rintro ⟨field, counter⟩ hnone value rfl
    by_contra hnegative
    exact nomatch (if_pos (Int.not_le.mp hnegative)).symm.trans hnone
  · rintro ⟨field, counter⟩ hfound
    cases counter with
    | none => exact nomatch hfound
    | some value =>
        by_cases hnegative : value < 0
        · have hsame := Option.some.inj ((if_pos hnegative).symm.trans hfound)
          exact ⟨fun hholds => Int.not_le.mpr hnegative (hholds value rfl), hsame⟩
        · exact nomatch (if_neg hnegative).symm.trans hfound

/-- A text that is a label of no grade is none of the four. -/
theorem holds_graded_iff {index : Nat} {issue : ReportedIssue} :
    (graded index issue).Holds ↔ ∃ severity, Severity.ofLabel? issue.severity = some severity := by
  simp only [Holds, Severity.ofLabel?_eq_some_iff]
  constructor
  · intro h
    simp only [List.mem_cons, List.not_mem_nil, or_false] at h
    rcases h with h | h | h | h
    · exact ⟨.critical, h⟩
    · exact ⟨.high, h⟩
    · exact ⟨.medium, h⟩
    · exact ⟨.low, h⟩
  · rintro ⟨severity, h⟩
    rw [h]
    cases severity <;> simp [Severity.label]

/-- An issue is checked in its place, and all before it were good. -/
theorem refused_of_checkIssues {issues : List ReportedIssue} {index : Nat}
    (h : checkIssues index issues = .error problem) :
    Refused ((issues.zipIdx index).map fun entry => graded entry.2 entry.1) problem := by
  induction issues generalizing index with
  | nil => exact nomatch h
  | cons issue rest ih =>
      rw [List.zipIdx_cons, List.map_cons]
      unfold checkIssues at h
      cases hseverity : Severity.ofLabel? issue.severity with
      | none =>
          rw [hseverity] at h
          refine ⟨graded index issue, .here fun hholds => ?_, Except.error.inj h⟩
          obtain ⟨severity, hlabel⟩ := holds_graded_iff.mp hholds
          exact nomatch hseverity.symm.trans hlabel
      | some severity =>
          rw [hseverity] at h
          cases hrest : checkIssues (index + 1) rest with
          | ok checked =>
              rw [hrest] at h
              exact nomatch h
          | error other =>
              rw [hrest] at h
              obtain rfl := Except.error.inj h
              have hgraded : (graded index issue).Holds :=
                holds_graded_iff.mpr ⟨severity, hseverity⟩
              exact (ih hrest).after (List.forall_mem_singleton.mpr hgraded)

theorem keeps_of_checkIssues {issues : List ReportedIssue} {index : Nat}
    {checked : List CheckedIssue} (h : checkIssues index issues = .ok checked) :
    List.Forall₂ CheckedIssue.Keeps checked issues := by
  induction issues generalizing index checked with
  | nil =>
      obtain rfl := Except.ok.inj h
      exact .nil
  | cons issue rest ih =>
      unfold checkIssues at h
      cases hseverity : Severity.ofLabel? issue.severity with
      | none =>
          rw [hseverity] at h
          exact nomatch h
      | some severity =>
          rw [hseverity] at h
          cases hrest : checkIssues (index + 1) rest with
          | error other =>
              rw [hrest] at h
              exact nomatch h
          | ok others =>
              rw [hrest] at h
              obtain rfl := Except.ok.inj h
              have hlabel := Severity.ofLabel?_eq_some_iff.mp hseverity
              exact .cons ⟨hlabel.symm, rfl, rfl, rfl, rfl, rfl, rfl⟩ (ih hrest)

theorem graded_of_keeps {checked : List CheckedIssue} {issues : List ReportedIssue}
    (h : List.Forall₂ CheckedIssue.Keeps checked issues) :
    ∀ issue ∈ issues, issue.severity ∈ ["critical", "high", "medium", "low"] := by
  induction h with
  | nil => exact fun _ hmem => nomatch hmem
  | cons hkeeps _ ih =>
      intro issue hmem
      rcases List.mem_cons.mp hmem with rfl | hmem
      · have hlabel := Severity.ofLabel?_eq_some_iff.mpr hkeeps.severity.symm
        have hholds : (graded 0 issue).Holds := holds_graded_iff.mpr ⟨_, hlabel⟩
        exact hholds
      · exact ih issue hmem

theorem refused_of_checkMetrics {metrics : List ReportedMetric}
    (h : checkMetrics metrics = .error problem) : Refused (metrics.map measured) problem := by
  induction metrics with
  | nil => exact nomatch h
  | cons metric rest ih =>
      rw [List.map_cons]
      unfold checkMetrics at h
      by_cases hfinite : metric.value.isFinite = true
      · rw [if_pos hfinite] at h
        cases hrest : checkMetrics rest with
        | ok checked =>
            rw [hrest] at h
            cases h
        | error other =>
            rw [hrest] at h
            obtain rfl := Except.error.inj h
            have hmeasured : (measured metric).Holds := hfinite
            exact (ih hrest).after (List.forall_mem_singleton.mpr hmeasured)
      · rw [if_neg hfinite] at h
        exact ⟨measured metric, .here hfinite, Except.error.inj h⟩

theorem keeps_of_checkMetrics {metrics : List ReportedMetric} {checked : List CheckedMetric}
    (h : checkMetrics metrics = .ok checked) :
    List.Forall₂ CheckedMetric.Keeps checked metrics ∧
      ∀ metric ∈ metrics, metric.value.isFinite = true := by
  induction metrics generalizing checked with
  | nil =>
      obtain rfl := Except.ok.inj h
      exact ⟨.nil, fun _ hmem => nomatch hmem⟩
  | cons metric rest ih =>
      unfold checkMetrics at h
      by_cases hfinite : metric.value.isFinite = true
      · rw [if_pos hfinite] at h
        cases hrest : checkMetrics rest with
        | error other =>
            rw [hrest] at h
            cases h
        | ok others =>
            rw [hrest] at h
            obtain rfl := Except.ok.inj h
            obtain ⟨hkeeps, hall⟩ := ih hrest
            refine ⟨.cons ⟨rfl, rfl, rfl⟩ hkeeps, ?_⟩
            exact List.forall_mem_cons.mpr ⟨hfinite, hall⟩
      · rw [if_neg hfinite] at h
        cases h

/-! ### The whole report -/

theorem holds_scored_iff :
    (scored r.status r.qualityScore).Holds ↔ r.isCompletedUnscored = false := by
  simp [Holds, isCompletedUnscored]

theorem label_jobStatus (status : ReportStatus) : status.jobStatus.label = status.label := by
  cases status <;> rfl

/-- A check has one of two outcomes. -/
theorem check_cases (r : Report) :
    (∃ checked, r.check = .ok checked ∧ r.WellFormed ∧ checked.Keeps r) ∨
      ∃ problem, r.check = .error problem ∧ Refused r.conditions problem := by
  unfold check conditions
  -- the pieces of the list are gone through as the check goes through the report
  cases hunscored : r.isCompletedUnscored with
  | true =>
      refine Or.inr ⟨_, rfl, Refused.before ⟨_, .here fun hholds => ?_, rfl⟩ _⟩
      exact nomatch hunscored.symm.trans (holds_scored_iff.mp hholds)
  | false =>
  have hscored := List.forall_mem_singleton.mpr (holds_scored_iff.mpr hunscored)
  cases hscores : badScore? r.scores with
  | some problem =>
      exact Or.inr ⟨_, rfl, ((refused_of_badScore hscores).before _).after hscored⟩
  | none =>
  have hfinite : ∀ condition ∈ r.scores.map fun score => finite score.1 score.2,
      condition.Holds := List.forall_mem_map.mpr (badScore?_eq_none_iff.mp hscores)
  cases hcounters : badCounter? r.counters with
  | some problem =>
      have hrefused := refused_of_badCounter hcounters
      exact Or.inr ⟨_, rfl, ((hrefused.before _).after hfinite).after hscored⟩
  | none =>
  have hcounted : ∀ condition ∈ r.counters.map fun counter => counted counter.1 counter.2,
      condition.Holds := List.forall_mem_map.mpr (badCounter?_eq_none_iff.mp hcounters)
  cases hissues : checkIssues 0 r.issues with
  | error problem =>
      have hrefused := refused_of_checkIssues hissues
      exact Or.inr ⟨_, rfl, (((hrefused.before _).after hcounted).after hfinite).after hscored⟩
  | ok issues =>
  have hkept := keeps_of_checkIssues hissues
  have hgraded : ∀ condition ∈ r.issues.zipIdx.map fun entry => graded entry.2 entry.1,
      condition.Holds :=
    List.forall_mem_map.mpr fun entry hentry =>
      graded_of_keeps hkept entry.1 (List.fst_mem_of_mem_zipIdx hentry)
  cases hmetrics : checkMetrics r.metrics with
  | error problem =>
      have hrefused := (refused_of_checkMetrics hmetrics).after hgraded
      exact Or.inr ⟨_, rfl, ((hrefused.after hcounted).after hfinite).after hscored⟩
  | ok metrics =>
  obtain ⟨hkept', hall⟩ := keeps_of_checkMetrics hmetrics
  have hmeasured : ∀ condition ∈ r.metrics.map measured, condition.Holds :=
    List.forall_mem_map.mpr hall
  refine Or.inl ⟨_, rfl, ?_, ?_⟩
  · have hlists := List.forall_mem_append.mpr ⟨hgraded, hmeasured⟩
    have hnumbers := List.forall_mem_append.mpr ⟨hcounted, hlists⟩
    have hgiven := List.forall_mem_append.mpr ⟨hfinite, hnumbers⟩
    exact wellFormed_iff.mpr (List.forall_mem_append.mpr ⟨hscored, hgiven⟩)
  · exact ⟨label_jobStatus r.status, rfl, rfl, rfl, rfl, rfl, rfl, hkept, hkept', rfl⟩

/-- **A report is accepted exactly if it is well formed, and then nothing of it is lost.**  The
accepted report keeps what the report says, and no other report does; a rejected one is told the
first condition that does not hold of it. -/
theorem check_decides (r : Report) :
    ((∃ checked, r.check = .ok checked) ↔ r.WellFormed) ∧
      (∀ checked, r.check = .ok checked ↔ r.WellFormed ∧ checked.Keeps r) ∧
      ∀ problem, r.check = .error problem ↔
        ∃ condition, FirstBad Holds r.conditions condition ∧ condition.problem = problem := by
  rcases check_cases r with ⟨kept, hok, hformed, hkeeps⟩ | ⟨first, herror, hbad⟩
  · have hnone : ¬ ∃ condition, FirstBad Holds r.conditions condition := by
      rintro ⟨condition, hbad⟩
      exact hbad.not_all (wellFormed_iff.mp hformed)
    refine ⟨⟨fun _ => hformed, fun _ => ⟨kept, hok⟩⟩, fun checked => ⟨?_, ?_⟩,
      fun problem => ⟨?_, ?_⟩⟩
    · intro h
      obtain rfl := Except.ok.inj (hok.symm.trans h)
      exact ⟨hformed, hkeeps⟩
    · rintro ⟨-, h⟩
      rw [hok, hkeeps.unique h]
    · exact fun h => nomatch hok.symm.trans h
    · rintro ⟨condition, hbad, -⟩
      exact absurd ⟨condition, hbad⟩ hnone
  · obtain ⟨condition, hbad, hproblem⟩ := hbad
    have hformed : ¬ r.WellFormed := fun h => hbad.not_all (wellFormed_iff.mp h)
    refine ⟨⟨?_, fun h => absurd h hformed⟩, fun checked => ⟨?_, fun h => absurd h.1 hformed⟩,
      fun problem => ⟨?_, ?_⟩⟩
    · rintro ⟨checked, h⟩
      exact nomatch herror.symm.trans h
    · exact fun h => nomatch herror.symm.trans h
    · intro h
      obtain rfl := Except.error.inj (herror.symm.trans h)
      exact ⟨condition, hbad, hproblem⟩
    · rintro ⟨other, hother, rfl⟩
      rw [herror, ← hproblem, hbad.unique hother]

end Report

end AnalysisDesk
