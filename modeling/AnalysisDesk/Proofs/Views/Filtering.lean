/-
What a filter leaves of a job's findings.

The views of a job's findings are put together in different ways: its detail counts
what was read, a page of issues counts rows, and both come out of queries of their own
for each filter.  They agree because a filter sees the same in a row as in what is read
of it, and because no two findings are level in the order in which they are listed.  So
to pick rows and to sort them is the same in either order, and every filtered listing is
the part of the one listing that the filter asks for.

Findings can always be read.  The job may have a time that has no room in a timestamp,
and then none of the views is given.
-/
import AnalysisDesk.Proofs.Store.Dated
import AnalysisDesk.Proofs.Store.Delivery
import AnalysisDesk.Proofs.Views.Counting
import AnalysisDesk.Proofs.Views.Isolation
import AnalysisDesk.Proofs.Views.Partition

namespace AnalysisDesk

/-! ### Picking and sorting -/

/-- Where no two rows are level, to pick rows and to sort them is the same in either order. -/
theorem filter_mergeSort {α : Type} {cmp : α → α → Ordering} [Std.TransCmp cmp]
    {before : α → α → Bool} (hbefore : ∀ a b, before a b = (cmp a b).isLE) {rows : List α}
    (hlevel : ∀ a ∈ rows, ∀ b ∈ rows, cmp a b = .eq → a = b) (p : α → Bool) :
    (rows.filter p).mergeSort before = (rows.mergeSort before).filter p := by
  have hperm : ((rows.filter p).mergeSort before).Perm ((rows.mergeSort before).filter p) :=
    (List.mergeSort_perm _ _).trans ((List.mergeSort_perm rows before).filter p).symm
  refine hperm.eq_of_pairwise (fun a b ha hb hab hba => ?_)
    (pairwise_mergeSort_of_cmp hbefore _) ((pairwise_mergeSort_of_cmp hbefore rows).filter p)
  rw [hbefore] at hab hba
  have hmem : ∀ {x}, x ∈ (rows.mergeSort before).filter p → x ∈ rows := fun hx =>
    (List.mergeSort_perm rows before).subset (List.mem_filter.mp hx).1
  exact hlevel a (hmem (hperm.subset ha)) b (hmem hb) (Std.OrientedCmp.isLE_antisymm hab hba)

/-- Rows are picked as what is read of them. -/
theorem readAll_filter {α β : Type} {read : α → Except StoreError β} {admits : α → Bool}
    {wants : β → Bool} (hsame : ∀ row item, read row = .ok item → admits row = wants item)
    {rows : List α} {items : List β} (h : readAll read rows = .ok items) :
    readAll read (rows.filter admits) = .ok (items.filter wants) := by
  rw [readAll_eq_ok_iff] at h ⊢
  refine List.rel_filter (fun row item hread => ?_) h
  show admits row = true ↔ wants item = true
  rw [hsame row item hread]

/-- A further condition picks from what was picked without it. -/
private theorem filter_and {α : Type} {p q all : α → Bool} (hall : ∀ a, all a = true)
    (as : List α) :
    as.filter (fun a => p a && q a) = (as.filter fun a => p a && all a).filter q := by
  rw [List.filter_filter]
  refine List.filter_congr fun a _ => ?_
  rw [hall, Bool.and_true, Bool.and_comm]

/-! ### Filters -/

/-- Whether an issue is one that a filter asks for. -/
def IssueFilter.wants (f : IssueFilter) (issue : Issue) : Bool :=
  f.severity.all (· == issue.severity) && f.category.all (· == issue.category)

/-- Whether a metric is one that a filter asks for. -/
def MetricFilter.wants (f : MetricFilter) (metric : Metric) : Bool :=
  f.metricType.all (· == metric.metricType) && f.filePath.all fun path => metric.filePath == some path

theorem IssueFilter.admits_eq (f : IssueFilter) {row : IssueRow} {issue : Issue}
    (h : row.read = .ok issue) : f.admits row = f.wants issue := by
  obtain ⟨hseverity, hcategory⟩ := IssueRow.read_shows h
  have hlabel : ∀ severity : Severity,
      (issue.severity.label == severity.label) = (severity == issue.severity) := by
    intro severity
    rw [Bool.eq_iff_iff, beq_iff_eq, beq_iff_eq, Severity.label_inj]
    exact eq_comm
  unfold admits wants
  rw [hseverity, hcategory]
  cases f.severity <;> cases f.category <;> simp [meets, hlabel, Bool.beq_comm]

theorem MetricFilter.admits_eq (f : MetricFilter) {row : MetricRow} {metric : Metric}
    (h : row.read = .ok metric) : f.admits row = f.wants metric := by
  obtain ⟨htype, hpath⟩ := MetricRow.read_shows h
  unfold admits wants
  rw [htype, hpath]
  cases f.metricType <;> cases f.filePath <;> simp [meets, Bool.beq_comm]

namespace Store

variable {s : Store} {job : JobId}

/-! ### The listings of a job's findings -/

/-- What the queries for a job's findings list, whatever filter is set. -/
structure ListsFindings (s : Store) (job : JobId) (issues : List Issue) (metrics : List Metric) :
    Prop where
  issues : ∀ filter : IssueFilter,
    readAll IssueRow.read ((s.issueRowsOf job filter).mergeSort issueBefore)
      = .ok (issues.filter filter.wants)
  metrics : ∀ filter : MetricFilter, s.metricsOf job filter = .ok (metrics.filter filter.wants)

/-- The comparison by which metrics are sorted. -/
def metricOrder : MetricRow → MetricRow → Ordering :=
  compareLex
    (fun a b => compareLex (compareOn fun row : MetricRow => row.value.realKey.1)
      (compareOn fun row : MetricRow => row.value.realKey.2) b a)
    (compareOn fun row : MetricRow => row.id)

instance : Std.TransCmp metricOrder := by
  unfold metricOrder
  infer_instance

theorem metricBefore_eq (a b : MetricRow) : metricBefore a b = (metricOrder a b).isLE := rfl

/-- The issues of a job under a filter, in order, are those of all its issues that pass it. -/
theorem Numbered.issueRowsOf_sorted (h : s.Numbered) (filter : IssueFilter) :
    (s.issueRowsOf job filter).mergeSort issueBefore
      = ((s.issueRowsOf job .all).mergeSort issueBefore).filter filter.admits := by
  have hrows : s.issueRowsOf job filter = (s.issueRowsOf job .all).filter filter.admits :=
    filter_and (fun _ => rfl) s.issues
  rw [hrows]
  refine filter_mergeSort issueBefore_eq (fun a ha b hb hlevel => ?_) filter.admits
  exact List.inj_on_of_nodup_map h.issues.nodup (List.mem_filter.mp ha).1 (List.mem_filter.mp hb).1
    (id_eq_of_issueOrder hlevel)

/-- The metrics of a job under a filter, likewise. -/
theorem Numbered.metricRows_sorted (h : s.Numbered) (filter : MetricFilter) :
    (s.metrics.filter fun row => row.jobId == job.text && filter.admits row).mergeSort metricBefore
      = ((s.metrics.filter fun row =>
          row.jobId == job.text && MetricFilter.all.admits row).mergeSort metricBefore).filter
        filter.admits := by
  have hrows : (s.metrics.filter fun row => row.jobId == job.text && filter.admits row)
      = (s.metrics.filter fun row =>
          row.jobId == job.text && MetricFilter.all.admits row).filter filter.admits :=
    filter_and (fun _ => rfl) s.metrics
  rw [hrows]
  refine filter_mergeSort metricBefore_eq (fun a ha b hb hlevel => ?_) filter.admits
  exact List.inj_on_of_nodup_map h.metrics.nodup (List.mem_filter.mp ha).1
    (List.mem_filter.mp hb).1 (Int.compare_eq_eq.mp (compareLex_eq_eq.mp hlevel).2)

/-- Metrics can be read. -/
theorem Entered.metric_reads (h : s.Entered) (times : Instant → Prop) :
    ∀ row ∈ s.metrics, Reads times row.read := by
  intro row hrow
  obtain ⟨job, metric, hnumber, heq⟩ := h.metrics row hrow
  have hvalue : ∃ value, metric.value.kept = .value value := by
    unfold Double.kept
    rw [hnumber, if_neg Bool.false_ne_true]
    split <;> exact ⟨_, rfl⟩
  obtain ⟨value, hvalue⟩ := hvalue
  rw [heq]
  refine Or.inl ⟨⟨row.id, job, metric.metricType, value, metric.filePath⟩, ?_⟩
  unfold MetricRow.read metricRow
  simp only [hvalue, readJobId_text]
  rfl

/-- **Every filtered listing is the part of the one listing that the filter asks for.** -/
theorem Reached.listsFindings (hs : s.Reached) (job : JobId) :
    ∃ issues metrics, s.ListsFindings job issues metrics := by
  have hnone : ∀ {α : Type} {rows : List α} (t : Instant),
      (∃ row ∈ rows, (fun (_ : α) (_ : Instant) => False) row t) → t.HasPlainYear :=
    fun _ ⟨_, _, hc⟩ => hc.elim
  obtain ⟨issues, hissues⟩ : ∃ issues, readAll IssueRow.read
      ((s.issueRowsOf job .all).mergeSort issueBefore) = .ok issues := by
    refine (readAll_reads fun row hrow => hs.entered.issue_reads (fun _ => False) row ?_).ok hnone
    exact (List.mem_filter.mp ((List.mergeSort_perm _ _).subset hrow)).1
  obtain ⟨metrics, hmetrics⟩ : ∃ metrics, readAll MetricRow.read
      ((s.metrics.filter fun row =>
        row.jobId == job.text && MetricFilter.all.admits row).mergeSort metricBefore)
        = .ok metrics := by
    refine (readAll_reads fun row hrow => hs.entered.metric_reads (fun _ => False) row ?_).ok hnone
    exact (List.mem_filter.mp ((List.mergeSort_perm _ _).subset hrow)).1
  refine ⟨issues, metrics, fun filter => ?_, fun filter => ?_⟩
  · rw [hs.numbered.issueRowsOf_sorted]
    exact readAll_filter (fun row issue => filter.admits_eq) hissues
  · unfold metricsOf
    rw [hs.numbered.metricRows_sorted]
    exact readAll_filter (fun row metric => filter.admits_eq) hmetrics

namespace ListsFindings

variable {issues : List Issue} {metrics : List Metric}

/-- A filtered listing is as long as there are rows that match. -/
theorem length_issues (h : s.ListsFindings job issues metrics) (filter : IssueFilter) :
    (issues.filter filter.wants).length = (s.issueRowsOf job filter).length := by
  rw [← (readAll_eq_ok_iff.mp (h.issues filter)).length_eq, List.length_mergeSort]

theorem filter_all (issues : List Issue) : issues.filter IssueFilter.all.wants = issues :=
  List.filter_eq_self.mpr fun _ _ => rfl

theorem filter_all_metrics (metrics : List Metric) :
    metrics.filter MetricFilter.all.wants = metrics :=
  List.filter_eq_self.mpr fun _ _ => rfl

/-! ### What the views show -/

variable {user : Int} {found : Job}

theorem issuePages (h : s.ListsFindings job issues metrics)
    (howned : s.ownedJob? job user = .ok (some found)) (filter : IssueFilter) :
    GivesOut (fun request => s.issuePage job filter request user) PageRequest.issueItems
      (issues.filter filter.wants) := by
  refine givesOut_of_cut fun request => ?_
  unfold issuePage issuesOf
  dsimp only
  rw [howned, readAll_cut (h.issues filter), h.length_issues]
  rfl

theorem metricsView (h : s.ListsFindings job issues metrics)
    (howned : s.ownedJob? job user = .ok (some found)) (filter : MetricFilter) :
    s.metricsView job filter user
      = .ok (some (.ofMetrics (metrics.filter filter.wants))) := by
  unfold Store.metricsView
  rw [howned, h.metrics]
  rfl

theorem jobDetail (h : s.ListsFindings job issues metrics)
    (howned : s.ownedJob? job user = .ok (some found)) :
    s.jobDetail job user
      = .ok (some ⟨found, issues, metrics, Summary.ofFindings issues metrics⟩) := by
  have hissues := h.issues .all
  have hmetrics := h.metrics .all
  rw [filter_all] at hissues
  rw [filter_all_metrics] at hmetrics
  unfold Store.jobDetail issuesOf
  dsimp only
  rw [howned, hissues, hmetrics]
  rfl

end ListsFindings

/-! ### Summaries -/

/-- A job's detail with which every listing of the job's findings agrees. -/
structure FindingsAgree (s : Store) (job : JobId) (user : Int) (detail : JobDetail) : Prop where
  /-- Without a filter the listings are those of the detail. -/
  issues : GivesOut (fun request => s.issuePage job .all request user) PageRequest.issueItems
    detail.issues
  metrics : s.metricsView job .all user = .ok (some (.ofMetrics detail.metrics))
  /-- With a filter they are what the filter asks for of these, in the same order. -/
  filteredIssues : ∀ filter : IssueFilter,
    GivesOut (fun request => s.issuePage job filter request user) PageRequest.issueItems
      (detail.issues.filter filter.wants)
  filteredMetrics : ∀ filter : MetricFilter, s.metricsView job filter user
    = .ok (some (.ofMetrics (detail.metrics.filter filter.wants)))
  /-- The summary has all severities, and its counts are the totals of the listings. -/
  severities : detail.summary.bySeverity.toList
    = [.critical, .high, .medium, .low].map fun severity =>
        (severity, detail.summary.bySeverity.get severity)
  ofSeverity : ∀ severity : Severity,
    Totals (fun request => s.issuePage job ⟨some severity, none⟩ request user)
      (detail.summary.bySeverity.get severity)
  categories : (detail.summary.byCategory.map (·.1)).Nodup
  ofCategory : ∀ category : String,
    Totals (fun request => s.issuePage job ⟨none, some category⟩ request user)
      ((detail.summary.byCategory.lookup category).getD 0)
  /-- The counts add up. -/
  severitySum : (detail.summary.bySeverity.toList.map (·.2)).sum = detail.summary.totalIssues
  categorySum : (detail.summary.byCategory.map (·.2)).sum = detail.summary.totalIssues

/-- What is counted under a severity is what the filter for it leaves. -/
theorem get_ofFindings (issues : List Issue) (metrics : List Metric) (severity : Severity) :
    (Summary.ofFindings issues metrics).bySeverity.get severity
      = (issues.filter (IssueFilter.wants ⟨some severity, none⟩)).length := by
  unfold Summary.ofFindings
  rw [SeverityTable.get_ofCounts_ones (fun issue : Issue => issue.severity),
    List.countP_eq_length_filter]
  congr 2
  funext issue
  unfold IssueFilter.wants
  rw [Option.all_some, Option.all_none, Bool.and_true, Bool.beq_comm]

/-- What is counted under a category is what the filter for it leaves. -/
theorem lookup_ofFindings (issues : List Issue) (metrics : List Metric) (category : String) :
    ((Summary.ofFindings issues metrics).byCategory.lookup category).getD 0
      = (issues.filter (IssueFilter.wants ⟨none, some category⟩)).length := by
  unfold Summary.ofFindings
  rw [lookup_tallied, List.count, List.countP_map, List.countP_eq_length_filter]
  congr 2
  funext issue
  unfold IssueFilter.wants
  rw [Option.all_some, Option.all_none, Bool.true_and, Bool.beq_comm]
  rfl

theorem ListsFindings.agree {issues : List Issue} {metrics : List Metric} {user : Int} {found : Job}
    (h : s.ListsFindings job issues metrics) (howned : s.ownedJob? job user = .ok (some found)) :
    s.FindingsAgree job user ⟨found, issues, metrics, Summary.ofFindings issues metrics⟩ where
  issues := by
    have hpages := h.issuePages howned .all
    rwa [filter_all] at hpages
  metrics := by
    have hview := h.metricsView howned .all
    rwa [filter_all_metrics] at hview
  filteredIssues := h.issuePages howned
  filteredMetrics := h.metricsView howned
  severities := rfl
  ofSeverity := fun severity => by
    rw [get_ofFindings]
    exact (h.issuePages howned _).totals
  categories := nodup_tallied _
  ofCategory := fun category => by
    rw [lookup_ofFindings]
    exact (h.issuePages howned _).totals
  severitySum := SeverityTable.sum_ofCounts_ones _ issues
  categorySum := by
    unfold Summary.ofFindings
    rw [sum_tallied, List.length_map]

/-- **The summary agrees with the listings.**  In every reachable store the owner of a job that can
be read gets a detail with which all listings of the job's findings agree: those without a filter
are the findings of the detail, each filter leaves the part of them that it asks for, in the same
order, and the summary counts for each severity and for each category what the filter for it leaves.
If the job cannot be read, all these views fail alike, with a time of the job that has no room in a
timestamp. -/
theorem summary_agrees_with_listing (s : Store) (hs : s.Reached) (job : JobId) (row : JobRow)
    (user : Int) (hrow : s.jobRow? job = some row) (howns : s.owns user row = true) :
    (row.Legible → ∃ detail, s.jobDetail job user = .ok (some detail) ∧
      s.FindingsAgree job user detail) ∧
    (¬ row.Legible → ∃ t : Instant, row.IsTime t.stored ∧ ¬ t.HasPlainYear ∧
      s.jobDetail job user = .error (.badTimestamp t.stored .invalid) ∧
      (∀ filter request,
        s.issuePage job filter request user = .error (.badTimestamp t.stored .invalid)) ∧
      ∀ filter, s.metricsView job filter user = .error (.badTimestamp t.stored .invalid)) := by
  have howned := ownedJob?_of_row hs.wf hrow howns
  have hreads := hs.job_reads (jobRow?_mem hrow).1
  refine ⟨fun hlegible => ?_, fun hillegible => ?_⟩
  · obtain ⟨found, hread⟩ := hreads.ok hlegible
    rw [hread] at howned
    obtain ⟨issues, metrics, hlists⟩ := hs.listsFindings job
    exact ⟨_, hlists.jobDetail howned, hlists.agree howned⟩
  · rcases hreads with ⟨found, hread⟩ | ⟨t, htime, hyear, hread⟩
    · exact absurd (hs.legible_of_read (jobRow?_mem hrow).1 (by rw [hread]; rfl)) hillegible
    · rw [hread] at howned
      refine ⟨t, htime, hyear, ?_, fun filter request => ?_, fun filter => ?_⟩
      · unfold jobDetail
        rw [howned]
        rfl
      · unfold issuePage
        dsimp only
        rw [howned]
        rfl
      · unfold metricsView
        rw [howned]
        rfl

end Store

namespace Store

theorem summary_agrees_with_listing_played :
    (Small.reported.issueRowsOf default .all).length = 3 ∧
      ∃ detail, Small.reported.jobDetail default 1 = .ok (some detail) ∧
        Small.reported.FindingsAgree default 1 detail := by
  obtain ⟨row, hrow⟩ : ∃ row, Small.reported.jobRow? default = some row :=
    Option.isSome_iff_exists.mp (by decide +kernel)
  have howns : ∀ row ∈ Small.reported.jobs, Small.reported.owns 1 row = true := by decide +kernel
  have hmem := (jobRow?_mem hrow).1
  exact ⟨by decide +kernel,
    (summary_agrees_with_listing Small.reported Small.reported_reachedInYears.reached default row 1
      hrow (howns row hmem)).1 (Small.reported_reachedInYears.dated.jobs row hmem)⟩

/-- A job whose owner gets no detail with which the listings could agree: the job cannot be read. -/
theorem summary_of_undated :
    Small.undated.Reached ∧
      (∃ row, Small.undated.jobRow? default = some row ∧ Small.undated.owns 1 row = true) ∧
      ¬ ∃ detail, Small.undated.jobDetail default 1 = .ok (some detail) ∧
        Small.undated.FindingsAgree default 1 detail := by
  obtain ⟨row, hrow⟩ : ∃ row, Small.undated.jobRow? default = some row :=
    Option.isSome_iff_exists.mp (by decide +kernel)
  have howns : ∀ row ∈ Small.undated.jobs, Small.undated.owns 1 row = true := by decide +kernel
  refine ⟨Small.undated_reached, ⟨row, hrow, howns row (jobRow?_mem hrow).1⟩, ?_⟩
  rintro ⟨detail, hdetail, -⟩
  have hfailed : Small.undated.jobDetail default 1
      = .error (.badTimestamp "+10000-01-01T00:00:00.000Z" .invalid) := by decide +kernel
  exact nomatch hfailed.symm.trans hdetail

end Store

end AnalysisDesk
