/-
What is read back of a report.

The findings of a report become rows with ascending ids, and a listing orders rows by
their contents first and by their ids last.  So a listing is the stable sort of what
was reported: `readAll_sorted` says this of rows of any kind, and issues and metrics
are two cases of it.  What is read of a row is what was written, but for the sign of
a zero.
-/
import AnalysisDesk.Proofs.Number.Order
import AnalysisDesk.Proofs.Report.Checks
import AnalysisDesk.Proofs.Store.Written
import AnalysisDesk.Views.Listing

namespace AnalysisDesk

/-! ### Listing numbered rows -/

/-- Rows that can all be read. -/
theorem readAll_map {α β γ : Type} {read : β → Except StoreError γ} {row : α → β} {shown : α → γ} :
    ∀ {as : List α}, (∀ a ∈ as, read (row a) = .ok (shown a)) →
      readAll read (as.map row) = .ok (as.map shown) := by
  intro as
  induction as with
  | nil => exact fun _ => rfl
  | cons a rest ih =>
      intro h
      have hrest := ih fun b hb => h b (List.mem_cons_of_mem _ hb)
      simp only [List.map_cons, readAll, h a (List.mem_cons_self ..), hrest]

/-- Ascending numbers break the ties of an order. -/
theorem zipIdxLE_of_order {α : Type} {order : α → α → Ordering}
    (hswap : ∀ a b, order b a = (order a b).swap) (a b : α × Nat) :
    List.zipIdxLE (fun a b => (order a b).isLE) a b
      = ((order a.1 b.1).then (compare a.2 b.2)).isLE := by
  show (if (order a.1 b.1).isLE = true then
    if (order b.1 a.1).isLE = true then decide (a.2 ≤ b.2) else true else false) = _
  rw [hswap a.1 b.1]
  cases order a.1 b.1 with
  | lt | gt => rfl
  | eq => exact Bool.eq_iff_iff.mpr (decide_eq_true_iff.trans Nat.isLE_compare.symm)

/-- **A listing of rows that were numbered as they came**, by an order in which the number stands
last, is the stable sort of what they show. -/
theorem readAll_sorted {α β γ δ : Type} {read : β → Except StoreError γ} {before : β → β → Bool}
    {order : α → α → Ordering} {row : α × Nat → β} {shown : α × Nat → γ} {content : γ → δ}
    {told : α → δ} {as : List α} (hswap : ∀ a b, order b a = (order a b).swap)
    (hbefore : ∀ a ∈ as.zipIdx, ∀ b ∈ as.zipIdx,
      before (row a) (row b) = ((order a.1 b.1).then (compare a.2 b.2)).isLE)
    (hread : ∀ a ∈ as.zipIdx, read (row a) = .ok (shown a))
    (hcontent : ∀ a, content (shown a) = told a.1) :
    ∃ found, readAll read ((as.zipIdx.map row).mergeSort before) = .ok found ∧
      found.map content = (as.mergeSort fun a b => (order a b).isLE).map told := by
  have hsorted : (as.zipIdx.map row).mergeSort before
      = (as.zipIdx.mergeSort (List.zipIdxLE fun a b => (order a b).isLE)).map row := by
    refine (List.map_mergeSort fun a ha b hb => ?_).symm
    rw [hbefore a ha b hb, zipIdxLE_of_order hswap]
  refine ⟨(as.zipIdx.mergeSort (List.zipIdxLE fun a b => (order a b).isLE)).map shown, ?_, ?_⟩
  · rw [hsorted]
    exact readAll_map fun a ha => hread a ((List.mergeSort_perm _ _).mem_iff.mp ha)
  · rw [← List.mergeSort_zipIdx (l := as), List.map_map, List.map_map]
    exact List.map_congr_left fun a _ => hcontent a

/-- Rows that are made one after the other, each with the number after the last one. -/
theorem eq_map_zipIdx {α β : Type} {row : Int → α → β} {rows : Int → List α → List β}
    (hnil : ∀ last, rows last [] = [])
    (hcons : ∀ last a rest, rows last (a :: rest) = row (last + 1) a :: rows (last + 1) rest)
    (base : Int) (as : List α) :
    rows base as = as.zipIdx.map fun entry => row (base + entry.2 + 1) entry.1 := by
  have hgeneral : ∀ (as : List α) (k : Nat),
      rows (base + k) as = (as.zipIdx k).map fun entry => row (base + entry.2 + 1) entry.1 := by
    intro as
    induction as with
    | nil => exact fun k => hnil _
    | cons a rest ih =>
        intro k
        rw [hcons, List.zipIdx_cons, List.map_cons, ← ih (k + 1)]
        push_cast
        rw [Int.add_assoc]
  have hfirst := hgeneral as 0
  rwa [Int.natCast_zero, Int.add_zero] at hfirst

/-- Numbers that were given out one after the other are in the order of their places. -/
theorem compare_numbered (base : Int) (i j : Nat) :
    compare (base + i + 1) (base + j + 1) = compare i j := by
  refine compare_eq_of_lt_iff ?_ ?_ <;> omega

/-! ### Numbers -/

/-- A number as it is read back: zero has no sign. -/
def Double.readBack (d : Double) : Double := if d.isZero then .zero else d

theorem Double.kept_of_isFinite {d : Double} (h : d.isFinite = true) : d.kept = .value d.readBack := by
  unfold Double.kept Double.readBack
  rw [Double.not_isNaN_of_isFinite h, if_neg Bool.false_ne_true]
  split <;> rfl

theorem keptOption_value? {d? : Option Double} (h : ∀ d, d? = some d → d.isFinite = true) :
    (keptOption d?).value? = d?.map Double.readBack := by
  cases d? with
  | none => rfl
  | some d =>
      show d.kept.value? = _
      rw [Double.kept_of_isFinite (h d rfl)]
      rfl

/-- The sign of a zero does not matter for the order of numbers. -/
theorem Double.numericKey_readBack (d : Double) : d.readBack.numericKey = d.numericKey := by
  unfold Double.readBack
  split
  · rename_i hzero
    have hmagnitude : d.magnitude = 0 := eq_of_beq hzero
    have hkey : d.numericKey = 0 := by
      unfold Double.numericKey
      rw [hmagnitude]
      exact ite_self _
    rw [hkey]
    rfl
  · rfl

/-! ### Issues -/

/-- What an issue says. -/
def Issue.content (issue : Issue) : CheckedIssue where
  severity := issue.severity
  category := issue.category
  title := issue.title
  description := issue.description
  suggestion := issue.suggestion
  filePath := issue.filePath
  lineNumber := issue.lineNumber

/-- Worst first, then those with a line before those without, then by line. -/
def CheckedIssue.order (a b : CheckedIssue) : Ordering :=
  (compare a.severity.rank b.severity.rank).then
    ((compare a.lineNumber.isNone b.lineNumber.isNone).then
      (compare (a.lineNumber.getD 0) (b.lineNumber.getD 0)))

def CheckedIssue.before (a b : CheckedIssue) : Bool := (a.order b).isLE

theorem CheckedIssue.order_swap (a b : CheckedIssue) : b.order a = (a.order b).swap := by
  have hswap : ∀ {α : Type} [Ord α] [Std.OrientedOrd α] (x y : α), compare y x = (compare x y).swap :=
    fun x y => Std.OrientedCmp.eq_swap
  unfold CheckedIssue.order
  rw [Ordering.swap_then, Ordering.swap_then, hswap a.severity.rank, hswap a.lineNumber.isNone,
    hswap (a.lineNumber.getD 0)]

namespace Store

variable {job : JobId}

/-- The issue that the row of a reported one shows. -/
def reportedIssue (job : JobId) (id : Int) (issue : CheckedIssue) : Issue where
  id := id
  jobId := job
  severity := issue.severity
  category := issue.category
  title := issue.title
  description := issue.description
  suggestion := issue.suggestion
  filePath := issue.filePath
  lineNumber := issue.lineNumber

theorem issueRow_read (id : Int) (issue : CheckedIssue) :
    (issueRow job id issue).read = .ok (reportedIssue job id issue) := by
  have hline : (Slot.ofOption issue.lineNumber).read "issue" 8 "line_number"
      = .ok issue.lineNumber := by
    cases issue.lineNumber <;> rfl
  unfold IssueRow.read issueRow
  simp only [hline, readSeverity, Severity.ofLabel?_label, readJobId_text]
  rfl

/-- Issues are listed by what they say, and then as they came. -/
theorem issueBefore_issueRow (a b : CheckedIssue) (i j : Int) :
    issueBefore (issueRow job i a) (issueRow job j b) = ((a.order b).then (compare i j)).isLE := by
  have hvalues : ∀ m n : Int, compareLex (compareOn (·.1)) (compareOn (·.2)) (Slot.value m).key
      (Slot.value n).key = compare m n := fun _ _ => rfl
  have hrank : compare (a.severity.rank : Int) b.severity.rank
      = compare a.severity.rank b.severity.rank := by
    cases a.severity <;> cases b.severity <;> rfl
  -- a line that is missing stands behind all others, so its number does not matter
  have hline : (compare (Slot.ofOption a.lineNumber).isEmpty (Slot.ofOption b.lineNumber).isEmpty).then
      (compareLex (compareOn (·.1)) (compareOn (·.2)) (Slot.ofOption a.lineNumber).key
        (Slot.ofOption b.lineNumber).key)
      = (compare a.lineNumber.isNone b.lineNumber.isNone).then
        (compare (a.lineNumber.getD 0) (b.lineNumber.getD 0)) := by
    cases a.lineNumber <;> cases b.lineNumber <;> rfl
  unfold issueBefore CheckedIssue.order
  simp only [issueRow, hvalues, hrank, ← Ordering.then_assoc, ← hline]

end Store

/-! ### Metrics -/

/-- What a metric says. -/
def Metric.content (metric : Metric) : CheckedMetric where
  metricType := metric.metricType
  value := metric.value
  filePath := metric.filePath

/-- A metric as it is read back. -/
def CheckedMetric.readBack (metric : CheckedMetric) : CheckedMetric :=
  { metric with value := metric.value.readBack }

/-- Greatest value first. -/
def CheckedMetric.order (a b : CheckedMetric) : Ordering := compare b.value.units a.value.units

def CheckedMetric.before (a b : CheckedMetric) : Bool := (a.order b).isLE

theorem CheckedMetric.order_swap (a b : CheckedMetric) : b.order a = (a.order b).swap := by
  unfold CheckedMetric.order
  exact Std.OrientedCmp.eq_swap

namespace Store

variable {job : JobId}

/-- The metric that the row of a reported one shows. -/
def reportedMetric (job : JobId) (id : Int) (metric : CheckedMetric) : Metric where
  id := id
  jobId := job
  metricType := metric.metricType
  value := metric.value.readBack
  filePath := metric.filePath

theorem metricRow_read {metric : CheckedMetric} (hfinite : metric.value.isFinite = true) (id : Int) :
    (metricRow job id metric).read = .ok (reportedMetric job id metric) := by
  have hvalue : metric.value.kept.readValue "metric" 3 "value" = .ok metric.value.readBack := by
    rw [Double.kept_of_isFinite hfinite]
    rfl
  unfold MetricRow.read metricRow
  simp only [hvalue, readJobId_text]
  rfl

/-- Metrics are listed by their values, and then as they came. -/
theorem metricBefore_metricRow {a b : CheckedMetric} (ha : a.value.isFinite = true)
    (hb : b.value.isFinite = true) (i j : Int) :
    metricBefore (metricRow job i a) (metricRow job j b) = ((a.order b).then (compare i j)).isLE := by
  have hvalues : compareLex (compareOn (·.1)) (compareOn (·.2)) b.value.kept.realKey
      a.value.kept.realKey = a.order b := by
    rw [Double.kept_of_isFinite ha, Double.kept_of_isFinite hb]
    show compare b.value.readBack.numericKey a.value.readBack.numericKey = _
    rw [Double.numericKey_readBack, Double.numericKey_readBack, Double.compare_numericKey]
    rfl
  unfold metricBefore
  simp only [metricRow, hvalues]

/-! ### The findings of a job -/

variable {s : Store} {base : Int}

/-- **The issues of a job whose report was written**: all of them, in stable order. -/
theorem issuesOf_reported {issues : List CheckedIssue}
    (h : (s.findingsOf job).1 = issueRows job base issues) :
    ∃ found, s.issuesOf job .all none = .ok (found, issues.length) ∧
      found.map Issue.content = issues.mergeSort CheckedIssue.before := by
  have hrows : s.issueRowsOf job .all
      = issues.zipIdx.map fun entry => issueRow job (base + entry.2 + 1) entry.1 := by
    have hfiltered : s.issueRowsOf job .all = (s.findingsOf job).1 :=
      List.filter_congr fun row _ => Bool.and_true _
    rw [hfiltered, h]
    exact eq_map_zipIdx (fun _ => rfl) (fun _ _ _ => rfl) base issues
  have hlisted : ∃ found, readAll IssueRow.read
      ((issues.zipIdx.map fun entry => issueRow job (base + entry.2 + 1) entry.1).mergeSort
        issueBefore) = .ok found ∧
      found.map Issue.content = (issues.mergeSort CheckedIssue.before).map id := by
    refine readAll_sorted CheckedIssue.order_swap (fun a _ b _ => ?_)
      (fun a _ => issueRow_read _ a.1) fun a => rfl
    rw [issueBefore_issueRow, compare_numbered]
  obtain ⟨found, hread, hcontent⟩ := hlisted
  refine ⟨found, ?_, hcontent.trans (List.map_id _)⟩
  unfold issuesOf
  rw [hrows]
  dsimp only
  rw [hread, List.length_map, List.length_zipIdx]
  rfl

/-- **The metrics of a job whose report was written.** -/
theorem metricsOf_reported {metrics : List CheckedMetric}
    (hfinite : ∀ metric ∈ metrics, metric.value.isFinite = true)
    (h : (s.findingsOf job).2 = metricRows job base metrics) :
    ∃ found, s.metricsOf job .all = .ok found ∧ found.map Metric.content
      = (metrics.mergeSort CheckedMetric.before).map CheckedMetric.readBack := by
  have hrows : (s.metrics.filter fun row => row.jobId == job.text && MetricFilter.all.admits row)
      = metrics.zipIdx.map fun entry => metricRow job (base + entry.2 + 1) entry.1 := by
    have hfiltered : (s.metrics.filter fun row =>
        row.jobId == job.text && MetricFilter.all.admits row) = (s.findingsOf job).2 :=
      List.filter_congr fun row _ => Bool.and_true _
    rw [hfiltered, h]
    exact eq_map_zipIdx (fun _ => rfl) (fun _ _ _ => rfl) base metrics
  have hfinite' : ∀ entry ∈ metrics.zipIdx, entry.1.value.isFinite = true :=
    fun entry hmem => hfinite entry.1 (List.fst_mem_of_mem_zipIdx hmem)
  have hlisted : ∃ found, readAll MetricRow.read
      ((metrics.zipIdx.map fun entry => metricRow job (base + entry.2 + 1) entry.1).mergeSort
        metricBefore) = .ok found ∧
      found.map Metric.content
        = (metrics.mergeSort CheckedMetric.before).map CheckedMetric.readBack := by
    refine readAll_sorted CheckedMetric.order_swap (fun a ha b hb => ?_)
      (fun a ha => metricRow_read (hfinite' a ha) _) fun a => rfl
    rw [metricBefore_metricRow (hfinite' a ha) (hfinite' b hb), compare_numbered]
  obtain ⟨found, hread, hcontent⟩ := hlisted
  refine ⟨found, ?_, hcontent⟩
  unfold metricsOf
  rw [hrows, hread]

end Store

end AnalysisDesk
