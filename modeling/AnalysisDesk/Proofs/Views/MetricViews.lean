/-
The metrics of a job, in one list and by type.

The store sorts metrics by their numbers, and the groups of a view are sorted in the total
order of all doubles.  A column of numbers keeps no zero with a sign and nothing that is no
number, and on the rest the two orders are one.  So the list is already in the order in
which its groups shall be: sorting a group changes nothing, and a group is the part of the
list that is of its type, as it stands there.
-/
import AnalysisDesk.Proofs.Text.Numerals
import AnalysisDesk.Proofs.Views.Filtering
import AnalysisDesk.Proofs.Views.Grouping

namespace AnalysisDesk

/-! ### The order of a listing -/

namespace Metric

/-- Whether a metric comes before another one: it is greater, or it is level with it and was
inserted earlier. -/
def Outranks (a b : Metric) : Prop :=
  b.value.Precedes a.value ∨ a.value = b.value ∧ a.id < b.id

theorem Outranks.above {a b : Metric} (h : a.Outranks b) : a.Above b :=
  h.imp_right fun ⟨hlevel, hid⟩ => ⟨hlevel, Int.le_of_lt hid⟩

theorem outranks_strict (a b : Metric) (hab : a.Outranks b) : ¬ b.Outranks a := by
  intro hba
  rcases hab with hab | ⟨hlevel, hab⟩ <;> rcases hba with hba | ⟨hlevel', hba⟩
  · exact Int.lt_asymm hab.totalKey_lt hba.totalKey_lt
  · rw [hlevel'] at hab
    exact Int.lt_irrefl _ hab.totalKey_lt
  · rw [hlevel] at hba
    exact Int.lt_irrefl _ hba.totalKey_lt
  · exact Int.lt_asymm hab hba

/-- The groups of metrics that are in order are the parts of their types. -/
theorem grouped_of_sorted {metrics : List Metric} (h : metrics.Pairwise Above) :
    grouped metrics = (types metrics).map fun type => (type, ofType metrics type) := by
  rw [grouped_eq]
  refine List.map_congr_left fun type _ => ?_
  have hpart : (ofType metrics type).Pairwise fun a b => standsBefore a b = true :=
    (h.filter _).imp standsBefore_iff.mpr
  exact congrArg (Prod.mk type) (List.mergeSort_of_pairwise hpart)

end Metric

/-- A view whose list and whose groups say the same. -/
structure MetricsView.Consistent (view : MetricsView) : Prop where
  /-- A group is what the list has of its type, in the same order. -/
  part : ∀ group ∈ view.grouped,
    group.2 = view.metrics.filter fun metric => metric.metricType == group.1
  /-- There is one group for each type that occurs, and no other. -/
  occurring : ∀ type, type ∈ view.grouped.map (·.1) ↔
    ∃ metric ∈ view.metrics, metric.metricType = type
  once : (view.grouped.map (·.1)).Nodup

theorem MetricsView.consistent_ofMetrics {metrics : List Metric}
    (h : metrics.Pairwise Metric.Above) : (MetricsView.ofMetrics metrics).Consistent := by
  have hgroups : (MetricsView.ofMetrics metrics).grouped
      = (Metric.types metrics).map fun type => (type, Metric.ofType metrics type) :=
    Metric.grouped_of_sorted h
  have hkeys : (MetricsView.ofMetrics metrics).grouped.map (·.1) = Metric.types metrics := by
    rw [hgroups, List.map_map]
    exact List.map_id _
  refine ⟨fun group hmem => ?_, fun type => ?_, ?_⟩
  · rw [hgroups] at hmem
    obtain ⟨type, -, rfl⟩ := List.mem_map.mp hmem
    rfl
  · rw [hkeys]
    exact Metric.mem_types
  · rw [hkeys]
    exact Metric.types_nodup metrics

/-! ### What the store keeps -/

/-- A column of numbers keeps no zero with a sign. -/
theorem Double.ne_negZero_of_kept {d kept : Double} (h : d.kept = .value kept) :
    kept ≠ .negZero := by
  unfold Double.kept at h
  split at h
  · exact nomatch h
  · split at h
    · rw [← Slot.value.inj h]
      decide
    · rename_i hzero
      rintro rfl
      rw [Slot.value.inj h] at hzero
      exact hzero rfl

namespace Store

variable {s : Store}

/-- A metric is shown with the number of its row, which is not a zero with a sign. -/
theorem Entered.metric_shows (h : s.Entered) {row : MetricRow} (hrow : row ∈ s.metrics)
    {metric : Metric} (hread : row.read = .ok metric) :
    metric.id = row.id ∧ row.value = .value metric.value ∧ metric.value ≠ .negZero := by
  obtain ⟨job, reported, -, heq⟩ := h.metrics row hrow
  have hkept : row.value = reported.value.kept := congrArg MetricRow.value heq
  unfold MetricRow.read at hread
  obtain ⟨value, hvalue, hread⟩ := bind_ok hread
  obtain ⟨_, -, hread⟩ := bind_ok hread
  cases hread
  have hcell : row.value = .value value := by
    cases hslot : row.value with
    | empty => rw [hslot] at hvalue; exact nomatch hvalue
    | value d => rw [hslot] at hvalue; exact congrArg Slot.value (Except.ok.inj hvalue)
    | foreign content => rw [hslot] at hvalue; exact nomatch hvalue
  exact ⟨rfl, hcell, Double.ne_negZero_of_kept (hkept.symm.trans hcell)⟩

/-- Rows are sorted by their numbers and then by their ids. -/
theorem metricBefore_iff {a b : MetricRow} {x y : Double} (ha : a.value = .value x)
    (hb : b.value = .value y) :
    metricBefore a b = true ↔
      y.numericKey < x.numericKey ∨ y.numericKey = x.numericKey ∧ a.id ≤ b.id := by
  have hkeys : compareLex (compareOn (·.1)) (compareOn (·.2)) b.value.realKey a.value.realKey
      = compare y.numericKey x.numericKey := by
    rw [ha, hb]
    rfl
  unfold metricBefore
  simp only [hkeys]
  rw [Ordering.isLE_then_iff_or, Int.compare_eq_lt, Int.compare_eq_eq, Int.isLE_compare]

/-- **Metrics are listed greatest first.** -/
theorem Reached.greatestFirst_inOrder (hs : s.Reached) {rows : List MetricRow}
    (hrows : rows.Sublist s.metrics) :
    InOrder MetricRow.read Metric.Outranks (rows.mergeSort metricBefore) := by
  have hperm : (rows.mergeSort metricBefore).Perm rows := List.mergeSort_perm _ _
  have hids : (rows.mergeSort metricBefore).Pairwise fun a b => a.id ≠ b.id := by
    rw [← List.pairwise_map, ← List.nodup_iff_pairwise_ne, (hperm.map _).nodup_iff]
    exact hs.numbered.metrics.nodup.sublist (hrows.map _)
  have hmem : ∀ row ∈ rows.mergeSort metricBefore, row ∈ s.metrics :=
    fun row hrow => hrows.subset (hperm.subset hrow)
  have hpairs : (rows.mergeSort metricBefore).Pairwise fun a b =>
      a ∈ s.metrics ∧ b ∈ s.metrics ∧ a.id ≠ b.id ∧ metricBefore a b = true :=
    (hids.and (pairwise_mergeSort_of_cmp metricBefore_eq rows)).imp_of_mem
      fun ha hb h => ⟨hmem _ ha, hmem _ hb, h⟩
  refine hpairs.imp ?_
  rintro a b ⟨ha, hb, hne, hbefore⟩ x y hreada hreadb
  obtain ⟨hidx, hx, hxzero⟩ := hs.entered.metric_shows ha hreada
  obtain ⟨hidy, hy, hyzero⟩ := hs.entered.metric_shows hb hreadb
  rw [metricBefore_iff hx hy] at hbefore
  rcases hbefore with hlt | ⟨hsame, hid⟩
  · exact Or.inl (Double.totalKey_lt_iff.mp
      ((Double.totalKey_lt_iff_numericKey_lt hyzero hxzero).mpr hlt))
  · refine Or.inr ⟨?_, by omega⟩
    -- neither stands before the other, so they have one place in the total order
    have hxy := Double.totalKey_lt_iff_numericKey_lt hxzero hyzero
    have hyx := Double.totalKey_lt_iff_numericKey_lt hyzero hxzero
    exact Double.totalKey_inj (by omega)

/-! ### Views -/

theorem metricsOf_of_metricsView {job : JobId} {filter : MetricFilter} {user : Int}
    {view : MetricsView} (h : s.metricsView job filter user = .ok (some view)) :
    ∃ metrics, s.metricsOf job filter = .ok metrics ∧ view = .ofMetrics metrics := by
  obtain ⟨-, hview⟩ := guarded_eq_some h
  obtain ⟨metrics, hmetrics, heq⟩ := map_eq_ok_iff.mp hview
  exact ⟨metrics, hmetrics, heq.symm⟩

/-- A view of the metrics of a job under a filter. -/
structure ShowsMetrics (s : Store) (job : JobId) (filter : MetricFilter) (view : MetricsView) :
    Prop where
  /-- The list has every metric of the job that the filter admits, once, greatest first. -/
  lists : Lists MetricRow.read
    (s.metrics.filter fun row => row.jobId == job.text && filter.admits row) Metric.Outranks
    view.metrics
  consistent : view.Consistent

theorem Reached.showsMetrics (hs : s.Reached) {job : JobId} {filter : MetricFilter}
    {metrics : List Metric} (h : s.metricsOf job filter = .ok metrics) :
    s.ShowsMetrics job filter (.ofMetrics metrics) := by
  have hrows : (s.metrics.filter fun row => row.jobId == job.text && filter.admits row).Sublist
      s.metrics := List.filter_sublist
  have hread := readAll_eq_ok_iff.mp h
  have hperm := List.mergeSort_perm
    (s.metrics.filter fun row => row.jobId == job.text && filter.admits row) metricBefore
  have hsorted := (hs.greatestFirst_inOrder hrows).pairwise hread
  refine ⟨⟨?_, ⟨_, hperm, hread⟩, hsorted, Metric.outranks_strict⟩,
    MetricsView.consistent_ofMetrics (hsorted.imp Metric.Outranks.above)⟩
  exact hread.length_eq.symm.trans hperm.length_eq

/-- **The list and the groups of a job's metrics say the same.**  In every reachable store a view of
a job's metrics, whoever asked for it and with whatever filter, lists the metrics that the filter
admits from the greatest to the least, and has for each type that occurs among them one group, which
is the part of the list that is of this type, in the same order.  The owner of a job gets the view
unless the job cannot be read, for a time of it that has no room in a timestamp. -/
theorem metric_view_is_consistent (s : Store) (hs : s.Reached) (job : JobId) (user : Int)
    (filter : MetricFilter) :
    (∀ view, s.metricsView job filter user = .ok (some view) → s.ShowsMetrics job filter view) ∧
    ∀ row, s.jobRow? job = some row → s.owns user row = true →
      (row.Legible → ∃ view, s.metricsView job filter user = .ok (some view) ∧
        s.ShowsMetrics job filter view) ∧
      (¬ row.Legible → ∃ t : Instant, row.IsTime t.stored ∧ ¬ t.HasPlainYear ∧
        s.metricsView job filter user = .error (.badTimestamp t.stored .invalid)) := by
  refine ⟨fun view hview => ?_, fun row hrow howns => ?_⟩
  · obtain ⟨metrics, hmetrics, rfl⟩ := metricsOf_of_metricsView hview
    exact hs.showsMetrics hmetrics
  · have howned := ownedJob?_of_row hs.wf hrow howns
    have hreads := hs.job_reads (jobRow?_mem hrow).1
    refine ⟨fun hlegible => ?_, fun hillegible => ?_⟩
    · obtain ⟨found, hread⟩ := hreads.ok hlegible
      rw [hread] at howned
      obtain ⟨_, metrics, hlists⟩ := hs.listsFindings job
      exact ⟨_, hlists.metricsView howned filter, hs.showsMetrics (hlists.metrics filter)⟩
    · rcases hreads with ⟨found, hread⟩ | ⟨t, htime, hyear, hread⟩
      · exact absurd (hs.legible_of_read (jobRow?_mem hrow).1 (by rw [hread]; rfl)) hillegible
      · rw [hread] at howned
        refine ⟨t, htime, hyear, ?_⟩
        unfold metricsView
        rw [howned]
        rfl

end Store

namespace Small

/-- A store with a job that has metrics of two types, among them both zeros. -/
def measured : Store :=
  Store.empty.afterAll
    [(.createUser "ada", ⟨0⟩),
      (.createRepository 1 "site" "https://git.example.com/site.git" "main", ⟨1⟩),
      (.createJob default ⟨1, "https://git.example.com/site.git", "main", none⟩, ⟨2⟩),
      (.markDispatched default "h-1", ⟨3⟩),
      (.applyReport Store.noneRefused default
        { status := .completed, qualityScore := none, maintainabilityIndex := none,
          complexityScore := none, securityRating := none, issuesFound := 0, filesAnalyzed := none,
          issues := [],
          metrics := [⟨"lines", .negZero, some "a.c"⟩, ⟨"depth", .ofNat 2, none⟩,
            ⟨"lines", .ofNat 3, some "b.c"⟩, ⟨"lines", .zero, some "c.c"⟩],
          error := none }, ⟨4⟩)]

theorem measured_reachedInYears : measured.ReachedInYears :=
  Store.ReachedInYears.afterAll (by decide +kernel) .empty

end Small

namespace Store

theorem metric_view_is_consistent_measured :
    Small.measured.Reached ∧ (Small.measured.metrics.map (·.metricType)).dedup.length = 2 ∧
      ∃ view, Small.measured.metricsView default .all 1 = .ok (some view) ∧
        view.metrics.length = 4 ∧ Small.measured.ShowsMetrics default .all view := by
  obtain ⟨row, hrow⟩ : ∃ row, Small.measured.jobRow? default = some row :=
    Option.isSome_iff_exists.mp (by decide +kernel)
  have howns : ∀ row ∈ Small.measured.jobs, Small.measured.owns 1 row = true := by decide +kernel
  have hmem := (jobRow?_mem hrow).1
  obtain ⟨view, hview, hshows⟩ :=
    ((metric_view_is_consistent Small.measured Small.measured_reachedInYears.reached default 1
      .all).2 row hrow (howns row hmem)).1
      (Small.measured_reachedInYears.dated.jobs row hmem)
  refine ⟨Small.measured_reachedInYears.reached, by decide +kernel, view, hview, ?_, hshows⟩
  rw [hshows.lists.count]
  decide +kernel

end Store

end AnalysisDesk
