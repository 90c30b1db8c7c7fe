/-
Grouping loses and invents nothing.

Metrics are taken into the groups of their types one after the other, and in the end each
group is sorted.  What comes of it can be said without groups: the types that occur stand
in ascending order, and with each of them the part of the list that is of this type
(`grouped_eq`).  The parts make up the list, as every metric is in the part of its type and
in no other.

Values are sorted by the total order of all doubles, in which two values are level only if
they are one bit pattern, and then the ids decide.  So if no two metrics have one id, no two
are level, and it does not matter in which order they came.
-/
import AnalysisDesk.Proofs.Number.TotalOrder
import AnalysisDesk.Proofs.Text.ByteOrder
import AnalysisDesk.Proofs.Views.Counting
import AnalysisDesk.Views.Grouped
import Mathlib.Data.List.Nodup

namespace AnalysisDesk

namespace Metric

/-! ### Groups before they are sorted -/

/-- The types of some metrics, each once, in ascending order. -/
def types (metrics : List Metric) : List String :=
  (Store.tallied (metrics.map (·.metricType))).map (·.1)

/-- The metrics of a type, as they stand in the list. -/
def ofType (metrics : List Metric) (type : String) : List Metric :=
  metrics.filter fun metric => metric.metricType == type

theorem mem_types {metrics : List Metric} {type : String} :
    type ∈ types metrics ↔ ∃ metric ∈ metrics, metric.metricType = type := by
  unfold types
  rw [Store.mem_keys_tallied, List.mem_map]

theorem types_ascending (metrics : List Metric) : (types metrics).Pairwise (· < ·) :=
  Store.ascending_tallied _

theorem types_nodup (metrics : List Metric) : (types metrics).Nodup := Store.nodup_tallied _

theorem mem_ofType {metrics : List Metric} {type : String} {metric : Metric} :
    metric ∈ ofType metrics type ↔ metric ∈ metrics ∧ metric.metricType = type := by
  unfold ofType
  rw [List.mem_filter, beq_iff_eq]

theorem ofType_concat (metrics : List Metric) (metric : Metric) (type : String) :
    ofType (metrics ++ [metric]) type
      = ofType metrics type ++ if metric.metricType = type then [metric] else [] := by
  unfold ofType
  rw [List.filter_append, List.filter_cons, List.filter_nil]
  by_cases h : metric.metricType = type
  · rw [if_pos (beq_iff_eq.mpr h), if_pos h]
  · rw [if_neg (mt beq_iff_eq.mp h), if_neg h]

/-- To take a metric into the groups is to tally its type and to put it behind the others of its
type. -/
theorem addToGroups_map {metric : Metric} (before after : String → List Metric)
    (hself : after metric.metricType = before metric.metricType ++ [metric])
    (hother : ∀ type, type ≠ metric.metricType → after type = before type) :
    ∀ {counts : List (String × Nat)}, (counts.map (·.1)).Pairwise (· < ·) →
      (metric.metricType ∉ counts.map (·.1) → before metric.metricType = []) →
      metric.addToGroups (counts.map fun entry => (entry.1, before entry.1))
        = (Store.tally metric.metricType counts).map fun entry => (entry.1, after entry.1) := by
  intro counts
  induction counts with
  | nil =>
      intro _ hnone
      have hfirst : after metric.metricType = [metric] := by
        rw [hself, hnone List.not_mem_nil, List.nil_append]
      simp only [List.map_nil, addToGroups, Store.tally, List.map_cons, hfirst]
  | cons entry rest ih =>
      intro hascending hnone
      obtain ⟨hentry, hrest⟩ := List.pairwise_cons.mp hascending
      -- entries of other types keep their groups
      have hkeep : ∀ entries : List (String × Nat), metric.metricType ∉ entries.map (·.1) →
          (entries.map fun entry => (entry.1, before entry.1))
            = entries.map fun entry => (entry.1, after entry.1) := by
        intro entries hnot
        refine List.map_congr_left fun other hmem => ?_
        rw [hother other.1 fun heq => hnot (heq ▸ List.mem_map_of_mem hmem)]
      rw [List.map_cons, addToGroups, Store.tally]
      by_cases heq : metric.metricType = entry.1
      · have hnot : metric.metricType ∉ rest.map (·.1) := fun hmem =>
          String.lt_irrefl _ (heq ▸ hentry _ hmem)
        rw [if_pos heq, if_pos heq, List.map_cons, hkeep rest hnot, ← heq, hself]
      · rw [if_neg heq, if_neg heq]
        by_cases hlt : metric.metricType < entry.1
        · have hnot : metric.metricType ∉ (entry :: rest).map (·.1) := by
            rw [List.map_cons, List.mem_cons, not_or]
            exact ⟨heq, fun hmem => String.lt_irrefl _ (String.lt_trans hlt (hentry _ hmem))⟩
          have hfirst : after metric.metricType = [metric] := by
            rw [hself, hnone hnot, List.nil_append]
          rw [if_pos hlt, if_pos hlt, List.map_cons, hfirst, ← hkeep _ hnot, List.map_cons]
        · have htail : metric.metricType ∉ rest.map (·.1) → before metric.metricType = [] :=
            fun hnot => hnone fun hmem => (List.mem_cons.mp hmem).elim heq hnot
          rw [if_neg hlt, if_neg hlt, List.map_cons, hother entry.1 (Ne.symm heq), ih hrest htail]

/-- **The groups of some metrics are the parts of their types.** -/
theorem collected_eq (metrics : List Metric) :
    metrics.foldl (fun groups metric => metric.addToGroups groups) []
      = (types metrics).map fun type => (type, ofType metrics type) := by
  induction metrics using List.reverseRecOn with
  | nil => rfl
  | append_singleton metrics metric ih =>
      rw [List.foldl_append, ih]
      unfold types
      rw [List.map_map, List.map_append, List.map_singleton, Store.tallied_concat, List.map_map]
      refine addToGroups_map (ofType metrics) (ofType (metrics ++ [metric])) ?_ (fun type hne => ?_)
        (Store.ascending_tallied _) fun hnot => ?_
      · rw [ofType_concat, if_pos rfl]
      · rw [ofType_concat, if_neg (Ne.symm hne), List.append_nil]
      · refine List.filter_eq_nil_iff.mpr fun other hmem hsame => hnot ?_
        exact mem_types.mpr ⟨other, hmem, eq_of_beq hsame⟩

theorem grouped_eq (metrics : List Metric) :
    grouped metrics
      = (types metrics).map fun type => (type, (ofType metrics type).mergeSort standsBefore) := by
  unfold grouped
  rw [collected_eq, List.map_map]
  rfl

/-! ### The order within a group -/

/-- Whether a metric is greater than another one of its type, or level with it and older. -/
def Above (a b : Metric) : Prop :=
  b.value.Precedes a.value ∨ a.value = b.value ∧ a.id ≤ b.id

theorem standsBefore_iff {a b : Metric} : standsBefore a b = true ↔ a.Above b := by
  have hlevel : a.value.totalKey = b.value.totalKey ↔ a.value = b.value :=
    ⟨Double.totalKey_inj, congrArg Double.totalKey⟩
  unfold standsBefore Above
  rw [Bool.or_eq_true, Bool.and_eq_true, decide_eq_true_eq, beq_iff_eq, decide_eq_true_eq, hlevel,
    Double.totalKey_lt_iff]

theorem standsBefore_trans (a b c : Metric) (hab : standsBefore a b = true)
    (hbc : standsBefore b c = true) : standsBefore a c = true := by
  simp only [standsBefore, Bool.or_eq_true, Bool.and_eq_true, decide_eq_true_eq, beq_iff_eq]
    at hab hbc ⊢
  omega

theorem standsBefore_total (a b : Metric) : (standsBefore a b || standsBefore b a) = true := by
  simp only [standsBefore, Bool.or_eq_true, Bool.and_eq_true, decide_eq_true_eq, beq_iff_eq]
  omega

/-- Metrics that are level have one id. -/
theorem id_eq_of_level {a b : Metric} (hab : standsBefore a b = true)
    (hba : standsBefore b a = true) : a.id = b.id := by
  simp only [standsBefore, Bool.or_eq_true, Bool.and_eq_true, decide_eq_true_eq, beq_iff_eq]
    at hab hba
  omega

/-! ### Groups -/

/-- What the groups of some metrics are. -/
structure AreGrouped (metrics : List Metric) (groups : List (String × List Metric)) : Prop where
  /-- The types that occur, in the order of their bytes. -/
  ascending : (groups.map fun group => Text.bytes group.1).Pairwise (· < ·)
  occurring : ∀ type, type ∈ groups.map (·.1) ↔ ∃ metric ∈ metrics, metric.metricType = type
  nonempty : ∀ group ∈ groups, group.2 ≠ []
  /-- Nothing is lost, nothing is added, and everything is where it belongs. -/
  complete : (groups.flatMap (·.2)).Perm metrics
  placed : ∀ metric ∈ metrics, ∃ group ∈ groups, group.1 = metric.metricType ∧ metric ∈ group.2
  uniform : ∀ group ∈ groups, ∀ metric ∈ group.2, metric.metricType = group.1
  sorted : ∀ group ∈ groups, group.2.Pairwise Above

/-- **The parts of all types make up the list.** -/
theorem flatMap_ofType_perm (metrics : List Metric) :
    ((types metrics).flatMap (ofType metrics)).Perm metrics := by
  rw [List.perm_iff_count]
  intro wanted
  have hkeys : ((types metrics).map fun type => type).Nodup := by
    rw [List.map_id']
    exact types_nodup metrics
  have hparts := countP_any_key (fun metric : Metric => metric == wanted) (·.metricType)
    (fun type => type) metrics hkeys
  have hpart : ∀ type, (ofType metrics type).count wanted
      = metrics.countP fun metric => metric == wanted && type == metric.metricType := by
    intro type
    unfold ofType
    rw [List.count, List.countP_filter]
    exact List.countP_congr fun metric _ => by rw [Bool.beq_comm (a := type)]
  have hall : metrics.countP (fun metric =>
        metric == wanted && (types metrics).any fun type => type == metric.metricType)
      = metrics.count wanted := by
    refine List.countP_congr fun metric hmem => ?_
    have htype : metric.metricType ∈ types metrics := mem_types.mpr ⟨metric, hmem, rfl⟩
    have hany : ((types metrics).any fun type => type == metric.metricType) = true :=
      List.any_eq_true.mpr ⟨_, htype, beq_self_eq_true _⟩
    rw [hany, Bool.and_true]
  rw [List.count_flatMap, ← hall, hparts]
  congr 1
  exact List.map_congr_left fun type _ => hpart type

theorem areGrouped_grouped (metrics : List Metric) : AreGrouped metrics (grouped metrics) := by
  have hsorted : ∀ type,
      ((ofType metrics type).mergeSort standsBefore).Perm (ofType metrics type) :=
    fun type => List.mergeSort_perm _ _
  have hkeys : (grouped metrics).map (·.1) = types metrics := by
    rw [grouped_eq, List.map_map]
    exact List.map_id _
  have hgroup : ∀ group ∈ grouped metrics, group.1 ∈ types metrics ∧
      group.2 = (ofType metrics group.1).mergeSort standsBefore := by
    intro group hmem
    rw [grouped_eq] at hmem
    obtain ⟨type, htype, rfl⟩ := List.mem_map.mp hmem
    exact ⟨htype, rfl⟩
  constructor
  · have hbytes : (grouped metrics).map (fun group => Text.bytes group.1)
        = (types metrics).map Text.bytes := by
      rw [← hkeys, List.map_map]
      rfl
    rw [hbytes, List.pairwise_map]
    exact (types_ascending metrics).imp fun hlt => Text.bytes_lt_bytes_iff.mpr hlt
  · intro type
    rw [hkeys]
    exact mem_types
  · intro group hmem hnil
    obtain ⟨htype, heq⟩ := hgroup group hmem
    obtain ⟨metric, hmetric, hsame⟩ := mem_types.mp htype
    have hin : metric ∈ group.2 :=
      heq ▸ (hsorted group.1).mem_iff.mpr (mem_ofType.mpr ⟨hmetric, hsame⟩)
    rw [hnil] at hin
    exact nomatch hin
  · rw [grouped_eq, List.flatMap_map]
    exact (List.Perm.flatMap_left _ fun type _ => hsorted type).trans (flatMap_ofType_perm metrics)
  · intro metric hmetric
    refine ⟨(metric.metricType, (ofType metrics metric.metricType).mergeSort standsBefore), ?_, rfl,
      (hsorted _).mem_iff.mpr (mem_ofType.mpr ⟨hmetric, rfl⟩)⟩
    rw [grouped_eq]
    exact List.mem_map.mpr ⟨_, mem_types.mpr ⟨metric, hmetric, rfl⟩, rfl⟩
  · intro group hmem metric hmetric
    rw [(hgroup group hmem).2] at hmetric
    exact (mem_ofType.mp ((hsorted _).mem_iff.mp hmetric)).2
  · intro group hmem
    rw [(hgroup group hmem).2]
    exact (List.pairwise_mergeSort standsBefore_trans standsBefore_total _).imp standsBefore_iff.mp

/-! ### Another order of the same metrics -/

theorem types_perm {metrics other : List Metric} (h : other.Perm metrics) :
    types other = types metrics := by
  have hperm : (types other).Perm (types metrics) := by
    rw [List.perm_ext_iff_of_nodup (types_nodup _) (types_nodup _)]
    intro type
    rw [mem_types, mem_types]
    exact exists_congr fun metric => and_congr_left fun _ => h.mem_iff
  exact hperm.eq_of_pairwise (fun a b _ _ hab hba => absurd hba (String.lt_asymm hab))
    (types_ascending _) (types_ascending _)

/-- If no two metrics have one id, they are sorted alike in whatever order they come. -/
theorem mergeSort_perm_eq {metrics other : List Metric} (hids : (metrics.map (·.id)).Nodup)
    (h : other.Perm metrics) : other.mergeSort standsBefore = metrics.mergeSort standsBefore := by
  have hsorted := fun as : List Metric =>
    List.pairwise_mergeSort standsBefore_trans standsBefore_total as
  have hperm : (other.mergeSort standsBefore).Perm (metrics.mergeSort standsBefore) :=
    (List.mergeSort_perm _ _).trans (h.trans (List.mergeSort_perm _ _).symm)
  refine hperm.eq_of_pairwise (fun a b ha hb hab hba => ?_) (hsorted other) (hsorted metrics)
  have hmem : ∀ {x}, x ∈ metrics.mergeSort standsBefore → x ∈ metrics := List.mem_mergeSort.mp
  exact List.inj_on_of_nodup_map hids (hmem (hperm.subset ha)) (hmem hb) (id_eq_of_level hab hba)

/-- Metrics in order of which no two have one id are what sorting makes of them. -/
theorem mergeSort_eq_of_sorted {metrics sorted : List Metric} (hids : (metrics.map (·.id)).Nodup)
    (h : sorted.Perm metrics)
    (hsorted : sorted.Pairwise fun a b => standsBefore a b = true) :
    metrics.mergeSort standsBefore = sorted := by
  rw [← mergeSort_perm_eq hids h, List.mergeSort_of_pairwise hsorted]

theorem grouped_perm {metrics other : List Metric} (hids : (metrics.map (·.id)).Nodup)
    (h : other.Perm metrics) : grouped other = grouped metrics := by
  rw [grouped_eq, grouped_eq, types_perm h]
  refine List.map_congr_left fun type _ => ?_
  have hpart : ((ofType metrics type).map (·.id)).Nodup := hids.sublist (List.filter_sublist.map _)
  exact congrArg (Prod.mk type) (mergeSort_perm_eq hpart (h.filter _))

/-- **Grouping loses and invents nothing.**  Whatever values some metrics have, they are given out
in groups, one for each type that occurs and in the order of the types' bytes; every metric is in
the group of its type, and the groups taken together are the metrics; each group goes from the
greatest value to the least in the total order of all doubles, and by the ids where values are the
same.  If no two metrics have one id, the groups do not hang on the order in which the metrics came.
-/
theorem grouping_keeps_everything (metrics : List Metric) :
    AreGrouped metrics (grouped metrics) ∧
      ((metrics.map (·.id)).Nodup →
        ∀ other : List Metric, other.Perm metrics → grouped other = grouped metrics) :=
  ⟨areGrouped_grouped metrics, fun hids _ h => grouped_perm hids h⟩

end Metric

/-- Metrics of two types with every kind of value. -/
def Small.metrics : List Metric :=
  [⟨1, default, "lines", .zero, none⟩, ⟨2, default, "é", .ofNat 7, none⟩,
    ⟨3, default, "lines", .nan, none⟩, ⟨4, default, "lines", .negZero, some "a.c"⟩,
    ⟨5, default, "lines", .infinity, none⟩, ⟨6, default, "é", .negInfinity, none⟩,
    ⟨7, default, "lines", .negNaN, none⟩, ⟨8, default, "lines", .zero, some "b.c"⟩]

namespace Metric

theorem grouping_keeps_everything_mixed :
    (grouped Small.metrics).map (fun group => (group.1, group.2.map (·.id)))
        = [("lines", [3, 5, 1, 8, 4, 7]), ("é", [2, 6])] ∧
      (Small.metrics.map (·.id)).Nodup ∧
      grouped Small.metrics.reverse = grouped Small.metrics := by
  have hids : (Small.metrics.map (·.id)).Nodup := by decide +kernel
  refine ⟨?_, hids, (grouping_keeps_everything Small.metrics).2 hids _ (List.reverse_perm _)⟩
  have htypes : types Small.metrics = ["lines", "é"] := by decide +kernel
  have hlines : (ofType Small.metrics "lines").mergeSort standsBefore
      = [⟨3, default, "lines", .nan, none⟩, ⟨5, default, "lines", .infinity, none⟩,
        ⟨1, default, "lines", .zero, none⟩, ⟨8, default, "lines", .zero, some "b.c"⟩,
        ⟨4, default, "lines", .negZero, some "a.c"⟩, ⟨7, default, "lines", .negNaN, none⟩] :=
    mergeSort_eq_of_sorted (by decide +kernel) (by decide +kernel) (by decide +kernel)
  have haccented : (ofType Small.metrics "é").mergeSort standsBefore
      = [⟨2, default, "é", .ofNat 7, none⟩, ⟨6, default, "é", .negInfinity, none⟩] :=
    mergeSort_eq_of_sorted (by decide +kernel) (by decide +kernel) (by decide +kernel)
  simp only [grouped_eq, htypes, List.map_cons, List.map_nil, hlines, haccented]

end Metric

end AnalysisDesk
