/-
The numbered tables.

Users, repositories, issues and metrics get their ids one after the other, the first of
them the id one, and no row of theirs is ever taken out or changed.  So the ids of each
table are positive and ascend, a row has its id for itself, and the order of the ids is
the order in which the rows were inserted.

These rows are what operations write: times are the stored forms of instants, the row
of an issue is that of an issue that was checked, and the row of a metric that of a
number that is no NaN.  `Moves` says which rows an operation adds, and both invariants
are read off it.
-/
import AnalysisDesk.Proofs.Store.WellFormed

namespace AnalysisDesk

/-! ### Ascending ids -/

/-- Ids that ascend, none of them beyond the last that was given out. -/
structure Ascends (ids : List Int) (last : Int) : Prop where
  sorted : ids.Pairwise (· < ·)
  le_last : ∀ id ∈ ids, id ≤ last

namespace Ascends

variable {ids : List Int} {last : Int}

theorem zero : Ascends [0] 0 :=
  ⟨List.pairwise_singleton _ _, fun _ h => (List.mem_singleton.mp h).le⟩

theorem tail {id : Int} (h : Ascends (id :: ids) last) : Ascends ids last :=
  ⟨(List.pairwise_cons.mp h.sorted).2, fun other hother => h.le_last other (List.mem_cons_of_mem _ hother)⟩

/-- Ids that ascend from zero are positive. -/
theorem positive (h : Ascends (0 :: ids) last) : ∀ id ∈ ids, 0 < id :=
  (List.pairwise_cons.mp h.sorted).1

/-- One more id, the one after the last. -/
theorem push (h : Ascends ids last) : Ascends (ids ++ [last + 1]) (last + 1) := by
  constructor
  · refine List.pairwise_append.mpr
      ⟨h.sorted, List.pairwise_singleton _ _, fun id hid new hnew => ?_⟩
    rw [List.mem_singleton.mp hnew]
    exact Int.lt_add_one_of_le (h.le_last id hid)
  · intro id hid
    rcases List.mem_append.mp hid with hold | hnew
    · exact Int.le_of_lt (Int.lt_add_one_of_le (h.le_last id hold))
    · rw [List.mem_singleton.mp hnew]

/-- Rows that are made one after the other, each with the id after the last one. -/
theorem append {α β : Type} {rows : Int → List α → List β} {id : β → Int}
    (hnil : ∀ last, rows last [] = [])
    (hcons : ∀ last a rest, (rows last (a :: rest)).map id
      = (last + 1) :: (rows (last + 1) rest).map id) :
    ∀ (as : List α) {ids : List Int} {last : Int}, Ascends ids last →
      Ascends (ids ++ (rows last as).map id) (last + as.length) := by
  intro as
  induction as with
  | nil =>
      intro ids last h
      rw [hnil, List.map_nil, List.append_nil, List.length_nil, Int.natCast_zero, Int.add_zero]
      exact h
  | cons a rest ih =>
      intro ids last h
      have hrest := ih h.push
      rw [List.append_assoc, List.singleton_append] at hrest
      rw [hcons, List.length_cons, Int.natCast_succ, Int.add_comm (rest.length : Int) 1,
        ← Int.add_assoc]
      exact hrest

/-- The id after the last one is new. -/
theorem succ_new {α : Type} {rows : List α} {id : α → Int} (h : Ascends (rows.map id) last) :
    ∀ row ∈ rows, id row ≠ last + 1 := by
  intro row hrow
  have hle := h.le_last (id row) (List.mem_map_of_mem hrow)
  omega

theorem nodup (h : Ascends ids last) : ids.Nodup := h.sorted.imp fun hlt => Int.ne_of_lt hlt

end Ascends

namespace Store

/-- A store in whose numbered tables the ids ascend. -/
structure Numbered (s : Store) : Prop where
  users : Ascends (s.users.map (·.id)) s.lastUser
  repositories : Ascends (s.repositories.map (·.id)) s.lastRepository
  issues : Ascends (s.issues.map (·.id)) s.lastIssue
  metrics : Ascends (s.metrics.map (·.id)) s.lastMetric

/-- A store whose numbered tables count upwards from zero, which is the id of no row. -/
structure Counted (s : Store) : Prop where
  users : Ascends (0 :: s.users.map (·.id)) s.lastUser
  repositories : Ascends (0 :: s.repositories.map (·.id)) s.lastRepository
  issues : Ascends (0 :: s.issues.map (·.id)) s.lastIssue
  metrics : Ascends (0 :: s.metrics.map (·.id)) s.lastMetric

/-- A store whose users, repositories and findings are as operations enter them. -/
structure Entered (s : Store) : Prop where
  users : ∀ row ∈ s.users, ∃ t : Instant, row.createdAt = t.stored
  repositories : ∀ row ∈ s.repositories, ∃ t : Instant, row.createdAt = t.stored
  issues : ∀ row ∈ s.issues, ∃ job issue, row = issueRow job row.id issue
  metrics : ∀ row ∈ s.metrics, ∃ job metric, metric.value.isNaN = false ∧
    row = metricRow job row.id metric

variable {s s' : Store}

/-! ### Ids -/

theorem Moves.counted {now : Instant} (hmoves : s.Moves now s') (h : s.Counted) : s'.Counted := by
  cases hmoves with
  | stay | job | row => exact ⟨h.users, h.repositories, h.issues, h.metrics⟩
  | user username hnew =>
      refine ⟨?_, h.repositories, h.issues, h.metrics⟩
      show Ascends (0 :: (s.users ++ _).map (·.id)) _
      rw [List.map_append]
      exact h.users.push
  | repository user name cloneUrl defaultBranch huser =>
      refine ⟨h.users, ?_, h.issues, h.metrics⟩
      show Ascends (0 :: (s.repositories ++ _).map (·.id)) _
      rw [List.map_append]
      exact h.repositories.push
  | report id row report =>
      refine ⟨h.users, h.repositories, ?_, ?_⟩
      · show Ascends (0 :: (s.issues ++ issueRows id s.lastIssue report.issues).map (·.id)) _
        rw [List.map_append]
        exact h.issues.append (fun _ => rfl) (fun _ _ _ => rfl) report.issues
      · show Ascends (0 :: (s.metrics ++ metricRows id s.lastMetric report.metrics).map (·.id)) _
        rw [List.map_append]
        exact h.metrics.append (fun _ => rfl) (fun _ _ _ => rfl) report.metrics

/-- **In every reachable store the ids of the numbered tables are positive and ascend.** -/
theorem Reached.counted (h : s.Reached) : s.Counted := by
  induction h with
  | empty => exact ⟨.zero, .zero, .zero, .zero⟩
  | after op now hs ih => exact (op.moves hs.wf.ids hs.wf.named now).counted ih

theorem Reached.numbered (h : s.Reached) : s.Numbered :=
  ⟨h.counted.users.tail, h.counted.repositories.tail, h.counted.issues.tail, h.counted.metrics.tail⟩

/-- Repositories with one id are one repository. -/
theorem Numbered.repository_unique (h : s.Numbered) {a b : RepositoryRow} (ha : a ∈ s.repositories)
    (hb : b ∈ s.repositories) (hid : a.id = b.id) : a = b :=
  List.inj_on_of_nodup_map h.repositories.nodup ha hb hid

/-! ### Texts -/

theorem mem_issueRows {job : JobId} : ∀ (issues : List CheckedIssue) (last : Int) {row : IssueRow},
    row ∈ issueRows job last issues → ∃ issue, row = issueRow job row.id issue := by
  intro issues
  induction issues with
  | nil => exact fun last row h => nomatch h
  | cons issue rest ih =>
      intro last row h
      rcases List.mem_cons.mp h with rfl | hrest
      · exact ⟨issue, rfl⟩
      · exact ih _ hrest

theorem mem_metricRows {job : JobId} : ∀ (metrics : List CheckedMetric) (last : Int)
    {row : MetricRow}, row ∈ metricRows job last metrics →
      ∃ metric ∈ metrics, row = metricRow job row.id metric := by
  intro metrics
  induction metrics with
  | nil => exact fun last row h => nomatch h
  | cons metric rest ih =>
      intro last row h
      rcases List.mem_cons.mp h with rfl | hrest
      · exact ⟨metric, List.mem_cons_self .., rfl⟩
      · obtain ⟨other, hother, heq⟩ := ih _ hrest
        exact ⟨other, List.mem_cons_of_mem _ hother, heq⟩

theorem Moves.entered {now : Instant} (hmoves : s.Moves now s') (h : s.Entered) :
    s'.Entered := by
  cases hmoves with
  | stay | job | row => exact ⟨h.users, h.repositories, h.issues, h.metrics⟩
  | user username =>
      refine ⟨fun row hrow => ?_, h.repositories, h.issues, h.metrics⟩
      rcases List.mem_append.mp hrow with hold | hnew
      · exact h.users row hold
      · rw [List.mem_singleton.mp hnew]
        exact ⟨now, rfl⟩
  | repository user name cloneUrl defaultBranch =>
      refine ⟨h.users, fun row hrow => ?_, h.issues, h.metrics⟩
      rcases List.mem_append.mp hrow with hold | hnew
      · exact h.repositories row hold
      · rw [List.mem_singleton.mp hnew]
        exact ⟨now, rfl⟩
  | report id row report hrow hlegal hstatus hnumbers =>
      refine ⟨h.users, h.repositories, fun issue hissue => ?_, fun metric hmetric => ?_⟩
      · rcases List.mem_append.mp hissue with hold | hnew
        · exact h.issues issue hold
        · exact ⟨id, mem_issueRows _ _ hnew⟩
      · rcases List.mem_append.mp hmetric with hold | hnew
        · exact h.metrics metric hold
        · obtain ⟨reported, hreported, heq⟩ := mem_metricRows _ _ hnew
          exact ⟨id, reported, hnumbers reported hreported, heq⟩

/-- **In every reachable store the rows of users, repositories and findings are as operations enter
them.** -/
theorem Reached.entered (h : s.Reached) : s.Entered := by
  induction h with
  | empty =>
      exact ⟨fun _ h => (nomatch h), fun _ h => (nomatch h), fun _ h => (nomatch h),
        fun _ h => nomatch h⟩
  | after op now hs ih => exact (op.moves hs.wf.ids hs.wf.named now).entered ih

end Store

end AnalysisDesk
