/-
What a listing holds, and in which order.

A query sorts the rows that match and reads them one after the other.  So a listing holds
what is read of every matching row, once, and its order is that of the rows.  Jobs are
sorted by the texts of the times at which they were created, which compare as the times
do, and the sort is stable, so that among jobs of one millisecond the later one comes
first.  Issues are sorted by their contents and then by their ids, and ids ascend in the
order of insertion.  Either way no two rows are level: the order is strict.

Rows of issues can always be read.  Of a job a time may have no room in a timestamp, and
then nothing but that can be the reason why a listing fails.
-/
import AnalysisDesk.Proofs.Store.Readback
import AnalysisDesk.Proofs.Store.Tables
import AnalysisDesk.Proofs.Time.StoredOrder

namespace AnalysisDesk

/-! ### Reading rows in order -/

section Reading

variable {α β : Type} {read : α → Except StoreError β}

/-- Reading rows succeeds with what is read of each of them. -/
theorem readAll_eq_ok_iff : ∀ {rows : List α} {items : List β},
    readAll read rows = .ok items ↔
      List.Forall₂ (fun row item => read row = .ok item) rows items := by
  intro rows
  induction rows with
  | nil =>
      intro items
      rw [List.forall₂_nil_left_iff, readAll, Except.ok.injEq]
      exact eq_comm
  | cons row rest ih =>
      intro items
      rw [List.forall₂_cons_left_iff]
      constructor
      · intro h
        rw [readAll] at h
        cases hread : read row with
        | error e => rw [hread] at h; cases h
        | ok item =>
            cases hrest : readAll read rest with
            | error e => rw [hread, hrest] at h; cases h
            | ok others =>
                rw [hread, hrest, Except.ok.injEq] at h
                exact ⟨item, others, rfl, ih.mp hrest, h.symm⟩
      · rintro ⟨item, others, hread, hrest, rfl⟩
        rw [readAll, hread, ih.mpr hrest]

/-- Rows in the order of what is read of them, as far as they can be read. -/
def InOrder (read : α → Except StoreError β) (before : β → β → Prop) (rows : List α) : Prop :=
  rows.Pairwise fun a b => ∀ x y, read a = .ok x → read b = .ok y → before x y

/-- What is read of rows that are in order is in order. -/
theorem InOrder.pairwise {before : β → β → Prop} {rows : List α} {items : List β}
    (h : InOrder read before rows)
    (hread : List.Forall₂ (fun row item => read row = .ok item) rows items) :
    items.Pairwise before := by
  rw [List.forall₂_iff_get] at hread
  obtain ⟨hlength, hget⟩ := hread
  rw [InOrder, List.pairwise_iff_getElem] at h
  rw [List.pairwise_iff_getElem]
  intro i j hi hj hij
  exact h i j _ _ hij _ _ (hget i (hlength ▸ hi) hi) (hget j (hlength ▸ hj) hj)

/-- An outcome that can only fail because of one of some times, which has no room in a timestamp. -/
def Reads {γ : Type} (times : Instant → Prop) (outcome : Except StoreError γ) : Prop :=
  (∃ c, outcome = .ok c) ∨
    ∃ t, times t ∧ ¬ t.HasPlainYear ∧ outcome = .error (.badTimestamp t.stored .invalid)

theorem Reads.ok {γ : Type} {times : Instant → Prop} {outcome : Except StoreError γ}
    (h : Reads times outcome) (hplain : ∀ t, times t → t.HasPlainYear) : ∃ c, outcome = .ok c := by
  rcases h with hok | ⟨t, htime, hyear, -⟩
  · exact hok
  · exact absurd (hplain t htime) hyear

theorem Reads.bind {γ δ : Type} {times : Instant → Prop} {outcome : Except StoreError γ}
    {next : γ → Except StoreError δ} (h : Reads times outcome) (hnext : ∀ c, Reads times (next c)) :
    Reads times (outcome >>= next) := by
  rcases h with ⟨c, rfl⟩ | ⟨t, htime, hyear, rfl⟩
  · exact hnext c
  · exact Or.inr ⟨t, htime, hyear, rfl⟩

/-- Rows can be read unless one of them has such a time. -/
theorem readAll_reads {times : α → Instant → Prop} : ∀ {rows : List α},
    (∀ row ∈ rows, Reads (times row) (read row)) →
      Reads (fun t => ∃ row ∈ rows, times row t) (readAll read rows) := by
  intro rows
  induction rows with
  | nil => exact fun _ => Or.inl ⟨[], rfl⟩
  | cons row rest ih =>
      intro h
      rcases h row (List.mem_cons_self ..) with ⟨item, hread⟩ | ⟨t, htime, hyear, hread⟩
      · rcases ih fun other hother => h other (List.mem_cons_of_mem _ hother) with
          ⟨others, hrest⟩ | ⟨t, ⟨other, hother, htime⟩, hyear, hrest⟩
        · exact Or.inl ⟨item :: others, by rw [readAll, hread, hrest]⟩
        · exact Or.inr ⟨t, ⟨other, List.mem_cons_of_mem _ hother, htime⟩, hyear,
            by rw [readAll, hread, hrest]⟩
      · exact Or.inr ⟨t, ⟨row, List.mem_cons_self .., htime⟩, hyear, by rw [readAll, hread]⟩

end Reading

/-- A listing of rows: each of them is read, once, and what is read comes in a strict order. -/
structure Lists {α β : Type} (read : α → Except StoreError β) (rows : List α)
    (before : β → β → Prop) (listing : List β) : Prop where
  count : listing.length = rows.length
  rows : ∃ order : List α, order.Perm rows ∧
    List.Forall₂ (fun row item => read row = .ok item) order listing
  sorted : listing.Pairwise before
  strict : ∀ a b, before a b → ¬ before b a

/-- What is listed of rows is what they are read as. -/
theorem Lists.perm_map {α β : Type} {read : α → Except StoreError β} {rows : List α}
    {before : β → β → Prop} {listing : List β} (h : Lists read rows before listing) {shown : α → β}
    (hshown : ∀ row ∈ rows, read row = .ok (shown row)) : listing.Perm (rows.map shown) := by
  obtain ⟨order, hperm, hread⟩ := h.rows
  have horder : readAll read (order.map id) = .ok (order.map shown) :=
    readAll_map fun row hrow => hshown row (hperm.subset hrow)
  rw [List.map_id, readAll_eq_ok_iff.mpr hread, Except.ok.injEq] at horder
  rw [horder]
  exact hperm.map shown

/-! ### Sorting -/

/-- What was sorted by a comparison is in its order. -/
theorem pairwise_mergeSort_of_cmp {α : Type} {cmp : α → α → Ordering} [Std.TransCmp cmp]
    {before : α → α → Bool} (hbefore : ∀ a b, before a b = (cmp a b).isLE) (rows : List α) :
    (rows.mergeSort before).Pairwise fun a b => before a b = true := by
  refine List.pairwise_mergeSort (fun a b c hab hbc => ?_) (fun a b => ?_) rows
  · rw [hbefore] at hab hbc ⊢
    exact Std.TransCmp.isLE_trans hab hbc
  · have hswap : cmp b a = (cmp a b).swap := Std.OrientedCmp.eq_swap
    rw [hbefore, hbefore, hswap]
    cases cmp a b <;> rfl

/-- A sort is stable: what it leaves level stays as it came. -/
theorem sublist_of_mergeSort {α : Type} {le : α → α → Bool}
    (htrans : ∀ a b c, le a b = true → le b c = true → le a c = true)
    (htotal : ∀ a b, (le a b || le b a) = true) {as : List α} {a b : α}
    (h : [a, b].Sublist (as.mergeSort le)) :
    le a b = true ∧ (le b a = true → [a, b].Sublist as) := by
  have hle : (as.mergeSort le).Pairwise fun a b => le a b = true :=
    List.pairwise_mergeSort htrans htotal as
  refine ⟨List.pairwise_iff_forall_sublist.mp hle h, fun hback => ?_⟩
  -- the entries are marked with their places, by which the marked sort decides
  rw [← List.mergeSort_zipIdx, List.sublist_map_iff] at h
  obtain ⟨marked, hmarked, hmap⟩ := h
  obtain ⟨x, rest, rfl, rfl, hrest⟩ := List.map_eq_cons_iff.mp hmap.symm
  obtain ⟨y, rest, rfl, rfl, hnil⟩ := List.map_eq_cons_iff.mp hrest
  rw [List.map_eq_nil_iff] at hnil
  subst hnil
  have hsorted := List.pairwise_iff_forall_sublist.mp
    (List.pairwise_mergeSort (List.zipIdxLE_trans htrans) (List.zipIdxLE_total htotal) as.zipIdx)
    hmarked
  have hplaces : ((as.zipIdx.mergeSort (List.zipIdxLE le)).map (·.2)).Nodup := by
    rw [((List.mergeSort_perm _ _).map _).nodup_iff, List.zipIdx_map_snd]
    exact List.nodup_range'
  have hne : x.2 ≠ y.2 :=
    List.pairwise_iff_forall_sublist.mp (List.pairwise_map.mp hplaces) hmarked
  have hle' : x.2 ≤ y.2 := by
    unfold List.zipIdxLE at hsorted
    have hforth : le x.1 y.1 = true := by
      by_contra hnot
      rw [if_neg hnot] at hsorted
      exact Bool.false_ne_true hsorted
    rw [if_pos hforth, if_pos hback, decide_eq_true_eq] at hsorted
    exact hsorted
  have hmem : ∀ z ∈ [x, y], as[z.2]? = some z.1 := fun z hz =>
    List.mem_zipIdx_iff_getElem?.mp ((List.mergeSort_perm _ _).mem_iff.mp (hmarked.subset hz))
  obtain ⟨hx, hxa⟩ := List.getElem?_eq_some_iff.mp (hmem x (by simp))
  obtain ⟨hy, hyb⟩ := List.getElem?_eq_some_iff.mp (hmem y (by simp))
  have hpairs : as.Pairwise fun a b => [a, b].Sublist as :=
    List.pairwise_iff_forall_sublist.mpr fun hsub => hsub
  rw [← hxa, ← hyb]
  exact List.pairwise_iff_getElem.mp hpairs x.2 y.2 hx hy (Nat.lt_of_le_of_ne hle' hne)

/-- The same for a relation that can be decided. -/
theorem sublist_of_mergeSort_decide {α : Type} (before : α → α → Prop) [DecidableRel before]
    (htrans : ∀ a b c, before a b → before b c → before a c)
    (htotal : ∀ a b, before a b ∨ before b a) {as : List α} {a b : α}
    (h : [a, b].Sublist (as.mergeSort fun a b => decide (before a b))) :
    before a b ∧ (before b a → [a, b].Sublist as) := by
  obtain ⟨hforth, hback⟩ := sublist_of_mergeSort (fun x y z hxy hyz => by
      rw [decide_eq_true_eq] at hxy hyz ⊢
      exact htrans x y z hxy hyz)
    (fun x y => by
      rw [Bool.or_eq_true, decide_eq_true_eq, decide_eq_true_eq]
      exact htotal x y) h
  rw [decide_eq_true_eq] at hforth hback
  exact ⟨hforth, hback⟩

/-- Of ascending ids the smaller one stands first. -/
theorem Ascends.sublist_of_lt {ids : List Int} {last a b : Int} (h : Ascends ids last)
    (ha : a ∈ ids) (hb : b ∈ ids) (hlt : a < b) : [a, b].Sublist ids := by
  obtain ⟨i, hi, rfl⟩ := List.getElem_of_mem ha
  obtain ⟨j, hj, rfl⟩ := List.getElem_of_mem hb
  have hpairs : ids.Pairwise fun a b => [a, b].Sublist ids :=
    List.pairwise_iff_forall_sublist.mpr fun hsub => hsub
  rcases Nat.lt_trichotomy i j with hij | rfl | hij
  · exact List.pairwise_iff_getElem.mp hpairs i j hi hj hij
  · exact absurd hlt (Int.lt_irrefl _)
  · exact absurd (List.pairwise_iff_getElem.mp h.sorted j i hj hi hij) (Int.lt_asymm hlt)

/-- What stands once in a list does not stand before and behind another entry. -/
theorem not_sublist_swap {α : Type} {a b : α} : ∀ {as : List α}, as.Nodup →
    [a, b].Sublist as → ¬ [b, a].Sublist as := by
  intro as
  induction as with
  | nil => exact fun _ hab => nomatch hab
  | cons c rest ih =>
      intro hnodup hab hba
      obtain ⟨hc, hrest⟩ := List.nodup_cons.mp hnodup
      rcases List.sublist_cons_iff.mp hab with hab | ⟨x, hx, hb⟩
      · rcases List.sublist_cons_iff.mp hba with hba | ⟨y, hy, -⟩
        · exact ih hrest hab hba
        · rw [List.cons.injEq] at hy
          rw [← hy.1] at hc
          exact hc (hab.subset (by simp))
      · rw [List.cons.injEq] at hx
        obtain ⟨rfl, rfl⟩ := hx
        rcases List.sublist_cons_iff.mp hba with hba | ⟨y, hy, -⟩
        · exact hc (hba.subset (by simp))
        · rw [List.cons.injEq] at hy
          rw [← hy.1] at hc
          exact hc (hb.subset (by simp))

/-! ### Jobs -/

/-- Stored times compare as what is read of them. -/
theorem le_iff_of_readTimestamp {x y : String} {tx ty : Instant}
    (hx : ∃ t : Instant, x = t.stored) (hy : ∃ t : Instant, y = t.stored)
    (hreadx : readTimestamp x = .ok tx) (hready : readTimestamp y = .ok ty) :
    x ≤ y ↔ tx.nanos ≤ ty.nanos := by
  obtain ⟨a, rfl⟩ := hx
  obtain ⟨b, rfl⟩ := hy
  obtain ⟨ha, rfl⟩ := readTimestamp_eq_ok_iff.mp hreadx
  obtain ⟨hb, rfl⟩ := readTimestamp_eq_ok_iff.mp hready
  rw [Instant.stored_le_stored_iff ha hb]
  unfold Instant.cut Instant.ofMillis Instant.nanosPerMilli
  dsimp only
  omega

/-- The time of creation of a job is read of its row. -/
theorem JobRow.Written.read_createdAt {row : JobRow} (h : row.Written)
    (hnamed : ∃ id : JobId, row.id = id.text)
    (hstatus : ∃ status : JobStatus, row.status = status.label) {job : Job}
    (hread : row.read = .ok job) : readTimestamp row.createdAt = .ok job.createdAt := by
  obtain ⟨id, hid⟩ := hnamed
  obtain ⟨status, hstatus⟩ := hstatus
  rcases h.read_cases hid hstatus with ⟨t, -, -, hfailed⟩ |
    ⟨-, createdAt, dispatchedAt, completedAt, hcreated, -, -, hshown⟩
  · rw [hread] at hfailed
    exact nomatch hfailed
  · rw [hcreated, Except.ok.inj (hread.symm.trans hshown)]
    rfl

namespace Store

variable {s : Store}

/-- Whether a job comes before another one where the newest come first: it was created in a later
millisecond, or in the same one and was inserted later. -/
def Newer (s : Store) (a b : Job) : Prop :=
  b.createdAt.nanos < a.createdAt.nanos ∨
    b.createdAt = a.createdAt ∧ [b.id.text, a.id.text].Sublist (s.jobs.map (·.id))

theorem WF.newer_strict (h : s.WF) (a b : Job) (hab : s.Newer a b) : ¬ s.Newer b a := by
  rintro (hba | ⟨heq, hba⟩)
  · rcases hab with hab | ⟨heq, -⟩
    · exact Int.lt_asymm hab hba
    · rw [heq] at hba
      exact Int.lt_irrefl _ hba
  · rcases hab with hab | ⟨-, hab⟩
    · rw [heq] at hab
      exact Int.lt_irrefl _ hab
    · exact not_sublist_swap h.ids hab hba

theorem newestFirst_perm (rows : List JobRow) : (newestFirst rows).Perm rows :=
  (List.mergeSort_perm _ _).trans (List.reverse_perm rows)

/-- Rows are sorted by their times as texts, and those that are level come the other way round. -/
theorem sublist_of_newestFirst {rows : List JobRow} {a b : JobRow}
    (h : [a, b].Sublist (newestFirst rows)) :
    b.createdAt ≤ a.createdAt ∧ (a.createdAt ≤ b.createdAt → [b, a].Sublist rows) := by
  obtain ⟨hforth, hback⟩ := sublist_of_mergeSort_decide
    (fun x y : JobRow => y.createdAt ≤ x.createdAt)
    (fun _ _ _ hxy hyz => String.le_trans hyz hxy) (fun _ _ => String.le_total ..) h
  exact ⟨hforth, fun hle => List.reverse_sublist.mp (hback hle)⟩

theorem oldestFirst_perm (rows : List JobRow) : (oldestFirst rows).Perm rows :=
  List.mergeSort_perm _ _

/-- From the oldest on, those that are level stay as they came. -/
theorem sublist_of_oldestFirst {rows : List JobRow} {a b : JobRow}
    (h : [a, b].Sublist (oldestFirst rows)) :
    a.createdAt ≤ b.createdAt ∧ (b.createdAt ≤ a.createdAt → [a, b].Sublist rows) :=
  sublist_of_mergeSort_decide (fun x y : JobRow => x.createdAt ≤ y.createdAt)
    (fun _ _ _ hxy hyz => String.le_trans hxy hyz) (fun _ _ => String.le_total ..) h

/-- A job can be read but for its times. -/
theorem Reached.job_reads (hs : s.Reached) {row : JobRow} (hrow : row ∈ s.jobs) :
    Reads (fun t => row.IsTime t.stored) row.read := by
  obtain ⟨id, hid⟩ := hs.wf.named row hrow
  obtain ⟨status, hstatus⟩ := hs.wf.status row hrow
  rcases (hs.written.rows row hrow).read_cases hid hstatus with
    ⟨t, htime, hyear, hread⟩ | ⟨-, _, _, _, -, -, -, hread⟩
  · exact Or.inr ⟨t, htime, hyear, hread⟩
  · exact Or.inl ⟨_, hread⟩

/-- Of two rows that are sorted by their times, and by their places where these are the same, the
later one shows the newer job. -/
theorem Reached.newer_of_sorted (hs : s.Reached) {rows : List JobRow} (hrows : rows.Sublist s.jobs)
    {a b : JobRow} (ha : a ∈ s.jobs) (hb : b ∈ s.jobs) (hforth : a.createdAt ≤ b.createdAt)
    (hback : b.createdAt ≤ a.createdAt → [a, b].Sublist rows) {a' b' : Job}
    (hreada : a.read = .ok a') (hreadb : b.read = .ok b') : s.Newer b' a' := by
  have hle : ∀ {x y : JobRow} {x' y' : Job}, x ∈ s.jobs → y ∈ s.jobs → x.read = .ok x' →
      y.read = .ok y' → (x.createdAt ≤ y.createdAt ↔ x'.createdAt.nanos ≤ y'.createdAt.nanos) :=
    fun hx hy hreadx hready => le_iff_of_readTimestamp
      ((hs.written.rows _ hx).times _ (Or.inl rfl)) ((hs.written.rows _ hy).times _ (Or.inl rfl))
      ((hs.written.rows _ hx).read_createdAt (hs.wf.named _ hx) (hs.wf.status _ hx) hreadx)
      ((hs.written.rows _ hy).read_createdAt (hs.wf.named _ hy) (hs.wf.status _ hy) hready)
  rw [hle ha hb hreada hreadb] at hforth
  rw [hle hb ha hreadb hreada] at hback
  rcases Int.lt_or_eq_of_le hforth with hlt | heq
  · exact Or.inl hlt
  · refine Or.inr ⟨congrArg Instant.mk heq, ?_⟩
    rw [← (hs.wf.shows ha hreada).id, ← (hs.wf.shows hb hreadb).id]
    exact ((hback (Int.le_of_eq heq.symm)).trans hrows).map (·.id)

/-- **Jobs are listed newest first.** -/
theorem Reached.newestFirst_inOrder (hs : s.Reached) {rows : List JobRow}
    (hrows : rows.Sublist s.jobs) : InOrder JobRow.read s.Newer (newestFirst rows) := by
  have hpairs : (newestFirst rows).Pairwise fun a b => [a, b].Sublist (newestFirst rows) :=
    List.pairwise_iff_forall_sublist.mpr fun hsub => hsub
  refine hpairs.imp fun {a b} hsub a' b' hreada hreadb => ?_
  have hmem : ∀ row ∈ [a, b], row ∈ s.jobs := fun row hrow =>
    hrows.subset ((newestFirst_perm rows).subset (hsub.subset hrow))
  obtain ⟨hforth, hback⟩ := sublist_of_newestFirst hsub
  exact hs.newer_of_sorted hrows (hmem b (by simp)) (hmem a (by simp)) hforth hback hreadb hreada

end Store

/-! ### Issues -/

/-- Whether a line comes before another one: by its number, and a line that is missing comes
last. -/
def lineBefore : Option Int → Option Int → Prop
  | some i, some j => i < j
  | some _, none => True
  | none, _ => False

theorem lineBefore_strict : ∀ {i j : Option Int}, lineBefore i j → ¬ lineBefore j i
  | some _, some _, hij, hji => Int.lt_asymm hij hji
  | some _, none, _, hji => hji
  | none, _, hij, _ => hij

/-- The order of issues, by what they say and then by their ids, decides what comes first. -/
theorem CheckedIssue.before_of_order {a b : CheckedIssue} {i j : Int} (hne : i ≠ j)
    (h : ((a.order b).then (compare i j)).isLE = true) :
    a.severity.rank < b.severity.rank ∨
      a.severity.rank = b.severity.rank ∧
        (lineBefore a.lineNumber b.lineNumber ∨ a.lineNumber = b.lineNumber ∧ i < j) := by
  have hids : (compare i j).isLE = true → i < j := fun hle =>
    Int.lt_iff_le_and_ne.mpr ⟨Int.isLE_compare.mp hle, hne⟩
  unfold CheckedIssue.order at h
  rcases Nat.lt_trichotomy a.severity.rank b.severity.rank with hrank | hrank | hrank
  · exact Or.inl hrank
  · refine Or.inr ⟨hrank, ?_⟩
    rw [hrank, Nat.compare_eq_eq.mpr rfl] at h
    cases hline : a.lineNumber with
    | none =>
        cases hline' : b.lineNumber with
        | none =>
            rw [hline, hline'] at h
            exact Or.inr ⟨rfl, hids h⟩
        | some n =>
            rw [hline, hline'] at h
            exact nomatch h
    | some m =>
        cases hline' : b.lineNumber with
        | none => exact Or.inl trivial
        | some n =>
            rw [hline, hline'] at h
            have hlines : ((compare m n).then (compare i j)).isLE = true := h
            rcases Int.lt_trichotomy m n with hlt | rfl | hlt
            · exact Or.inl hlt
            · rw [Int.compare_eq_eq.mpr rfl] at hlines
              exact Or.inr ⟨rfl, hids hlines⟩
            · rw [Int.compare_eq_gt.mpr hlt] at hlines
              exact nomatch hlines
  · rw [Nat.compare_eq_gt.mpr hrank] at h
    exact nomatch h

namespace Store

variable {s : Store}

/-- Whether an issue comes before another one: it is worse, or it stands on an earlier line, or it
was inserted earlier. -/
def Worse (s : Store) (a b : Issue) : Prop :=
  a.severity.rank < b.severity.rank ∨
    a.severity.rank = b.severity.rank ∧
      (lineBefore a.lineNumber b.lineNumber ∨
        a.lineNumber = b.lineNumber ∧ [a.id, b.id].Sublist (s.issues.map (·.id)))

theorem Numbered.worse_strict (h : s.Numbered) (a b : Issue) (hab : s.Worse a b) :
    ¬ s.Worse b a := by
  intro hba
  rcases hab with hab | ⟨hrank, hab⟩
  · rcases hba with hba | ⟨hrank', -⟩
    · exact Nat.lt_asymm hab hba
    · exact Nat.ne_of_gt hab hrank'
  · rcases hba with hba | ⟨-, hba⟩
    · exact Nat.ne_of_gt hba hrank
    · rcases hab with hab | ⟨hline, hab⟩
      · rcases hba with hba | ⟨hline', -⟩
        · exact lineBefore_strict hab hba
        · rw [hline'] at hab
          exact lineBefore_strict hab hab
      · rcases hba with hba | ⟨-, hba⟩
        · rw [hline] at hba
          exact lineBefore_strict hba hba
        · exact not_sublist_swap h.issues.nodup hab hba

/-- The comparison by which issues are sorted. -/
def issueOrder : IssueRow → IssueRow → Ordering :=
  compareLex (compareOn fun row : IssueRow => row.severityRank.key.1) <|
    compareLex (compareOn fun row : IssueRow => row.severityRank.key.2) <|
      compareLex (compareOn fun row : IssueRow => row.lineNumber.isEmpty) <|
        compareLex (compareOn fun row : IssueRow => row.lineNumber.key.1) <|
          compareLex (compareOn fun row : IssueRow => row.lineNumber.key.2) <|
            compareOn fun row : IssueRow => row.id

theorem issueBefore_eq (a b : IssueRow) : issueBefore a b = (issueOrder a b).isLE := by
  unfold issueBefore issueOrder
  simp only [compareLex, Ordering.then_assoc]
  rfl

instance : Std.TransCmp issueOrder := by
  unfold issueOrder
  infer_instance

/-- Issues that are level are one issue. -/
theorem id_eq_of_issueOrder {a b : IssueRow} (h : issueOrder a b = .eq) : a.id = b.id := by
  unfold issueOrder at h
  simp only [compareLex_eq_eq] at h
  exact Int.compare_eq_eq.mp h.2.2.2.2.2

/-- Issues can be read. -/
theorem Entered.issue_reads (h : s.Entered) (times : Instant → Prop) :
    ∀ row ∈ s.issues, Reads times row.read := by
  intro row hrow
  obtain ⟨job, issue, heq⟩ := h.issues row hrow
  rw [heq]
  exact Or.inl ⟨_, issueRow_read row.id issue⟩

/-- **Issues are listed worst first.** -/
theorem Reached.worstFirst_inOrder (hs : s.Reached) {rows : List IssueRow}
    (hrows : rows.Sublist s.issues) :
    InOrder IssueRow.read s.Worse (rows.mergeSort issueBefore) := by
  have hperm : (rows.mergeSort issueBefore).Perm rows := List.mergeSort_perm _ _
  have hids : (rows.mergeSort issueBefore).Pairwise fun a b => a.id ≠ b.id := by
    rw [← List.pairwise_map, ← List.nodup_iff_pairwise_ne, (hperm.map _).nodup_iff]
    exact hs.numbered.issues.nodup.sublist (hrows.map _)
  have hsorted := pairwise_mergeSort_of_cmp issueBefore_eq rows
  have hmem : ∀ row ∈ rows.mergeSort issueBefore, row ∈ s.issues :=
    fun row hrow => hrows.subset (hperm.subset hrow)
  have hpairs : (rows.mergeSort issueBefore).Pairwise fun a b =>
      a ∈ s.issues ∧ b ∈ s.issues ∧ a.id ≠ b.id ∧ issueBefore a b = true :=
    (hids.and hsorted).imp_of_mem fun ha hb h => ⟨hmem _ ha, hmem _ hb, h⟩
  refine hpairs.imp ?_
  rintro a b ⟨ha, hb, hne, hbefore⟩ a' b' hreada hreadb
  obtain ⟨job, issue, hrow⟩ := hs.entered.issues a ha
  obtain ⟨job', issue', hrow'⟩ := hs.entered.issues b hb
  rw [hrow, issueRow_read, Except.ok.injEq] at hreada
  rw [hrow', issueRow_read, Except.ok.injEq] at hreadb
  -- the job of an issue has no part in the comparison
  have horder : issueBefore (issueRow job a.id issue) (issueRow job b.id issue') = true := by
    rw [hrow, hrow'] at hbefore
    exact hbefore
  rw [issueBefore_issueRow] at horder
  rw [← hreada, ← hreadb]
  refine (CheckedIssue.before_of_order hne horder).imp_right fun ⟨hrank, hline⟩ => ⟨hrank, ?_⟩
  exact hline.imp_right fun ⟨hsame, hlt⟩ => ⟨hsame, hs.numbered.issues.sublist_of_lt
    (List.mem_map_of_mem ha) (List.mem_map_of_mem hb) hlt⟩

end Store

end AnalysisDesk
