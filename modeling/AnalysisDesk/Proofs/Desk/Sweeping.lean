/-
What a sweep makes of a store.

A sweep that has the store for itself lists the active jobs whose windows have
elapsed and fails them one after the other.  Each write finds its job as it was
listed, for the writes before it were about other jobs.  So the loop over the list
comes down to one change of the table, `Store.swept`, in which every row of the list
is replaced and no other.  Afterwards nothing is left to be listed, and a second
sweep at the same time finds nothing to do.
-/
import AnalysisDesk.Proofs.Desk.Ensuring
import AnalysisDesk.Proofs.Desk.Play
import AnalysisDesk.Proofs.Store.Delivery
import AnalysisDesk.Proofs.Store.Windows
import AnalysisDesk.Proofs.Views.Listings

namespace AnalysisDesk

/-- The row of an active job that a sweep has failed. -/
def JobRow.timedOut (settings : DeskSettings) (now : Instant) (row : JobRow) : JobRow :=
  row.ended .failed (Desk.timeoutReason settings
    (if row.status = JobStatus.pending.label then .pending else .processing)) now

/-- A store in which some active jobs have been failed by a sweep. -/
def Store.swept (s : Store) (settings : DeskSettings) (now : Instant) (gone : JobRow → Bool) :
    Store :=
  { s with jobs := s.jobs.map fun row => if gone row then row.timedOut settings now else row }

variable {settings : DeskSettings} {now : Instant} {s : Store}

theorem JobRow.timedOut_of_status {row : JobRow} {status : JobStatus}
    (hstatus : row.status = status.label) (hactive : status.isActive = true) :
    row.timedOut settings now = row.ended .failed (Desk.timeoutReason settings status) now := by
  unfold JobRow.timedOut
  cases status with
  | pending => rw [if_pos hstatus]
  | processing =>
      rw [if_neg]
      rw [hstatus]
      exact fun hc => absurd (JobStatus.label_injective hc) (by decide)
  | completed | failed | cancelled => exact Bool.noConfusion hactive

namespace Store

theorem swept_congr {gone gone' : JobRow → Bool} (h : ∀ row ∈ s.jobs, gone row = gone' row) :
    s.swept settings now gone = s.swept settings now gone' := by
  unfold swept
  rw [List.map_congr_left fun row hrow => by rw [h row hrow]]

theorem swept_of_none {gone : JobRow → Bool} (h : ∀ row ∈ s.jobs, gone row = false) :
    s.swept settings now gone = s := by
  have hsame : ∀ row ∈ s.jobs, (if gone row then row.timedOut settings now else row) = row := by
    intro row hrow
    rw [h row hrow]
    rfl
  unfold swept
  rw [List.map_congr_left hsame, List.map_id']

/-- One row after another is the same as all of them at once. -/
private theorem swept_putRow (hids : (s.jobs.map (·.id)).Nodup) {job : JobId} {row : JobRow}
    {rest : List JobRow} (hrow : s.jobRow? job = some row) (hrest : row.id ∉ rest.map (·.id)) :
    (s.putRow job (row.timedOut settings now)).swept settings now (· ∈ rest)
      = s.swept settings now (· ∈ row :: rest) := by
  obtain ⟨hmem, hid⟩ := jobRow?_mem hrow
  have hnot : ∀ other : JobRow, other.id = row.id → other ∉ rest := fun other hother hin =>
    hrest (hother ▸ List.mem_map_of_mem hin)
  unfold swept putRow
  rw [List.map_map]
  congr 1
  refine List.map_congr_left fun old hold => ?_
  show (if decide ((if old.id = job.text then row.timedOut settings now else old) ∈ rest) = true
      then _ else _) = _
  by_cases hsame : old.id = job.text
  · have hgone : row.timedOut settings now ∉ rest := hnot _ rfl
    rw [row_unique hids hold hmem (hsame.trans hid.symm)]
    simp [hid, hgone]
  · have hne : old ≠ row := by
      rintro rfl
      exact hsame hid
    simp [hsame, hne]

end Store

namespace Desk

/-- **The loop of a sweep** fails every job of its list, and counts them. -/
private theorem sweepJobs_alone (hyear : now.HasPlainYear) :
    ∀ (rows : List JobRow) (jobs : List Job) (s : Store) (count : Nat), s.ReachedInYears →
      List.Forall₂ JobRow.Shows rows jobs → (rows.map (·.id)).Nodup →
      (∀ row ∈ rows, row ∈ s.jobs ∧ row.isActive = true) →
      (sweepJobs settings now jobs count).Alone (fun result s' =>
        result = .ok (count + rows.length) ∧ s' = s.swept settings now (· ∈ rows) ∧
          s'.ReachedInYears) s := by
  intro rows
  induction rows with
  | nil =>
      intro jobs s count hs hshows _ _
      rw [List.forall₂_nil_left_iff] at hshows
      subst hshows
      exact ⟨rfl, (Store.swept_of_none fun row _ => by simp).symm, hs⟩
  | cons row rest ih =>
      intro jobs s count hs hshows hnodup hrows
      obtain ⟨job, others, hshown, hothers, rfl⟩ := List.forall₂_cons_left_iff.mp hshows
      obtain ⟨hnew, hrest⟩ := List.nodup_cons.mp hnodup
      obtain ⟨hmem, hactive⟩ := hrows row (List.mem_cons_self ..)
      have hwf := hs.reached.wf
      have hrow : s.jobRow? job.id = some row :=
        (Store.jobRow?_eq_some_iff hwf.ids).mpr ⟨hmem, hshown.id⟩
      have hstatus : job.status.isActive = true := by
        rw [← JobRow.isActive_of_status hshown.status]
        exact hactive
      have hlegal : job.status.canBecome .failed = true := by
        cases hcase : job.status with
        | pending | processing => rfl
        | completed | failed | cancelled => rw [hcase] at hstatus; exact Bool.noConfusion hstatus
      have hfail : s.failJob job.id job.status (timeoutReason settings job.status) now
          = (.ok true, s.putRow job.id (row.timedOut settings now)) := by
        rw [JobRow.timedOut_of_status hshown.status hstatus]
        exact Store.step_of_status hwf hrow hshown.status hlegal _
      have hafter : (s.putRow job.id (row.timedOut settings now)).ReachedInYears := by
        have hop := hs.after
          (.failJob job.id job.status (timeoutReason settings job.status)) now hyear
        rwa [show Store.Operation.after now s
          (.failJob job.id job.status (timeoutReason settings job.status)) = _ from
          congrArg Prod.snd hfail] at hop
      intro s' hs' t
      rw [hs']
      have hwrite : StoreWrite.run t s (.failJob job.id job.status
          (timeoutReason settings job.status) (some now)) = _ := hfail
      rw [hwrite]
      intro _
      refine abandonIfKnown_ensures ((ih others _ (count + 1) hafter hothers hrest ?_).mono ?_)
      · intro other hother
        have hne : other.id ≠ job.id.text := by
          intro hc
          exact hnew (List.mem_map.mpr ⟨other, hother, hc.trans hshown.id.symm⟩)
        obtain ⟨hin, hother'⟩ := hrows other (List.mem_cons_of_mem _ hother)
        exact ⟨Store.mem_putRow_of_ne hin hne, hother'⟩
      · rintro result s' ⟨hresult, rfl, hs'⟩
        refine ⟨?_, Store.swept_putRow hwf.ids hrow hnew, hs'⟩
        rw [hresult, List.length_cons, Nat.add_right_comm, Nat.add_assoc]

/-- **A sweep that has the store for itself** fails what the store lists as stale, and nothing
else. -/
theorem sweepAt_alone (hs : s.ReachedInYears) (hyear : now.HasPlainYear) {oldest : Instant}
    (hcutoff : cutoff settings now = .ok oldest) :
    (sweepAt settings now).Alone (fun result s' =>
      result = .ok (s.jobs.countP (Store.isStale oldest.stored)) ∧
        s' = s.swept settings now (Store.isStale oldest.stored) ∧ s'.ReachedInYears) s := by
  have hwf := hs.reached.wf
  obtain ⟨shown, hshown⟩ := hs.reached.exists_shown hs.dated
  have hlisted : ∀ row ∈ s.jobs.filter (Store.isStale oldest.stored), row ∈ s.jobs ∧
      row.isActive = true := by
    intro row hrow
    obtain ⟨hmem, hstale⟩ := List.mem_filter.mp hrow
    exact ⟨hmem, Store.isActive_of_isStale hstale⟩
  have hread : List.Forall₂ (fun row job => row.read = .ok job)
      (s.jobs.filter (Store.isStale oldest.stored))
      ((s.jobs.filter (Store.isStale oldest.stored)).map shown) := by
    rw [List.forall₂_map_right_iff, List.forall₂_same]
    exact fun row hrow => (hshown row (hlisted row hrow).1).read
  have hshows : List.Forall₂ JobRow.Shows (s.jobs.filter (Store.isStale oldest.stored))
      ((s.jobs.filter (Store.isStale oldest.stored)).map shown) := by
    rw [List.forall₂_map_right_iff, List.forall₂_same]
    exact fun row hrow => hwf.shows (hlisted row hrow).1 (hshown row (hlisted row hrow).1).read
  have hanswer : s.staleJobs oldest
      = .ok ((s.jobs.filter (Store.isStale oldest.stored)).map shown) := readAll_eq_ok_iff.mpr hread
  have hnodup : ((s.jobs.filter (Store.isStale oldest.stored)).map (·.id)).Nodup :=
    hwf.ids.sublist (List.filter_sublist.map _)
  unfold sweepAt
  rw [hcutoff]
  intro s' hs'
  rw [hs']
  have hquery : StoreQuery.run s (.staleJobs oldest) = _ := hanswer
  rw [hquery]
  refine (sweepJobs_alone hyear _ _ s 0 hs hshows hnodup hlisted).mono ?_
  rintro result s' ⟨hresult, hafter, hs'⟩
  refine ⟨?_, hafter.trans (Store.swept_congr fun row hrow => ?_), hs'⟩
  · rw [hresult, Nat.zero_add, List.countP_eq_length_filter]
  · rw [Bool.eq_iff_iff, decide_eq_true_iff, List.mem_filter, and_iff_right hrow]

end Desk

/-! ### Expired jobs -/

/-- What a sweep has made of a store, and what it says about that. -/
structure Swept (settings : DeskSettings) (now : Instant) (s : Store)
    (result : Except DeskError Nat) (s' : Store) : Prop where
  count : result = .ok (s.jobs.countP (JobRow.isExpired settings.pollTimeout now))
  store : s' = s.swept settings now (JobRow.isExpired settings.pollTimeout now)
  nobodyLeft : ∀ row ∈ s'.jobs, row.isExpired settings.pollTimeout now = false
  reached : s'.ReachedInYears

theorem Store.ReachedInYears.isExpired_eq_isStale (hs : s.ReachedInYears) {timeout : Span}
    (hcutoff : (now.before timeout).HasPlainYear) {row : JobRow} (hrow : row ∈ s.jobs) :
    row.isExpired timeout now = Store.isStale (now.before timeout).stored row := by
  obtain ⟨shown, hshown⟩ := hs.reached.exists_shown hs.dated
  have hread := (hshown row hrow).read
  rw [Bool.eq_iff_iff, hs.reached.isStale_iff hrow hread hcutoff, JobRow.isExpired, hread]
  rfl

theorem JobRow.not_isStale_timedOut (row : JobRow) (text : String) :
    Store.isStale text (row.timedOut settings now) = false := by
  have hfailed : (row.timedOut settings now).status = JobStatus.failed.label := rfl
  have hover : (row.timedOut settings now).isActive = false := by
    rw [JobRow.isActive_of_status hfailed]
    rfl
  rw [Bool.eq_false_iff]
  intro hstale
  rw [Store.isActive_of_isStale hstale] at hover
  exact Bool.noConfusion hover

namespace Desk

variable (hs : s.ReachedInYears) (hnow : now.HasPlainYear)
  (hcutoff : (now.before settings.pollTimeout).HasPlainYear)

include hs hnow hcutoff

/-- **A sweep that has the store for itself fails exactly the expired jobs.** -/
theorem sweepAt_swept : (sweepAt settings now).Alone (Swept settings now s) s := by
  have hstale : ∀ row ∈ s.jobs, row.isExpired settings.pollTimeout now
      = Store.isStale (now.before settings.pollTimeout).stored row :=
    fun row hrow => hs.isExpired_eq_isStale hcutoff hrow
  refine (sweepAt_alone hs hnow (cutoff_of_plain hnow hcutoff)).mono ?_
  rintro result s' ⟨hresult, hafter, hs'⟩
  refine ⟨?_, hafter.trans (Store.swept_congr fun row hrow => (hstale row hrow).symm), ?_, hs'⟩
  · rw [hresult, List.countP_congr fun row hrow => Bool.eq_iff_iff.mp (hstale row hrow).symm]
  · intro row hrow
    rw [hs'.isExpired_eq_isStale hcutoff hrow]
    rw [hafter] at hrow
    obtain ⟨old, -, rfl⟩ := List.mem_map.mp hrow
    cases hold : Store.isStale (now.before settings.pollTimeout).stored old with
    | true => exact old.not_isStale_timedOut _
    | false => exact hold

/-- When nobody has waited too long, a sweep changes nothing. -/
theorem sweepAt_of_nobody
    (hnobody : ∀ row ∈ s.jobs, row.isExpired settings.pollTimeout now = false) :
    (sweepAt settings now).Alone (fun result s' => result = .ok 0 ∧ s' = s) s := by
  refine (sweepAt_swept hs hnow hcutoff).mono fun result s' h => ⟨?_, ?_⟩
  · rw [h.count, List.countP_eq_zero.mpr fun row hrow => by simp [hnobody row hrow]]
  · rw [h.store, Store.swept_of_none hnobody]

end Desk

/-- The small store with a dispatched job was reached in years with four digits. -/
theorem Small.dispatched_reachedInYears : Small.dispatched.ReachedInYears :=
  (((Store.ReachedInYears.empty.after _ ⟨0⟩ (by decide +kernel)).after _ ⟨0⟩
    (by decide +kernel)).after _ ⟨1⟩ (by decide +kernel)).after _ ⟨2⟩ (by decide +kernel)

end AnalysisDesk
