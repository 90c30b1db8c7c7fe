/-
One active job per repository.

That a repository never has two active jobs is part of being well formed.  Here
it is put to use: the row that a creation finds in its way is the only one, so the
answer names the one active job, and where there is none the job is added.  An
office does nothing to its store but what the store's operations do, so all of this
holds while any number of duties are at work, whatever fails.
-/
import AnalysisDesk.Proofs.Desk.Play

namespace AnalysisDesk

private theorem eq_of_countP_le_one {α : Type} {p : α → Bool} {l : List α}
    (h : l.countP p ≤ 1) {a b : α} (ha : a ∈ l) (hb : b ∈ l) (hpa : p a = true)
    (hpb : p b = true) : a = b := by
  rw [List.countP_eq_length_filter] at h
  have ha' : a ∈ l.filter p := List.mem_filter.mpr ⟨ha, hpa⟩
  have hb' : b ∈ l.filter p := List.mem_filter.mpr ⟨hb, hpb⟩
  rcases hfound : l.filter p with _ | ⟨c, _ | ⟨d, rest⟩⟩
  · rw [hfound] at ha'
    exact nomatch ha'
  · rw [hfound, List.mem_singleton] at ha' hb'
    rw [ha', hb']
  · rw [hfound] at h
    simp only [List.length_cons] at h
    omega

namespace Store

/-- Every repository has at most one active job. -/
def OneActive (s : Store) : Prop := ∀ repository, s.activeCount repository ≤ 1

/-- No job of a repository is active. -/
def Idle (s : Store) (repository : Int) : Prop :=
  ∀ row ∈ s.jobs, row.repositoryId = repository → row.isActive = false

instance (s : Store) (repository : Int) : Decidable (s.Idle repository) :=
  inferInstanceAs (Decidable (∀ row ∈ s.jobs, row.repositoryId = repository → row.isActive = false))

/-- The one active job of a repository. -/
structure TheActive (s : Store) (repository : Int) (job : JobId) (row : JobRow) : Prop where
  mem : row ∈ s.jobs
  id : row.id = job.text
  belongs : row.repositoryId = repository
  active : row.isActive = true
  only : ∀ other ∈ s.jobs, other.repositoryId = repository → other.isActive = true → other = row

/-- What a store does with the attempt to create a job. -/
structure CreatesWhenIdle (s : Store) : Prop where
  idle : ∀ (id : JobId) (new : NewJob) (now : Instant),
    (s.repositoryRow? new.repositoryId).isSome = true → s.jobRow? id = none →
      s.Idle new.repositoryId →
        s.createJob id new now =
          ((readTimestamp now.stored).map fun t => .created (pendingJob id new t),
            { s with jobs := s.jobs ++ [pendingRow id new now] })
  busy : ∀ (id : JobId) (new : NewJob) (now : Instant), ¬ s.Idle new.repositoryId →
    ∃ existing row, s.TheActive new.repositoryId existing row ∧
      s.createJob id new now = (.ok (.active existing), s)

variable {s : Store}

/-- The active row of a repository is the only one. -/
theorem WF.theActive (h : s.WF) {repository : Int} {job : JobId} {row : JobRow}
    (hmem : row ∈ s.jobs) (hid : row.id = job.text) (hrepository : row.repositoryId = repository)
    (hactive : row.isActive = true) : s.TheActive repository job row := by
  refine ⟨hmem, hid, hrepository, hactive, fun other hother hrepository' hactive' => ?_⟩
  refine eq_of_countP_le_one (h.oneActive repository) hother hmem ?_ ?_
  · rw [Bool.and_eq_true, beq_iff_eq]
    exact ⟨hrepository', hactive'⟩
  · rw [Bool.and_eq_true, beq_iff_eq]
    exact ⟨hrepository, hactive⟩

/-- **A well-formed store creates a job exactly when the repository is idle**, and names the one
active job otherwise. -/
theorem WF.createsWhenIdle (h : s.WF) : s.CreatesWhenIdle := by
  refine ⟨fun id new now hrepository hnew hidle => ?_, fun id new now hbusy => ?_⟩
  · have hcreate := createJob_outcome h.named id new now
    generalize s.createJob id new now = outcome at hcreate ⊢
    cases hcreate with
    | active row hmem hrepository' hactive =>
        rw [hidle row hmem hrepository'] at hactive
        exact Bool.noConfusion hactive
    | refused hidle' hrefused =>
        rcases hrefused with hc | hc
        · exact absurd hnew hc
        · rw [hc] at hrepository
          exact Bool.noConfusion hrepository
    | created =>
        rw [pendingRow_read]
        cases readTimestamp now.stored <;> rfl
  · have hcreate := createJob_outcome h.named id new now
    generalize s.createJob id new now = outcome at hcreate ⊢
    cases hcreate with
    | active row hmem hrepository hactive existing hid =>
        exact ⟨existing, row, h.theActive hmem hid.symm hrepository hactive, rfl⟩
    | refused hidle => exact absurd hidle hbusy
    | created hidle => exact absurd hidle hbusy

end Store

/-- **One active job per repository.**  In every store that operations reach, and in the store of
every office that begins with such a one, however its duties interleave and whatever its store
fails to do, a repository has at most one active job; and a job for a repository that exists is
created exactly when the repository is idle, while otherwise the answer names its one active job and
nothing changes. -/
theorem one_active_job :
    (∀ s : Store, s.Reached → s.OneActive ∧ s.CreatesWhenIdle) ∧
      ∀ (settings : DeskSettings) (first : Store) (o : Office), first.Reached →
        o.Reached settings first → o.store.OneActive ∧ o.store.CreatesWhenIdle := by
  have hreached : ∀ s : Store, s.Reached → s.OneActive ∧ s.CreatesWhenIdle := fun s hs =>
    ⟨hs.wf.oneActive, hs.wf.createsWhenIdle⟩
  refine ⟨hreached, fun settings first o hfirst ho => ?_⟩
  exact hreached o.store (ho.sound.history.reached hfirst)

/-- A repository that is idle, and the same one after a submission has created its job. -/
theorem one_active_job_played :
    (∃ t, readTimestamp (Instant.stored ⟨1⟩) = .ok t ∧
      (Small.store.createJob default ⟨1, "", "main", none⟩ ⟨1⟩).1
        = .ok (.created (Store.pendingJob default ⟨1, "", "main", none⟩ t))) ∧
    ∃ existing row, Small.submitting.store.TheActive 1 existing row ∧
      Small.submitting.store.createJob default ⟨1, "", "main", none⟩ ⟨1⟩
        = (.ok (.active existing), Small.submitting.store) := by
  refine ⟨?_, ?_⟩
  · have hread : (readTimestamp (Instant.stored ⟨1⟩)).toOption.isSome = true := by decide +kernel
    cases htime : readTimestamp (Instant.stored ⟨1⟩) with
    | error cause => rw [htime] at hread; exact Bool.noConfusion hread
    | ok t =>
        refine ⟨t, rfl, ?_⟩
        rw [(one_active_job.1 _ Small.store_reached).2.idle default ⟨1, "", "main", none⟩ ⟨1⟩
          (by decide +kernel) (by decide +kernel) (by decide +kernel), htime]
        rfl
  · have hreached : Small.submitting.Reached Small.settings Small.store := Office.reached_played ..
    have hbusy : ¬ Small.submitting.store.Idle 1 := by decide +kernel
    exact (one_active_job.2 _ _ _ Small.store_reached hreached).2.busy default
      ⟨1, "", "main", none⟩ ⟨1⟩ hbusy

end AnalysisDesk
