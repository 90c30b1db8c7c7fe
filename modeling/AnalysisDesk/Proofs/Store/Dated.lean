/-
Stores all of whose times can be read.

Nothing in a store fails to be read but a time whose year has no room in a timestamp.
The only time that an operation writes is that at which it takes place.  So nothing
fails to be read in a store that was reached in years with four digits: the row of each
job is read as a job, which says of itself what the row does.
-/
import AnalysisDesk.Proofs.Store.Onward
import AnalysisDesk.Proofs.Store.Tables
import AnalysisDesk.Proofs.Store.Written

namespace AnalysisDesk

/-- Whether an instant has room in a timestamp can be told from its stored form. -/
theorem Instant.HasPlainYear.of_stored {t now : Instant} (h : now.HasPlainYear)
    (hstored : now.stored = t.stored) : t.HasPlainYear := by
  have hread := readTimestamp_eq_ok_iff.mpr ⟨h, rfl⟩
  rw [hstored] at hread
  exact (readTimestamp_eq_ok_iff.mp hread).1

namespace JobRow

variable {row row' : JobRow} {now : Instant}

theorem Moves.legible (hmove : row.Moves now row') (hyear : now.HasPlainYear) (h : row.Legible) :
    row'.Legible := by
  cases hmove with
  | dispatch handle =>
      rintro t (htime | htime | htime)
      · exact h t (Or.inl htime)
      · exact hyear.of_stored (Option.some.inj htime)
      · exact h t (Or.inr (Or.inr htime))
  | record handle => exact h
  | finish source target reason =>
      rintro t (htime | htime | htime)
      · exact h t (Or.inl htime)
      · exact h t (Or.inr (Or.inl htime))
      · exact hyear.of_stored (Option.some.inj htime)

end JobRow

/-- A row and the job that it is read as. -/
structure JobRow.ReadAs (row : JobRow) (job : Job) : Prop where
  read : row.read = .ok job
  id : row.id = job.id.text
  status : row.status = job.status.label
  repositoryId : row.repositoryId = job.repositoryId
  issuesFound : job.issuesFound = row.issuesFound.value?

namespace Store

/-- The stores that operations reach from the empty one in years that have room in timestamps. -/
inductive ReachedInYears : Store → Prop
  | empty : ReachedInYears .empty
  | after {s : Store} (op : Operation) (now : Instant) (hyear : now.HasPlainYear)
      (h : ReachedInYears s) : ReachedInYears (op.after now s)

/-- A store all of whose times have room in timestamps. -/
structure Dated (s : Store) : Prop where
  users : ∀ row ∈ s.users, ∀ t : Instant, row.createdAt = t.stored → t.HasPlainYear
  repositories : ∀ row ∈ s.repositories, ∀ t : Instant, row.createdAt = t.stored → t.HasPlainYear
  jobs : ∀ row ∈ s.jobs, row.Legible

variable {s s' : Store} {now : Instant}

theorem ReachedInYears.reached (h : s.ReachedInYears) : s.Reached := by
  induction h with
  | empty => exact .empty
  | after op now _ _ ih => exact ih.after op now

theorem ReachedInYears.afterAll : ∀ {ops : List (Operation × Instant)} {s : Store},
    (∀ op ∈ ops, op.2.HasPlainYear) → s.ReachedInYears → (s.afterAll ops).ReachedInYears := by
  intro ops
  induction ops with
  | nil => exact fun _ h => h
  | cons op rest ih =>
      intro s hyears h
      obtain ⟨hyear, hrest⟩ := List.forall_mem_cons.mp hyears
      exact ih hrest (h.after op.1 op.2 hyear)

/-! ### Moves -/

theorem pendingRow_legible (id : JobId) (job : NewJob) (hyear : now.HasPlainYear) :
    (pendingRow id job now).Legible := by
  rintro t (htime | htime | htime)
  · exact hyear.of_stored htime
  · exact nomatch htime
  · exact nomatch htime

theorem rowWithReport_legible {row : JobRow} (h : row.Legible) (report : CheckedReport)
    (hyear : now.HasPlainYear) : (rowWithReport report now row).Legible := by
  rintro t (htime | htime | htime)
  · exact h t (Or.inl htime)
  · exact h t (Or.inr (Or.inl htime))
  · exact hyear.of_stored (Option.some.inj htime)

theorem Dated.putRow (h : s.Dated) {row : JobRow} (hrow : row.Legible) (id : JobId) :
    (s.putRow id row).Dated := by
  refine ⟨h.users, h.repositories, fun other hother => ?_⟩
  rcases mem_putRow hother with rfl | ⟨hold, -⟩
  · exact hrow
  · exact h.jobs other hold

/-- A move writes no time but its own. -/
theorem Moves.dated (hmoves : s.Moves now s') (hyear : now.HasPlainYear) (h : s.Dated) :
    s'.Dated := by
  cases hmoves with
  | stay => exact h
  | user =>
      refine ⟨fun row hrow => ?_, h.repositories, h.jobs⟩
      rcases List.mem_append.mp hrow with hold | hnew
      · exact h.users row hold
      · rw [List.mem_singleton.mp hnew]
        exact fun t htime => hyear.of_stored htime
  | repository =>
      refine ⟨h.users, fun row hrow => ?_, h.jobs⟩
      rcases List.mem_append.mp hrow with hold | hnew
      · exact h.repositories row hold
      · rw [List.mem_singleton.mp hnew]
        exact fun t htime => hyear.of_stored htime
  | job id job =>
      refine ⟨h.users, h.repositories, fun row hrow => ?_⟩
      rcases List.mem_append.mp hrow with hold | hnew
      · exact h.jobs row hold
      · rw [List.mem_singleton.mp hnew]
        exact pendingRow_legible id job hyear
  | row id row row' hrow hmove =>
      exact h.putRow (hmove.legible hyear (h.jobs row (jobRow?_mem hrow).1)) id
  | report id row report hrow =>
      have hput : (s.putRow id (rowWithReport report now row)).Dated :=
        h.putRow (rowWithReport_legible (h.jobs row (jobRow?_mem hrow).1) report hyear) id
      exact ⟨hput.users, hput.repositories, hput.jobs⟩

/-- **In a store that was reached in such years all times have room in timestamps.** -/
theorem ReachedInYears.dated (h : s.ReachedInYears) : s.Dated := by
  induction h with
  | empty => exact ⟨fun _ h => (nomatch h), fun _ h => (nomatch h), fun _ h => nomatch h⟩
  | after op now hyear hs ih =>
      exact (op.moves hs.reached.wf.ids hs.reached.wf.named now).dated hyear ih

/-! ### Reading -/

/-- In a store all of whose times have room, each row of a job is read as one. -/
theorem Reached.exists_shown (hs : s.Reached) (hdated : s.Dated) :
    ∃ shown : JobRow → Job, ∀ row ∈ s.jobs, row.ReadAs (shown row) := by
  have hread : ∀ row ∈ s.jobs, ∃ job, row.ReadAs job := by
    intro row hrow
    obtain ⟨id, hid⟩ := hs.wf.named row hrow
    obtain ⟨status, hstatus⟩ := hs.wf.status row hrow
    rcases (hs.written.rows row hrow).read_cases hid hstatus with
      ⟨t, htime, hyear, -⟩ | ⟨-, _, _, _, -, -, -, hread⟩
    · exact absurd (hdated.jobs row hrow t htime) hyear
    · exact ⟨_, hread, hid, hstatus, rfl, rfl⟩
  choose! shown hshown using hread
  exact ⟨shown, hshown⟩

end Store

end AnalysisDesk
