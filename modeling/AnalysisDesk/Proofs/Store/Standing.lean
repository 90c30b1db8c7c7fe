/-
What the status of a row says about its columns.

The end of a job writes its error, the time, and whatever the report has brought;
until then these columns are empty.  A job has no time of dispatch while it is
pending, and it has one while it is processing and once it was completed.  None of
this looks at more than one row, so it follows from the moves of a row.
-/
import AnalysisDesk.Proofs.Store.WellFormed

namespace AnalysisDesk

namespace JobRow

/-- The columns of the scores. -/
def scores (row : JobRow) : List (Slot Double) :=
  [row.qualityScore, row.maintainabilityIndex, row.complexityScore, row.securityRating]

/-- The columns of the counters. -/
def counters (row : JobRow) : List (Slot Int) := [row.issuesFound, row.filesAnalyzed]

/-- A row without any score and any counter. -/
structure Unscored (row : JobRow) : Prop where
  scores : ∀ score ∈ row.scores, score = .empty
  counters : ∀ counter ∈ row.counters, counter = .empty

/-- A row in which nothing stands that the end of a job writes. -/
structure Unended (row : JobRow) : Prop where
  unscored : row.Unscored
  error : row.error = none
  completedAt : row.completedAt = none

/-- A row whose columns are filled as far as its status wants them to be. -/
structure Standing (row : JobRow) : Prop where
  unended : row.isActive = true → row.Unended
  undispatched : row.status = JobStatus.pending.label → row.dispatchedAt = none
  dispatched : row.NeedsHandle → row.dispatchedAt ≠ none

variable {row row' : JobRow}

theorem isActive_of_pending (h : row.status = JobStatus.pending.label) : row.isActive = true :=
  isActive_iff.mpr (Or.inl h)

theorem isActive_of_processing (h : row.status = JobStatus.processing.label) :
    row.isActive = true :=
  isActive_iff.mpr (Or.inr h)

theorem not_needsHandle_of_status {status : JobStatus} (h : row.status = status.label)
    (hprocessing : status ≠ .processing) (hcompleted : status ≠ .completed) :
    ¬ row.NeedsHandle := by
  rintro (hc | hc)
  · exact hprocessing (JobStatus.label_injective (h.symm.trans hc))
  · exact hcompleted (JobStatus.label_injective (h.symm.trans hc))

theorem Moves.standing {now : Instant} (hmove : row.Moves now row') (h : row.Standing) : row'.Standing := by
  cases hmove with
  | dispatch handle hstatus =>
      obtain ⟨⟨hscores, hcounters⟩, herror, hcompleted⟩ := h.unended (isActive_of_pending hstatus)
      refine ⟨fun _ => ⟨⟨hscores, hcounters⟩, herror, hcompleted⟩, fun hc => ?_,
        fun _ => Option.some_ne_none _⟩
      have hlabel : JobStatus.processing.label = JobStatus.pending.label := hc
      exact absurd (JobStatus.label_injective hlabel) (by decide)
  | record handle hnone =>
      refine ⟨fun hactive => ?_, h.undispatched, h.dispatched⟩
      obtain ⟨⟨hscores, hcounters⟩, herror, hcompleted⟩ := h.unended hactive
      exact ⟨⟨hscores, hcounters⟩, herror, hcompleted⟩
  | finish source target reason hlegal hend hstatus =>
      have htarget : (row.ended target reason now).status = target.label := rfl
      have hover : (row.ended target reason now).isActive = false := by
        rw [isActive_of_status htarget]
        rcases hend with rfl | rfl <;> rfl
      refine ⟨fun hc => ?_, fun hc => ?_, fun hc => ?_⟩
      · rw [hover] at hc
        exact Bool.noConfusion hc
      · rw [isActive_of_pending hc] at hover
        exact Bool.noConfusion hover
      · refine absurd hc (not_needsHandle_of_status htarget ?_ ?_)
        · rcases hend with rfl | rfl <;> decide
        · rcases hend with rfl | rfl <;> decide

end JobRow

namespace Store

/-- Every row of a job stands as its status says. -/
def InStep (s : Store) : Prop := ∀ row ∈ s.jobs, row.Standing

variable {s s' : Store}

theorem pendingRow_unended (id : JobId) (job : NewJob) (now : Instant) :
    (pendingRow id job now).Unended := by
  refine ⟨⟨?_, ?_⟩, rfl, rfl⟩
  · simp [JobRow.scores, pendingRow]
  · simp [JobRow.counters, pendingRow]

theorem pendingRow_standing (id : JobId) (job : NewJob) (now : Instant) :
    (pendingRow id job now).Standing := by
  have hpending : (pendingRow id job now).status = JobStatus.pending.label := rfl
  refine ⟨fun _ => pendingRow_unended id job now, fun _ => rfl, fun hc => ?_⟩
  exact absurd hc (JobRow.not_needsHandle_of_status hpending (by decide) (by decide))

/-- A report is written on a row that was dispatched, and leaves it over. -/
theorem rowWithReport_standing {report : CheckedReport} {now : Instant} {row : JobRow}
    (hlegal : JobStatus.processing.canBecome report.status = true)
    (hstatus : row.status = JobStatus.processing.label) (h : row.Standing) :
    (rowWithReport report now row).Standing := by
  have hover : (rowWithReport report now row).isActive = false := rowWithReport_over hlegal
  refine ⟨fun hc => ?_, fun hc => ?_, fun _ => h.dispatched (Or.inl hstatus)⟩
  · rw [hover] at hc
    exact Bool.noConfusion hc
  · rw [JobRow.isActive_of_pending hc] at hover
    exact Bool.noConfusion hover

theorem InStep.putRow (h : s.InStep) {id : JobId} {row : JobRow} (hrow : row.Standing) :
    (s.putRow id row).InStep := by
  intro other hother
  rcases mem_putRow hother with rfl | ⟨hold, -⟩
  · exact hrow
  · exact h other hold

theorem Moves.inStep {now : Instant} (hmoves : s.Moves now s') (h : s.InStep) : s'.InStep := by
  cases hmoves with
  | stay | user | repository => exact h
  | job id job =>
      intro row hrow
      rcases List.mem_append.mp hrow with hold | hnew
      · exact h row hold
      · rw [List.mem_singleton.mp hnew]
        exact pendingRow_standing id job now
  | row id row row' hrow hmove => exact h.putRow (hmove.standing (h row (jobRow?_mem hrow).1))
  | report id row report hrow hlegal hstatus =>
      have hput : (s.putRow id (rowWithReport report now row)).InStep :=
        h.putRow (rowWithReport_standing hlegal hstatus (h row (jobRow?_mem hrow).1))
      exact hput

/-- **In every reachable store each row stands as its status says.** -/
theorem Reached.inStep (h : s.Reached) : s.InStep := by
  induction h with
  | empty => exact fun row hrow => nomatch hrow
  | after op now hs ih => exact (op.moves hs.wf.ids hs.wf.named now).inStep ih

end Store

/-! ### Handles -/

/-- A row that has a handle if its job was dispatched. -/
def JobRow.Handed (row : JobRow) : Prop := row.externalHandle = none → row.dispatchedAt = none

theorem JobRow.Moves.handed {row row' : JobRow} {now : Instant} (hmove : row.Moves now row')
    (h : row.Handed) : row'.Handed := by
  cases hmove with
  | dispatch | record => exact fun hc => nomatch hc
  | finish => exact h

namespace Store

/-- Nothing but a mark writes the time of dispatch, and a mark brings a handle. -/
theorem Moves.handed {s s' : Store} {now : Instant} (hmoves : s.Moves now s')
    (h : ∀ row ∈ s.jobs, row.Handed) : ∀ row ∈ s'.jobs, row.Handed := by
  have hput : ∀ {id : JobId} {row' : JobRow}, row'.Handed →
      ∀ row ∈ (s.putRow id row').jobs, row.Handed := by
    intro id row' hrow' row hrow
    rcases mem_putRow hrow with rfl | ⟨hold, -⟩
    · exact hrow'
    · exact h row hold
  cases hmoves with
  | stay | user | repository => exact h
  | job id job =>
      intro row hrow
      rcases List.mem_append.mp hrow with hold | hnew
      · exact h row hold
      · rw [List.mem_singleton.mp hnew]
        exact fun _ => rfl
  | row id row row' hrow hmove => exact hput (hmove.handed (h row (jobRow?_mem hrow).1))
  | report id row report hrow =>
      have hreported : (rowWithReport report now row).Handed := h row (jobRow?_mem hrow).1
      exact hput hreported

/-- **In every reachable store a job that was dispatched has a handle.** -/
theorem Reached.handed {s : Store} (h : s.Reached) : ∀ row ∈ s.jobs, row.Handed := by
  induction h with
  | empty => exact fun row hrow => nomatch hrow
  | after op now hs ih => exact (op.moves hs.wf.ids hs.wf.named now).handed ih

end Store

end AnalysisDesk
