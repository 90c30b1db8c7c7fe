/-
What holds of every store that operations can reach.

Identifiers are unique and are the texts of identifiers, statuses are labels, a
job that is processing or completed has a handle, a repository has at most one
active job, and findings belong to jobs that are over.  Each of these survives every move, so
each survives every operation with any arguments, and a run of operations of any
length.

That a repository has one active job at most hangs on two things: a job is only
added while its repository is idle, and no move leads back from an end, so a row
that is active after a move was active before it.
-/
import AnalysisDesk.Proofs.Store.Moves

namespace AnalysisDesk

theorem JobRow.Moves.isActive_mono {row row' : JobRow} {now : Instant} (h : row.Moves now row')
    (hactive : row'.isActive = true) : row.isActive = true := by
  cases h with
  | dispatch handle hstatus => exact JobRow.isActive_iff.mpr (Or.inl hstatus)
  | record handle hnone => exact hactive
  | finish source target reason hlegal hend hstatus =>
      rw [JobRow.isActive_of_status hstatus]
      exact JobStatus.isActive_of_canBecome hlegal

theorem JobRow.Moves.status_label {row row' : JobRow} {now : Instant} (h : row.Moves now row')
    (hlabel : ∃ status : JobStatus, row.status = status.label) :
    ∃ status : JobStatus, row'.status = status.label := by
  cases h with
  | dispatch => exact ⟨.processing, rfl⟩
  | record => exact hlabel
  | finish source target => exact ⟨target, rfl⟩

/-- A row that needs a handle: the analyzer works on its job, or has completed it. -/
def JobRow.NeedsHandle (row : JobRow) : Prop :=
  row.status = JobStatus.processing.label ∨ row.status = JobStatus.completed.label

/-- Whatever makes a row need a handle gives it one. -/
theorem JobRow.Moves.handled {row row' : JobRow} {now : Instant} (h : row.Moves now row')
    (hneeds : row'.NeedsHandle) : row'.externalHandle ≠ none := by
  cases h with
  | dispatch => exact Option.some_ne_none _
  | record => exact Option.some_ne_none _
  | finish source target reason hlegal hend hstatus =>
      have htarget : target = .processing ∨ target = .completed :=
        hneeds.imp (fun h => JobStatus.label_injective h) fun h => JobStatus.label_injective h
      rcases hend with rfl | rfl <;> exact absurd htarget (by decide)

namespace Store

/-- The row of a job after a report is over. -/
theorem rowWithReport_over {report : CheckedReport} {now : Instant} {row : JobRow}
    (hlegal : JobStatus.processing.canBecome report.status = true) :
    (rowWithReport report now row).isActive = false := by
  have hover := JobStatus.isTerminal_of_processing_canBecome hlegal
  have hstatus : (rowWithReport report now row).status = report.status.label := rfl
  rw [JobRow.isActive_of_status hstatus]
  simpa [JobStatus.isTerminal] using hover

/-- How many active jobs a repository has. -/
def activeCount (s : Store) (repository : Int) : Nat :=
  s.jobs.countP fun row => row.repositoryId == repository && row.isActive

/-- What every reachable store satisfies. -/
structure WF (s : Store) : Prop where
  ids : (s.jobs.map (·.id)).Nodup
  named : ∀ row ∈ s.jobs, ∃ id : JobId, row.id = id.text
  status : ∀ row ∈ s.jobs, ∃ status : JobStatus, row.status = status.label
  handled : ∀ row ∈ s.jobs, row.NeedsHandle → row.externalHandle ≠ none
  oneActive : ∀ repository, s.activeCount repository ≤ 1
  issues : ∀ issue ∈ s.issues, ∃ row ∈ s.jobs, row.id = issue.jobId ∧ row.isActive = false
  metrics : ∀ metric ∈ s.metrics, ∃ row ∈ s.jobs, row.id = metric.jobId ∧ row.isActive = false

variable {s s' : Store} {id : JobId} {row row' : JobRow}

/-! ### Putting a row -/

theorem activeCount_putRow_le (hids : (s.jobs.map (·.id)).Nodup) (hrow : s.jobRow? id = some row)
    (hrepository : row'.repositoryId = row.repositoryId)
    (hactive : row'.isActive = true → row.isActive = true) (repository : Int) :
    (s.putRow id row').activeCount repository ≤ s.activeCount repository := by
  obtain ⟨hmem, hid⟩ := jobRow?_mem hrow
  unfold activeCount putRow
  rw [List.countP_map]
  refine List.countP_mono_left fun old hold h => ?_
  by_cases heq : old.id = id.text
  · rw [row_unique hids hold hmem (heq.trans hid.symm)]
    simp only [Function.comp_apply, if_pos heq, Bool.and_eq_true, beq_iff_eq, hrepository] at h ⊢
    exact ⟨h.1, hactive h.2⟩
  · simpa [Function.comp_apply, if_neg heq] using h

/-- Findings still belong to a job that is over. -/
private theorem over_putRow (hids : (s.jobs.map (·.id)).Nodup) (hrow : s.jobRow? id = some row)
    (hid' : row'.id = row.id) (hover : row.isActive = false → row'.isActive = false) {text : String}
    (h : ∃ old ∈ s.jobs, old.id = text ∧ old.isActive = false) :
    ∃ old ∈ (s.putRow id row').jobs, old.id = text ∧ old.isActive = false := by
  obtain ⟨old, hold, htext, hend⟩ := h
  obtain ⟨hmem, hid⟩ := jobRow?_mem hrow
  by_cases heq : old.id = id.text
  · have hsame := row_unique hids hold hmem (heq.trans hid.symm)
    subst hsame
    exact ⟨row', mem_putRow_self hrow, hid'.trans htext, hover hend⟩
  · exact ⟨old, mem_putRow_of_ne hold heq, htext, hend⟩

/-- Well-formedness survives a change of one row that no finding would notice. -/
theorem WF.putRow (h : s.WF) (hrow : s.jobRow? id = some row) (hid' : row'.id = row.id)
    (hrepository : row'.repositoryId = row.repositoryId)
    (hactive : row'.isActive = true → row.isActive = true)
    (hstatus : ∃ status : JobStatus, row'.status = status.label)
    (hhandle : row'.NeedsHandle → row'.externalHandle ≠ none) :
    (s.putRow id row').WF := by
  obtain ⟨hmem, hid⟩ := jobRow?_mem hrow
  have hover : row.isActive = false → row'.isActive = false := by
    intro hend
    by_contra hc
    rw [hactive (by simpa using hc)] at hend
    exact Bool.noConfusion hend
  refine ⟨?_, ?_, ?_, ?_, ?_, ?_, ?_⟩
  · rw [putRow_ids (hid'.trans hid)]; exact h.ids
  · intro old hold
    rcases mem_putRow hold with rfl | ⟨hold, -⟩
    · exact ⟨id, hid'.trans hid⟩
    · exact h.named old hold
  · intro old hold
    rcases mem_putRow hold with rfl | ⟨hold, -⟩
    · exact hstatus
    · exact h.status old hold
  · intro old hold
    rcases mem_putRow hold with rfl | ⟨hold, -⟩
    · exact hhandle
    · exact h.handled old hold
  · intro repository
    exact (activeCount_putRow_le h.ids hrow hrepository hactive repository).trans
      (h.oneActive repository)
  · intro issue hissue
    exact over_putRow h.ids hrow hid' hover (h.issues issue hissue)
  · intro metric hmetric
    exact over_putRow h.ids hrow hid' hover (h.metrics metric hmetric)

/-! ### Moves -/

private theorem WF.addJob (h : s.WF) {job : NewJob} {now : Instant}
    (hidle : ∀ row ∈ s.jobs, row.repositoryId = job.repositoryId → row.isActive = false)
    (hnew : s.jobRow? id = none) :
    ({ s with jobs := s.jobs ++ [pendingRow id job now] } : Store).WF := by
  refine ⟨?_, ?_, ?_, ?_, ?_, ?_, ?_⟩
  · rw [List.map_append, List.nodup_append]
    refine ⟨h.ids, List.nodup_singleton _, ?_⟩
    intro a ha b hb
    obtain ⟨row, hrow, rfl⟩ := List.mem_map.mp ha
    rw [List.mem_singleton.mp hb]
    exact jobRow?_eq_none_iff.mp hnew row hrow
  · intro row hrow
    rcases List.mem_append.mp hrow with hrow | hrow
    · exact h.named row hrow
    · rw [List.mem_singleton.mp hrow]; exact ⟨id, rfl⟩
  · intro row hrow
    rcases List.mem_append.mp hrow with hrow | hrow
    · exact h.status row hrow
    · rw [List.mem_singleton.mp hrow]; exact ⟨.pending, rfl⟩
  · intro row hrow
    rcases List.mem_append.mp hrow with hrow | hrow
    · exact h.handled row hrow
    · rw [List.mem_singleton.mp hrow]
      intro hc
      have hpending : JobStatus.pending = .processing ∨ JobStatus.pending = .completed :=
        hc.imp (fun h => JobStatus.label_injective h) fun h => JobStatus.label_injective h
      exact absurd hpending (by decide)
  · intro repository
    unfold activeCount
    rw [List.countP_append, List.countP_singleton]
    by_cases hrepository : job.repositoryId = repository
    · have hzero : (s.jobs.countP fun row => row.repositoryId == repository && row.isActive) = 0 := by
        rw [List.countP_eq_zero]
        intro row hrow hc
        rw [Bool.and_eq_true, beq_iff_eq] at hc
        rw [hidle row hrow (hc.1.trans hrepository.symm)] at hc
        exact Bool.noConfusion hc.2
      rw [hzero]
      split <;> omega
    · have hrow : ((pendingRow id job now).repositoryId == repository &&
          (pendingRow id job now).isActive) = false := by
        simp [pendingRow, hrepository]
      rw [hrow, if_neg Bool.false_ne_true]
      exact h.oneActive repository
  · intro issue hissue
    obtain ⟨row, hrow, hid⟩ := h.issues issue hissue
    exact ⟨row, List.mem_append_left _ hrow, hid⟩
  · intro metric hmetric
    obtain ⟨row, hrow, hid⟩ := h.metrics metric hmetric
    exact ⟨row, List.mem_append_left _ hrow, hid⟩

private theorem WF.withFindings (h : s.WF) {report : CheckedReport}
    (hover : ∃ row ∈ s.jobs, row.id = id.text ∧ row.isActive = false) :
    (s.withFindings id report).WF := by
  refine ⟨h.ids, h.named, h.status, h.handled, h.oneActive, ?_, ?_⟩
  · intro issue hissue
    rcases List.mem_append.mp hissue with hold | hnew
    · exact h.issues issue hold
    · rw [issueRows_jobId _ _ hnew]; exact hover
  · intro metric hmetric
    rcases List.mem_append.mp hmetric with hold | hnew
    · exact h.metrics metric hold
    · rw [metricRows_jobId _ _ hnew]; exact hover

/-- **Every move keeps a store well formed.** -/
theorem Moves.wf {now : Instant} (hmoves : s.Moves now s') (h : s.WF) : s'.WF := by
  cases hmoves with
  | stay => exact h
  | user => exact ⟨h.ids, h.named, h.status, h.handled, h.oneActive, h.issues, h.metrics⟩
  | repository => exact ⟨h.ids, h.named, h.status, h.handled, h.oneActive, h.issues, h.metrics⟩
  | job id job hidle hnew => exact h.addJob hidle hnew
  | row id row row' hrow hmove =>
      obtain ⟨hmem, -⟩ := jobRow?_mem hrow
      exact h.putRow hrow hmove.id_eq hmove.repositoryId_eq hmove.isActive_mono
        (hmove.status_label (h.status row hmem)) hmove.handled
  | report id row report hrow hlegal hstatus =>
      have hover : (rowWithReport report now row).isActive = false := rowWithReport_over hlegal
      have hput : (s.putRow id (rowWithReport report now row)).WF := by
        refine h.putRow hrow rfl rfl (fun hc => ?_) ⟨report.status, rfl⟩ (fun _ => ?_)
        · rw [hover] at hc; exact Bool.noConfusion hc
        · exact h.handled row (jobRow?_mem hrow).1 (Or.inl hstatus)
      exact hput.withFindings ⟨_, mem_putRow_self hrow, (jobRow?_mem hrow).2, hover⟩

theorem WF.empty : Store.empty.WF := by
  refine ⟨List.nodup_nil, ?_, ?_, ?_, ?_, ?_, ?_⟩ <;> simp [Store.empty, activeCount]

/-- A job that is active has no findings. -/
theorem WF.findingsOf_of_active (h : s.WF) (hrow : s.jobRow? id = some row)
    (hactive : row.isActive = true) : s.findingsOf id = ([], []) := by
  obtain ⟨hmem, hid⟩ := jobRow?_mem hrow
  have hnobody : ∀ {text : String}, (∃ old ∈ s.jobs, old.id = text ∧ old.isActive = false) →
      text ≠ id.text := by
    rintro text ⟨old, hold, htext, hover⟩ rfl
    rw [row_unique h.ids hold hmem (htext.trans hid.symm), hactive] at hover
    exact Bool.noConfusion hover
  unfold findingsOf
  rw [Prod.mk.injEq, List.filter_eq_nil_iff, List.filter_eq_nil_iff]
  refine ⟨fun issue hissue => ?_, fun metric hmetric => ?_⟩
  · simpa using hnobody (h.issues issue hissue)
  · simpa using hnobody (h.metrics metric hmetric)

/-- **Every reachable store is well formed.** -/
theorem Reached.wf (h : s.Reached) : s.WF := by
  induction h with
  | empty => exact WF.empty
  | after op now _ ih => exact (op.moves ih.ids ih.named now).wf ih

end Store

end AnalysisDesk
