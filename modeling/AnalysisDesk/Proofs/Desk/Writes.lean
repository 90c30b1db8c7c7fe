/-
What one write of the desk does to the store.

A write on a job may create its row, dispatch it, keep a handle on it or end it,
and a report brings findings besides.  If the job does not stand as the write
wants it, nothing happens and the answer says so.  `StoreWrite.ran` puts all this
into one table, answer included, and nothing that follows looks into the store's
operations again.
-/
import AnalysisDesk.Proofs.Desk.Ending
import AnalysisDesk.Proofs.Store.Reading

namespace AnalysisDesk

namespace StoreWrite

/-- The job that a write is about. -/
def job : StoreWrite → JobId
  | .createJob id _ | .markDispatched id _ | .recordHandle id _ => id
  | .failJob id _ _ _ | .cancelJob id _ | .applyReport id _ => id

/-- Whether a write is there to end a job. -/
def isEnding : StoreWrite → Bool
  | .failJob _ _ _ _ | .cancelJob _ _ | .applyReport _ _ => true
  | .createJob _ _ | .markDispatched _ _ | .recordHandle _ _ => false

/-- The statuses one of which a job must have for a conditional write. -/
def sources : StoreWrite → List JobStatus
  | .markDispatched _ _ => [.pending]
  | .failJob _ source _ _ => [source]
  | .cancelJob _ _ => [.pending, .processing]
  | .applyReport _ _ => [.processing]
  | .createJob _ _ | .recordHandle _ _ => []

/-- The row of a job that was ended by a write. -/
def endedRow (now : Instant) (row : JobRow) : StoreWrite → JobRow
  | .failJob _ _ reason date => row.ended .failed reason (date.getD now)
  | .cancelJob _ reason => row.ended .cancelled reason now
  | .applyReport _ report => Store.rowWithReport report now row
  | .createJob _ _ | .markDispatched _ _ | .recordHandle _ _ => row

/-- The report that a write brings. -/
def report? : StoreWrite → Option CheckedReport
  | .applyReport _ report => some report
  | .createJob _ _ | .markDispatched _ _ | .recordHandle _ _ | .failJob _ _ _ _ | .cancelJob _ _ =>
    none

/-- The store with the findings that a write brings. -/
def furnish (change : StoreWrite) (s : Store) : Store :=
  match change.report? with
  | none => s
  | some report => s.withFindings change.job report

/-- The findings that a write brings for its job. -/
def findings (change : StoreWrite) (s : Store) : List IssueRow × List MetricRow :=
  match change.report? with
  | none => ([], [])
  | some report => s.newFindings change.job report

theorem endedRow_handle (now : Instant) (row : JobRow) (change : StoreWrite) :
    (change.endedRow now row).externalHandle = row.externalHandle := by
  cases change <;> rfl

theorem endedRow_repositoryId (now : Instant) (row : JobRow) (change : StoreWrite) :
    (change.endedRow now row).repositoryId = row.repositoryId := by
  cases change <;> rfl

theorem endedRow_id (now : Instant) (row : JobRow) (change : StoreWrite) :
    (change.endedRow now row).id = row.id := by
  cases change <;> rfl

@[simp] theorem furnish_jobs (change : StoreWrite) (s : Store) :
    (change.furnish s).jobs = s.jobs := by
  cases change <;> rfl

@[simp] theorem furnish_repositories (change : StoreWrite) (s : Store) :
    (change.furnish s).repositories = s.repositories := by
  cases change <;> rfl

@[simp] theorem furnish_jobRow? (change : StoreWrite) (s : Store) (id : JobId) :
    (change.furnish s).jobRow? id = s.jobRow? id := by
  rw [Store.jobRow?, furnish_jobs, Store.jobRow?]

theorem furnish_findingsOf (change : StoreWrite) (s : Store) :
    (change.furnish s).findingsOf change.job
      = ((s.findingsOf change.job).1 ++ (change.findings s).1,
          (s.findingsOf change.job).2 ++ (change.findings s).2) := by
  cases hreport : change.report? with
  | none => simp only [furnish, findings, hreport, List.append_nil]
  | some report =>
      simp only [furnish, findings, hreport]
      exact Store.findingsOf_withFindings s report

/-- A write is one of the operations of the store. -/
theorem reached_run {s : Store} (h : s.Reached) (now : Instant) (change : StoreWrite) :
    (change.run now s).2.Reached := by
  cases change with
  | createJob id job => exact h.after (.createJob id job) now
  | markDispatched id handle => exact h.after (.markDispatched id handle) now
  | recordHandle id handle => exact h.after (.recordHandle id handle) now
  | failJob id source reason date => exact h.after (.failJob id source reason) (date.getD now)
  | cancelJob id reason => exact h.after (.cancelJob id reason) now
  | applyReport id report => exact h.after (.applyReport Store.noneRefused id report) now

end StoreWrite

namespace Exchange

/-- A conditional write that was not taken. -/
def Declined : Exchange → Prop
  | ⟨.write (.markDispatched _ _), answer⟩ => answer = .ok false
  | ⟨.write (.failJob _ _ _ _), answer⟩ => answer = .ok false
  | ⟨.write (.cancelJob _ _), answer⟩ => answer = .ok false
  | ⟨.write (.applyReport _ _), answer⟩ => answer = .ok false
  | _ => False

/-- An exchange that has ended a job was a write on it. -/
theorem write_of_ended {x : Exchange} {job : JobId} (h : x.ended? = some job) :
    ∃ change, x.1 = .write change ∧ change.job = job ∧ change.isEnding = true := by
  obtain ⟨action, answer⟩ := x
  cases action with
  | write change =>
      have hjob : ∀ {id : JobId} {taken : Bool}, (if taken = true then some id else none) = some job →
          id = job := by
        intro id taken h
        cases taken
        · exact nomatch h
        · exact Option.some.inj h
      cases change with
      | failJob | cancelJob | applyReport => exact ⟨_, rfl, hjob h, rfl⟩
      | createJob | markDispatched | recordHandle => exact nomatch h
  | _ => exact nomatch h

/-- An attempt to end a job has ended it, was declined, or failed. -/
theorem ended_or_declined {change : StoreWrite} (hending : change.isEnding = true)
    (answer : Except StoreError change.Answer) :
    Exchange.ended? ⟨.write change, answer⟩ = some change.job ∨
      Exchange.Declined ⟨.write change, answer⟩ ∨ Exchange.Failed ⟨.write change, answer⟩ := by
  cases change with
  | failJob | cancelJob | applyReport =>
      match answer with
      | .ok true => exact Or.inl rfl
      | .ok false => exact Or.inr (Or.inl rfl)
      | .error cause => exact Or.inr (Or.inr ⟨cause, rfl⟩)
  | createJob | markDispatched | recordHandle => exact Bool.noConfusion hending

theorem not_declined_of_ended {x : Exchange} {job : JobId} (h : x.ended? = some job) :
    ¬ x.Declined := by
  obtain ⟨change, hchange, -, hending⟩ := write_of_ended h
  obtain ⟨action, answer⟩ := x
  cases hchange
  intro hdeclined
  cases change with
  | failJob | cancelJob | applyReport =>
      rw [show answer = .ok false from hdeclined] at h
      exact nomatch h
  | createJob | markDispatched | recordHandle => exact Bool.noConfusion hending

end Exchange

/-! ### The table of writes -/

/-- What can come of a write: the answer, and the store afterwards. -/
inductive Ran (now : Instant) (s : Store) :
    (change : StoreWrite) → Except StoreError change.Answer → Store → Prop
  | broken (change : StoreWrite) (cause : StoreError) : Ran now s change (.error cause) s
  | occupied (id : JobId) (new : NewJob) (existing : JobId) :
      Ran now s (.createJob id new) (.ok (.active existing)) s
  | created (id : JobId) (new : NewJob) (answer : Except StoreError Creation)
      (hanswer : answer = (Store.pendingRow id new now).read.map .created)
      (hnew : s.jobRow? id = none) :
      Ran now s (.createJob id new) answer { s with jobs := s.jobs ++ [Store.pendingRow id new now] }
  | dispatched (id : JobId) (handle : String) (row : JobRow) (hrow : s.jobRow? id = some row)
      (hstatus : row.status = JobStatus.pending.label) :
      Ran now s (.markDispatched id handle) (.ok true) (s.putRow id (row.dispatched handle now))
  | recorded (id : JobId) (handle : String) (row : JobRow) (hrow : s.jobRow? id = some row)
      (hnone : row.externalHandle = none) :
      Ran now s (.recordHandle id handle) (.ok ()) (s.putRow id (row.withHandle handle))
  | notRecorded (id : JobId) (handle : String)
      (hkept : ∀ row, s.jobRow? id = some row → row.externalHandle ≠ none) :
      Ran now s (.recordHandle id handle) (.ok ()) s
  | ended (change : StoreWrite) (answer : Except StoreError change.Answer) (row : JobRow)
      (hended : Exchange.ended? ⟨.write change, answer⟩ = some change.job)
      (hrow : s.jobRow? change.job = some row) (source : JobStatus) (hsource : source ∈ change.sources)
      (hstatus : row.status = source.label) (hactive : row.isActive = true)
      (hover : (change.endedRow now row).isActive = false) :
      Ran now s change answer (change.furnish (s.putRow change.job (change.endedRow now row)))
  | declined (change : StoreWrite) (answer : Except StoreError change.Answer)
      (hdeclined : Exchange.Declined ⟨.write change, answer⟩)
      (hstands : ∀ row, s.jobRow? change.job = some row →
        ∀ source ∈ change.sources, row.status ≠ source.label) : Ran now s change answer s

section Ran

variable {now : Instant} {s s' : Store} {change : StoreWrite}
  {answer : Except StoreError change.Answer} {job : JobId}

private theorem ended_isActive {row : JobRow} {target : JobStatus} {reason : String}
    (hover : target.isActive = false) : (row.ended target reason now).isActive = false := by
  have hstatus : (row.ended target reason now).status = target.label := rfl
  rw [JobRow.isActive_of_status hstatus, hover]

private theorem isActive_of_legal {row : JobRow} {source target : JobStatus}
    (hstatus : row.status = source.label) (hlegal : source.canBecome target = true) :
    row.isActive = true := by
  rw [JobRow.isActive_of_status hstatus, JobStatus.isActive_of_canBecome hlegal]

/-- **What can come of a write** is in the table. -/
theorem StoreWrite.ran (hs : s.WF) (now : Instant) (change : StoreWrite) :
    Ran now s change (change.run now s).1 (change.run now s).2 := by
  cases change with
  | createJob id new =>
      show Ran now s (.createJob id new) (s.createJob id new now).1 (s.createJob id new now).2
      have hcreate := Store.createJob_outcome hs.named id new now
      generalize s.createJob id new now = outcome at hcreate ⊢
      cases hcreate with
      | active row hmem hrepository hactive existing => exact .occupied id new existing
      | refused => exact .broken _ _
      | created hidle hnew => exact .created id new _ rfl hnew
  | markDispatched id handle =>
      show Ran now s (.markDispatched id handle) (s.markDispatched id handle now).1
        (s.markDispatched id handle now).2
      have hstep : Store.Stepped s id _ _ _ (s.markDispatched id handle now) :=
        Store.step_stepped hs.ids id _ _ _
      generalize s.markDispatched id handle now = outcome at hstep ⊢
      cases hstep with
      | illegal => exact .broken _ _
      | changed row hrow source hmem hlegal hstatus =>
          rw [List.mem_singleton.mp hmem] at hstatus
          exact .dispatched id handle row hrow hstatus
      | unchanged h => exact .declined (.markDispatched id handle) _ rfl h
  | recordHandle id handle =>
      show Ran now s (.recordHandle id handle) (s.recordHandle id handle).1
        (s.recordHandle id handle).2
      rcases Store.recordHandle_eq hs.ids id handle with ⟨row, hrow, hnone, heq⟩ | ⟨hkept, heq⟩
      · rw [heq]; exact .recorded id handle row hrow hnone
      · rw [heq]; exact .notRecorded id handle hkept
  | failJob id source reason date =>
      show Ran now s (.failJob id source reason date)
        (s.failJob id source reason (date.getD now)).1 (s.failJob id source reason (date.getD now)).2
      have hstep : Store.Stepped s id _ _ _ (s.failJob id source reason (date.getD now)) :=
        Store.step_stepped hs.ids id _ _ _
      generalize s.failJob id source reason (date.getD now) = outcome at hstep ⊢
      cases hstep with
      | illegal => exact .broken _ _
      | changed row hrow from' hmem hlegal hstatus =>
          exact .ended (.failJob id source reason date) _ row rfl hrow from' hmem hstatus
            (isActive_of_legal hstatus hlegal) (ended_isActive rfl)
      | unchanged h => exact .declined (.failJob id source reason date) _ rfl h
  | cancelJob id reason =>
      show Ran now s (.cancelJob id reason) (s.cancelJob id reason now).1
        (s.cancelJob id reason now).2
      have hstep : Store.Stepped s id _ _ _ (s.cancelJob id reason now) :=
        Store.step_stepped hs.ids id _ _ _
      generalize s.cancelJob id reason now = outcome at hstep ⊢
      cases hstep with
      | illegal => exact .broken _ _
      | changed row hrow from' hmem hlegal hstatus =>
          exact .ended (.cancelJob id reason) _ row rfl hrow from' hmem hstatus
            (isActive_of_legal hstatus hlegal) (ended_isActive rfl)
      | unchanged h => exact .declined (.cancelJob id reason) _ rfl h
  | applyReport id report =>
      show Ran now s (.applyReport id report) (s.applyReport Store.noneRefused id report now).1
        (s.applyReport Store.noneRefused id report now).2
      have hreport := Store.applyReport_reported hs.ids Store.noneRefused id report now
      generalize s.applyReport Store.noneRefused id report now = outcome at hreport ⊢
      cases hreport with
      | refused => exact .broken _ _
      | applied row hrow hlegal hstatus =>
          exact .ended (.applyReport id report) _ row rfl hrow .processing
            (List.mem_singleton_self _) hstatus (JobRow.isActive_iff.mpr (Or.inr hstatus))
            (Store.rowWithReport_over hlegal)
      | ignored h =>
          refine .declined (.applyReport id report) _ rfl fun row hrow source hsource => ?_
          rw [List.mem_singleton.mp hsource]
          exact h row hrow

/-! ### What a write leaves alone -/

/-- A write on a job leaves the rows of all other jobs alone. -/
theorem Ran.row_of_ne (h : Ran now s change answer s') (hne : change.job ≠ job) :
    s'.jobRow? job = s.jobRow? job := by
  have hput : ∀ {id : JobId} {row row' : JobRow}, s.jobRow? id = some row → row'.id = row.id →
      id ≠ job → (s.putRow id row').jobRow? job = s.jobRow? job := by
    intro id row row' hrow hid h
    rw [Store.jobRow?_putRow hrow (hid.trans (Store.jobRow?_mem hrow).2), if_neg h.symm]
  cases h with
  | broken | occupied | notRecorded | declined => rfl
  | created id new =>
      have hother : ((Store.pendingRow id new now).id == job.text) = false := by
        simpa [Store.pendingRow] using (show id ≠ job from hne)
      show (s.jobs ++ [Store.pendingRow id new now]).find? _ = s.jobRow? job
      rw [List.find?_append, List.find?_singleton, hother]
      exact Option.or_none
  | dispatched id handle row hrow => exact hput hrow rfl hne
  | recorded id handle row hrow => exact hput hrow rfl hne
  | ended _ _ row _ hrow =>
      rw [change.furnish_jobRow?]
      exact hput hrow (change.endedRow_id now row) hne

theorem Ran.repositories (h : Ran now s change answer s') : s'.repositories = s.repositories := by
  cases h with
  | broken | occupied | notRecorded | declined | created | dispatched | recorded => rfl
  | ended => exact change.furnish_repositories _

/-- The findings of a job are those that it had, unless the write has ended the job. -/
theorem Ran.findings (h : Ran now s change answer s')
    (hnot : Exchange.ended? ⟨.write change, answer⟩ ≠ some job) :
    s'.findingsOf job = s.findingsOf job := by
  cases h with
  | broken | occupied | notRecorded | declined | created | dispatched | recorded => rfl
  | ended _ _ row hended hrow =>
      have hjob : job ≠ change.job := fun hc => hnot (hc ▸ hended)
      unfold StoreWrite.furnish
      cases change.report? with
      | none => rfl
      | some report => exact Store.findingsOf_withFindings_of_ne _ report hjob

/-- The findings of a job that the write has ended. -/
theorem Ran.findings_of_ended (h : Ran now s change answer s')
    (hended : Exchange.ended? ⟨.write change, answer⟩ = some change.job) :
    s'.findingsOf change.job
      = ((s.findingsOf change.job).1 ++ (change.findings s).1,
          (s.findingsOf change.job).2 ++ (change.findings s).2) := by
  cases h with
  | broken => cases change <;> exact nomatch hended
  | occupied | notRecorded | created | dispatched | recorded => exact nomatch hended
  | declined _ _ hdeclined => exact absurd hdeclined (Exchange.not_declined_of_ended hended)
  | ended => exact change.furnish_findingsOf _

end Ran

end AnalysisDesk
