/-
What one action does to the row of one job.

The store is taken at its word only as far as it gives one: it answers and does
what it says, or it fails, and then nobody knows whether the write was done.  The
analyzer, the clock and the source of identifiers may answer anything.  `Happens`
is all that is assumed of the surroundings of a procedure.

`Touched` looks at one job.  Its row stays as it is, or it is created, dispatched,
given a handle or ended by a write on this job; and where it stays although
somebody wrote on it, the answer and the row say why.
-/
import AnalysisDesk.Proofs.Desk.Writes

namespace AnalysisDesk

/-- What may be answered to an action, and what becomes of the store. -/
inductive Happens (now : Instant) (s : Store) : Exchange → Store → Prop
  | asked (question : StoreQuery) (answer : Except StoreError question.Answer)
      (h : question.run s = answer) : Happens now s ⟨.query question, answer⟩ s
  | unanswered (question : StoreQuery) (cause : StoreError) :
      Happens now s ⟨.query question, .error cause⟩ s
  | written (change : StoreWrite) (answer : Except StoreError change.Answer) (s' : Store)
      (h : change.run now s = (answer, s')) : Happens now s ⟨.write change, answer⟩ s'
  | unwritten (change : StoreWrite) (cause : StoreError) :
      Happens now s ⟨.write change, .error cause⟩ s
  /-- The write was done, but the answer was lost. -/
  | unheard (change : StoreWrite) (cause : StoreError) (answer : Except StoreError change.Answer)
      (s' : Store) (h : change.run now s = (answer, s')) :
      Happens now s ⟨.write change, .error cause⟩ s'
  | elsewhere (action : Action) (answer : action.Answer) (h : action.isStoreCall = false) :
      Happens now s ⟨action, answer⟩ s

/-- A write that has changed the row of a job, and said so. -/
def Exchange.Took (x : Exchange) (job : JobId) : Prop :=
  (∃ new created, x = ⟨.write (.createJob job new), .ok (.created created)⟩) ∨
    (∃ handle, x = ⟨.write (.markDispatched job handle), .ok true⟩) ∨ x.ended? = some job

/-- What an exchange makes of the row of a job. -/
inductive Touched (job : JobId) (now : Instant) :
    Exchange → Option JobRow → Option JobRow → Prop
  | kept (x : Exchange) (row? : Option JobRow) (hnot : ¬ x.Took job)
      (hdeclined : ∀ change, x.1 = .write change → change.job = job → x.Declined →
        ∀ row, row? = some row → ∀ source ∈ change.sources, row.status ≠ source.label)
      (hrecord : ∀ handle, x = ⟨.write (.recordHandle job handle), .ok ()⟩ →
        ∀ row, row? = some row → row.externalHandle ≠ none) : Touched job now x row? row?
  | created (new : NewJob) (answer : Except StoreError Creation) :
      Touched job now ⟨.write (.createJob job new), answer⟩ none
        (some (Store.pendingRow job new now))
  | dispatched (handle : String) (answer : Except StoreError Bool) (row : JobRow)
      (hstatus : row.status = JobStatus.pending.label) (hanswer : answer ≠ .ok false) :
      Touched job now ⟨.write (.markDispatched job handle), answer⟩ (some row)
        (some (row.dispatched handle now))
  | recorded (handle : String) (answer : Except StoreError Unit) (row : JobRow)
      (hnone : row.externalHandle = none) :
      Touched job now ⟨.write (.recordHandle job handle), answer⟩ (some row)
        (some (row.withHandle handle))
  | ended (change : StoreWrite) (answer : Except StoreError change.Answer) (row : JobRow)
      (hjob : change.job = job) (hending : change.isEnding = true) (source : JobStatus)
      (hsource : source ∈ change.sources) (hstatus : row.status = source.label)
      (hactive : row.isActive = true) (hover : (change.endedRow now row).isActive = false)
      (hanswer : ¬ Exchange.Declined ⟨.write change, answer⟩) :
      Touched job now ⟨.write change, answer⟩ (some row) (some (change.endedRow now row))

namespace Exchange

theorem not_took_of_other {x : Exchange} {job : JobId}
    (h : ∀ change, x.1 = .write change → change.job ≠ job) : ¬ x.Took job := by
  rintro (⟨new, created, rfl⟩ | ⟨handle, rfl⟩ | hended)
  · exact h _ rfl rfl
  · exact h _ rfl rfl
  · obtain ⟨change, hchange, hjob, -⟩ := write_of_ended hended
    exact h change hchange hjob

theorem not_took_of_error {change : StoreWrite} {cause : StoreError} {job : JobId} :
    ¬ Exchange.Took ⟨.write change, .error cause⟩ job := by
  rintro (⟨new, created, hc⟩ | ⟨handle, hc⟩ | hc)
  · cases change <;> exact nomatch hc
  · cases change <;> exact nomatch hc
  · cases change <;> exact nomatch hc

theorem not_declined_of_error {change : StoreWrite} {cause : StoreError} :
    ¬ Exchange.Declined ⟨.write change, .error cause⟩ := by
  cases change <;> exact fun hc => nomatch hc

theorem not_took_of_declined {x : Exchange} {job : JobId} (h : x.Declined) : ¬ x.Took job := by
  rintro (⟨new, created, rfl⟩ | ⟨handle, rfl⟩ | hended)
  · exact h
  · exact nomatch h
  · exact not_declined_of_ended hended h

end Exchange

variable {now : Instant} {s s' : Store} {x : Exchange} {job : JobId}

/-! ### The row of one job -/

private theorem touched_of_other (row? : Option JobRow)
    (h : ∀ change, x.1 = .write change → change.job ≠ job) : Touched job now x row? row? := by
  refine .kept x row? (Exchange.not_took_of_other h) ?_ ?_
  · intro change hchange hjob
    exact absurd hjob (h change hchange)
  · rintro handle rfl
    exact absurd rfl (h _ rfl)

private theorem touched_of_error (change : StoreWrite) (cause : StoreError) (row? : Option JobRow) :
    Touched job now ⟨.write change, .error cause⟩ row? row? := by
  refine .kept _ row? Exchange.not_took_of_error ?_ ?_
  · intro change' _ _ hdeclined
    exact absurd hdeclined Exchange.not_declined_of_error
  · intro handle hc
    cases change <;> exact nomatch hc

/-- A write that was done, of which the answer was heard or an error. -/
private theorem Ran.touched {change : StoreWrite} {answer heard : Except StoreError change.Answer}
    (h : Ran now s change answer s') (hheard : heard = answer ∨ ∃ cause, heard = .error cause) :
    Touched job now ⟨.write change, heard⟩ (s.jobRow? job) (s'.jobRow? job) := by
  by_cases hjob : change.job = job
  · subst hjob
    have hput : ∀ {id : JobId} {row row' : JobRow}, s.jobRow? id = some row → row'.id = row.id →
        (s.putRow id row').jobRow? id = some row' := by
      intro id row row' hrow hid
      exact Store.jobRow?_putRow_self hrow (hid.trans (Store.jobRow?_mem hrow).2)
    cases h with
    | broken change cause =>
        rcases hheard with rfl | ⟨cause', rfl⟩
        · exact touched_of_error change cause _
        · exact touched_of_error change cause' _
    | occupied id new existing =>
        rcases hheard with rfl | ⟨cause, rfl⟩
        · refine .kept _ _ ?_ (fun _ _ _ hc => hc.elim) fun handle hc => nomatch hc
          rintro (⟨new, created, hc⟩ | ⟨handle, hc⟩ | hc) <;> exact nomatch hc
        · exact touched_of_error _ cause _
    | created id new _ hanswer hnew =>
        have hafter : Store.jobRow? { s with jobs := s.jobs ++ [Store.pendingRow id new now] } id =
            some (Store.pendingRow id new now) := Store.jobRow?_append_pending new now hnew
        show Touched id now _ (s.jobRow? id) (Store.jobRow? _ id)
        rw [hafter, hnew]
        exact .created new _
    | dispatched id handle row hrow hstatus =>
        have hafter : (s.putRow id (row.dispatched handle now)).jobRow? id =
            some (row.dispatched handle now) := hput hrow rfl
        show Touched id now _ (s.jobRow? id) ((s.putRow id (row.dispatched handle now)).jobRow? id)
        rw [hafter, hrow]
        refine .dispatched handle _ row hstatus ?_
        rcases hheard with rfl | ⟨cause, rfl⟩ <;> exact fun hc => nomatch hc
    | recorded id handle row hrow hnone =>
        have hafter : (s.putRow id (row.withHandle handle)).jobRow? id =
            some (row.withHandle handle) := hput hrow rfl
        show Touched id now _ (s.jobRow? id) ((s.putRow id (row.withHandle handle)).jobRow? id)
        rw [hafter, hrow]
        exact .recorded handle _ row hnone
    | notRecorded id handle hkept =>
        rcases hheard with rfl | ⟨cause, rfl⟩
        · refine .kept _ _ ?_ (fun _ _ _ hc => hc.elim) fun handle hc => hkept
          rintro (⟨new, created, hc⟩ | ⟨handle, hc⟩ | hc) <;> exact nomatch hc
        · exact touched_of_error _ cause _
    | ended _ _ row hended hrow source hsource hstatus hactive hover =>
        obtain ⟨_, hchange, -, hending⟩ := Exchange.write_of_ended hended
        cases hchange
        rw [change.furnish_jobRow?, hput hrow (change.endedRow_id now row), hrow]
        refine .ended change _ row rfl hending source hsource hstatus hactive hover ?_
        rcases hheard with rfl | ⟨cause, rfl⟩
        · exact Exchange.not_declined_of_ended hended
        · exact Exchange.not_declined_of_error
    | declined _ _ hdeclined hstands =>
        rcases hheard with rfl | ⟨cause, rfl⟩
        · refine .kept _ _ (Exchange.not_took_of_declined hdeclined) ?_ ?_
          · intro change' hchange _ _
            cases hchange
            exact hstands
          · intro handle hc
            rw [hc] at hdeclined
            exact hdeclined.elim
        · exact touched_of_error _ cause _
  · rw [h.row_of_ne hjob]
    refine touched_of_other _ fun change' hchange => ?_
    cases hchange
    exact hjob

namespace Happens

/-- **What an exchange makes of the row of a job**, in a well-formed store. -/
theorem touched (h : Happens now s x s') (hs : s.WF) (job : JobId) :
    Touched job now x (s.jobRow? job) (s'.jobRow? job) := by
  cases h with
  | asked | unanswered => exact touched_of_other _ fun change hc => nomatch hc
  | elsewhere action answer h =>
      refine touched_of_other _ fun change hc => ?_
      rw [show action = .write change from hc] at h
      exact Bool.noConfusion h
  | written change answer _ hrun =>
      have hran := change.ran hs now
      rw [hrun] at hran
      exact hran.touched (Or.inl rfl)
  | unwritten change cause => exact touched_of_error change cause _
  | unheard change cause answer _ hrun =>
      have hran := change.ran hs now
      rw [hrun] at hran
      exact hran.touched (Or.inr ⟨cause, rfl⟩)

/-! ### The rest of the store -/

theorem reached (h : Happens now s x s') (hs : s.Reached) : s'.Reached := by
  cases h with
  | asked | unanswered | unwritten | elsewhere => exact hs
  | written change answer _ hrun | unheard change _ answer _ hrun =>
      have hreached := change.reached_run hs now
      rw [hrun] at hreached
      exact hreached

theorem repositories (h : Happens now s x s') (hs : s.WF) : s'.repositories = s.repositories := by
  cases h with
  | asked | unanswered | unwritten | elsewhere => rfl
  | written change answer _ hrun | unheard change _ answer _ hrun =>
      have hran := change.ran hs now
      rw [hrun] at hran
      exact hran.repositories

/-- A question that was answered is answered from the store. -/
theorem answered {question : StoreQuery} {a : question.Answer}
    (h : Happens now s ⟨.query question, .ok a⟩ s') : question.run s = .ok a ∧ s' = s := by
  cases h with
  | asked _ _ h => exact ⟨h, rfl⟩
  | elsewhere _ _ h => exact Bool.noConfusion h

/-- A write that was answered was done. -/
theorem wrote {change : StoreWrite} {a : change.Answer}
    (h : Happens now s ⟨.write change, .ok a⟩ s') (hs : s.WF) : Ran now s change (.ok a) s' := by
  cases h with
  | written _ _ _ hrun =>
      have hran := change.ran hs now
      rw [hrun] at hran
      exact hran
  | elsewhere _ _ h => exact Bool.noConfusion h

/-- Only writes change the store. -/
theorem eq_of_not_write (h : Happens now s x s') (hx : ∀ change, x.1 ≠ .write change) : s' = s := by
  cases h with
  | asked | unanswered | unwritten | elsewhere => rfl
  | written change | unheard change => exact absurd rfl (hx change)

/-- A write that was heard of, or nothing that changes the store. -/
theorem wrote_or_eq (h : Happens now s x s') (hs : s.WF) (hx : ¬ x.Failed) :
    s' = s ∨ ∃ change a, x = ⟨.write change, .ok a⟩ ∧ Ran now s change (.ok a) s' := by
  obtain ⟨action, answer⟩ := x
  cases action with
  | write change =>
      match answer with
      | .error cause => exact absurd ⟨cause, rfl⟩ hx
      | .ok a => exact Or.inr ⟨change, a, rfl, h.wrote hs⟩
  | _ => exact Or.inl (h.eq_of_not_write fun _ hc => nomatch hc)

/-- A job that was created is the one that its row shows. -/
theorem created {new : NewJob} {created : Job}
    (h : Happens now s ⟨.write (.createJob job new), .ok (.created created)⟩ s') (hs : s.WF) :
    (Store.pendingRow job new now).read = .ok created := by
  cases h.wrote hs with
  | ended _ _ _ hended => exact nomatch hended
  | declined _ _ hdeclined => exact hdeclined.elim
  | created _ _ _ hread =>
      cases hjob : (Store.pendingRow job new now).read with
      | error cause => rw [hjob] at hread; exact nomatch hread
      | ok read =>
          rw [hjob] at hread
          cases hread
          rfl

end Happens

end AnalysisDesk
