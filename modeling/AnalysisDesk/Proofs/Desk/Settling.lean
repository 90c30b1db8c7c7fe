/-
How a submission leaves its job.

While the analyzer is asked to take a job, the job can be cancelled or swept.  So a
submission can come back with its mark too late, or find that there is nothing left to
fail, and what it returns has to be right all the same.

If the analyzer took the job, its handle is written once, with the mark or after it, and
a handle on a row that is not pending stays.  If it did not, nobody can have written a
handle, because nobody but the submission does.  Then the job was never processing, and
whoever else ends a job that is pending is a cancellation or a sweep.
-/
import AnalysisDesk.Proofs.Desk.Orphans
import AnalysisDesk.Proofs.Desk.Refusals

namespace AnalysisDesk

variable {settings : DeskSettings} {first s : Store} {past : List Event} {e : Event} {job : JobId}
  {doer : Nat}

/-! ### Who ends a job that is pending -/

namespace Duty

/-- A cancellation of a job, or a sweep. -/
def CancelsOrSweeps (job : JobId) : Duty → Prop
  | .cancel other _ => other = job
  | .sweepAt _ | .sweep => True
  | .submit _ _ | .ingest _ _ | .resume | .shutdown | .check _ _ | .expire _ => False

/-- A job that is pending is ended by a cancellation, by a sweep, or by the submission that could
not hand it over. -/
theorem may_end_pending {duty : Duty} {ms : List Exchange} {change : StoreWrite}
    (h : duty.May settings ms (.write change)) (hending : change.isEnding = true)
    (hpending : .pending ∈ change.sources) :
    duty.CancelsOrSweeps change.job ∨
      ∃ requester request repository created fault, duty = .submit requester request ∧
        change = .failJob change.job .pending (AnalyzerFault.text fault) none ∧
        ms = Desk.afterCreation requester request repository change.job created := by
  have hprocessing : JobStatus.pending ∉ [JobStatus.processing] := by decide
  cases duty with
  | submit requester request =>
      cases h with
      | refuse repository id created fault =>
          exact Or.inr ⟨requester, request, repository, created, fault, rfl, rfl, rfl⟩
      | create | mark | record => exact Bool.noConfusion hending
  | cancel =>
      cases h with
      | write => exact Or.inl rfl
  | sweepAt | sweep => exact Or.inl trivial
  | ingest => cases h <;> exact absurd hpending hprocessing
  | check =>
      cases h with
      | malformed | rejected => exact absurd hpending hprocessing
      | ingest _ _ _ _ h => cases h <;> exact absurd hpending hprocessing
  | expire =>
      cases h with
      | fail => exact absurd hpending hprocessing
  | resume | shutdown => cases h

end Duty

/-- An active job without a handle is pending: the analyzer does not have it. -/
theorem Store.WF.pending_of_active {row : JobRow} (h : s.WF) (hrow : row ∈ s.jobs)
    (hactive : row.isActive = true) (hnone : row.externalHandle = none) :
    row.status = JobStatus.pending.label := by
  rcases JobRow.isActive_iff.mp hactive with hpending | hprocessing
  · exact hpending
  · exact absurd hnone (h.handled row hrow (Or.inl hprocessing))

namespace History

/-! ### Endings -/

/-- One event that leaves a job over which it found active has ended it. -/
private theorem ended_of_over_step (h : History settings first (e :: past) s)
    (hfirst : first.Reached) (hok : ¬ e.what.Failed) {row row' : JobRow}
    (hrow : e.before.jobRow? job = some row) (hactive : row.isActive = true)
    (hrow' : e.after.jobRow? job = some row') (hover : row'.isActive = false) :
    e.what.ended? = some job := by
  have hstays : row'.status = row.status → False := by
    intro hc
    rw [JobRow.isActive, hc, ← JobRow.isActive, hactive] at hover
    exact Bool.noConfusion hover
  have htouched := h.touched hfirst job
  rw [hrow, hrow'] at htouched
  generalize e.what = x at htouched hok ⊢
  cases htouched with
  | kept | recorded => exact (hstays rfl).elim
  | dispatched =>
      rw [JobRow.isActive_iff.mpr (Or.inr rfl)] at hover
      exact Bool.noConfusion hover
  | ended change answer _ hjob hending _ _ _ _ _ hanswer =>
      rcases Exchange.ended_or_declined hending answer with hended | hdeclined | hfailed
      · rw [hended, hjob]
      · exact absurd hdeclined hanswer
      · exact absurd hfailed hok

/-- A job that was active after an event and is over now has been ended in between. -/
theorem ended_of_over (h : History settings first past s) (hfirst : first.Reached)
    (hunfailing : Unfailing past) (he : e ∈ past) {row row' : JobRow}
    (hrow : e.after.jobRow? job = some row) (hactive : row.isActive = true)
    (hrow' : s.jobRow? job = some row') (hover : row'.isActive = false) :
    ∃ d ∈ past, d.what.ended? = some job := by
  induction h generalizing row' with
  | start => exact nomatch he
  | @event past d hpast hhappens hmay hduty ih =>
      have hlog : History settings first (d :: past) d.after := .event d hpast hhappens hmay hduty
      rcases List.mem_cons.mp he with rfl | he
      · rw [hrow, Option.some.injEq] at hrow'
        rw [← hrow', hactive] at hover
        exact Bool.noConfusion hover
      · obtain ⟨between, hbetween, -⟩ := hpast.later_of_mem hfirst he hrow
        cases hstands : between.isActive with
        | true =>
            exact ⟨d, List.mem_cons_self .., hlog.ended_of_over_step hfirst
              (hunfailing d (List.mem_cons_self ..)) hbetween hstands hrow' hover⟩
        | false =>
            obtain ⟨d', hd', hended⟩ :=
              ih (fun d' hd' => hunfailing d' (List.mem_cons_of_mem _ hd')) he hbetween hstands
            exact ⟨d', List.mem_cons_of_mem _ hd', hended⟩

/-! ### Jobs without a handle -/

/-- If the creator of a job has put no handle on it, then nobody has, and it was not dispatched. -/
theorem bare_of_unhandled (h : History settings first past s) (hfirst : first.Reached)
    (hcreated : Created past job doer)
    (hnever : ∀ d ∈ past, d.doer = doer → ∀ handle, ¬ d.Handles job handle) {row : JobRow}
    (hrow : s.jobRow? job = some row) : row.externalHandle = none ∧ row.dispatchedAt = none := by
  have hnone := h.no_handle hfirst hcreated hnever hrow
  exact ⟨hnone, (h.reached hfirst).handed row (Store.jobRow?_mem hrow).1 hnone⟩

/-- A job that is there was created before. -/
private theorem created_before {after earlier : List Event}
    (h : History settings first (after ++ e :: earlier) s) (hfirst : first.Reached)
    (hcreated : Created (after ++ e :: earlier) job doer)
    (hsome : (e.after.jobRow? job).isSome = true) : Created (e :: earlier) job doer := by
  obtain ⟨c, hc, hdoer, new, created, hwhat⟩ := hcreated
  rcases List.mem_append.mp hc with hc | hc
  · obtain ⟨newer, between, rfl⟩ := List.append_of_mem hc
    rw [List.append_assoc, List.cons_append] at h
    have hthere := h.upTo.earlier.isSome_of_mem hfirst
      (List.mem_append_right _ (List.mem_cons_self ..)) hsome
    rw [(h.upTo.row_of_creation hfirst hwhat).1] at hthere
    exact Bool.noConfusion hthere
  · exact ⟨c, hc, hdoer, new, created, hwhat⟩

/-- The same at every event before. -/
theorem bare_all_along (h : History settings first past s) (hfirst : first.Reached)
    (hcreated : Created past job doer)
    (hnever : ∀ d ∈ past, d.doer = doer → ∀ handle, ¬ d.Handles job handle) (he : e ∈ past)
    {row : JobRow} (hrow : e.after.jobRow? job = some row) :
    row.externalHandle = none ∧ row.dispatchedAt = none := by
  obtain ⟨after, earlier, rfl⟩ := List.append_of_mem he
  have hsome : (e.after.jobRow? job).isSome = true := by
    rw [hrow]
    rfl
  exact h.upTo.bare_of_unhandled hfirst (h.created_before hfirst hcreated hsome)
    (fun d hd => hnever d (List.mem_append_right _ hd)) hrow

/-! ### The milestones of a submission -/

/-- The job that a submission has created is the one that its milestones tell of. -/
private theorem job_of_creation (newer : List Exchange) {requester : Int}
    {request : SubmitRequest} {repository : Repository} {id : JobId} {created : Job}
    (hnewer : ∀ x ∈ newer, ∀ id new, x.1 ≠ .write (.createJob id new))
    (hms : milestones (own past doer)
      = newer ++ Desk.afterCreation requester request repository id created)
    (hcreated : Created past job doer) : job = id := by
  obtain ⟨c, hc, rfl, new, created, hwhat⟩ := hcreated
  have hmem := mem_milestones_own hc (by rw [hwhat]; rfl)
  rw [hms, hwhat] at hmem
  rcases List.mem_append.mp hmem with hmem | hmem
  · exact absurd rfl (hnewer _ hmem job new)
  · simp only [Desk.afterCreation, Desk.afterDrawing, Desk.afterLookup, List.mem_cons,
      List.not_mem_nil, or_false] at hmem
    rcases hmem with hc | hc | hc <;> cases hc
    rfl

section Refused

variable {requester : Int} {request : SubmitRequest} {repository : Repository} {created : Job}
  {message : String} {changed : Bool}

/-- A submission that was refused by the analyzer has put no handle on its job. -/
private theorem unhandled_of_refusal
    (hms : milestones (own past doer)
      = ⟨.write (.failJob job .pending message none), .ok changed⟩ ::
        Desk.afterCreation requester request repository job created) :
    ∀ d ∈ past, d.doer = doer → ∀ handle, ¬ d.Handles job handle := by
  refine unhandled_of_milestones fun x hx => Or.inr fun handle => ?_
  rw [hms] at hx
  rcases List.mem_cons.mp hx with rfl | hx
  · simp
  · have hlater : x ∈ Desk.afterHandover requester request repository job created "" :=
      List.mem_cons_of_mem _ hx
    exact unhandled_afterHandover x hlater handle

/-- If there was nothing left to fail, a cancellation or a sweep has ended the job: it never had a
handle, so it was pending until its end. -/
private theorem cancelsOrSweeps_of_ended (h : History settings first past s)
    (hfirst : first.Reached)
    (hms : milestones (own past doer)
      = ⟨.write (.failJob job .pending message none), .ok false⟩ ::
        Desk.afterCreation requester request repository job created)
    (he : e ∈ past) (hended : e.what.ended? = some job) : e.duty.CancelsOrSweeps job := by
  have hcreated : Created past job doer := created_of_milestones [_] hms
  have hnever := unhandled_of_refusal hms
  have hlog := h
  obtain ⟨after, earlier, rfl⟩ := List.append_of_mem he
  obtain ⟨change, row, hevent⟩ := h.upTo.ended hfirst hended
  have hnone : row.externalHandle = none := by
    rw [← change.endedRow_handle e.time row]
    exact (h.bare_all_along hfirst hcreated hnever he hevent.after).1
  have hpending := (h.upTo.earlier.wf hfirst).pending_of_active
    (Store.jobRow?_mem hevent.before).1 hevent.active hnone
  obtain ⟨source, hsource, hstatus⟩ := hevent.source
  obtain rfl : source = .pending := JobStatus.label_injective (hstatus.symm.trans hpending)
  have hmay := h.upTo.may
  rw [hevent.what] at hmay
  rcases Duty.may_end_pending hmay hevent.ending hsource with
    hduty | ⟨_, _, _, _, _, -, -, hms'⟩
  · rwa [hevent.about] at hduty
  · -- the submission itself, but its write was declined
    rw [hevent.about] at hms'
    have hcreated' : Created earlier job e.doer := created_of_milestones [] hms'
    obtain ⟨c, hc, hcdoer, hcreates⟩ := hcreated'
    have hdoer := h.creator_unique hfirst hcreated
      ⟨c, List.mem_append_right _ (List.mem_cons_of_mem _ hc), hcdoer, hcreates⟩
    have hmem := mem_milestones_of_ended (mem_own.mpr ⟨e, he, rfl, rfl⟩) hended
    rw [← hdoer, hms] at hmem
    refine absurd rfl (Exchange.ne_of_ended hended ?_)
    generalize e.what = x at hmem ⊢
    simp only [Desk.afterCreation, Desk.afterDrawing, Desk.afterLookup, List.mem_cons,
      List.not_mem_nil, or_false] at hmem
    rcases hmem with rfl | rfl | rfl | rfl <;> rfl

/-- How a job is left that the analyzer has not taken. -/
private theorem over_of_refusal (h : History settings first past s) (hfirst : first.Reached)
    (hunfailing : Unfailing past)
    (hms : milestones (own past doer)
      = ⟨.write (.failJob job .pending message none), .ok changed⟩ ::
        Desk.afterCreation requester request repository job created) :
    ∃ row, s.jobRow? job = some row ∧ row.isActive = false ∧
      ((row.status = JobStatus.failed.label ∧ row.error = some message) ∨
        ∃ d ∈ past, d.what.ended? = some job ∧ d.duty.CancelsOrSweeps job) := by
  have hlog := h
  obtain ⟨after, write, earlier, rfl, rfl, hwrite, hms'⟩ := split_of_milestones [] hms
  have hmem : write ∈ after ++ write :: earlier :=
    List.mem_append_right _ (List.mem_cons_self ..)
  cases changed with
  | true =>
      have hended : write.what.ended? = some job := by rw [hwrite]; rfl
      obtain ⟨change, old, hevent⟩ := h.upTo.ended hfirst hended
      have hchange := hevent.what
      rw [hwrite] at hchange
      cases hchange
      obtain ⟨row, hrow, hlater⟩ := h.later_of_mem hfirst hmem hevent.after
      refine ⟨row, hrow, hlater.isActive_of_over hevent.inactive, Or.inl ?_⟩
      rcases hlater.inactive hevent.inactive with rfl | ⟨-, handle, rfl⟩ <;> exact ⟨rfl, rfl⟩
  | false =>
      have hcreated : Created earlier job write.doer := created_of_milestones [] hms'
      obtain ⟨old, hold⟩ :=
        Option.isSome_iff_exists.mp (h.upTo.earlier.isSome_of_created hfirst hcreated)
      have hchange : write.what.1 = .write (.failJob job .pending message none) := by rw [hwrite]
      have hdeclined : write.what.Declined := by
        rw [hwrite]
        rfl
      have hpending := h.upTo.stands_of_declined hfirst hchange rfl hdeclined hold .pending
        (List.mem_singleton_self _)
      have hnone := (h.upTo.earlier.bare_of_unhandled hfirst hcreated (fun d hd =>
        unhandled_of_refusal hms d (List.mem_append_right _ (List.mem_cons_of_mem _ hd))) hold).1
      have hover : old.isActive = false := by
        cases hactive : old.isActive with
        | false => rfl
        | true =>
            exact absurd ((h.upTo.earlier.wf hfirst).pending_of_active (Store.jobRow?_mem hold).1
              hactive hnone) hpending
      obtain ⟨row, hrow, hlater⟩ := h.later_of_before hfirst hmem hold
      have hover' := hlater.isActive_of_over hover
      obtain ⟨c, hc, -, new, _, hcreates⟩ := hcreated
      obtain ⟨newer, older, rfl⟩ := List.append_of_mem hc
      obtain ⟨-, hpendingRow⟩ := h.upTo.earlier.upTo.row_of_creation hfirst hcreates
      obtain ⟨d, hd, hended⟩ := h.ended_of_over hfirst hunfailing
        (List.mem_append_right _ (List.mem_cons_of_mem _ hc)) hpendingRow
        (JobRow.isActive_iff.mpr (Or.inl rfl)) hrow hover'
      have hby := h.cancelsOrSweeps_of_ended hfirst hms hd hended
      exact ⟨row, hrow, hover', Or.inr ⟨d, hd, hended, hby⟩⟩

end Refused

end History

/-! ### Jobs that were handed over -/

/-- The row of a job that was handed over, under a handle and with the status that was told. -/
structure JobRow.HandedOver (row : JobRow) (handle : String) (status : JobStatus) : Prop where
  moved : row.status ≠ JobStatus.pending.label
  handle : row.externalHandle = some handle
  status : status ≠ .processing → row.status = status.label ∧ row.isActive = false

/-- What a submission has said of a job that it handed over stays true. -/
theorem JobRow.HandedOver.later {row row' : JobRow} {handle : String} {status : JobStatus}
    (h : row.HandedOver handle status) (hlater : row.Later row') :
    row'.HandedOver handle status := by
  refine ⟨fun hc => h.moved (hlater.pending hc), hlater.handle h.moved handle h.handle,
    fun hstatus => ?_⟩
  obtain ⟨hlabel, hover⟩ := h.status hstatus
  exact ⟨(hlater.status_of_over hover).trans hlabel, hlater.isActive_of_over hover⟩

namespace History

section HandedOver

variable {requester : Int} {request : SubmitRequest} {repository : Repository} {created : Job}
  {handle : String}

/-- A job whose mark was taken. -/
private theorem handedOver_of_mark (h : History settings first past s) (hfirst : first.Reached)
    (newer : List Exchange)
    (hms : milestones (own past doer)
      = newer ++ Desk.afterMark requester request repository job created handle true) :
    ∃ row, s.jobRow? job = some row ∧ row.HandedOver handle .processing := by
  obtain ⟨after, mark, earlier, rfl, -, hmark, -⟩ := split_of_milestones newer hms
  obtain ⟨old, -, -, hmarked⟩ := h.upTo.row_of_mark hfirst hmark
  obtain ⟨row, hrow, hlater⟩ :=
    h.later_of_mem hfirst (List.mem_append_right _ (List.mem_cons_self ..)) hmarked
  have hhanded : (old.dispatched handle mark.time).HandedOver handle .processing := by
    refine ⟨fun hc => ?_, rfl, fun hc => absurd rfl hc⟩
    have hlabel : JobStatus.processing.label = JobStatus.pending.label := hc
    exact absurd (JobStatus.label_injective hlabel) (by decide)
  exact ⟨row, hrow, hhanded.later hlater⟩

/-- A job whose mark came too late, as its submission finds it in the end. -/
private theorem handedOver_of_record (h : History settings first past s) (hfirst : first.Reached)
    {current : Job}
    (hms : milestones (own past doer) = ⟨.query (.job job), .ok (some current)⟩ ::
      Desk.afterRecord requester request repository job created handle) :
    (current.status = .cancelled ∨ current.status = .failed) ∧
      ∃ row, s.jobRow? job = some row ∧ row.HandedOver handle current.status := by
  obtain ⟨after, look, earlier, rfl, rfl, hlook, hms'⟩ := split_of_milestones [] hms
  obtain ⟨row, hrow, hdropped⟩ := h.upTo.earlier.dropped_of_record hfirst [] hms'
  obtain ⟨row', hrow', -, hshows, -⟩ := h.upTo.looked hfirst hlook
  rw [hrow, Option.some.injEq] at hrow'
  subst hrow'
  have hhanded : row.HandedOver handle current.status := by
    refine ⟨fun hc => ?_, hdropped.handle, fun _ => ⟨hshows.status, hdropped.inactive⟩⟩
    have hover := hdropped.inactive
    rw [JobRow.isActive_iff.mpr (Or.inl hc)] at hover
    exact Bool.noConfusion hover
  obtain ⟨row', hrow', hlater⟩ := h.later_of_before hfirst
    (List.mem_append_right _ (List.mem_cons_self ..)) hrow
  refine ⟨?_, row', hrow', hhanded.later hlater⟩
  rcases hdropped.status with hc | hc
  · exact Or.inl (JobStatus.label_injective (hshows.status.symm.trans hc))
  · exact Or.inr (JobStatus.label_injective (hshows.status.symm.trans hc))

end HandedOver

end History

/-! ### Submissions that have returned -/

/-- How a submission leaves the job that it has created, by its result. -/
inductive Settles (settings : DeskSettings) (o : Office) (job : JobId) :
    Except DeskError SubmitOutcome → Prop
  /-- The analyzer has the job, or had it until the job was cancelled or failed. -/
  | handedOver (handle : String) (status : JobStatus)
      (hstatus : status ≠ .processing → status = .cancelled ∨ status = .failed)
      (hkept : ∀ o', Relation.ReflTransGen (Office.Step settings) o o' →
        ∃ row, o'.store.jobRow? job = some row ∧ row.HandedOver handle status) :
      Settles settings o job (.ok ⟨job, some handle, status⟩)
  /-- The analyzer has not taken the job, and never knew of it. -/
  | notDispatched (message : String) (row : JobRow) (hover : row.isActive = false)
      (hkept : ∀ o', Relation.ReflTransGen (Office.Step settings) o o' →
        o'.store.jobRow? job = some row)
      (hbare : row.externalHandle = none ∧ row.dispatchedAt = none)
      (hnever : ∀ e ∈ o.past, ∀ earlier, e.after.jobRow? job = some earlier →
        earlier.externalHandle = none ∧ earlier.dispatchedAt = none)
      (hcause : (row.status = JobStatus.failed.label ∧ row.error = some message) ∨
        ∃ e ∈ o.past, e.what.ended? = some job ∧ e.duty.CancelsOrSweeps job) :
      Settles settings o job (.error (.notDispatched message))

namespace Office

variable {o o' : Office} {requester : Int} {request : SubmitRequest} {stopped : Bool}

/-- What a submission has said of a job that it handed over holds from then on. -/
private theorem Reached.handedOver (ho : o.Reached settings first) (hfirst : first.Reached)
    {handle : String} {status : JobStatus}
    (h : ∃ row, o.store.jobRow? job = some row ∧ row.HandedOver handle status)
    (hsteps : Relation.ReflTransGen (Step settings) o o') :
    ∃ row, o'.store.jobRow? job = some row ∧ row.HandedOver handle status := by
  obtain ⟨row, hrow, hhanded⟩ := h
  obtain ⟨row', hrow', hlater⟩ := ho.later_of_steps hfirst hsteps hrow
  exact ⟨row', hrow', hhanded.later hlater⟩

/-- The job of a submission that the analyzer has refused gets no handle later on, as the submission
has come to its end. -/
private theorem Reached.kept_of_refusal (ho : o.Reached settings first) (hfirst : first.Reached)
    {message : String} {result : Except DeskError SubmitOutcome}
    (hresult : result = .error (.notDispatched message))
    (hagent : o.agents[doer]? = some ⟨.submit requester request, .done result, stopped⟩)
    (hcreated : Created o.past job doer) {row : JobRow} (hrow : o.store.jobRow? job = some row)
    (hover : row.isActive = false) (hsteps : Relation.ReflTransGen (Step settings) o o') :
    o'.store.jobRow? job = some row := by
  have ho' := ho.steps hsteps
  obtain ⟨stopped', hagent'⟩ := returned_of_steps hsteps hagent
  have hends : Desk.SubmitEnds requester request (own o'.past doer) result :=
    ho'.sound.ends hagent'
  obtain ⟨c, hc, hcdoer, hcreates⟩ := hcreated
  have hcreated' : Created o'.past job doer :=
    ⟨c, (past_of_steps hsteps).subset hc, hcdoer, hcreates⟩
  obtain ⟨row', hrow', hlater⟩ := ho.later_of_steps hfirst hsteps hrow
  rw [hresult] at hends
  cases hends with
  | refused repository id created fault changed hms =>
      obtain rfl : job = id := History.job_of_creation [_] (by simp) hms hcreated'
      have hbare := ho'.sound.history.bare_of_unhandled hfirst hcreated'
        (History.unhandled_of_refusal hms) hrow'
      rcases hlater.inactive hover with rfl | ⟨-, handle, rfl⟩
      · exact hrow'
      · exact nomatch hbare.1

end Office

/-- **Every submission settles its job and reports the right handle.**  The store does not fail, and
a submission that has created a job has returned, while anything else was going on.  Then the job is
not pending.  If the submission has said that the job was handed over, the handle that it named
stands in the store from then on, and so does the status that it named, unless that was processing.
If it has said that the analyzer did not take the job, the job is over, it never had a handle or a
time of dispatch, and it failed with the reason that was given unless a cancellation or a sweep has
ended it. -/
theorem submission_settles {settings : DeskSettings} {first : Store} {o : Office}
    (hfirst : first.Reached) (ho : o.Reached settings first) (hunfailing : Unfailing o.past)
    {doer : Nat} {requester : Int} {request : SubmitRequest}
    {result : Except DeskError SubmitOutcome} {stopped : Bool}
    (hagent : o.agents[doer]? = some ⟨.submit requester request, .done result, stopped⟩)
    {job : JobId} (hcreated : Created o.past job doer) : Settles settings o job result := by
  have hlog := ho.sound.history
  have hends : Desk.SubmitEnds requester request (own o.past doer) result := ho.sound.ends hagent
  have hmem : ∃ new created, (⟨.write (.createJob job new), .ok (.created created)⟩ : Exchange) ∈
      milestones (own o.past doer) := by
    obtain ⟨c, hc, rfl, new, created, hwhat⟩ := hcreated
    exact ⟨new, created, hwhat ▸ mem_milestones_own hc (by rw [hwhat]; rfl)⟩
  obtain ⟨new, created, hmem⟩ := hmem
  generalize hresult : result = result' at hends ⊢
  cases hends with
  | storage cause x hx hfailed => exact (hunfailing.not_failed hx hfailed).elim
  | notFound hms =>
      rw [hms] at hmem
      cases List.mem_singleton.mp hmem
  | conflict repository id existing hms =>
      rw [hms] at hmem
      simp only [Desk.afterDrawing, Desk.afterLookup, List.mem_cons, List.not_mem_nil,
        or_false] at hmem
      rcases hmem with hc | hc | hc <;> cases hc
  | refused repository id job' fault changed hms =>
      obtain rfl : job = id := History.job_of_creation [_] (by simp) hms hcreated
      obtain ⟨row, hrow, hover, hcause⟩ := hlog.over_of_refusal hfirst hunfailing hms
      have hnever := History.unhandled_of_refusal hms
      exact .notDispatched fault.text row hover
        (fun o' hsteps => ho.kept_of_refusal hfirst hresult hagent hcreated hrow hover hsteps)
        (hlog.bare_of_unhandled hfirst hcreated hnever hrow)
        (fun e he earlier => hlog.bare_all_along hfirst hcreated hnever he) hcause
  | dispatched repository id job' handle t hms =>
      obtain rfl : job = id := History.job_of_creation [_, _, _] (by simp) hms hcreated
      have hhanded := hlog.handedOver_of_mark hfirst [_] hms
      exact .handedOver handle .processing (fun hc => absurd rfl hc) fun o' hsteps =>
        ho.handedOver hfirst hhanded hsteps
  | overtaken repository id job' current handle hms =>
      obtain rfl : job = id := History.job_of_creation [_, _, _, _] (by simp) hms hcreated
      obtain ⟨hstatus, hhanded⟩ := hlog.handedOver_of_record hfirst hms
      exact .handedOver handle current.status (fun _ => hstatus) fun o' hsteps =>
        ho.handedOver hfirst hhanded hsteps
  | lost repository id job' handle hms =>
      have hlog' : History settings first (o.past ++ []) o.store := by
        rw [List.append_nil]
        exact hlog
      exact ((hlog'.neverLoses hfirst _).not_lost hms).elim

/-- The job that an exchange has created. -/
def Exchange.created? : Exchange → Option JobId
  | ⟨.write (.createJob job _), .ok (.created _)⟩ => some job
  | _ => none

theorem created_of_created? (h : ∃ e ∈ past, e.doer = doer ∧ e.what.created? = some job) :
    Created past job doer := by
  obtain ⟨e, he, hdoer, hcreated⟩ := h
  refine ⟨e, he, hdoer, ?_⟩
  generalize e.what = x at hcreated ⊢
  unfold Exchange.created? at hcreated
  split at hcreated
  · rename_i id new created
    obtain rfl := Option.some.inj hcreated
    exact ⟨new, created, rfl⟩
  · exact nomatch hcreated

namespace Office

/-- What somebody has submitted, and with which result. -/
def submitted? (o : Office) (doer : Nat) :
    Option (Int × SubmitRequest × Except DeskError SubmitOutcome) :=
  match o.agents[doer]? with
  | some ⟨.submit requester request, .done result, _⟩ => some (requester, request, result)
  | _ => none

theorem agent_of_submitted? {o : Office} {requester : Int} {request : SubmitRequest}
    {result : Except DeskError SubmitOutcome}
    (h : o.submitted? doer = some (requester, request, result)) :
    ∃ stopped, o.agents[doer]? = some ⟨.submit requester request, .done result, stopped⟩ := by
  unfold submitted? at h
  split at h
  · rename_i requester' request' result' stopped hagent
    cases h
    exact ⟨stopped, hagent⟩
  · exact nomatch h

end Office

/-- A job that the analyzer refuses, and that is cancelled before its submission can fail it. -/
def Small.untaken : Office :=
  Office.played Small.settings Small.store
    [.begin (.submit 1 ⟨1, none, none⟩), .act 0 (calm 1), .act 0 (calm 2), .act 0 (calm 3),
      .act 0 ⟨⟨4⟩, default, .error (.rejected "closed"), .ok .underway⟩,
      .begin (.cancel default 1), .act 1 (calm 5), .act 1 (calm 6), .act 0 (calm 7)]

theorem submission_settles_played :
    Settles Small.settings Small.overtaken default (.ok ⟨default, some "h-1", .cancelled⟩) ∧
      Settles Small.settings Small.untaken default
        (.error (.notDispatched "Analyzer rejected request: closed")) := by
  refine ⟨?_, ?_⟩
  · have hsubmitted : Small.overtaken.submitted? 0
        = some (1, ⟨1, none, none⟩, .ok ⟨default, some "h-1", .cancelled⟩) := by decide +kernel
    obtain ⟨stopped, hagent⟩ := Office.agent_of_submitted? hsubmitted
    exact submission_settles Small.store_reached (Office.reached_played ..) (by decide +kernel)
      hagent (created_of_created? (by decide +kernel))
  · have hsubmitted : Small.untaken.submitted? 0
        = some (1, ⟨1, none, none⟩,
          .error (.notDispatched "Analyzer rejected request: closed")) := by decide +kernel
    obtain ⟨stopped, hagent⟩ := Office.agent_of_submitted? hsubmitted
    exact submission_settles Small.store_reached (Office.reached_played ..) (by decide +kernel)
      hagent (created_of_created? (by decide +kernel))

end AnalysisDesk
