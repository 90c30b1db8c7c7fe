/-
Refusals.

Some calls come to nothing: a submission for a repository that is busy or is not there,
a cancellation of a job that is over or is somebody else's, a report that comes too
late.  Some of them look and go away again.  Others have tried to write, and their write
was declined.  Nobody else notices either of them.

Two things have to be excluded.  A procedure could say that a job is not there after it
has seen it, having written in between; but rows stay.  And it could turn to the
analyzer without having written; but whoever turns to the analyzer has created a job or
ended one, and these are milestones, which a refused call has not passed.
-/
import AnalysisDesk.Proofs.Desk.Looking
import AnalysisDesk.Proofs.Desk.OneWinner

namespace AnalysisDesk

/-! ### What nobody notices -/

/-- Whether an action is a call of the analyzer. -/
def Action.callsAnalyzer : Action → Bool
  | .enqueue _ | .poll _ | .abandon _ _ => true
  | _ => false

/-- Whether an action begins or ends a watch. -/
def Action.changesWatches : Action → Bool
  | .startPoller _ _ _ | .stopPoller _ | .stopAllPollers => true
  | _ => false

/-- An exchange that nobody but its doer notices. -/
structure Exchange.Unnoticed (x : Exchange) (before after : Store) : Prop where
  store : after = before
  analyzer : x.1.callsAnalyzer = false
  watches : x.1.changesWatches = false

/-- Whether the answer to a write says that nothing was written. -/
def StoreWrite.refuses : (change : StoreWrite) → change.Answer → Bool
  | .createJob _ _, .active _ => true
  | .createJob _ _, .created _ | .recordHandle _ _, () => false
  | .markDispatched _ _, taken | .failJob _ _ _ _, taken | .cancelJob _ _, taken
  | .applyReport _ _, taken => !taken

/-- An exchange that has come to nothing, as far as its answer tells. -/
def Exchange.isIdle : Exchange → Bool
  | ⟨.write change, .ok a⟩ => change.refuses a
  | ⟨.query _, _⟩ | ⟨.freshId, _⟩ | ⟨.sleep _, _⟩ | ⟨.now, _⟩ => true
  | _ => false

/-- A store that says that it has not written is as it was. -/
theorem Ran.eq_of_refused {now : Instant} {s s' : Store} {change : StoreWrite} {a : change.Answer}
    (h : Ran now s change (.ok a) s') (hrefused : change.refuses a = true) : s' = s := by
  generalize hanswer : (Except.ok a : Except StoreError change.Answer) = answer at h
  cases h with
  | broken | occupied | notRecorded | declined => rfl
  | created id new _ hread =>
      rw [hread] at hanswer
      cases hjob : (Store.pendingRow id new now).read with
      | error cause => rw [hjob] at hanswer; exact nomatch hanswer
      | ok job =>
          rw [hjob] at hanswer
          cases hanswer
          exact Bool.noConfusion hrefused
  | dispatched =>
      cases hanswer
      exact Bool.noConfusion hrefused
  | recorded => exact Bool.noConfusion hrefused
  | ended _ _ _ hended =>
      rw [← hanswer] at hended
      cases change with
      | failJob | cancelJob | applyReport =>
          cases a with
          | false => exact nomatch hended
          | true => exact Bool.noConfusion hrefused
      | createJob | markDispatched | recordHandle => exact nomatch hended

/-- Nobody notices an exchange that has come to nothing. -/
theorem Happens.unnoticed {now : Instant} {s s' : Store} {x : Exchange} (h : Happens now s x s')
    (hs : s.WF) (hidle : x.isIdle = true) : x.Unnoticed s s' := by
  obtain ⟨action, answer⟩ := x
  cases action with
  | query | freshId | sleep | now => exact ⟨h.eq_of_not_write fun _ hc => (nomatch hc), rfl, rfl⟩
  | write change =>
      cases answer with
      | error => exact Bool.noConfusion hidle
      | ok a => exact ⟨(h.wrote hs).eq_of_refused hidle, rfl, rfl⟩
  | enqueue | poll | abandon | startPoller | stopPoller | stopAllPollers =>
      exact Bool.noConfusion hidle

variable {settings : DeskSettings} {first s : Store} {past : List Event} {e : Event} {job : JobId}

/-! ### Who turns to the analyzer -/

namespace Duty

/-- Whoever hands a job over or drops one has not been idle before. -/
theorem busy_of_call {duty : Duty} {ms : List Exchange} {action : Action}
    (h : duty.May settings ms action) (hcalls : action.callsAnalyzer = true)
    (hpoll : ∀ handle, action ≠ .poll handle) : ∃ x ∈ ms, x.isIdle = false := by
  cases action with
  | enqueue spec =>
      obtain ⟨requester, request, repository, id, job, -, -, rfl⟩ := may_enqueue h
      exact ⟨_, List.mem_cons_self .., rfl⟩
  | abandon job handle =>
      cases may_abandon h with
      | submit _ _ _ _ hms | cancel _ _ _ _ hms | sweep _ _ _ _ _ _ _ _ _ hms =>
          rw [hms]
          exact ⟨_, List.mem_cons_self .., rfl⟩
      | expire _ _ hms =>
          rw [hms]
          exact ⟨_, List.mem_cons_of_mem _ (List.mem_cons_self ..), rfl⟩
  | poll handle => exact absurd rfl (hpoll handle)
  | query | write | sleep | now | freshId | startPoller | stopPoller | stopAllPollers =>
      exact Bool.noConfusion hcalls

/-- A procedure that was idle at its milestones was so all along. -/
theorem idle_of_milestones {duty : Duty} {past : List Exchange} {flow : Flow duty.Result}
    (h : (duty.flow settings).Leads past flow) (hms : ∀ x ∈ milestones past, x.isIdle = true) :
    ∀ x ∈ past, x.isIdle = true := by
  intro x hx
  obtain ⟨newer, older, rfl, hmay⟩ := h.may_of_mem (duty.keeps settings) hx
  have hnever : x.1.callsAnalyzer = true → (∀ handle, x.1 ≠ .poll handle) → x.isIdle = true := by
    intro hcalls hpoll
    obtain ⟨y, hy, hbusy⟩ := busy_of_call hmay hcalls hpoll
    obtain ⟨holder, hmilestone⟩ := List.mem_filter.mp hy
    rw [hms y (List.mem_filter.mpr ⟨List.mem_append_right _ (List.mem_cons_of_mem _ holder),
      hmilestone⟩)] at hbusy
    exact Bool.noConfusion hbusy
  obtain ⟨action, answer⟩ := x
  cases action with
  | enqueue | abandon => exact hnever rfl fun _ hc => nomatch hc
  | sleep | now => rfl
  | query | write | poll | freshId | startPoller | stopPoller | stopAllPollers =>
      exact hms _ (List.mem_filter.mpr ⟨hx, rfl⟩)

end Duty

/-! ### Jobs that were seen -/

/-- The answers after which one knows that a job is there. -/
inductive Exchange.Sees (job : JobId) : Exchange → Prop
  | found (current : Job) : Sees job ⟨.query (.job job), .ok (some current)⟩
  | foundOwned (user : Int) (current : Job) :
      Sees job ⟨.query (.ownedJob job user), .ok (some current)⟩
  | created (new : NewJob) (current : Job) :
      Sees job ⟨.write (.createJob job new), .ok (.created current)⟩

/-- A job that was seen is there. -/
theorem Happens.isSome_of_seen {now : Instant} {s s' : Store} {x : Exchange}
    (h : Happens now s x s') (hs : s.WF) (hseen : x.Sees job) : (s'.jobRow? job).isSome = true := by
  cases hseen with
  | found current =>
      obtain ⟨hanswer, rfl⟩ := h.answered
      obtain ⟨row, hrow, -⟩ := hs.job?_shows hanswer
      rw [hrow]
      rfl
  | foundOwned user current =>
      obtain ⟨hanswer, rfl⟩ := h.answered
      obtain ⟨row, hrow, -⟩ := hs.ownedJob?_shows hanswer
      rw [hrow]
      rfl
  | created new current =>
      have htouched := h.touched hs job
      generalize s.jobRow? job = row? at htouched
      generalize s'.jobRow? job = row?' at htouched ⊢
      cases htouched with
      | kept _ _ hnot => exact absurd (Or.inl ⟨new, current, rfl⟩) hnot
      | created | ended => rfl

/-- Whoever has seen a job is not told in the end that it is not there. -/
def NeverLoses (past : List Exchange) : Prop :=
  ∀ (job : JobId) (ms : List Exchange), milestones past = ⟨.query (.job job), .ok none⟩ :: ms →
    ¬ ∃ x ∈ ms, x.Sees job

/-- A submission does not lose its job. -/
theorem NeverLoses.not_lost {past : List Exchange} (h : NeverLoses past) {requester : Int}
    {request : SubmitRequest} {repository : Repository} {created : Job} {handle : String}
    (hms : milestones past = ⟨.query (.job job), .ok none⟩ ::
      Desk.afterRecord requester request repository job created handle) : False := by
  have hmem : ∀ {x a b c : Exchange} {l : List Exchange}, x ∈ a :: b :: c :: x :: l :=
    List.mem_cons_of_mem _ (List.mem_cons_of_mem _ (List.mem_cons_of_mem _
      (List.mem_cons_self ..)))
  exact h _ _ hms ⟨_, hmem, .created _ _⟩

namespace History

/-- Whoever has seen a job is not told later that it is not there. -/
theorem found_again {newer older : List Event} (h : History settings first (newer ++ older) s)
    (hfirst : first.Reached) {doer : Nat} {ms : List Exchange}
    (hms : milestones (own newer doer) = ⟨.query (.job job), .ok none⟩ :: ms)
    (hseen : ∃ x ∈ ms, x.Sees job) : False := by
  obtain ⟨after, look, earlier, rfl, -, hlook, rfl⟩ := split_of_milestones [] hms
  obtain ⟨x, hx, hseen⟩ := hseen
  obtain ⟨d, hd, -, rfl⟩ := mem_of_milestones hx
  obtain ⟨between, before, rfl⟩ := List.append_of_mem hd
  rw [List.append_assoc, List.cons_append] at h
  have hlog := h.upTo
  have hsome : (look.before.jobRow? job).isSome = true := by
    rw [List.append_assoc, List.cons_append] at hlog
    exact hlog.earlier.isSome_of_mem hfirst (List.mem_append_right _ (List.mem_cons_self ..))
      (hlog.earlier.upTo.happens.isSome_of_seen (hlog.earlier.upTo.earlier.wf hfirst) hseen)
  have hhappens := hlog.happens
  rw [hlook] at hhappens
  rw [Store.job?_none hhappens.answered.1] at hsome
  exact Bool.noConfusion hsome

theorem neverLoses {newer older : List Event} (h : History settings first (newer ++ older) s)
    (hfirst : first.Reached) (doer : Nat) : NeverLoses (own newer doer) :=
  fun _ _ hms hseen => h.found_again hfirst hms hseen

end History

/-! ### Calls that are refused -/

/-- Whether a result says that the call was refused. -/
def Duty.refuses : (duty : Duty) → duty.Result → Bool
  | .submit _ _, .error .notFound | .submit _ _, .error (.conflict _) => true
  | .cancel _ _, .error .notFound | .cancel _ _, .error (.notCancellable _) => true
  | .ingest _ _, .error .notFound | .ingest _ _, .ok (.ignored _) => true
  | _, _ => false

namespace Duty

variable {past : List Exchange}

private theorem idle_of_submit (hkept : NeverLoses past) {requester : Int} {request : SubmitRequest}
    {result : Except DeskError SubmitOutcome}
    (hends : Desk.SubmitEnds requester request past result)
    (hrefused : (Duty.submit requester request).refuses result = true) :
    ∀ x ∈ milestones past, x.isIdle = true := by
  cases hends with
  | notFound hms =>
      rw [hms]
      exact List.forall_mem_singleton.mpr rfl
  | conflict _ _ _ hms =>
      rw [hms]
      simp [Desk.afterDrawing, Desk.afterLookup, Exchange.isIdle, StoreWrite.refuses]
  | lost _ _ _ _ hms =>
      exact (hkept.not_lost hms).elim
  | storage | refused | dispatched | overtaken => exact Bool.noConfusion hrefused

private theorem idle_of_cancel (hkept : NeverLoses past) {requester : Int}
    {result : Except DeskError Job} (hends : Desk.CancelEnds job requester past result)
    (hrefused : (Duty.cancel job requester).refuses result = true) :
    ∀ x ∈ milestones past, x.isIdle = true := by
  cases hends with
  | notFound hms | idle _ hms =>
      rw [hms]
      exact List.forall_mem_singleton.mpr rfl
  | gone _ _ hms =>
      have hmem : ∀ {x y : Exchange}, y ∈ [x, y] :=
        List.mem_cons_of_mem _ (List.mem_singleton_self _)
      exact (hkept _ _ hms ⟨_, hmem, .foundOwned _ _⟩).elim
  | overtaken _ _ hms =>
      rw [hms]
      simp [Desk.afterCancel, Exchange.isIdle, StoreWrite.refuses]
  | storage | cancelled => exact Bool.noConfusion hrefused

private theorem idle_of_ingest (hkept : NeverLoses past) {report : Report}
    {result : Except DeskError IngestOutcome}
    (hends : Desk.IngestEnds [] job report past result)
    (hrefused : (Duty.ingest job report).refuses result = true) :
    ∀ x ∈ milestones past, x.isIdle = true := by
  have hdeclined : ∀ {x : Exchange}, Desk.IngestWrote job report x false → x.isIdle = true := by
    intro x hwrote
    cases hwrote <;> rfl
  cases hends with
  | gone hms | idle _ hms =>
      rw [hms]
      exact List.forall_mem_singleton.mpr rfl
  | overtaken _ _ x hwrote hms =>
      rw [hms]
      exact List.forall_mem_cons.mpr ⟨rfl, List.forall_mem_cons.mpr ⟨hdeclined hwrote,
        List.forall_mem_singleton.mpr rfl⟩⟩
  | lost _ _ _ hms =>
      have hmem : ∀ {x y : Exchange}, y ∈ [x, y] :=
        List.mem_cons_of_mem _ (List.mem_singleton_self _)
      exact (hkept _ _ hms ⟨_, hmem, .found _⟩).elim
  | storage | malformed | applied => exact Bool.noConfusion hrefused

/-- **A call that was refused has come to nothing in all that it did**, if it did not lose sight of
a job. -/
theorem idle_of_refused {duty : Duty} {result : duty.Result}
    (hleads : (duty.flow settings).Leads past (.done result)) (hrefused : duty.refuses result = true)
    (hkept : NeverLoses past) : ∀ x ∈ past, x.isIdle = true := by
  have hends : duty.Ends settings past result := hleads.keeps (duty.keeps settings)
  refine idle_of_milestones hleads ?_
  cases duty with
  | submit => exact idle_of_submit hkept hends hrefused
  | cancel => exact idle_of_cancel hkept hends hrefused
  | ingest => exact idle_of_ingest hkept hends hrefused
  | sweepAt | sweep | resume | shutdown | check | expire => exact Bool.noConfusion hrefused

end Duty

namespace History

variable {newer older : List Event} {doer : Nat}

/-- **Nobody notices a call that was refused.**  The call may be only a part of what its agent has
done. -/
theorem unnoticed_of_refused (h : History settings first (newer ++ older) s)
    (hfirst : first.Reached) {duty : Duty} {result : duty.Result}
    (hleads : (duty.flow settings).Leads (own newer doer) (.done result))
    (hrefused : duty.refuses result = true) :
    ∀ e ∈ newer, e.doer = doer → e.what.Unnoticed e.before e.after := by
  rintro e he rfl
  have hidle := Duty.idle_of_refused hleads hrefused (h.neverLoses hfirst e.doer) e.what
    (mem_own.mpr ⟨e, he, rfl, rfl⟩)
  obtain ⟨after, earlier, rfl⟩ := List.append_of_mem he
  rw [List.append_assoc, List.cons_append] at h
  exact h.upTo.happens.unnoticed (h.upTo.earlier.wf hfirst) hidle

/-! ### What a refusal names -/

/-- A job that was found over is over for good, with the status that was shown. -/
private theorem final_of_shown (h : History settings first past s) (hfirst : first.Reached)
    (he : e ∈ past) {row : JobRow} {found : Job} (hrow : e.before.jobRow? job = some row)
    (hshows : row.Shows found) (hover : row.isActive = false) : FinalStatus s job found.status := by
  obtain ⟨row', hrow', hlater⟩ := h.later_of_before hfirst he hrow
  exact ⟨row', hrow', (hlater.status_of_over hover).trans hshows.status,
    hlater.isActive_of_over hover⟩

/-- A cancellation that was declined has found the job over, if it has found it. -/
private theorem over_of_not_cancelled (h : History settings first (e :: past) s)
    (hfirst : first.Reached) {reason : String}
    (hwhat : e.what = ⟨.write (.cancelJob job reason), .ok false⟩) {row : JobRow}
    (hrow : e.before.jobRow? job = some row) : row.isActive = false := by
  have hchange : e.what.1 = .write (.cancelJob job reason) := by rw [hwhat]
  have hdeclined : e.what.Declined := by
    rw [hwhat]
    rfl
  have hstands := h.stands_of_declined hfirst hchange rfl hdeclined hrow
  cases hactive : row.isActive with
  | false => rfl
  | true =>
      rcases JobRow.isActive_iff.mp hactive with hstatus | hstatus
      · exact absurd hstatus (hstands .pending (List.mem_cons_self ..))
      · exact absurd hstatus
          (hstands .processing (List.mem_cons_of_mem _ (List.mem_singleton_self _)))

/-- What a cancellation names that is told it came too late is where the job is left. -/
theorem final_of_notCancellable (h : History settings first past s) (hfirst : first.Reached)
    {requester : Int} {status : JobStatus}
    (hends : Desk.CancelEnds job requester (own past doer) (.error (.notCancellable status))) :
    FinalStatus s job status := by
  cases hends with
  | idle found hms hover =>
      obtain ⟨after, look, earlier, rfl, -, hlook, -⟩ := split_of_milestones [] hms
      have hhappens := h.upTo.happens
      rw [hlook] at hhappens
      obtain ⟨row, hrow, hshows⟩ :=
        (h.upTo.earlier.wf hfirst).ownedJob?_shows hhappens.answered.1
      exact h.final_of_shown hfirst (List.mem_append_right _ (List.mem_cons_self ..)) hrow hshows
        ((JobRow.isActive_of_status hshows.status).trans hover)
  | overtaken found current hms =>
      obtain ⟨after, look, earlier, rfl, -, hlook, hms'⟩ := split_of_milestones [] hms
      obtain ⟨between, write, before, rfl, -, hwrite, hms''⟩ := split_of_milestones [] hms'
      obtain ⟨seen, hseen, -, hfound⟩ := mem_of_milestones (hms'' ▸ List.mem_singleton_self _)
      obtain ⟨row, hrow, -, hshows, -⟩ := h.upTo.looked hfirst hlook
      have hlog := h.upTo.earlier.upTo
      -- the job is there when it is to be cancelled, because it was seen
      obtain ⟨newer, older, rfl⟩ := List.append_of_mem hseen
      have hthere : (write.before.jobRow? job).isSome = true :=
        hlog.earlier.isSome_of_mem hfirst hseen
          (hlog.earlier.upTo.happens.isSome_of_seen (hlog.earlier.upTo.earlier.wf hfirst)
            (hfound ▸ .foundOwned requester found))
      obtain ⟨old, hold⟩ := Option.isSome_iff_exists.mp hthere
      have hover := hlog.over_of_not_cancelled hfirst hwrite hold
      obtain ⟨row', hrow', hlater⟩ := h.upTo.earlier.later_of_before hfirst
        (List.mem_append_right _ (List.mem_cons_self ..)) hold
      rw [hrow, Option.some.injEq] at hrow'
      subst hrow'
      exact h.final_of_shown hfirst (List.mem_append_right _ (List.mem_cons_self ..)) hrow hshows
        (hlater.isActive_of_over hover)

end History

/-- The job that stands in the way of a creation is an active one of the same repository. -/
theorem Happens.active_of_occupied {now : Instant} {s s' : Store} {new : NewJob} {existing : JobId}
    (h : Happens now s ⟨.write (.createJob job new), .ok (.active existing)⟩ s') (hs : s.WF) :
    ∃ row, s.jobRow? existing = some row ∧ row.repositoryId = new.repositoryId ∧
      row.isActive = true := by
  cases h with
  | elsewhere _ _ hc => exact Bool.noConfusion hc
  | written _ _ _ hrun =>
      have hcreate := Store.createJob_outcome hs.named job new now
      have hanswer : (s.createJob job new now).1 = .ok (.active existing) := congrArg Prod.fst hrun
      generalize s.createJob job new now = outcome at hcreate hanswer
      cases hcreate with
      | active row hmem hrepository hactive _ hid =>
          cases hanswer
          exact ⟨row, (Store.jobRow?_eq_some_iff hs.ids).mpr ⟨hmem, hid.symm⟩, hrepository, hactive⟩
      | refused => exact nomatch hanswer
      | created =>
          cases hread : (Store.pendingRow job new now).read with
          | error cause => rw [hread] at hanswer; exact nomatch hanswer
          | ok created => rw [hread] at hanswer; exact nomatch hanswer

/-- A job that is over stays so. -/
theorem FinalStatus.of_steps {o o' : Office} {status : JobStatus}
    (h : FinalStatus o.store job status) (hfirst : first.Reached) (ho : o.Reached settings first)
    (hsteps : Relation.ReflTransGen (Office.Step settings) o o') :
    FinalStatus o'.store job status := by
  obtain ⟨row, hrow, hstatus, hover⟩ := h
  obtain ⟨row', hrow', hlater⟩ := ho.later_of_steps hfirst hsteps hrow
  exact ⟨row', hrow', (hlater.status_of_over hover).trans hstatus, hlater.isActive_of_over hover⟩

/-! ### An office -/

/-- What can be said of the calls in an office that were refused. -/
structure RefusedCalls (settings : DeskSettings) (o : Office) : Prop where
  /-- Nobody notices a submission, a cancellation or an ingest that was refused. -/
  calls : ∀ (doer : Nat) (duty : Duty) (result : duty.Result) (stopped : Bool),
    o.agents[doer]? = some ⟨duty, .done result, stopped⟩ → duty.refuses result = true →
      ∀ e ∈ o.past, e.doer = doer → e.what.Unnoticed e.before e.after
  /-- Pollers ingest as well.  What such a call has done is a part of what its poller has done. -/
  ingests : ∀ (newer older : List Event) (doer : Nat) (job : JobId) (report : Report)
    (result : Except DeskError IngestOutcome), o.past = newer ++ older →
      (Desk.ingest job report).Leads (own newer doer) (.done result) →
        (Duty.ingest job report).refuses result = true →
          ∀ e ∈ newer, e.doer = doer → e.what.Unnoticed e.before e.after
  /-- A submission that meets a conflict names a job of its repository that was active then. -/
  conflicts : ∀ (doer : Nat) (requester : Int) (request : SubmitRequest) (existing : JobId)
    (result : Except DeskError SubmitOutcome) (stopped : Bool),
      result = .error (.conflict existing) →
        o.agents[doer]? = some ⟨.submit requester request, .done result, stopped⟩ →
          ∃ e ∈ o.past, e.doer = doer ∧
            (∃ id new, e.what = ⟨.write (.createJob id new), .ok (.active existing)⟩) ∧
            ∃ row, e.before.jobRow? existing = some row ∧
              row.repositoryId = request.repositoryId ∧
              (row.status = JobStatus.pending.label ∨ row.status = JobStatus.processing.label)
  /-- A cancellation that is too late names the status in which the job stays for good. -/
  tooLate : ∀ (doer : Nat) (job : JobId) (requester : Int) (status : JobStatus)
    (result : Except DeskError Job) (stopped : Bool),
      result = .error (.notCancellable status) →
        o.agents[doer]? = some ⟨.cancel job requester, .done result, stopped⟩ →
          status.isTerminal = true ∧
            ∀ o', Relation.ReflTransGen (Office.Step settings) o o' →
              FinalStatus o'.store job status

namespace Office.Sound

variable {o : Office} {doer : Nat} {stopped : Bool}

private theorem conflict_of_active (h : o.Sound settings first) (hfirst : first.Reached)
    {requester : Int} {request : SubmitRequest} {existing : JobId}
    {result : Except DeskError SubmitOutcome} (hresult : result = .error (.conflict existing))
    (hagent : o.agents[doer]? = some ⟨.submit requester request, .done result, stopped⟩) :
    ∃ e ∈ o.past, e.doer = doer ∧
      (∃ id new, e.what = ⟨.write (.createJob id new), .ok (.active existing)⟩) ∧
      ∃ row, e.before.jobRow? existing = some row ∧ row.repositoryId = request.repositoryId ∧
        (row.status = JobStatus.pending.label ∨ row.status = JobStatus.processing.label) := by
  have hends : Desk.SubmitEnds requester request (own o.past doer) result := h.ends hagent
  rw [hresult] at hends
  cases hends with
  | conflict repository id _ hms =>
      obtain ⟨e, he, hdoer, hwhat⟩ := mem_of_milestones (hms ▸ List.mem_cons_self ..)
      obtain ⟨after, earlier, hpast⟩ := List.append_of_mem he
      have hlog := h.history
      rw [hpast] at hlog
      have hhappens := hlog.upTo.happens
      rw [hwhat] at hhappens
      obtain ⟨row, hrow, hrepository, hactive⟩ :=
        hhappens.active_of_occupied (hlog.upTo.earlier.wf hfirst)
      exact ⟨e, he, hdoer, ⟨id, _, hwhat⟩, row, hrow, hrepository, JobRow.isActive_iff.mp hactive⟩

end Office.Sound

/-- **Refused calls have no effect.**  Whatever an office has been doing, with a store that may fail
at any call: a submission, a cancellation or an ingest that was refused has left the store as it was
at each of its steps, and has neither turned to the analyzer nor begun or ended a watch.  The same
is true of whoever looks, at any store.  A conflict names an active job of the repository, and a
cancellation that is too late names the status in which the job stays. -/
theorem refused_calls_unnoticed :
    (∀ (settings : DeskSettings) (first : Store) (o : Office), first.Reached →
        o.Reached settings first → RefusedCalls settings o) ∧
      ∀ (user : Int) (look : Look) (past : List Exchange) (result : Except DeskError look.Result),
        (look.call user).Leads past (.done result) →
          ∀ x ∈ past, ∀ (now : Instant) (s s' : Store), Happens now s x s' → x.Unnoticed s s' := by
  refine ⟨fun settings first o hfirst ho => ?_, fun user look past result hleads x hx => ?_⟩
  · have hsound := ho.sound
    refine ⟨?_, ?_, ?_, ?_⟩
    · intro doer duty result stopped hagent hrefused
      have hlog : History settings first (o.past ++ []) o.store := by
        rw [List.append_nil]
        exact hsound.history
      exact hlog.unnoticed_of_refused hfirst (hsound.leads doer _ hagent) hrefused
    · intro newer older doer job report result hpast hleads hrefused
      have hlog := hsound.history
      rw [hpast] at hlog
      have hcall : ((Duty.ingest job report).flow settings).Leads (own newer doer) (.done result) :=
        hleads
      exact hlog.unnoticed_of_refused hfirst hcall hrefused
    · intro doer requester request existing result stopped hresult hagent
      exact hsound.conflict_of_active hfirst hresult hagent
    · intro doer job requester status result stopped hresult hagent
      have hends : Desk.CancelEnds job requester (own o.past doer) result := hsound.ends hagent
      rw [hresult] at hends
      have hfinal := hsound.history.final_of_notCancellable hfirst hends
      refine ⟨?_, fun o' hsteps => hfinal.of_steps hfirst ho hsteps⟩
      obtain ⟨row, -, hstatus, hover⟩ := hfinal
      rw [JobStatus.isTerminal, ← JobRow.isActive_of_status hstatus, hover]
      rfl
  · intro now s s' hhappens
    obtain ⟨question, hquestion⟩ := Look.query_of_leads hleads x hx
    refine ⟨hhappens.eq_of_not_write fun change hc => ?_, ?_, ?_⟩
    · rw [hquestion] at hc
      cases hc
    · rw [hquestion]
      rfl
    · rw [hquestion]
      rfl

namespace Office

/-- Whether a call of somebody was refused. -/
def hasRefused (o : Office) (doer : Nat) : Bool :=
  match o.agents[doer]? with
  | some ⟨duty, .done result, _⟩ => duty.refuses result
  | _ => false

theorem agent_of_hasRefused {o : Office} {doer : Nat} (h : o.hasRefused doer = true) :
    ∃ duty result stopped, o.agents[doer]? = some ⟨duty, .done result, stopped⟩ ∧
      duty.refuses result = true := by
  unfold hasRefused at h
  split at h
  · rename_i duty result stopped hagent
    exact ⟨duty, result, stopped, hagent, h⟩
  · exact Bool.noConfusion h

end Office

/-- A job that is processing.  A submission for its repository and a cancellation by somebody else
are refused at once; its owner cancels it twice, and the second cancellation and a report come too
late. -/
def Small.refused : Office :=
  Office.played Small.settings Small.dispatched
    [.begin (.submit 1 ⟨1, none, none⟩), .begin (.cancel default 2), .begin (.cancel default 1),
      .begin (.ingest default ⟨.failed, none, none, none, none, none, none, [], [], some "broken"⟩),
      .begin (.cancel default 1), .act 0 (calm 3), .act 0 (calm 4), .act 0 (calm 5),
      .act 1 (calm 6), .act 2 (calm 7), .act 3 (calm 8), .act 4 (calm 9), .act 4 (calm 10),
      .act 2 (calm 11), .act 2 (calm 12), .act 3 (calm 13), .act 3 (calm 14)]

theorem refused_calls_unnoticed_played :
    (∀ doer ∈ [0, 1, 2, 3], Small.refused.hasRefused doer = true ∧
      ∀ e ∈ Small.refused.past, e.doer = doer → e.what.Unnoticed e.before e.after) ∧
    ∃ x, (Look.userStats.call 2).Leads [x] (.done (.error .notFound)) ∧
      x.Unnoticed Small.dispatched Small.dispatched := by
  refine ⟨fun doer hdoer => ?_, ?_⟩
  · have hrefused : ∀ doer ∈ [0, 1, 2, 3], Small.refused.hasRefused doer = true := by
      decide +kernel
    obtain ⟨duty, result, stopped, hagent, hresult⟩ :=
      Office.agent_of_hasRefused (hrefused doer hdoer)
    refine ⟨hrefused doer hdoer, ?_⟩
    have hcalls := refused_calls_unnoticed.1 Small.settings Small.dispatched Small.refused
      Small.dispatched_reached (Office.reached_played ..)
    exact hcalls.calls doer duty result stopped hagent hresult
  · have hleads : (Look.userStats.call 2).Leads [⟨.query (.userStats 2), .ok none⟩]
        (.done (.error .notFound)) := .step .start _
    refine ⟨_, hleads, ?_⟩
    refine refused_calls_unnoticed.2 2 .userStats _ _ hleads _ (List.mem_singleton_self _)
      ⟨0⟩ _ _ ?_
    exact .asked (.userStats 2) _ (by rfl)

end AnalysisDesk
