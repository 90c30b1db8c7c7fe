/-
No orphans at the analyzer.

When the analyzer has accepted a job and the job is then cancelled, swept or
expired, somebody has to tell the analyzer, and it depends on the order of things
who that is.  If the job was ended before its submission could mark it, nobody but
the submission knows the handle, and the submission sees that its mark was in vain.
If the mark was taken, the handle stands in the row from then on, so whoever ends
the job afterwards finds it there: a cancellation and an expiry because they look
after they have written, a sweep because a row that was still pending on its list
cannot be failed as pending any more.

That the analyzer is told after the job has ended needs no argument of its own: it
is never told before.
-/
import AnalysisDesk.Proofs.Desk.Dropping

namespace AnalysisDesk

variable {settings : DeskSettings} {first s : Store} {past : List Event} {e : Event} {job : JobId}

/-! ### What a log can tell -/

/-- Nobody has resumed or shut down the watches. -/
def Undisturbed (past : List Event) : Prop := ∀ e ∈ past, e.duty ≠ .resume ∧ e.duty ≠ .shutdown

instance (past : List Event) : Decidable (Undisturbed past) :=
  inferInstanceAs (Decidable (∀ e ∈ past, e.duty ≠ .resume ∧ e.duty ≠ .shutdown))

/-- The analyzer has been told to drop a job. -/
def Abandoned (past : List Event) (job : JobId) (handle : String) : Prop :=
  ∃ e ∈ past, ∃ answer, e.what = ⟨.abandon job handle, answer⟩

theorem abandoned_of_own {doer : Nat} {handle : String}
    (h : ∃ answer, (⟨.abandon job handle, answer⟩ : Exchange) ∈ own past doer) :
    Abandoned past job handle := by
  obtain ⟨answer, hmem⟩ := h
  obtain ⟨e, he, -, hwhat⟩ := mem_own.mp hmem
  exact ⟨e, he, answer, hwhat⟩

/-- Every look at a job that is over shows this handle. -/
def ShowsHandle (past : List Event) (job : JobId) (handle : String) : Prop :=
  ∀ e ∈ past, ∀ row, e.after.jobRow? job = some row → row.isActive = false →
    row.externalHandle = some handle

namespace History

/-! ### What is known of the handle -/

/-- A job that was created is the job with the identifier that was drawn for it. -/
theorem id_of_creation (h : History settings first (e :: past) s) (hfirst : first.Reached)
    {new : NewJob} {created : Job}
    (hwhat : e.what = ⟨.write (.createJob job new), .ok (.created created)⟩) : created.id = job := by
  have hhappens := h.happens
  rw [hwhat] at hhappens
  have hshows := JobRow.read_shows ⟨.pending, rfl⟩ ⟨job, rfl⟩
    (hhappens.created (h.earlier.wf hfirst))
  exact (JobId.text_inj.mp hshows.id).symm

/-- A mark that was taken has found the row pending. -/
theorem row_of_mark (h : History settings first (e :: past) s) (hfirst : first.Reached)
    {handle : String} (hmark : e.what = ⟨.write (.markDispatched job handle), .ok true⟩) :
    ∃ row, e.before.jobRow? job = some row ∧ row.isActive = true ∧
      e.after.jobRow? job = some (row.dispatched handle e.time) := by
  have htouched := h.touched hfirst job
  rw [hmark] at htouched
  generalize e.before.jobRow? job = row? at htouched ⊢
  generalize e.after.jobRow? job = row?' at htouched ⊢
  cases htouched with
  | kept _ _ hnot => exact absurd (Or.inr (Or.inl ⟨handle, rfl⟩)) hnot
  | dispatched _ _ row hstatus => exact ⟨row, rfl, JobRow.isActive_iff.mpr (Or.inl hstatus), rfl⟩
  | ended _ _ _ _ hending => exact Bool.noConfusion hending

/-- A row that is over has the handle under which its job was marked, whenever that was. -/
theorem marked_handle (h : History settings first past s) (hfirst : first.Reached) {m : Event}
    (hm : m ∈ past) {handle : String} (hmark : m.what = ⟨.write (.markDispatched job handle), .ok true⟩)
    (he : e ∈ past) {row : JobRow} (hrow : e.after.jobRow? job = some row)
    (hover : row.isActive = false) : row.externalHandle = some handle := by
  obtain ⟨after, earlier, rfl⟩ := List.append_of_mem he
  have hcases : m ∈ after ∨ m ∈ e :: earlier := List.mem_append.mp hm
  rcases hcases with hm | hm
  · -- marked after it was over: impossible
    obtain ⟨after', between, rfl⟩ := List.append_of_mem hm
    rw [List.append_assoc, List.cons_append] at h
    obtain ⟨old, hold, hactive, -⟩ := h.upTo.row_of_mark hfirst hmark
    obtain ⟨row', hrow', hlater⟩ := h.upTo.earlier.later_of_mem hfirst
      (List.mem_append_right _ (List.mem_cons_self ..)) hrow
    rw [hold, Option.some.injEq] at hrow'
    subst hrow'
    rw [hlater.isActive_of_over hover] at hactive
    exact Bool.noConfusion hactive
  · obtain ⟨after', earlier', heq⟩ := List.append_of_mem hm
    have hlog := h.upTo
    have hlog' := hlog
    rw [heq] at hlog'
    obtain ⟨old, -, -, hmarked⟩ := hlog'.upTo.row_of_mark hfirst hmark
    obtain ⟨row', hrow', hlater⟩ := hlog.later_of_mem hfirst hm hmarked
    rw [hrow, Option.some.injEq] at hrow'
    subst hrow'
    refine hlater.handle (fun hc => ?_) handle rfl
    have hlabel : JobStatus.processing.label = JobStatus.pending.label := hc
    exact absurd (JobStatus.label_injective hlabel) (by decide)

/-! ### Who tells the analyzer -/

/-- A cancellation that has ended a job tells the analyzer. -/
theorem abandoned_by_cancel (h : History settings first past s) (hfirst : first.Reached)
    (hunfailing : Unfailing past) {handle : String} (hshow : ShowsHandle past job handle)
    {job' : JobId} {requester : Int} {result : Except DeskError Job} (he : e ∈ past)
    (hended : e.what.ended? = some job)
    (hends : Desk.CancelEnds job' requester (own past e.doer) result) :
    Abandoned past job handle := by
  have hmem : e.what ∈ own past e.doer := mem_own.mpr ⟨e, he, rfl, rfl⟩
  rcases hends.of_ended hmem hended with ⟨y, hy, hfailed⟩ | ⟨rfl, hgone | hcancelled⟩
  · exact (hunfailing.not_failed hy hfailed).elim
  · obtain ⟨found, hms⟩ := hgone
    obtain ⟨_, hc, -⟩ := h.found_of_look hfirst [] hms rfl
    exact nomatch hc
  · obtain ⟨found, current, -, hms, htold⟩ := hcancelled
    obtain ⟨_, hfound, look, hlook, row, hrow, hshows, hover, -⟩ :=
      h.found_of_look hfirst [_] hms rfl
    cases hfound
    exact abandoned_of_own
      (htold handle (hshows.handle.symm.trans (hshow look hlook row hrow hover)))

/-- An expiry that has ended a job tells the analyzer. -/
theorem abandoned_by_expiry (h : History settings first past s) (hfirst : first.Reached)
    (hunfailing : Unfailing past) {handle : String} (hshow : ShowsHandle past job handle)
    {job' : JobId} (he : e ∈ past) (hended : e.what.ended? = some job)
    (hends : Desk.ExpireEnds settings job' (own past e.doer)) : Abandoned past job handle := by
  have hmem : e.what ∈ own past e.doer := mem_own.mpr ⟨e, he, rfl, rfl⟩
  rcases hends.of_ended hmem hended with ⟨y, hy, hfailed⟩ | ⟨rfl, hgone | hexpired⟩
  · exact (hunfailing.not_failed hy hfailed).elim
  · obtain ⟨_, hc, -⟩ := h.found_of_look hfirst [] hgone rfl
    exact nomatch hc
  · obtain ⟨current, hms, htold⟩ := hexpired
    obtain ⟨_, hfound, look, hlook, row, hrow, hshows, hover, -⟩ :=
      h.found_of_look hfirst [] hms rfl
    cases hfound
    exact abandoned_of_own
      (htold handle (hshows.handle.symm.trans (hshow look hlook row hrow hover)))

/-- A sweep that has ended a job tells the analyzer. -/
theorem abandoned_by_sweep (h : History settings first past s) (hfirst : first.Reached)
    (hunfailing : Unfailing past) {handle : String} (hshow : ShowsHandle past job handle)
    {now : Instant} {result : Except DeskError Nat} (he : e ∈ past)
    (hended : e.what.ended? = some job)
    (hends : Desk.SweepEnds settings now (own past e.doer) result) :
    Abandoned past job handle := by
  have hmem : e.what ∈ own past e.doer := mem_own.mpr ⟨e, he, rfl, rfl⟩
  have hmem' := mem_milestones_of_ended hmem hended
  cases hends with
  | storage cause y hy hfailed => exact (hunfailing.not_failed hy hfailed).elim
  | outOfRange cause hcutoff hms =>
      rw [hms] at hmem'
      exact nomatch hmem'
  | swept oldest jobs tried hms htold =>
      obtain ⟨current, hcurrent, hwhat, htold⟩ := htold e.what hmem
        (by rw [Exchange.ends, hended]; rfl)
      have hjob : current.id = job := by
        rw [hwhat] at hended
        exact Option.some.inj hended
      have htried : e.what ∈ tried := by
        rw [hms] at hmem'
        rcases List.mem_append.mp hmem' with htried | hc
        · exact htried
        · exact absurd (List.mem_singleton.mp hc) (Exchange.ne_of_ended hended rfl)
      obtain ⟨newer, older, rfl⟩ := List.append_of_mem htried
      have hms' : milestones (own past e.doer)
          = newer ++ e.what :: Desk.afterListing oldest jobs older := by
        rw [hms, Desk.afterListing, Desk.afterListing, List.append_assoc, List.cons_append]
      obtain ⟨after, write, earlier, rfl, -, hwrite, hms''⟩ := split_of_milestones _ hms'
      obtain ⟨row, hshows, hrow⟩ :=
        h.upTo.ended_of_list hfirst (hwrite.trans hwhat) hms'' hcurrent
      rw [hjob] at hrow
      have hhandle : row.externalHandle = some handle :=
        hshow write (List.mem_append_right _ (List.mem_cons_self ..)) (row.ended .failed _ now) hrow
          (JobRow.isActive_of_status (show _ = JobStatus.failed.label from rfl))
      rw [← hjob]
      exact abandoned_of_own (htold handle (hshows.handle.symm.trans hhandle))

/-! ### Watches -/

/-- A watch on a job that was created is begun by the job's creator, who has not begun one before. -/
theorem watch_once (h : History settings first (e :: past) s) (hfirst : first.Reached)
    (hquiet : Undisturbed (e :: past)) {handle : String} {t : Instant}
    (hwhat : e.what.1 = .startPoller job handle t) {d : Event} (hd : d ∈ past)
    {handle' : String} {t' : Instant} : d.what.1 ≠ .startPoller job handle' t' := by
  intro hbefore
  obtain ⟨after, earlier, rfl⟩ := List.append_of_mem hd
  have hlog := h.earlier.upTo
  have hmay := h.may
  have hmay' := hlog.may
  rw [hwhat] at hmay
  rw [hbefore] at hmay'
  rcases Duty.may_startPoller hmay with ⟨requester, request, repository, created, -, hms⟩ | hc
  · rcases Duty.may_startPoller hmay' with ⟨requester', request', repository', created', -, hms'⟩ | hc
    · obtain ⟨c, hc, hcreates⟩ := created_of_milestones [_, _] hms'
      have hdoer : d.doer = e.doer := h.earlier.creator_unique hfirst
        ⟨c, List.mem_append_right _ (List.mem_cons_of_mem _ hc), hcreates⟩
        (created_of_milestones [_, _] hms)
      have hmilestone : d.what.isMilestone = true := by
        generalize d.what = x at hbefore ⊢
        obtain ⟨action, answer⟩ := x
        cases hbefore
        rfl
      have hmem := mem_milestones_own hd hmilestone
      rw [hdoer, hms] at hmem
      simp only [Desk.afterMark, Desk.afterHandover, Desk.afterCreation, Desk.afterDrawing,
        Desk.afterLookup, List.mem_cons, List.not_mem_nil, or_false] at hmem
      rcases hmem with hc | hc | hc | hc | hc <;> rw [hc] at hbefore <;> cases hbefore
    · exact absurd hc (hquiet d (List.mem_cons_of_mem _ hd)).1
  · exact absurd hc (hquiet e (List.mem_cons_self ..)).1

end History

namespace Office

variable {o : Office}

/-- Somebody has begun to watch a job. -/
def WatchBegun (past : List Event) (job : JobId) : Prop :=
  ∃ e ∈ past, ∃ handle t, e.what.1 = .startPoller job handle t

/-- What the watches on a job tell that was not there at first. -/
structure Watched (o : Office) (job : JobId) : Prop where
  begun : ∀ watch ∈ o.watches, watch.1 = job → WatchBegun o.past job
  manned : ∀ agent ∈ o.agents, agent.duty.watched? = some job → WatchBegun o.past job
  /-- A poller is stopped only after somebody who is no poller has ended the job. -/
  stopped : ∀ agent ∈ o.agents, agent.duty.watched? = some job → agent.stopped = true →
    ∃ e ∈ o.past, e.what.ended? = some job ∧ e.duty.watched? = none

theorem WatchBegun.cons (h : WatchBegun past job) : WatchBegun (e :: past) job := by
  obtain ⟨d, hd, hbegun⟩ := h
  exact ⟨d, List.mem_cons_of_mem _ hd, hbegun⟩

private theorem mem_watches {watch : JobId × String} {kept : List (JobId × String)} {action : Action}
    (h : watch ∈ action.watches kept) :
    watch ∈ kept ∨ ∃ t, action = .startPoller watch.1 watch.2 t := by
  cases action with
  | startPoller other handle t =>
      rcases List.mem_cons.mp h with rfl | h
      · exact Or.inr ⟨t, rfl⟩
      · exact Or.inl (List.mem_filter.mp h).1
  | stopPoller other => exact Or.inl (List.mem_filter.mp h).1
  | stopAllPollers => exact nomatch h
  | query | write | enqueue | poll | abandon | sleep | now | freshId => exact Or.inl h

/-- An agent after an action was there before, perhaps at another point of its procedure. -/
private theorem mem_agents {agents : List Agent} {doer : Nat} {duty : Duty}
    {flow flow' : Flow duty.Result} {stopped : Bool} {action : Action} {agent : Agent}
    (hagent : agents[doer]? = some ⟨duty, flow, stopped⟩)
    (h : agent ∈ (agents.set doer ⟨duty, flow', stopped⟩).map (·.after action)) :
    ∃ old ∈ agents, agent.duty = old.duty ∧
      (agent.stopped = true → old.stopped = true ∨
        ∃ job, old.duty.watched? = some job ∧ action.endsWatch job = true) := by
  have hstop : ∀ old : Agent, (old.after action).stopped = true → old.stopped = true ∨
      ∃ job, old.duty.watched? = some job ∧ action.endsWatch job = true := by
    intro old h
    rcases Bool.or_eq_true_iff.mp h with h | h
    · exact Or.inl h
    · cases hwatched : old.duty.watched? with
      | none => rw [hwatched] at h; exact Bool.noConfusion h
      | some job => rw [hwatched] at h; exact Or.inr ⟨job, rfl, h⟩
  obtain ⟨between, hbetween, rfl⟩ := List.mem_map.mp h
  rcases List.mem_or_eq_of_mem_set hbetween with hold | rfl
  · exact ⟨between, hold, rfl, hstop between⟩
  · exact ⟨_, List.mem_of_getElem? hagent, rfl, hstop ⟨duty, flow', stopped⟩⟩

/-- A poller that begins is on a watch that was begun. -/
private theorem Watched.begin (h : o.Watched job) {duty : Duty} (hadmits : o.Admits duty) :
    Watched { o with agents := o.agents ++ [⟨duty, duty.flow settings, false⟩] } job := by
  have hnew : duty.watched? = some job → WatchBegun o.past job := by
    intro hwatched
    cases duty with
    | check job' handle =>
        obtain rfl := Option.some.inj hwatched
        exact h.begun _ hadmits rfl
    | expire job' =>
        obtain rfl := Option.some.inj hwatched
        obtain ⟨watch, hwatch, hjob⟩ := List.mem_map.mp hadmits
        exact h.begun watch hwatch hjob
    | submit | ingest | cancel | sweepAt | sweep | resume | shutdown => exact nomatch hwatched
  refine ⟨h.begun, fun agent hagent hwatched => ?_, fun agent hagent hwatched hstopped => ?_⟩
  · rcases List.mem_append.mp hagent with hagent | hagent
    · exact h.manned agent hagent hwatched
    · obtain rfl := List.mem_singleton.mp hagent
      exact hnew hwatched
  · rcases List.mem_append.mp hagent with hagent | hagent
    · exact h.stopped agent hagent hwatched hstopped
    · obtain rfl := List.mem_singleton.mp hagent
      exact Bool.noConfusion hstopped

/-- Who ends the watch on a job has ended the job, and is no poller of it.  A second watch would end
the first, but there is none. -/
private theorem ended_of_endsWatch (hlog : History settings first (e :: o.past) s)
    (hfirst : first.Reached) (hquiet : Undisturbed (e :: o.past)) (hbegun : WatchBegun o.past job)
    (hends : e.what.1.endsWatch job = true) :
    ∃ d ∈ o.past, d.what.ended? = some job ∧ d.duty.watched? = none := by
  have hmay := hlog.may
  cases haction : e.what.1 with
  | startPoller other handle t =>
      rw [haction] at hends
      obtain rfl : other = job := by simpa [Action.endsWatch] using hends
      obtain ⟨d, hd, handle', t', hbefore⟩ := hbegun
      exact absurd hbefore (hlog.watch_once hfirst hquiet haction hd)
  | stopPoller other =>
      rw [haction] at hends hmay
      obtain rfl : other = job := by simpa [Action.endsWatch] using hends
      obtain ⟨houtside, x, hx, hended⟩ := Duty.may_stopPoller hmay
      obtain ⟨d, hd, hdoer, rfl⟩ := mem_of_milestones hx
      refine ⟨d, hd, hended, ?_⟩
      rw [hlog.sameDuty hd hdoer]
      exact houtside
  | stopAllPollers =>
      rw [haction] at hmay
      exact absurd (Duty.may_stopAllPollers hmay) (hquiet e (List.mem_cons_self ..)).2
  | query | write | enqueue | poll | abandon | sleep | now | freshId =>
      rw [haction] at hends
      exact Bool.noConfusion hends

/-- One event of an agent. -/
private theorem Watched.act (h : o.Watched job)
    (hlog : History settings first (e :: o.past) s) (hfirst : first.Reached)
    (hquiet : Undisturbed (e :: o.past)) {flow flow' : Flow e.duty.Result} {stopped : Bool}
    (hagent : o.agents[e.doer]? = some ⟨e.duty, flow, stopped⟩) :
    Watched ⟨s, e.what.1.watches o.watches,
      (o.agents.set e.doer ⟨e.duty, flow', stopped⟩).map (·.after e.what.1), e :: o.past⟩ job := by
  refine ⟨fun watch hwatch hjob => ?_, fun agent hmem hwatched => ?_,
    fun agent hmem hwatched hstopped => ?_⟩
  · rcases mem_watches hwatch with hkept | ⟨t, hbegun⟩
    · exact (h.begun watch hkept hjob).cons
    · exact ⟨e, List.mem_cons_self .., watch.2, t, hjob ▸ hbegun⟩
  · obtain ⟨old, hmem', hduty, -⟩ := mem_agents hagent hmem
    exact (h.manned old hmem' (hduty ▸ hwatched)).cons
  · obtain ⟨old, hmem', hduty, hcases⟩ := mem_agents hagent hmem
    rw [hduty] at hwatched
    have hended : ∃ d ∈ o.past, d.what.ended? = some job ∧ d.duty.watched? = none := by
      rcases hcases hstopped with hbefore | ⟨job', hjob', hends⟩
      · exact h.stopped old hmem' hwatched hbefore
      · rw [hwatched, Option.some.injEq] at hjob'
        subst hjob'
        exact ended_of_endsWatch hlog hfirst hquiet (h.manned old hmem' hwatched) hends
    obtain ⟨d, hd, hended⟩ := hended
    exact ⟨d, List.mem_cons_of_mem _ hd, hended⟩

/-- **A poller is stopped from outside only if its job has been ended from outside**, as long as
nobody resumes or shuts down. -/
theorem Reached.watched (ho : o.Reached settings first) (hfirst : first.Reached)
    (hnew : first.jobRow? job = none) (hquiet : Undisturbed o.past) : o.Watched job := by
  induction ho with
  | opening watches hwatches =>
      refine ⟨fun watch hwatch hjob => ?_, fun _ h => (nomatch h), fun _ h => (nomatch h)⟩
      have hsome := hwatches watch hwatch
      rw [hjob, hnew] at hsome
      exact Bool.noConfusion hsome
  | @step o o' ho hstep ih =>
      have hlog := (ho.step hstep).sound.history
      cases hstep with
      | begin duty hadmits => exact (ih hquiet).begin hadmits
      | act doer duty action next stopped hagent time answer s hhappens =>
          have hold := ih fun e he => hquiet e (List.mem_cons_of_mem _ he)
          exact hold.act (e := ⟨doer, duty, time, ⟨action, answer⟩, o.store, s⟩) hlog hfirst hquiet
            hagent
      | leave watch =>
          have hold := ih hquiet
          exact ⟨fun other hother => hold.begun other (List.mem_of_mem_erase hother), hold.manned,
            hold.stopped⟩

end Office

/-! ### No orphans -/

/-- The duties that end a job without a word from the analyzer. -/
def Duty.GivesUp : Duty → Prop
  | .cancel _ _ | .sweepAt _ | .sweep | .expire _ => True
  | .submit _ _ | .ingest _ _ | .resume | .shutdown | .check _ _ => False

instance : DecidablePred Duty.GivesUp
  | .cancel _ _ | .sweepAt _ | .sweep | .expire _ => isTrue trivial
  | .submit _ _ | .ingest _ _ | .resume | .shutdown | .check _ _ => isFalse id

/-- The job that the analyzer has taken, and the handle that it gave. -/
def Exchange.handedOver? : Exchange → Option (JobId × String)
  | ⟨.enqueue spec, .ok handle⟩ => some (spec.job, handle)
  | _ => none

theorem Exchange.handedOver?_eq {x : Exchange} {handle : String}
    (h : x.handedOver? = some (job, handle)) :
    ∃ spec : JobSpec, spec.job = job ∧ x = ⟨.enqueue spec, .ok handle⟩ := by
  obtain ⟨action, answer⟩ := x
  cases action with
  | enqueue spec =>
      match answer with
      | .ok given =>
          obtain ⟨rfl, rfl⟩ := Prod.mk.inj (Option.some.inj h)
          exact ⟨spec, rfl, rfl⟩
      | .error _ => exact nomatch h
  | _ => exact nomatch h

/-- What an expiry ends is its own job. -/
private theorem ended_by_expiry {x : Exchange} {ms : List Exchange} {job' : JobId}
    (hmay : (Duty.expire job').May settings ms x.1) (hended : x.ended? = some job) : job' = job := by
  obtain ⟨change, hchange, hjob, -⟩ := Exchange.write_of_ended hended
  rw [hchange] at hmay
  cases hmay
  exact hjob

namespace Office

variable {o : Office}

/-- Somebody who was handed a handle and has returned has marked the job, or has told the analyzer. -/
private theorem marked_or_abandoned (h : o.Sound settings first) (hfirst : first.Reached)
    (hunfailing : Unfailing o.past) (he : e ∈ o.past) {spec : JobSpec} {handle : String}
    (hwhat : e.what = ⟨.enqueue spec, .ok handle⟩) (hreturned : o.Returned e.doer) :
    (∃ m ∈ o.past, m.what = ⟨.write (.markDispatched spec.job handle), .ok true⟩) ∨
      Abandoned o.past spec.job handle := by
  obtain ⟨after, earlier, hpast⟩ := List.append_of_mem he
  have hlog := h.history
  rw [hpast] at hlog
  have hmay := hlog.upTo.may
  rw [hwhat] at hmay
  obtain ⟨requester, request, repository, id, created, hduty, -⟩ := Duty.may_enqueue hmay
  have hmem : (⟨.enqueue spec, .ok handle⟩ : Exchange) ∈ own o.past e.doer :=
    mem_own.mpr ⟨e, he, rfl, hwhat⟩
  have hends := h.ends_of_returned he hreturned
  rw [hduty] at hends
  obtain ⟨result, hends⟩ := hends
  rcases Desk.SubmitEnds.of_handover hends hmem with ⟨y, hy, hfailed⟩ | ⟨id', job', new, rfl, hcreated, hcases⟩
  · exact (hunfailing.not_failed hy hfailed).elim
  · obtain ⟨c, hc, -, hcreates⟩ := mem_own.mp hcreated
    obtain ⟨after', earlier', hpast'⟩ := List.append_of_mem hc
    have hlog' := h.history
    rw [hpast'] at hlog'
    have hid : job'.id = id' := hlog'.upTo.id_of_creation hfirst hcreates
    have hjob : (Desk.specOf job').job = id' := hid
    rw [hjob]
    rcases hcases with hmark | htold
    · obtain ⟨m, hm, -, hwhat'⟩ := mem_own.mp hmark
      exact Or.inl ⟨m, hm, hwhat'⟩
    · exact Or.inr (abandoned_of_own htold)

/-- Somebody who has ended a marked job in spite of the analyzer, and has come to an end, has told
the analyzer. -/
private theorem abandoned_of_marked (ho : o.Reached settings first) (hfirst : first.Reached)
    (hunfailing : Unfailing o.past) (hquiet : Undisturbed o.past) {m : Event} (hm : m ∈ o.past)
    {handle : String} (hmark : m.what = ⟨.write (.markDispatched job handle), .ok true⟩)
    (he : e ∈ o.past) (hended : e.what.ended? = some job) (hgives : e.duty.GivesUp)
    (hrest : o.Returned e.doer ∨ o.Stopped e.doer) : Abandoned o.past job handle := by
  have hsound := ho.sound
  have hlog := hsound.history
  have hshow : ShowsHandle o.past job handle := fun d hd row hrow hover =>
    hlog.marked_handle hfirst hm hmark hd hrow hover
  rcases hrest with hreturned | ⟨agent, hagent, hpoller, hstopped⟩
  · have hends := hsound.ends_of_returned he hreturned
    generalize e.duty = duty at hends hgives
    obtain ⟨result, hends⟩ := hends
    cases duty with
    | cancel => exact hlog.abandoned_by_cancel hfirst hunfailing hshow he hended hends
    | sweepAt => exact hlog.abandoned_by_sweep hfirst hunfailing hshow he hended hends
    | sweep =>
        obtain ⟨now, hends⟩ := hends
        exact hlog.abandoned_by_sweep hfirst hunfailing hshow he hended hends
    | expire => exact hlog.abandoned_by_expiry hfirst hunfailing hshow he hended hends
    | submit | ingest | resume | shutdown | check => exact hgives.elim
  · -- its watch was ended under its hands, so somebody else must have ended the job
    obtain ⟨agent', hagent', hduty⟩ := hsound.doers e he
    rw [hagent, Option.some.injEq] at hagent'
    subst hagent'
    obtain ⟨after, earlier, hpast⟩ := List.append_of_mem he
    have hlog' := hlog
    rw [hpast] at hlog'
    have hwatched : agent.duty.watched? = some job := by
      have hmay := hlog'.upTo.may
      rw [← hduty] at hmay hgives
      generalize agent.duty = duty at hmay hgives hpoller
      cases duty with
      | expire job' => exact congrArg some (ended_by_expiry hmay hended)
      | cancel | sweepAt | sweep => exact Bool.noConfusion hpoller
      | submit | ingest | resume | shutdown | check => exact hgives.elim
    have hnew : first.jobRow? job = none := by
      obtain ⟨newer, older, hsplit⟩ := List.append_of_mem hm
      rw [hsplit] at hlog
      have hcreated := hlog.upTo.created_of_mark (congrArg Sigma.fst hmark)
      obtain ⟨c, hc, -, new, created, hcreates⟩ := hcreated
      obtain ⟨newer', older', rfl⟩ := List.append_of_mem hc
      have hlog'' := hlog.upTo.earlier.upTo
      cases hrow : first.jobRow? job with
      | none => rfl
      | some row =>
          obtain ⟨row', hrow', -⟩ := hlog''.earlier.later_of_first hfirst hrow
          rw [(hlog''.row_of_creation hfirst hcreates).1] at hrow'
          exact nomatch hrow'
    obtain ⟨d, hd, hended', houtside⟩ := (ho.watched hfirst hnew hquiet).stopped agent
      (List.mem_of_getElem? hagent) hwatched hstopped
    rw [hlog.ended_unique hfirst hd he hended' hended, ← hduty, hwatched] at houtside
    exact nomatch houtside

end Office

/-- **No orphaned work at the analyzer.**  The analyzer has accepted a job under a handle, and the job
was ended by a cancellation, a sweep or an expiry, in whatever order.  Once the submission has
returned, and the one who ended the job has returned or is a poller that has stopped, the job has this
handle in the store, and the analyzer has been told to drop it under this handle after the job had
been ended. -/
theorem no_orphans {settings : DeskSettings} {first : Store} {o : Office} (hfirst : first.Reached)
    (ho : o.Reached settings first) (hunfailing : Unfailing o.past) (hquiet : Undisturbed o.past)
    {job : JobId} {handle : String} {spec : JobSpec} (hspec : spec.job = job) {handover : Event}
    (hhandover : handover ∈ o.past) (hwhat : handover.what = ⟨.enqueue spec, .ok handle⟩)
    {ending : Event} {after before : List Event} (hpast : o.past = after ++ ending :: before)
    (hended : ending.what.ended? = some job) (hgives : ending.duty.GivesUp)
    (hreturned : o.Returned handover.doer)
    (hrest : o.Returned ending.doer ∨ o.Stopped ending.doer) :
    (∃ row, o.store.jobRow? job = some row ∧ row.externalHandle = some handle) ∧
      ∃ e ∈ after, ∃ answer, e.what = ⟨.abandon job handle, answer⟩ := by
  have hlog := ho.sound.history
  have hending : ending ∈ o.past := by
    rw [hpast]
    exact List.mem_append_right _ (List.mem_cons_self ..)
  have habandoned : Abandoned o.past job handle := by
    rcases Office.marked_or_abandoned ho.sound hfirst hunfailing hhandover hwhat hreturned with
      ⟨m, hm, hmark⟩ | htold
    · rw [hspec] at hmark
      exact Office.abandoned_of_marked ho hfirst hunfailing hquiet hm hmark hending hended hgives hrest
    · rwa [hspec] at htold
  obtain ⟨e, he, answer, htold⟩ := habandoned
  obtain ⟨newer, older, hsplit⟩ := List.append_of_mem he
  have hdropped : ∃ row, e.before.jobRow? job = some row ∧ row.Dropped handle := by
    have hlog' := hlog
    rw [hsplit] at hlog'
    have hmay := hlog'.upTo.may
    rw [htold] at hmay
    exact hlog'.upTo.earlier.dropped_of_drops hfirst (Duty.may_abandon hmay)
  obtain ⟨row, hrow, hdropped⟩ := hdropped
  refine ⟨?_, ?_⟩
  · obtain ⟨row', hrow', hlater⟩ := hlog.later_of_before hfirst he hrow
    rw [hdropped.later hlater] at hrow'
    exact ⟨row, hrow', hdropped.handle⟩
  · rw [hpast] at he hlog
    rcases List.mem_append.mp he with hafter | he
    · exact ⟨e, hafter, answer, htold⟩
    · obtain ⟨change, old, hevent⟩ := hlog.upTo.ended hfirst hended
      rcases List.mem_cons.mp he with rfl | hbefore
      · rw [htold] at hended
        exact nomatch hended
      · -- it would have been told about an active job
        obtain ⟨row', hrow', hlater⟩ := hlog.upTo.earlier.later_of_before hfirst hbefore hrow
        rw [hevent.before, Option.some.injEq] at hrow'
        subst hrow'
        have hover := hlater.isActive_of_over hdropped.inactive
        rw [hevent.active] at hover
        exact Bool.noConfusion hover

theorem no_orphans_played :
    (∃ row, Small.overtaken.store.jobRow? default = some row ∧ row.externalHandle = some "h-1") ∧
      ∃ e ∈ Small.overtaken.past, ∃ answer, e.what = ⟨.abandon default "h-1", answer⟩ := by
  have hhandover : ∃ e ∈ Small.overtaken.past,
      e.what.handedOver? = some (default, "h-1") ∧ Small.overtaken.Returned e.doer := by
    decide +kernel
  have hending : ∃ e ∈ Small.overtaken.past, e.what.ended? = some default ∧ e.duty.GivesUp ∧
      Small.overtaken.Returned e.doer := by
    decide +kernel
  obtain ⟨handover, hmem, hgiven, hreturned⟩ := hhandover
  obtain ⟨spec, hspec, hwhat⟩ := Exchange.handedOver?_eq hgiven
  obtain ⟨ending, hmem', hended, hgives, hrest⟩ := hending
  obtain ⟨after, before, hpast⟩ := List.append_of_mem hmem'
  obtain ⟨hrow, e, he, htold⟩ := no_orphans Small.store_reached (Office.reached_played ..)
    (by decide +kernel) (by decide +kernel) hspec hmem hwhat hpast hended hgives hreturned
    (Or.inl hrest)
  refine ⟨hrow, e, ?_, htold⟩
  rw [hpast]
  exact List.mem_append_left _ he

end AnalysisDesk
