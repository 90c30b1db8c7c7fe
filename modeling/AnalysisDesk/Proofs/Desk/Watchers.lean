/-
What the watchers of jobs know.

Whoever has ended a job, or was shown that it is over, knows that it is over from
then on; and whoever has dispatched a job, or found it among those that are
processing, knows when it was dispatched.  These are facts that no write takes
back, so a turn of one leaves alone what the others know.

`Worker.Fits` says what somebody with a duty knows, `Poller.Fits` what a poller
knows: its deadline is the end of the time that its job may take, or it has passed
already.  A poller goes only when its job is over, `Poller.Fits.turn`.
-/
import AnalysisDesk.Proofs.Desk.Office
import AnalysisDesk.Proofs.Desk.Prompt
import AnalysisDesk.Proofs.Store.Stamps

namespace AnalysisDesk

/-! ### Time -/

theorem Instant.IsWhole.lt_of_lt_roundUp {now t : Instant} (hnow : now.IsWhole)
    (h : now.nanos < t.roundUp.nanos) : now.nanos < t.nanos := by
  have hcut : now.nanos / Instant.nanosPerMilli * Instant.nanosPerMilli = now.nanos :=
    congrArg Instant.nanos hnow
  have hup : t.roundUp.nanos
      = -(-t.nanos / Instant.nanosPerMilli) * Instant.nanosPerMilli := rfl
  rw [hup] at h
  unfold Instant.nanosPerMilli at *
  omega

/-! ### What happens to a store -/

section Happening

variable {now : Instant} {s s' : Store} {x : Exchange} {job : JobId}

theorem Happens.continues (h : Happens now s x s') (hs : s.Reached) :
    Store.Continues (Relation.ReflGen JobStatus.Step) s s' := by
  have hstay : Store.Continues (Relation.ReflGen JobStatus.Step) s s := .stay hs.wf fun _ => .refl
  cases h with
  | asked | unanswered | unwritten | elsewhere => exact hstay
  | written change answer _ hrun | unheard change _ answer _ hrun =>
      have hafter : s' = (change.run now s).2 := by rw [hrun]
      rw [hafter]
      cases change with
      | createJob id new => exact hs.continues (.createJob id new) now
      | markDispatched id handle => exact hs.continues (.markDispatched id handle) now
      | recordHandle id handle => exact hs.continues (.recordHandle id handle) now
      | failJob id source reason date =>
          exact hs.continues (.failJob id source reason) (date.getD now)
      | cancelJob id reason => exact hs.continues (.cancelJob id reason) now
      | applyReport id report => exact hs.continues (.applyReport Store.noneRefused id report) now

/-- A mark that was taken has dispatched the job at the time of the mark. -/
theorem Happens.dispatchedAt {handle : String} (h : Happens now s (.marked job handle) s')
    (hs : s.WF) : s'.DispatchedAt job now := by
  have htouched := h.touched hs job
  generalize s.jobRow? job = row? at htouched
  generalize hrow' : s'.jobRow? job = row?' at htouched
  generalize hx : Exchange.marked job handle = x at htouched
  cases htouched with
  | kept _ _ hnot => exact absurd (Or.inr (Or.inl ⟨handle, hx.symm⟩)) hnot
  | dispatched handle' answer row =>
      refine ⟨_, hrow', fun hc => ?_, rfl⟩
      have hlabel : JobStatus.processing.label = JobStatus.pending.label := hc
      exact absurd (JobStatus.label_injective hlabel) (by decide)
  | created | recorded => exact nomatch congrArg Sigma.fst hx
  | ended change _ _ _ hending =>
      have hchange : StoreWrite.markDispatched job handle = change :=
        Action.write.inj (congrArg Sigma.fst hx)
      rw [← hchange] at hending
      exact Bool.noConfusion hending

/-- A job that is processing was processing before, or it was marked just now. -/
theorem Happens.processing (h : Happens now s x s') (hs : s.WF) (hunfailing : ¬ x.Failed)
    {row' : JobRow} (hrow' : s'.jobRow? job = some row')
    (hstatus : row'.status = JobStatus.processing.label) :
    (∃ row, s.jobRow? job = some row ∧ row.status = JobStatus.processing.label) ∨
      ∃ handle, x = .marked job handle := by
  have htouched := h.touched hs job
  rw [hrow'] at htouched
  generalize s.jobRow? job = row? at htouched ⊢
  cases htouched with
  | kept => exact Or.inl ⟨row', rfl, hstatus⟩
  | created =>
      have hlabel : JobStatus.pending.label = JobStatus.processing.label := hstatus
      exact absurd (JobStatus.label_injective hlabel) (by decide)
  | dispatched handle answer row _ hanswer =>
      match answer with
      | .error cause => exact absurd ⟨cause, rfl⟩ hunfailing
      | .ok false => exact absurd rfl hanswer
      | .ok true => exact Or.inr ⟨handle, rfl⟩
  | recorded handle answer row => exact Or.inl ⟨row, rfl, hstatus⟩
  | ended change _ row _ _ _ _ _ _ hover =>
      rw [JobRow.isActive_of_processing hstatus] at hover
      exact Bool.noConfusion hover

/-- An exchange that has ended a job leaves it over. -/
theorem Happens.over (h : Happens now s x s') (hs : s.WF) (hended : x.ended? = some job) :
    s'.Over job := by
  have htouched := h.touched hs job
  generalize s.jobRow? job = row? at htouched
  generalize hrow' : s'.jobRow? job = row?' at htouched
  cases htouched with
  | kept _ _ hnot => exact absurd (Or.inr (Or.inr hended)) hnot
  | created | dispatched | recorded => exact nomatch hended
  | ended change _ row _ _ _ _ _ _ hover => exact ⟨_, hrow', hover⟩

/-- What dismisses the poller of a job that was dispatched says that the job is over. -/
theorem Happens.over_of_dismisses (h : Happens now s x s') (hs : s.Reached)
    {t : Instant} (hdispatched : s.DispatchedAt job t) (hdismisses : x.Dismisses job) :
    s'.Over job := by
  cases hdismisses with
  | ended _ hended => exact h.over hs.wf hended
  | seen found hfound =>
      obtain ⟨hanswer, rfl⟩ := h.answered
      have hjob : s'.job? job = .ok found := hanswer
      refine hdispatched.over fun row hrow hstatus => ?_
      cases found with
      | none =>
          rw [Store.job?_none hjob] at hrow
          exact nomatch hrow
      | some current =>
          obtain ⟨row', hrow', -, hshows⟩ := hs.wf.job?_shows hjob
          obtain rfl := Option.some.inj (hrow.symm.trans hrow')
          exact hfound current rfl
            (JobStatus.label_injective (hshows.status.symm.trans hstatus))
  | declined change answer hjob hsource hdeclined =>
      subst hjob
      have htouched := h.touched hs.wf change.job
      have hover : s.Over change.job := by
        refine hdispatched.over fun row hrow => ?_
        rw [hrow] at htouched
        generalize s'.jobRow? change.job = row?' at htouched
        generalize hx : (⟨.write change, answer⟩ : Exchange) = x at htouched hdeclined
        cases htouched with
        | kept _ _ _ hstands =>
            exact hstands change (by rw [← hx]) rfl hdeclined row rfl .processing hsource
        | dispatched _ _ _ _ hnot | ended _ _ _ _ _ _ _ _ _ _ hnot => exact absurd hdeclined hnot
        | recorded => exact hdeclined.elim
      exact hover.mono (h.continues hs)

end Happening

theorem StoreWrite.endedRow_dispatchedAt (now : Instant) (row : JobRow) (change : StoreWrite) :
    (change.endedRow now row).dispatchedAt = row.dispatchedAt := by
  cases change <;> rfl

/-- A clock of milliseconds stamps jobs with whole milliseconds. -/
theorem Happens.stamped {now : Instant} {s s' : Store} {x : Exchange} (h : Happens now s x s')
    (hs : s.Reached) (hnow : now.IsWhole) (hstamped : s.Stamped) : s'.Stamped := by
  have hs' := (h.reached hs).wf
  intro row' hrow' text htext
  obtain ⟨id, hid⟩ := hs'.named row' hrow'
  have hfound' : s'.jobRow? id = some row' := (Store.jobRow?_eq_some_iff hs'.ids).mpr ⟨hrow', hid⟩
  have htouched := h.touched hs.wf id
  rw [hfound'] at htouched
  generalize hfound : s.jobRow? id = row? at htouched
  cases htouched with
  | kept => exact hstamped row' (Store.jobRow?_mem hfound).1 text htext
  | created => exact nomatch htext
  | dispatched => exact ⟨now, hnow, (Option.some.inj htext).symm⟩
  | recorded handle answer row => exact hstamped row (Store.jobRow?_mem hfound).1 text htext
  | ended change _ row =>
      rw [change.endedRow_dispatchedAt] at htext
      exact hstamped row (Store.jobRow?_mem hfound).1 text htext

/-! ### What everybody knows -/

/-- A scene that came of another one at the same instant. -/
structure Scene.Continues (s s' : Scene) : Prop where
  store : Store.Continues (Relation.ReflGen JobStatus.Step) s.store s'.store
  now : s'.now = s.now

/-- What an exchange tells its worker of the store, now and later. -/
structure Exchange.Tells (s : Store) (x : Exchange) : Prop where
  ended : ∀ job, x.ended? = some job → s.Over job
  listed : ∀ jobs : List Job, x = ⟨.query .processingJobs, .ok jobs⟩ → ∀ job ∈ jobs, ∀ t,
    job.dispatchedAt = some t → t.IsWhole ∧ s.DispatchedAt job.id t

/-- What the poller of a job has learned: if it was dismissed the job is over. -/
def Knows (s : Store) (job : JobId) (past : List Exchange) : Prop :=
  ∀ x ∈ past, ¬ x.Failed ∧ (x.Dismisses job → s.Over job)

theorem Exchange.Tells.mono {s s' : Store} {x : Exchange} (h : x.Tells s)
    (hcontinues : Store.Continues (Relation.ReflGen JobStatus.Step) s s') : x.Tells s' := by
  refine ⟨fun job hended => (h.ended job hended).mono hcontinues, fun jobs hx job hmem t ht => ?_⟩
  obtain ⟨hwhole, hdispatched⟩ := h.listed jobs hx job hmem t ht
  exact ⟨hwhole, hdispatched.mono hcontinues⟩

theorem Happens.tells {now : Instant} {s s' : Store} {x : Exchange} (h : Happens now s x s')
    (hs : s.Reached) (hstamped : s.Stamped) : x.Tells s' := by
  refine ⟨fun job => h.over hs.wf, ?_⟩
  rintro jobs rfl job hmem t ht
  obtain ⟨hanswer, rfl⟩ := h.answered
  exact hstamped.of_listed hs.wf hanswer hmem ht

theorem Knows.over {s : Store} {job : JobId} {past : List Exchange} (h : Knows s job past)
    (hdismissed : Dismissed job past) : s.Over job := by
  obtain ⟨x, hmem, hx⟩ := hdismissed
  exact (h x hmem).2 (hx.resolve_left (h x hmem).1)

theorem Knows.mono {s s' : Store} {job : JobId} {past : List Exchange} (h : Knows s job past)
    (hcontinues : Store.Continues (Relation.ReflGen JobStatus.Step) s s') : Knows s' job past :=
  fun x hmem => ⟨(h x hmem).1, fun hx => ((h x hmem).2 hx).mono hcontinues⟩

/-! ### Workers and pollers -/

variable (settings : DeskSettings)

/-- A worker in a scene, and what it has settled so far. -/
structure Worker.Fits (s : Scene) (past : List Exchange) (worker : Worker) : Prop where
  call : worker.duty.isCall = true
  keeps : worker.task.Keeps s.now
    (fun past action => worker.duty.May settings (milestones past) action ∧ Prompt past action)
    (fun past result => worker.duty.Ends settings past result ∧ ∀ job, ¬ HandingOver past job) past
  tells : ∀ x ∈ past, x.Tells s.store
  handing : ∀ job, HandingOver past job → s.store.DispatchedAt job s.now
  timed : ∀ t job handle rest, past = ⟨.now, t⟩ :: .marked job handle :: rest → t = s.now

/-- A task of a poller, and what the poller knows. -/
def Task.Serves {α : Type} (s : Scene) (job : JobId) (may : List Exchange → Action → Prop)
    (ends : List Exchange → α → Prop) (task : Task α) : Prop :=
  ∃ past, task.Keeps s.now may ends past ∧ Knows s.store job past

/-- A task that checks a job. -/
def Task.Checks (s : Scene) (job : JobId) (handle : String) (task : Task Bool) : Prop :=
  task.Serves s job (fun past action => Desk.CheckMay job handle (milestones past) action ∧ True)
    (fun past goesOn => True ∧ (goesOn = false → Dismissed job past))

/-- A task that expires a job. -/
def Task.Expires (s : Scene) (job : JobId) (task : Task Unit) : Prop :=
  task.Serves s job
    (fun past action => Desk.ExpireMay settings job (milestones past) action ∧
      Desk.WaitsAfterEnding job past action)
    (fun past _ => Desk.ExpireEnds settings job past ∧ Dismissed job past)

/-- A poller is at what it should be at. -/
def Poller.Phase.Fits (s : Scene) (job : JobId) (handle : String) : Poller.Phase → Prop
  | .waiting => True
  | .halted => False
  | .checking task => task.Checks s job handle
  | .expiring task => task.Expires settings s job

/-- A poller in a scene. -/
structure Poller.Fits (s : Scene) (poller : Poller) : Prop where
  deadline : ∃ t : Instant, t.IsWhole ∧ s.store.DispatchedAt poller.job t ∧
    (poller.deadline.nanos ≤ t.nanos + settings.pollTimeout.nanos ∨
      poller.deadline.nanos ≤ s.now.nanos)
  phase : poller.phase.Fits settings s poller.job poller.handle

variable {settings} {s s' : Scene}

theorem Worker.Fits.mono {past : List Exchange} {worker : Worker}
    (h : worker.Fits settings s past) (hs : s.Continues s') : worker.Fits settings s' past := by
  obtain ⟨hcontinues, hnow⟩ := hs
  refine ⟨h.call, hnow ▸ h.keeps, fun x hmem => (h.tells x hmem).mono hcontinues, ?_, hnow ▸ h.timed⟩
  intro job hhanding
  rw [hnow]
  exact (h.handing job hhanding).mono hcontinues

theorem Task.Serves.mono {α : Type} {job : JobId} {may : List Exchange → Action → Prop}
    {ends : List Exchange → α → Prop} {task : Task α} (h : task.Serves s job may ends)
    (hs : s.Continues s') : task.Serves s' job may ends := by
  obtain ⟨past, hkeeps, hknows⟩ := h
  exact ⟨past, hs.now ▸ hkeeps, hknows.mono hs.store⟩

theorem Poller.Fits.mono {poller : Poller} (h : poller.Fits settings s) (hs : s.Continues s') :
    poller.Fits settings s' := by
  obtain ⟨⟨t, hwhole, hdispatched, hdeadline⟩, hphase⟩ := h
  refine ⟨⟨t, hwhole, hdispatched.mono hs.store, hs.now ▸ hdeadline⟩, ?_⟩
  generalize poller.phase = phase at hphase ⊢
  cases phase with
  | waiting => trivial
  | halted => exact hphase
  | checking task => exact Task.Serves.mono hphase hs
  | expiring task => exact Task.Serves.mono hphase hs

/-- Nobody who rests is about to hand a job over. -/
theorem Worker.Fits.not_handingOver {past : List Exchange} {worker : Worker}
    (h : worker.Fits settings s past) (hrests : worker.task.rests = true) (job : JobId) :
    ¬ HandingOver past job := by
  intro hhanding
  rcases h.keeps.of_rests hrests with ⟨result, hends⟩ | ⟨action, ⟨-, hprompt⟩, haction⟩
  · exact hends.2 job hhanding
  · rcases hhanding with ⟨handle, rest, heq⟩ | ⟨handle, t, rest, heq⟩
    · rw [hprompt.clock job handle rest heq] at haction
      exact haction.elim (fun hc => Bool.noConfusion hc) (fun hc => Bool.noConfusion hc)
    · rw [hprompt.watch job handle t rest heq] at haction
      exact haction.elim (fun hc => Bool.noConfusion hc) (fun hc => Bool.noConfusion hc)

/-! ### The clock -/

theorem Worker.Fits.later {past : List Exchange} {worker : Worker} {now : Instant}
    (h : worker.Fits settings s past) (hlater : s.now.nanos ≤ now.nanos)
    (hrests : worker.task.rests = true) : worker.Fits settings { s with now } past := by
  refine ⟨h.call, h.keeps.later hlater, h.tells, ?_, ?_⟩
  · exact fun job hhanding => absurd hhanding (h.not_handingOver hrests job)
  · exact fun t job handle rest heq =>
      absurd (.timed handle t rest heq) (h.not_handingOver hrests job)

theorem Task.Serves.later {α : Type} {job : JobId} {may : List Exchange → Action → Prop}
    {ends : List Exchange → α → Prop} {task : Task α} {now : Instant}
    (h : task.Serves s job may ends) (hlater : s.now.nanos ≤ now.nanos) :
    task.Serves { s with now } job may ends := by
  obtain ⟨past, hkeeps, hknows⟩ := h
  exact ⟨past, hkeeps.later hlater, hknows⟩

theorem Poller.Fits.later {poller : Poller} {now : Instant} (h : poller.Fits settings s)
    (hlater : s.now.nanos ≤ now.nanos) : poller.Fits settings { s with now } := by
  obtain ⟨⟨t, hwhole, hdispatched, hdeadline⟩, hphase⟩ := h
  refine ⟨⟨t, hwhole, hdispatched, hdeadline.imp id fun hpassed => Int.le_trans hpassed hlater⟩, ?_⟩
  generalize poller.phase = phase at hphase ⊢
  cases phase with
  | waiting => trivial
  | halted => exact hphase
  | checking task => exact Task.Serves.later hphase hlater
  | expiring task => exact Task.Serves.later hphase hlater

/-! ### A turn of a poller -/

/-- A scene that came of another one by a turn that starts and ends no watch and marks no job. -/
structure Scene.Passes (s s' : Scene) : Prop where
  continues : s.Continues s'
  settings : s'.settings = s.settings
  pollers : s'.pollers = s.pollers
  reached : s'.store.Reached
  stamped : s'.store.Stamped
  processing : ∀ job row', s'.store.jobRow? job = some row' →
    row'.status = JobStatus.processing.label →
    ∃ row, s.store.jobRow? job = some row ∧ row.status = JobStatus.processing.label

/-- Settings with which a job can be watched whenever the watch begins: pollers tick, and the clock
has room for the ticks and for the deadlines. -/
structure DeskSettings.Watchable (settings : DeskSettings) : Prop where
  ticks : 0 < settings.pollInterval.nanos
  interval : settings.pollInterval.nanos ≤ Scene.longestWait.nanos
  timeout : settings.pollTimeout.nanos ≤ Scene.longestWait.nanos

/-- What a scene must be like for everything that follows. -/
structure Scene.Proper (settings : DeskSettings) (s : Scene) : Prop where
  watchable : settings.Watchable
  settings : s.settings = settings
  reached : s.store.Reached
  stamped : s.store.Stamped
  whole : s.now.IsWhole

theorem Scene.Continues.refl (hreached : s.store.Reached) : s.Continues s :=
  ⟨.stay hreached.wf fun _ => .refl, rfl⟩

theorem Scene.Continues.congr {s'' : Scene} (h : s.Continues s') (hstore : s''.store = s'.store)
    (hnow : s''.now = s'.now) : s.Continues s'' := by
  refine ⟨?_, hnow.trans h.now⟩
  rw [hstore]
  exact h.store

theorem Task.Aside.continues (h : Task.Aside s s') (hreached : s.store.Reached) :
    s.Continues s' := by
  refine ⟨?_, h.now⟩
  rw [h.store]
  exact .stay hreached.wf fun _ => .refl

theorem Task.Settles.continues {x : Exchange} (h : Task.Settles s x s')
    (hreached : s.store.Reached) : s.Continues s' :=
  ⟨h.happens.continues hreached, h.now⟩

/-- The clock has room for the time that a job may take. -/
theorem Scene.Proper.reaches (h : s.Proper settings) :
    s.reaches s.settings.pollTimeout = true := by
  rw [h.settings]
  exact Scene.reaches_of_le h.watchable.timeout s

theorem Scene.Proper.aside (h : s.Proper settings) (haside : Task.Aside s s') :
    s'.Proper settings := by
  refine ⟨h.watchable, haside.settings.trans h.settings, ?_, ?_, ?_⟩
  · rw [haside.store]
    exact h.reached
  · rw [haside.store]
    exact h.stamped
  · rw [haside.now]
    exact h.whole

theorem Scene.Proper.settled {x : Exchange} (h : s.Proper settings)
    (hsettles : Task.Settles s x s') : s'.Proper settings := by
  refine ⟨h.watchable, hsettles.settings.trans h.settings, hsettles.happens.reached h.reached,
    hsettles.happens.stamped h.reached h.whole h.stamped, ?_⟩
  rw [hsettles.now]
  exact h.whole

/-- A turn of a task of a poller. -/
theorem Task.Serves.step {α : Type} {job : JobId} {may : List Exchange → Action → Prop}
    {ends : List Exchange → α → Prop} {task : Task α} (h : task.Serves s job may ends)
    (hs : s.Proper settings) {t : Instant} (hdispatched : s.store.DispatchedAt job t)
    (hanswered : task.isAnswered s = true)
    (hmay : ∀ past action, may past action → s.pollersAfter action = s.pollers ∧
      ∀ job handle, action ≠ .write (.markDispatched job handle)) :
    s.Passes (s.step task).2 ∧ (s.step task).1.Serves (s.step task).2 job may ends := by
  obtain ⟨past, hkeeps, hknows⟩ := h
  cases hkeeps.step hs.reaches hanswered with
  | idle haside hkeeps' =>
      have hcontinues := haside.continues hs.reached
      have hproper := hs.aside haside
      refine ⟨⟨hcontinues, haside.settings, haside.pollers, hproper.reached, hproper.stamped, ?_⟩,
        past, hkeeps', hknows.mono hcontinues.store⟩
      intro other row hrow hstatus
      rw [haside.store] at hrow
      exact ⟨row, hrow, hstatus⟩
  | settled x hx hsettles hkeeps' =>
      obtain ⟨hpollers, hmark⟩ := hmay past x.1 hx
      have hcontinues := hsettles.continues hs.reached
      have hproper := hs.settled hsettles
      refine ⟨⟨hcontinues, hsettles.settings, hsettles.pollers.trans hpollers, hproper.reached,
        hproper.stamped, ?_⟩, x :: past, hkeeps', ?_⟩
      · intro other row' hrow' hstatus
        rcases hsettles.happens.processing hs.reached.wf hsettles.unfailing hrow' hstatus with
          hbefore | ⟨handle, rfl⟩
        · exact hbefore
        · exact absurd rfl (hmark other handle)
      · intro y hy
        rcases List.mem_cons.mp hy with rfl | hy
        · exact ⟨hsettles.unfailing, hsettles.happens.over_of_dismisses hs.reached hdispatched⟩
        · exact hknows.mono hcontinues.store y hy

private theorem check_isPolite {job : JobId} {handle : String} {ms : List Exchange} {action : Action}
    (h : Desk.CheckMay job handle ms action) (s : Scene) : s.pollersAfter action = s.pollers ∧
      ∀ job handle, action ≠ .write (.markDispatched job handle) := by
  cases h with
  | look | poll | malformed | rejected => exact ⟨rfl, fun _ _ hc => nomatch hc⟩
  | ingest _ _ _ _ h => cases h <;> exact ⟨rfl, fun _ _ hc => nomatch hc⟩

private theorem expire_isPolite {job : JobId} {ms : List Exchange} {action : Action}
    (h : Desk.ExpireMay settings job ms action) (s : Scene) : s.pollersAfter action = s.pollers ∧
      ∀ job handle, action ≠ .write (.markDispatched job handle) := by
  cases h <;> exact ⟨rfl, fun _ _ hc => nomatch hc⟩

/-- What may become of a poller at its turn: it goes on, or its job is over. -/
def Poller.Left (settings : DeskSettings) (s : Scene) (job : JobId) : Option Poller → Prop
  | some poller => poller.job = job ∧ poller.Fits settings s
  | none => s.store.Over job

section Turning

variable {poller : Poller}

theorem Scene.Proper.passes (h : s.Proper settings) : s.Passes s :=
  ⟨.refl h.reached, rfl, rfl, h.reached, h.stamped, fun _ row hrow hstatus => ⟨row, hrow, hstatus⟩⟩

/-- A poller that goes on, perhaps with something else. -/
theorem Poller.Fits.goesOn (h : poller.Fits settings s) (hpasses : s.Passes s') (nextTick : Instant)
    {phase : Poller.Phase} (hphase : phase.Fits settings s' poller.job poller.handle) :
    Poller.Left settings s' poller.job (some { poller with nextTick, phase }) := by
  obtain ⟨t, hwhole, hdispatched, hdeadline⟩ := h.deadline
  exact ⟨rfl, ⟨t, hwhole, hdispatched.mono hpasses.continues.store,
    hpasses.continues.now ▸ hdeadline⟩, hphase⟩

/-- A poller that has waited. -/
private theorem Poller.Fits.awaken (h : poller.Fits settings s) (hs : s.Proper settings)
    (hphase : poller.phase = .waiting) :
    Poller.Left settings s poller.job (some (poller.awaken s)) := by
  have hstay : Poller.Left settings s poller.job (some { poller with phase := .waiting }) :=
    h.goesOn hs.passes poller.nextTick trivial
  unfold Poller.awaken
  split
  · refine h.goesOn hs.passes poller.nextTick ⟨[], ?_, fun x hx => nomatch hx⟩
    rw [hs.settings]
    exact (Desk.expireJob_keeps settings poller.job).and (Desk.expireJob_dismissed settings poller.job)
  · split
    · refine h.goesOn hs.passes _ ⟨[], ?_, fun x hx => nomatch hx⟩
      exact (Desk.checkJob_keeps poller.job poller.handle).and
        (Desk.checkJob_dismissed poller.job poller.handle)
    · rwa [← hphase] at hstay

/-- A poller that checks its job. -/
private theorem Poller.Fits.check (h : poller.Fits settings s) (hs : s.Proper settings)
    {task : Task Bool} (hphase : poller.phase = .checking task)
    (hanswered : task.isAnswered s = true) :
    s.Passes (poller.turn Scene.step s).2 ∧
      Poller.Left settings (poller.turn Scene.step s).2 poller.job
        (poller.turn Scene.step s).1 := by
  obtain ⟨t, -, hdispatched, -⟩ := h.deadline
  have hchecks : task.Checks s poller.job poller.handle := by
    have hfits := h.phase
    rwa [hphase] at hfits
  obtain ⟨hpasses, hserves⟩ := Task.Serves.step hchecks hs hdispatched hanswered
    fun past action hmay => check_isPolite hmay.1 s
  unfold Poller.turn
  rw [hphase]
  dsimp only
  generalize s.step task = outcome at hpasses hserves ⊢
  obtain ⟨task', s'⟩ := outcome
  match task' with
  | .ready (.done true) => exact ⟨hpasses, h.goesOn hpasses _ trivial⟩
  | .ready (.done false) =>
      obtain ⟨past, hends, hknows⟩ := hserves
      exact ⟨hpasses, hknows.over (hends.2 rfl)⟩
  | .ready (.collapse cause) =>
      obtain ⟨past, hkeeps, -⟩ := hserves
      exact hkeeps.elim
  | .ready (.act action next) => exact ⟨hpasses, h.goesOn hpasses _ hserves⟩
  | .waiting wake action held next => exact ⟨hpasses, h.goesOn hpasses _ hserves⟩

/-- A poller that expires its job. -/
private theorem Poller.Fits.expire (h : poller.Fits settings s) (hs : s.Proper settings)
    {task : Task Unit} (hphase : poller.phase = .expiring task)
    (hanswered : task.isAnswered s = true) :
    s.Passes (poller.turn Scene.step s).2 ∧
      Poller.Left settings (poller.turn Scene.step s).2 poller.job
        (poller.turn Scene.step s).1 := by
  obtain ⟨t, -, hdispatched, -⟩ := h.deadline
  have hexpires : task.Expires settings s poller.job := by
    have hfits := h.phase
    rwa [hphase] at hfits
  obtain ⟨hpasses, hserves⟩ := Task.Serves.step hexpires hs hdispatched hanswered
    fun past action hmay => expire_isPolite hmay.1 s
  unfold Poller.turn
  rw [hphase]
  dsimp only
  generalize s.step task = outcome at hpasses hserves ⊢
  obtain ⟨task', s'⟩ := outcome
  match task' with
  | .ready (.done ()) =>
      obtain ⟨past, hends, hknows⟩ := hserves
      exact ⟨hpasses, hknows.over hends.2⟩
  | .ready (.collapse cause) =>
      obtain ⟨past, hkeeps, -⟩ := hserves
      exact hkeeps.elim
  | .ready (.act action next) => exact ⟨hpasses, h.goesOn hpasses _ hserves⟩
  | .waiting wake action held next => exact ⟨hpasses, h.goesOn hpasses _ hserves⟩

/-- **A turn of a poller.** -/
theorem Poller.Fits.turn (h : poller.Fits settings s) (hs : s.Proper settings)
    (hanswered : poller.isAnswered s = true) :
    s.Passes (poller.turn Scene.step s).2 ∧
      Poller.Left settings (poller.turn Scene.step s).2 poller.job
        (poller.turn Scene.step s).1 := by
  unfold Poller.isAnswered at hanswered
  cases hphase : poller.phase with
  | halted =>
      have hfits := h.phase
      rw [hphase] at hfits
      exact hfits.elim
  | waiting =>
      have hturn : poller.turn Scene.step s = (some (poller.awaken s), s) := by
        unfold Poller.turn
        rw [hphase]
      rw [hturn]
      exact ⟨hs.passes, h.awaken hs hphase⟩
  | checking task =>
      rw [hphase] at hanswered
      exact h.check hs hphase hanswered
  | expiring task =>
      rw [hphase] at hanswered
      exact h.expire hs hphase hanswered

end Turning

/-! ### The pollers after an action -/

/-- The poller that is started on a job. -/
def Scene.posted (s : Scene) (job : JobId) (handle : String) (dispatchedAt : Instant) : Poller where
  job := job
  handle := handle
  deadline := s.now.after (s.timeLeft dispatchedAt)
  nextTick := s.now.after s.settings.pollInterval
  phase :=
    if 0 < s.settings.pollInterval.nanos ∧ s.reaches s.settings.pollInterval then .waiting
    else .halted

theorem Scene.mem_pollersAfter {action : Action} {poller : Poller}
    (h : poller ∈ s.pollersAfter action) :
    poller ∈ s.pollers ∨
      ∃ job handle t, action = .startPoller job handle t ∧ poller = s.posted job handle t := by
  cases action with
  | startPoller job handle t =>
      rcases List.mem_append.mp h with h | h
      · exact Or.inl (List.mem_filter.mp h).1
      · exact Or.inr ⟨job, handle, t, rfl, List.mem_singleton.mp h⟩
  | stopPoller job => exact Or.inl (List.mem_filter.mp h).1
  | stopAllPollers => exact nomatch h
  | query | write | enqueue | poll | abandon | sleep | now | freshId => exact Or.inl h

theorem Scene.posted_mem_pollersAfter (s : Scene) (job : JobId) (handle : String) (t : Instant) :
    s.posted job handle t ∈ s.pollersAfter (.startPoller job handle t) :=
  List.mem_append_right _ (List.mem_singleton_self _)

/-- Only an action that ends the watch on a job takes its poller away. -/
theorem Scene.pollersAfter_of_mem {action : Action} {poller : Poller} (h : poller ∈ s.pollers)
    (hstays : action.endsWatch poller.job = false) : poller ∈ s.pollersAfter action := by
  have hkept : ∀ {job : JobId}, job ≠ poller.job → poller ∈ (s.stopPoller job).pollers := by
    intro job hne
    exact List.mem_filter.mpr ⟨h, by simpa using hne.symm⟩
  cases action with
  | startPoller job handle t =>
      exact List.mem_append_left _ (hkept (of_decide_eq_false hstays))
  | stopPoller job => exact hkept (of_decide_eq_false hstays)
  | stopAllPollers => exact Bool.noConfusion hstays
  | query | write | enqueue | poll | abandon | sleep | now | freshId => exact h

/-- A poller after the turn of one of them. -/
theorem Scene.mem_putPoller {job : JobId} {put : Option Poller} {poller : Poller}
    (h : poller ∈ (s.putPoller job put).pollers) :
    (poller ∈ s.pollers ∧ poller.job ≠ job) ∨ put = some poller := by
  cases put with
  | none =>
      obtain ⟨hmem, hne⟩ := List.mem_filter.mp h
      exact Or.inl ⟨hmem, by simpa using hne⟩
  | some new =>
      obtain ⟨old, hmem, hold⟩ := List.mem_map.mp h
      by_cases hjob : old.job = job
      · rw [if_pos hjob] at hold
        exact Or.inr (congrArg some hold)
      · rw [if_neg hjob] at hold
        subst hold
        exact Or.inl ⟨hmem, hjob⟩

/-- The other pollers stay. -/
theorem Scene.mem_putPoller_of_ne {job : JobId} (put : Option Poller) {poller : Poller}
    (h : poller ∈ s.pollers) (hne : poller.job ≠ job) : poller ∈ (s.putPoller job put).pollers := by
  cases put with
  | none => exact List.mem_filter.mpr ⟨h, by simpa using hne⟩
  | some new => exact List.mem_map.mpr ⟨poller, h, if_neg hne⟩

theorem Scene.mem_putPoller_self {job : JobId} {poller new : Poller} (h : poller ∈ s.pollers)
    (hjob : poller.job = job) : new ∈ (s.putPoller job (some new)).pollers :=
  List.mem_map.mpr ⟨poller, h, if_pos hjob⟩

theorem Scene.putPoller_aside (s : Scene) (job : JobId) (put : Option Poller) :
    (s.putPoller job put).settings = s.settings ∧ (s.putPoller job put).store = s.store ∧
      (s.putPoller job put).now = s.now := by
  cases put <;> exact ⟨rfl, rfl, rfl⟩

/-- A poller goes no longer than its job may take, or its time is up at once. -/
theorem Scene.posted_deadline (s : Scene) (job : JobId) (handle : String) (t : Instant) :
    (s.posted job handle t).deadline.nanos ≤ t.nanos + s.settings.pollTimeout.nanos ∨
      (s.posted job handle t).deadline.nanos ≤ s.now.nanos := by
  have hdeadline : (s.posted job handle t).deadline.nanos
      = s.now.nanos + ((s.settings.pollTimeout.nanos - (s.now.nanos - t.nanos).toNat : Nat) : Int) :=
    rfl
  omega

/-- A poller that is started on a job that was dispatched. -/
theorem Scene.Proper.posted_fits (h : s.Proper settings) {job : JobId} {t : Instant}
    (hwhole : t.IsWhole) (hdispatched : s.store.DispatchedAt job t) (handle : String) :
    (s.posted job handle t).Fits settings s := by
  refine ⟨⟨t, hwhole, hdispatched, ?_⟩, ?_⟩
  · have hdeadline := s.posted_deadline job handle t
    rwa [h.settings] at hdeadline
  · have hphase : (s.posted job handle t).phase = .waiting := by
      refine if_pos ?_
      rw [h.settings]
      exact ⟨h.watchable.ticks, Scene.reaches_of_le h.watchable.interval s⟩
    rw [hphase]
    trivial

/-! ### A turn of a worker -/

section Working

variable {past : List Exchange} {worker : Worker} {x : Exchange}

/-- What a worker knows after one more exchange. -/
theorem Worker.Fits.settled (h : worker.Fits settings s past) (hs : s.Proper settings)
    (hsettles : Task.Settles s x s') {task' : Task worker.duty.Result}
    (hkeeps : task'.Keeps s'.now
      (fun past action => worker.duty.May settings (milestones past) action ∧ Prompt past action)
      (fun past result => worker.duty.Ends settings past result ∧ ∀ job, ¬ HandingOver past job)
      (x :: past)) :
    (⟨worker.duty, task'⟩ : Worker).Fits settings s' (x :: past) := by
  have hcontinues := hsettles.continues hs.reached
  refine ⟨h.call, hkeeps, ?_, ?_, ?_⟩
  · intro y hy
    rcases List.mem_cons.mp hy with rfl | hy
    · exact hsettles.happens.tells hs.reached hs.stamped
    · exact (h.tells y hy).mono hcontinues.store
  · intro job hhanding
    rw [hsettles.now]
    rcases hhanding with ⟨handle, rest, heq⟩ | ⟨handle, t, rest, heq⟩
    · obtain rfl := (List.cons.inj heq).1
      exact hsettles.happens.dispatchedAt hs.reached.wf
    · exact (h.handing job (.marked handle rest (List.cons.inj heq).2)).mono hcontinues.store
  · intro t job handle rest heq
    rw [hsettles.now]
    exact hsettles.clock t (List.cons.inj heq).1

/-- Whoever begins a watch knows when the job was dispatched. -/
theorem Worker.Fits.dispatchedAt (h : worker.Fits settings s past) (hs : s.Proper settings)
    {job : JobId} {handle : String} {t : Instant} (hwatch : MayWatch past job handle t) :
    t.IsWhole ∧ s.store.DispatchedAt job t := by
  cases hwatch with
  | marked rest heq =>
      obtain rfl := h.timed t job handle rest heq
      exact ⟨hs.whole, h.handing job (.timed handle _ rest heq)⟩
  | listed jobs hlisted listed hmem hid hdispatched =>
      obtain rfl := hid
      exact (h.tells _ hlisted).listed jobs rfl listed hmem t hdispatched

/-- Whoever ends the watch on a job without beginning another one knows that the job is over. -/
theorem Worker.Fits.over_of_endsWatch (h : worker.Fits settings s past) {job : JobId}
    {action : Action} (hmay : worker.duty.May settings (milestones past) action)
    (hends : action.endsWatch job = true) :
    s.store.Over job ∨ ∃ handle t, action = .startPoller job handle t := by
  cases action with
  | startPoller other handle t =>
      obtain rfl : other = job := of_decide_eq_true hends
      exact Or.inr ⟨handle, t, rfl⟩
  | stopPoller other =>
      obtain rfl : other = job := of_decide_eq_true hends
      obtain ⟨-, y, hy, hended⟩ := Duty.may_stopPoller hmay
      exact Or.inl ((h.tells y (mem_of_mem_milestones hy)).ended other hended)
  | stopAllPollers =>
      have hshutdown := Duty.may_stopAllPollers hmay
      have hcall := h.call
      rw [hshutdown] at hcall
      exact Bool.noConfusion hcall
  | query | write | enqueue | poll | abandon | sleep | now | freshId => exact Bool.noConfusion hends

end Working

end AnalysisDesk
