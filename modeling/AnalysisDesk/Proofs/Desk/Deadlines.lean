/-
No job is stuck in processing.

A job is processing from the mark of its submission to its end, and all that time
somebody is there who will see to it that it ends: first the submission itself,
which starts the poller before the clock can move, and then the poller, which
leaves only when its job is over, is stopped only by somebody who has ended the
job, and is replaced only by another one.  Its deadline is the end of the time that
the job may take, or it has passed already; so at any instant at which nobody has
anything to do it lies ahead, unless the poller waits for the analyzer to say how
the job stands.

`Shift.Sound` is the invariant, with one lemma for each kind of step.
-/
import AnalysisDesk.Proofs.Desk.Play
import AnalysisDesk.Proofs.Desk.Watchers

namespace AnalysisDesk

variable {settings : DeskSettings} {s : Scene}

/-! ### Shifts -/

namespace Shift

variable {pasts : Nat → List Exchange} {w w' : Shift}

/-- Somebody watches a job, or is about to. -/
def Attended (pasts : Nat → List Exchange) (w : Shift) (job : JobId) : Prop :=
  (∃ poller ∈ w.scene.pollers, poller.job = job) ∨
    ∃ (place : Nat) (worker : Worker), w.workers[place]? = some worker ∧
      HandingOver (pasts place) job

/-- What holds of a shift at all times.  `pasts` is what its workers have settled. -/
structure Sound (settings : DeskSettings) (pasts : Nat → List Exchange) (w : Shift) : Prop where
  proper : w.scene.Proper settings
  workers : ∀ (place : Nat) (worker : Worker), w.workers[place]? = some worker →
    worker.Fits settings w.scene (pasts place)
  pollers : ∀ poller ∈ w.scene.pollers, poller.Fits settings w.scene
  attended : ∀ job row, w.scene.store.jobRow? job = some row →
    row.status = JobStatus.processing.label → w.Attended pasts job

/-- A worker who was there before somebody came, or who came. -/
private theorem worker_of_append {newcomer worker : Worker} {place : Nat}
    (h : (w.workers ++ [newcomer])[place]? = some worker) :
    (place = w.workers.length ∧ worker = newcomer) ∨
      (place ≠ w.workers.length ∧ w.workers[place]? = some worker) := by
  rcases Nat.lt_trichotomy place w.workers.length with hlt | rfl | hgt
  · rw [List.getElem?_append_left hlt] at h
    exact Or.inr ⟨Nat.ne_of_lt hlt, h⟩
  · rw [List.getElem?_append_right (Nat.le_refl _), Nat.sub_self] at h
    exact Or.inl ⟨rfl, (Option.some.inj h).symm⟩
  · rw [List.getElem?_eq_none (by simpa using Nat.succ_le_of_lt hgt)] at h
    exact absurd h.symm (Option.some_ne_none worker)

/-- Somebody who has done nothing yet. -/
private theorem fits_begin (h : s.Proper settings) {duty : Duty} (hcall : duty.isCall = true) :
    (⟨duty, .ready (duty.flow s.settings)⟩ : Worker).Fits settings s [] := by
  refine ⟨hcall, ?_, fun _ hx => (nomatch hx), ?_, fun _ _ _ _ hc => nomatch hc⟩
  · rw [h.settings]
    exact (duty.keeps settings).and (duty.beginsPromptly settings)
  · rintro job (⟨_, _, hc⟩ | ⟨_, _, _, hc⟩) <;> exact nomatch hc

/-- Somebody begins a duty. -/
private theorem Sound.begin (h : w.Sound settings pasts) {duty : Duty} (hcall : duty.isCall = true) :
    ∃ pasts', Sound settings pasts'
      { w with workers := w.workers ++ [⟨duty, .ready (duty.flow w.scene.settings)⟩] } := by
  refine ⟨Function.update pasts w.workers.length [], h.proper, ?_, h.pollers, ?_⟩
  · intro place worker hworker
    rcases worker_of_append hworker with ⟨rfl, rfl⟩ | ⟨hne, hold⟩
    · rw [Function.update_self]
      exact fits_begin h.proper hcall
    · rw [Function.update_of_ne hne]
      exact h.workers place worker hold
  · intro job row hrow hstatus
    rcases h.attended job row hrow hstatus with hwatched | ⟨place, worker, hworker, hhanding⟩
    · exact Or.inl hwatched
    · have hlt := (List.getElem?_eq_some_iff.mp hworker).1
      refine Or.inr ⟨place, worker, ?_, ?_⟩
      · rw [List.getElem?_append_left hlt]
        exact hworker
      · rw [Function.update_of_ne (Nat.ne_of_lt hlt)]
        exact hhanding

/-- The workers after the turn of one of them. -/
private theorem getElem?_afterWork {place : Nat} {worker : Worker}
    (hworker : w.workers[place]? = some worker) (place' : Nat) :
    (w.afterWork place worker).workers[place']?
      = if place' = place then some ⟨worker.duty, (w.scene.step worker.task).1⟩
        else w.workers[place']? := by
  show (w.workers.set place _)[place']? = _
  rw [List.getElem?_set]
  by_cases hplace : place' = place
  · subst hplace
    rw [if_pos rfl, if_pos (List.getElem?_eq_some_iff.mp hworker).1, if_pos rfl]
  · rw [if_neg fun hc => hplace hc.symm, if_neg hplace]

/-- Nobody goes away. -/
private theorem present_afterWork {place place' : Nat} {worker worker' : Worker}
    (hworker : w.workers[place]? = some worker) (hworker' : w.workers[place']? = some worker') :
    ∃ worker'', (w.afterWork place worker).workers[place']? = some worker'' := by
  rw [getElem?_afterWork hworker]
  by_cases hplace : place' = place
  · exact ⟨_, if_pos hplace⟩
  · rw [if_neg hplace]
    exact ⟨worker', hworker'⟩

/-- Somebody goes on, and nothing is settled by it. -/
private theorem Sound.workAside (h : w.Sound settings pasts) {place : Nat} {worker : Worker}
    (hworker : w.workers[place]? = some worker)
    (haside : Task.Aside w.scene (w.scene.step worker.task).2)
    (hfits : (⟨worker.duty, (w.scene.step worker.task).1⟩ : Worker).Fits settings
      (w.scene.step worker.task).2 (pasts place)) :
    (w.afterWork place worker).Sound settings pasts := by
  have hcontinues := haside.continues h.proper.reached
  refine ⟨h.proper.aside haside, ?_, ?_, ?_⟩
  · intro place' worker' hworker'
    rw [getElem?_afterWork hworker] at hworker'
    by_cases hplace : place' = place
    · subst hplace
      rw [if_pos rfl] at hworker'
      obtain rfl := Option.some.inj hworker'
      exact hfits
    · rw [if_neg hplace] at hworker'
      exact (h.workers place' worker' hworker').mono hcontinues
  · intro poller hpoller
    have hold : poller ∈ w.scene.pollers := haside.pollers ▸ hpoller
    exact (h.pollers poller hold).mono hcontinues
  · intro job row hrow hstatus
    have hrow' : (w.scene.step worker.task).2.store.jobRow? job = some row := hrow
    rw [haside.store] at hrow'
    rcases h.attended job row hrow' hstatus with ⟨poller, hpoller, hjob⟩ | ⟨place', worker', hworker', hhanding⟩
    · exact Or.inl ⟨poller, haside.pollers ▸ hpoller, hjob⟩
    · obtain ⟨worker'', hworker''⟩ := present_afterWork hworker hworker'
      exact Or.inr ⟨place', worker'', hworker'', hhanding⟩

section Settled

variable {place : Nat} {worker : Worker} {x : Exchange} {job : JobId}

/-- Whoever goes on may be about to watch a job. -/
private theorem attended_of_self (hworker : w.workers[place]? = some worker)
    (hhanding : HandingOver (x :: pasts place) job) :
    (w.afterWork place worker).Attended (Function.update pasts place (x :: pasts place)) job := by
  obtain ⟨worker', hworker'⟩ := present_afterWork hworker hworker
  refine Or.inr ⟨place, worker', hworker', ?_⟩
  rw [Function.update_self]
  exact hhanding

/-- Whoever goes on may have begun to watch a job. -/
private theorem attended_of_started
    (hsettles : Task.Settles w.scene x (w.scene.step worker.task).2) {handle : String} {t : Instant}
    (haction : x.1 = .startPoller job handle t) (pasts' : Nat → List Exchange) :
    (w.afterWork place worker).Attended pasts' job := by
  refine Or.inl ⟨w.scene.posted job handle t, ?_, rfl⟩
  show _ ∈ (w.scene.step worker.task).2.pollers
  rw [hsettles.pollers, haction]
  exact w.scene.posted_mem_pollersAfter job handle t

/-- Somebody was about to watch a job, and does so or still is about to. -/
private theorem attended_of_handingOver (hworker : w.workers[place]? = some worker)
    (hsettles : Task.Settles w.scene x (w.scene.step worker.task).2)
    (hprompt : Prompt (pasts place) x.1) {place' : Nat} {worker' : Worker}
    (hworker' : w.workers[place']? = some worker') (hhanding : HandingOver (pasts place') job) :
    (w.afterWork place worker).Attended (Function.update pasts place (x :: pasts place)) job := by
  by_cases hplace : place' = place
  · subst hplace
    obtain ⟨action, answer⟩ := x
    rcases hhanding with ⟨handle, rest, heq⟩ | ⟨handle, t, rest, heq⟩
    · obtain rfl : action = .now := hprompt.clock job handle rest heq
      exact attended_of_self hworker (.timed handle answer rest (by rw [heq]))
    · exact attended_of_started hsettles (hprompt.watch job handle t rest heq) _
  · obtain ⟨worker'', hworker''⟩ := present_afterWork hworker hworker'
    refine Or.inr ⟨place', worker'', hworker'', ?_⟩
    rw [Function.update_of_ne hplace]
    exact hhanding

/-- A job that is not over keeps its poller, or gets another one. -/
private theorem attended_of_watched (hwas : worker.Fits settings w.scene (pasts place))
    (hmay : worker.duty.May settings (milestones (pasts place)) x.1)
    (hsettles : Task.Settles w.scene x (w.scene.step worker.task).2) {poller : Poller}
    (hpoller : poller ∈ w.scene.pollers) (hnot : ¬ w.scene.store.Over poller.job)
    (pasts' : Nat → List Exchange) : (w.afterWork place worker).Attended pasts' poller.job := by
  cases hends : x.1.endsWatch poller.job with
  | false =>
      refine Or.inl ⟨poller, ?_, rfl⟩
      show _ ∈ (w.scene.step worker.task).2.pollers
      rw [hsettles.pollers]
      exact Scene.pollersAfter_of_mem hpoller hends
  | true =>
      rcases hwas.over_of_endsWatch hmay hends with hover | ⟨handle, t, haction⟩
      · exact absurd hover hnot
      · exact attended_of_started hsettles haction pasts'

/-- Somebody goes on, and something is settled by it. -/
private theorem Sound.workSettled (h : w.Sound settings pasts)
    (hworker : w.workers[place]? = some worker)
    (hmay : worker.duty.May settings (milestones (pasts place)) x.1 ∧ Prompt (pasts place) x.1)
    (hsettles : Task.Settles w.scene x (w.scene.step worker.task).2)
    (hfits : (⟨worker.duty, (w.scene.step worker.task).1⟩ : Worker).Fits settings
      (w.scene.step worker.task).2 (x :: pasts place)) :
    (w.afterWork place worker).Sound settings (Function.update pasts place (x :: pasts place)) := by
  have hcontinues := hsettles.continues h.proper.reached
  have hwas := h.workers place worker hworker
  refine ⟨h.proper.settled hsettles, ?_, ?_, ?_⟩
  · intro place' worker' hworker'
    rw [getElem?_afterWork hworker] at hworker'
    by_cases hplace : place' = place
    · subst hplace
      rw [if_pos rfl] at hworker'
      obtain rfl := Option.some.inj hworker'
      rw [Function.update_self]
      exact hfits
    · rw [if_neg hplace] at hworker'
      rw [Function.update_of_ne hplace]
      exact (h.workers place' worker' hworker').mono hcontinues
  · intro poller hpoller
    have hafter : poller ∈ w.scene.pollersAfter x.1 := hsettles.pollers ▸ hpoller
    rcases Scene.mem_pollersAfter hafter with hold | ⟨job, handle, t, haction, rfl⟩
    · exact (h.pollers poller hold).mono hcontinues
    · obtain ⟨hwhole, hdispatched⟩ := hwas.dispatchedAt h.proper (hmay.2.source job handle t haction)
      exact (h.proper.posted_fits hwhole hdispatched handle).mono hcontinues
  · intro job row hrow hstatus
    rcases hsettles.happens.processing h.proper.reached.wf hsettles.unfailing hrow hstatus with
      ⟨row', hrow', hstatus'⟩ | ⟨handle, rfl⟩
    · rcases h.attended job row' hrow' hstatus' with
        ⟨poller, hpoller, rfl⟩ | ⟨place', worker', hworker', hhanding⟩
      · exact attended_of_watched hwas hmay.1 hsettles hpoller
          (fun hover => hover.not_processing hrow' hstatus') _
      · exact attended_of_handingOver hworker hsettles hmay.2 hworker' hhanding
    · exact attended_of_self hworker (.marked handle _ rfl)

end Settled

private theorem Sound.work (h : w.Sound settings pasts) {place : Nat} {worker : Worker}
    (hworker : w.workers[place]? = some worker)
    (hanswered : worker.task.isAnswered w.scene = true) :
    ∃ pasts', (w.afterWork place worker).Sound settings pasts' := by
  have hwas := h.workers place worker hworker
  cases hwas.keeps.step h.proper.reaches hanswered with
  | idle haside hkeeps =>
      refine ⟨pasts, h.workAside hworker haside ?_⟩
      have hthen := hwas.mono (haside.continues h.proper.reached)
      exact ⟨hthen.call, hkeeps, hthen.tells, hthen.handing, hthen.timed⟩
  | settled x hmay hsettles hkeeps =>
      exact ⟨_, h.workSettled hworker hmay hsettles
        (hwas.settled h.proper hsettles hkeeps)⟩

/-! ### Turns of pollers, and the clock -/

/-- The scene goes on while all workers stand still. -/
private theorem Sound.onward (h : w.Sound settings pasts) {s' : Scene}
    (hcontinues : w.scene.Continues s') (hproper : s'.Proper settings)
    (hpollers : ∀ poller ∈ s'.pollers, poller.Fits settings s')
    (hattended : ∀ job row, s'.store.jobRow? job = some row →
      row.status = JobStatus.processing.label →
      (∃ row', w.scene.store.jobRow? job = some row' ∧
        row'.status = JobStatus.processing.label) ∧
      ∀ poller ∈ w.scene.pollers, poller.job = job → ∃ poller' ∈ s'.pollers, poller'.job = job) :
    Sound settings pasts { w with scene := s' } := by
  refine ⟨hproper, ?_, hpollers, ?_⟩
  · exact fun place worker hworker => (h.workers place worker hworker).mono hcontinues
  · intro job row hrow hstatus
    obtain ⟨⟨row', hrow', hstatus'⟩, hkept⟩ := hattended job row hrow hstatus
    rcases h.attended job row' hrow' hstatus' with ⟨poller, hpoller, hjob⟩ | hhanding
    · exact Or.inl (hkept poller hpoller hjob)
    · exact Or.inr hhanding

/-- A poller takes a turn. -/
private theorem Sound.turn (h : w.Sound settings pasts) {poller : Poller}
    (hpoller : w.scene.poller? poller.job = some poller)
    (hanswered : poller.isAnswered w.scene = true) :
    Sound settings pasts { w with scene := w.scene.turnPoller Scene.step poller.job } := by
  have hmem : poller ∈ w.scene.pollers := List.mem_of_find?_eq_some hpoller
  obtain ⟨hpasses, hleft⟩ := (h.pollers poller hmem).turn h.proper hanswered
  have hturn : w.scene.turnPoller Scene.step poller.job
      = (poller.turn Scene.step w.scene).2.putPoller poller.job
          (poller.turn Scene.step w.scene).1 := by
    unfold Scene.turnPoller
    rw [hpoller]
  rw [hturn]
  generalize poller.turn Scene.step w.scene = outcome at hpasses hleft ⊢
  obtain ⟨poller', s'⟩ := outcome
  obtain ⟨hsettings, hstore, hnow⟩ := s'.putPoller_aside poller.job poller'
  have hput : s'.Continues (s'.putPoller poller.job poller') :=
    (Scene.Continues.refl hpasses.reached).congr hstore hnow
  refine h.onward (hpasses.continues.congr hstore hnow) ⟨h.proper.watchable, ?_, ?_, ?_, ?_⟩ ?_ ?_
  · exact (hsettings.trans hpasses.settings).trans h.proper.settings
  · rw [hstore]
    exact hpasses.reached
  · rw [hstore]
    exact hpasses.stamped
  · rw [hnow, hpasses.continues.now]
    exact h.proper.whole
  · intro other hother
    rcases Scene.mem_putPoller hother with ⟨hold, -⟩ | rfl
    · rw [hpasses.pollers] at hold
      exact ((h.pollers other hold).mono hpasses.continues).mono hput
    · exact hleft.2.mono hput
  · intro job row hrow hstatus
    rw [hstore] at hrow
    refine ⟨hpasses.processing job row hrow hstatus, ?_⟩
    rintro other hother rfl
    rw [← hpasses.pollers] at hother
    by_cases hjob : other.job = poller.job
    · match poller' with
      | some new => exact ⟨new, Scene.mem_putPoller_self hother hjob, hleft.1.trans hjob.symm⟩
      | none =>
          rw [hjob] at hrow
          exact absurd hstatus (Store.Over.not_processing hleft hrow)
    · exact ⟨other, Scene.mem_putPoller_of_ne poller' hother hjob, rfl⟩

/-- The analyzer comes to answer and identifiers to be drawn otherwise. -/
private theorem Sound.surprise (h : w.Sound settings pasts) (analyzer : Script) (issued : Nat) :
    Sound settings pasts { w with scene := { w.scene with analyzer, issued } } := by
  have hcontinues : w.scene.Continues { w.scene with analyzer, issued } :=
    (Scene.Continues.refl h.proper.reached).congr rfl rfl
  refine h.onward hcontinues
    ⟨h.proper.watchable, h.proper.settings, h.proper.reached, h.proper.stamped, h.proper.whole⟩
    (fun poller hpoller => (h.pollers poller hpoller).mono hcontinues) ?_
  intro job row hrow hstatus
  exact ⟨⟨row, hrow, hstatus⟩, fun poller hpoller hjob => ⟨poller, hpoller, hjob⟩⟩

/-- The clock moves while all rest. -/
private theorem Sound.tick (h : w.Sound settings pasts) {now : Instant}
    (hlater : w.scene.now.nanos ≤ now.nanos) (hwhole : now.IsWhole) (hrests : w.rests = true) :
    Sound settings pasts { w with scene := { w.scene with now } } := by
  obtain ⟨hworkers, -⟩ := Bool.and_eq_true_iff.mp hrests
  refine ⟨⟨h.proper.watchable, h.proper.settings, h.proper.reached, h.proper.stamped, hwhole⟩,
    ?_, ?_, h.attended⟩
  · intro place worker hworker
    refine (h.workers place worker hworker).later hlater ?_
    exact List.all_eq_true.mp hworkers worker (List.mem_of_getElem? hworker)
  · exact fun poller hpoller => (h.pollers poller hpoller).later hlater

/-! ### Runs -/

/-- **What holds of every shift that comes about.** -/
theorem Reached.sound (hwatchable : settings.Watchable) {first : Store}
    (hfirst : first.Reached) (hempty : first.jobs = []) (h : w.Reached settings first) :
    ∃ pasts, w.Sound settings pasts := by
  induction h with
  | opening now boot analyzer hwhole =>
      refine ⟨fun _ => [], ⟨hwatchable, rfl, hfirst, ?_, hwhole⟩, ?_, ?_, ?_⟩
      · intro row hrow
        rw [hempty] at hrow
        exact nomatch hrow
      · exact fun place worker hworker => nomatch hworker
      · exact fun poller hpoller => nomatch hpoller
      · intro job row hrow
        have hmem : row ∈ first.jobs := (Store.jobRow?_mem hrow).1
        rw [hempty] at hmem
        exact nomatch hmem
  | step _ hstep ih =>
      obtain ⟨pasts, hsound⟩ := ih
      cases hstep with
      | begin duty hcall => exact hsound.begin hcall
      | work place worker hworker hanswered => exact hsound.work hworker hanswered
      | turn poller hpoller hanswered => exact ⟨pasts, hsound.turn hpoller hanswered⟩
      | surprise analyzer issued => exact ⟨pasts, hsound.surprise analyzer issued⟩
      | tick now hlater hwhole hrests => exact ⟨pasts, hsound.tick hlater hwhole hrests⟩

end Shift

/-! ### Quiet moments -/

/-- A poller waits for the analyzer to say how its job stands. -/
def Poller.IsAsking (poller : Poller) : Prop :=
  ∃ wake held next, poller.phase = .checking (.waiting wake (.poll poller.handle) held next)

/-- **A poller that has nothing to do now** waits for a deadline that is still ahead, or for the
analyzer. -/
theorem Poller.Fits.of_not_due {poller : Poller} (h : poller.Fits settings s)
    (hwhole : s.now.IsWhole) (hover : ¬ s.store.Over poller.job)
    (hdue : ∀ t, poller.dueAt? s.now = some t → s.now.nanos < t.nanos) :
    s.now.nanos < poller.deadline.nanos ∨ poller.IsAsking := by
  obtain ⟨-, hphase⟩ := h
  obtain ⟨job, handle, deadline, nextTick, phase⟩ := poller
  -- a task at which a poller is has an instant of its own
  have htask : ∀ {α : Type} {task : Task α},
      (∀ t, some ((task.dueAt? s.now).getD s.now) = some t → s.now.nanos < t.nanos) →
      (∀ result, task ≠ .ready (.done result)) ∧
        ∀ t, task.dueAt? s.now = some t → s.now.nanos < t.nanos := by
    intro α task h
    refine ⟨?_, fun t ht => h t (by rw [ht]; rfl)⟩
    rintro result rfl
    exact absurd (h s.now rfl) (Int.lt_irrefl _)
  cases phase with
  | halted => exact hphase.elim
  | waiting =>
      have hnext := hdue _ rfl
      by_cases hfirst : deadline.nanos ≤ nextTick.nanos
      · rw [if_pos hfirst] at hnext
        exact Or.inl (hwhole.lt_of_lt_roundUp hnext)
      · rw [if_neg hfirst] at hnext
        exact Or.inl (Int.lt_trans (hwhole.lt_of_lt_roundUp hnext) (Int.not_le.mp hfirst))
  | checking task =>
      obtain ⟨past, hkeeps, -⟩ : task.Checks s job handle := hphase
      obtain ⟨hnot, hlater⟩ := htask hdue
      rcases hkeeps.of_not_due hlater with
        ⟨result, rfl, -⟩ | ⟨wake, action, held, next, rfl, htime, hmay, -⟩
      · exact absurd rfl (hnot result)
      · generalize milestones past = ms at hmay
        cases hmay with
        | poll => exact Or.inr ⟨wake, held, next, rfl⟩
        | look | malformed | rejected => exact Bool.noConfusion htime
        | ingest _ _ _ _ h => cases h <;> exact Bool.noConfusion htime
  | expiring task =>
      obtain ⟨past, hkeeps, hknows⟩ : task.Expires settings s job := hphase
      obtain ⟨hnot, hlater⟩ := htask hdue
      rcases hkeeps.of_not_due hlater with
        ⟨result, rfl, -⟩ | ⟨wake, action, held, next, rfl, htime, -, hwaits⟩
      · exact absurd rfl (hnot result)
      · obtain ⟨x, hmem, hended⟩ := hwaits htime
        exact absurd ((hknows x hmem).2 (.ended x hended)) hover

/-- Somebody who has nothing to do now rests. -/
theorem Task.Keeps.rests_of_not_due {α : Type} {may : List Exchange → Action → Prop}
    {ends : List Exchange → α → Prop} {past : List Exchange} {task : Task α} {now : Instant}
    (h : task.Keeps now may ends past)
    (hdue : ∀ t, task.dueAt? now = some t → now.nanos < t.nanos) : task.rests = true := by
  rcases h.of_not_due hdue with ⟨result, rfl, -⟩ | ⟨wake, action, held, next, rfl, htime, -⟩
  · rfl
  · exact htime

namespace Shift

variable {pasts : Nat → List Exchange} {w : Shift}

/-- In a quiet moment every job that is processing has a poller. -/
private theorem Sound.watched (h : w.Sound settings pasts) (hquiet : w.isQuiet = true)
    {job : JobId} {row : JobRow} (hrow : w.scene.store.jobRow? job = some row)
    (hstatus : row.status = JobStatus.processing.label) :
    ∃ poller, w.scene.poller? job = some poller ∧ poller ∈ w.scene.pollers ∧ poller.job = job := by
  rcases h.attended job row hrow hstatus with ⟨watcher, hwatcher, hjob⟩ |
    ⟨place, worker, hworker, hhanding⟩
  · have hfound : (w.scene.poller? job).isSome := by
      refine List.find?_isSome.mpr ⟨watcher, hwatcher, ?_⟩
      rw [hjob]
      exact beq_self_eq_true job
    obtain ⟨poller, hpoller⟩ := Option.isSome_iff_exists.mp hfound
    exact ⟨poller, hpoller, List.mem_of_find?_eq_some hpoller, Scene.poller?_job hpoller⟩
  · have hwas := h.workers place worker hworker
    refine absurd hhanding (hwas.not_handingOver (hwas.keeps.rests_of_not_due ?_) job)
    intro t ht
    refine of_decide_eq_true (List.all_eq_true.mp hquiet t (List.mem_append_right _ ?_))
    exact List.mem_filterMap.mpr ⟨worker, List.mem_of_getElem? hworker, ht⟩

end Shift

/-- **No job is stuck in processing.**  Whenever nobody has anything to do, each job that is
processing is watched, and the time that it may take is not over, unless its poller waits for the
analyzer. -/
theorem processing_never_stuck (settings : DeskSettings) (hwatchable : settings.Watchable)
    (first : Store) (hfirst : first.Reached) (hempty : first.jobs = []) (w : Shift)
    (hw : w.Reached settings first) (hquiet : w.isQuiet = true) :
    ∀ row ∈ w.scene.store.jobs, row.status = JobStatus.processing.label →
      ∃ (job : JobId) (poller : Poller) (dispatchedAt : Instant), row.id = job.text ∧
        row.dispatchedAt = some dispatchedAt.stored ∧
        (∀ current, w.scene.store.job? job = .ok (some current) →
          current.dispatchedAt = some dispatchedAt) ∧
        w.scene.poller? job = some poller ∧
        (w.scene.now.nanos < (dispatchedAt.after settings.pollTimeout).nanos ∨
          poller.IsAsking) := by
  obtain ⟨pasts, hsound⟩ := hw.sound hwatchable hfirst hempty
  have hs := hsound.proper.reached.wf
  intro row hmem hstatus
  obtain ⟨job, hid⟩ := hs.named row hmem
  have hrow : w.scene.store.jobRow? job = some row :=
    (Store.jobRow?_eq_some_iff hs.ids).mpr ⟨hmem, hid⟩
  obtain ⟨poller, hpoller, hwatches, rfl⟩ := hsound.watched hquiet hrow hstatus
  have hfits := hsound.pollers poller hwatches
  obtain ⟨t, hwhole, hdispatched, hdeadline⟩ := hfits.deadline
  have htext : row.dispatchedAt = some t.stored := by
    obtain ⟨row', hrow', -, htext⟩ := hdispatched
    rwa [Option.some.inj (hrow.symm.trans hrow')]
  refine ⟨poller.job, poller, t, hid, htext, ?_, hpoller, ?_⟩
  · intro current hcurrent
    obtain ⟨row', hrow', hread, -⟩ := hs.job?_shows hcurrent
    obtain rfl := Option.some.inj (hrow.symm.trans hrow')
    exact JobRow.dispatchedAt_of_read hwhole htext hread
  · refine (hfits.of_not_due hsound.proper.whole ?_ ?_).imp ?_ id
    · exact fun hover => hover.not_processing hrow hstatus
    · intro due hdue
      refine of_decide_eq_true (List.all_eq_true.mp hquiet due (List.mem_append_left _ ?_))
      exact List.mem_filterMap.mpr ⟨poller, hwatches, hdue⟩
    · intro hahead
      have hafter : (t.after settings.pollTimeout).nanos
          = t.nanos + settings.pollTimeout.nanos := rfl
      omega

/-- Half a second after a job was submitted and dispatched. -/
def Small.halfASecondLater : Shift :=
  Shift.played Small.settings store
    (.begin (.submit 1 ⟨1, none, none⟩) :: List.replicate 14 (.work 0) ++ [.tick ⟨500000000⟩])

theorem processing_never_stuck_played :
    Small.settings.Watchable ∧ Small.store.Reached ∧ Small.store.jobs = [] ∧
      Small.halfASecondLater.Reached Small.settings Small.store ∧
      Small.halfASecondLater.isQuiet = true ∧
      ∃ row ∈ Small.halfASecondLater.scene.store.jobs,
        row.status = JobStatus.processing.label ∧
        ∃ (job : JobId) (poller : Poller) (dispatchedAt : Instant), row.id = job.text ∧
          row.dispatchedAt = some dispatchedAt.stored ∧
          (∀ current, Small.halfASecondLater.scene.store.job? job = .ok (some current) →
            current.dispatchedAt = some dispatchedAt) ∧
          Small.halfASecondLater.scene.poller? job = some poller ∧
          (Small.halfASecondLater.scene.now.nanos
              < (dispatchedAt.after Small.settings.pollTimeout).nanos ∨ poller.IsAsking) := by
  have hwatchable : Small.settings.Watchable := ⟨by decide, by decide, by decide⟩
  have hempty : Small.store.jobs = [] := by decide +kernel
  have hreached : Small.halfASecondLater.Reached Small.settings Small.store :=
    Shift.reached_played ..
  have hquiet : Small.halfASecondLater.isQuiet = true := by decide +kernel
  have hprocessing : ∃ row ∈ Small.halfASecondLater.scene.store.jobs,
      row.status = JobStatus.processing.label := by decide +kernel
  obtain ⟨row, hmem, hstatus⟩ := hprocessing
  exact ⟨hwatchable, Small.store_reached, hempty, hreached, hquiet, row, hmem, hstatus,
    processing_never_stuck Small.settings hwatchable Small.store Small.store_reached hempty
      Small.halfASecondLater hreached hquiet row hmem hstatus⟩

/-- A desk that gives its jobs all the time that a span can hold. -/
def Small.patient : DeskSettings :=
  { Small.settings with pollTimeout := .ofSeconds 18446744073709551615 }

/-- Such a desk half a second after a job was submitted and dispatched. -/
def Small.unwatched : Shift :=
  Shift.played Small.patient store
    (.begin (.submit 1 ⟨1, none, none⟩) :: List.replicate 14 (.work 0) ++ [.tick ⟨500000000⟩])

/-- Whoever submits a job collapses if the clock has no room for its deadline.  By then the job is
processing, and it is without a poller. -/
theorem processing_stuck_of_patient :
    0 < Small.patient.pollInterval.nanos ∧
      Small.patient.pollInterval.nanos % Instant.nanosPerMilli = 0 ∧
      Small.patient.pollTimeout.nanos % Instant.nanosPerMilli = 0 ∧
      Small.store.Reached ∧ Small.store.jobs = [] ∧
      Small.unwatched.Reached Small.patient Small.store ∧ Small.unwatched.isQuiet = true ∧
      (∃ row ∈ Small.unwatched.scene.store.jobs, row.status = JobStatus.processing.label) ∧
      ∀ job, Small.unwatched.scene.poller? job = none := by
  have hpollers : Small.unwatched.scene.pollers = [] := by decide +kernel
  refine ⟨by decide, by decide, by decide, Small.store_reached, by decide +kernel,
    Shift.reached_played .., by decide +kernel, by decide +kernel, fun job => ?_⟩
  unfold Scene.poller?
  rw [hpollers]
  rfl

end AnalysisDesk
