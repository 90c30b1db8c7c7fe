/-
Many duties at once.

An office has a store, the watches on jobs, and agents, each of them on a duty of
its own.  At every step somebody does one thing: a duty is begun, an agent does
its next action, or a watch ends.  Nothing is said about the order, so a run of an
office is any interleaving of its duties, at the granularity of single actions;
and nothing is said about the clock, the analyzer or the source of identifiers.  A
poller that was told to stop may still go on for a while, or it may not.

Everything that is done is an event and stands in a log, last one first, with the
store before and after it.  `History` is what a log tells by itself: the stores
follow on each other, each event is one that the duty of its doer allows, and
nobody changes duties.  Most of what holds of an office is proved of its log.
-/
import AnalysisDesk.Proofs.Desk.Duties
import AnalysisDesk.Proofs.Desk.Happening

namespace AnalysisDesk

/-- One thing that somebody did. -/
structure Event where
  doer : Nat
  duty : Duty
  time : Instant
  what : Exchange
  before : Store
  after : Store

/-- What one agent has done, last exchange first. -/
def own (past : List Event) (doer : Nat) : List Exchange :=
  (past.filter fun e => e.doer == doer).map (·.what)

theorem own_cons_self (e : Event) (past : List Event) :
    own (e :: past) e.doer = e.what :: own past e.doer := by
  simp [own]

theorem own_cons_of_ne {e : Event} {doer : Nat} (h : e.doer ≠ doer) (past : List Event) :
    own (e :: past) doer = own past doer := by
  simp [own, h]

theorem mem_own {past : List Event} {doer : Nat} {x : Exchange} :
    x ∈ own past doer ↔ ∃ e ∈ past, e.doer = doer ∧ e.what = x := by
  simp [own, and_assoc]

/-! ### Logs -/

/-- A log that leads from a first store to a last one. -/
inductive History (settings : DeskSettings) (first : Store) : List Event → Store → Prop
  | start : History settings first [] first
  | event {past : List Event} (e : Event) (h : History settings first past e.before)
      (hhappens : Happens e.time e.before e.what e.after)
      (hmay : e.duty.May settings (milestones (own past e.doer)) e.what.1)
      (hduty : ∀ e' ∈ past, e'.doer = e.doer → e'.duty = e.duty) :
      History settings first (e :: past) e.after

/-! ### Offices -/

/-- Somebody with a duty, and how far it has come. -/
structure Agent where
  duty : Duty
  flow : Flow duty.Result
  /-- A poller whose watch has been ended under its hands. -/
  stopped : Bool

/-- Those who work on one store, and what they have done so far. -/
structure Office where
  store : Store
  watches : List (JobId × String)
  agents : List Agent
  past : List Event

/-- Whether an action ends the watch that was kept on a job. -/
def Action.endsWatch (job : JobId) : Action → Bool
  | .startPoller other _ _ | .stopPoller other => other = job
  | .stopAllPollers => true
  | _ => false

/-- The watches after an action. -/
def Action.watches (kept : List (JobId × String)) : Action → List (JobId × String)
  | .startPoller job handle _ => (job, handle) :: kept.filter fun watch => watch.1 ≠ job
  | .stopPoller job => kept.filter fun watch => watch.1 ≠ job
  | .stopAllPollers => []
  | _ => kept

/-- An agent after somebody's action. -/
def Agent.after (agent : Agent) (action : Action) : Agent :=
  { agent with
    stopped := agent.stopped ||
      match agent.duty.watched? with
      | some job => action.endsWatch job
      | none => false }

namespace Office

/-- Whether a duty can be begun: a poller watches its job. -/
def Admits (o : Office) : Duty → Prop
  | .check job handle => (job, handle) ∈ o.watches
  | .expire job => job ∈ o.watches.map (·.1)
  | _ => True

/-- One step of an office. -/
inductive Step (settings : DeskSettings) (o : Office) : Office → Prop
  | begin (duty : Duty) (hadmits : o.Admits duty) :
      Step settings o { o with agents := o.agents ++ [⟨duty, duty.flow settings, false⟩] }
  | act (doer : Nat) (duty : Duty) (action : Action) (next : action.Answer → Flow duty.Result)
      (stopped : Bool) (hagent : o.agents[doer]? = some ⟨duty, .act action next, stopped⟩)
      (time : Instant) (answer : action.Answer) (s : Store)
      (hhappens : Happens time o.store ⟨action, answer⟩ s) :
      Step settings o
        { store := s
          watches := action.watches o.watches
          agents := (o.agents.set doer ⟨duty, next answer, stopped⟩).map (·.after action)
          past := ⟨doer, duty, time, ⟨action, answer⟩, o.store, s⟩ :: o.past }
  | leave (watch : JobId × String) :
      Step settings o { o with watches := o.watches.erase watch }

/-- The offices that come about.  In the beginning nobody is at work, and only jobs that exist are
watched. -/
inductive Reached (settings : DeskSettings) (first : Store) : Office → Prop
  | opening (watches : List (JobId × String))
      (hwatches : ∀ watch ∈ watches, (first.jobRow? watch.1).isSome = true) :
      Reached settings first ⟨first, watches, [], []⟩
  | step {o o' : Office} (h : Reached settings first o) (hstep : o.Step settings o') :
      Reached settings first o'

/-- What ties the agents of an office to its log. -/
structure Sound (settings : DeskSettings) (first : Store) (o : Office) : Prop where
  history : History settings first o.past o.store
  /-- Every agent has come to where it stands by its own events. -/
  leads : ∀ (doer : Nat) (agent : Agent), o.agents[doer]? = some agent →
    (agent.duty.flow settings).Leads (own o.past doer) agent.flow
  /-- Every event was done by an agent on the duty of that event. -/
  doers : ∀ e ∈ o.past, ∃ agent, o.agents[e.doer]? = some agent ∧ agent.duty = e.duty

variable {settings : DeskSettings} {first : Store} {o o' : Office}

/-- Nobody who is not there has done anything. -/
theorem Sound.own_nobody (h : o.Sound settings first) {doer : Nat}
    (hnobody : o.agents[doer]? = none) : own o.past doer = [] := by
  rw [List.eq_nil_iff_forall_not_mem]
  intro x hx
  obtain ⟨e, he, hdoer, -⟩ := mem_own.mp hx
  obtain ⟨agent, hagent, -⟩ := h.doers e he
  rw [hdoer, hnobody] at hagent
  exact nomatch hagent

/-- The agents after somebody has done something. -/
private theorem agents_after {agents : List Agent} {doer : Nat} {duty : Duty}
    {flow flow' : Flow duty.Result} {stopped : Bool} (action : Action)
    (hagent : agents[doer]? = some ⟨duty, flow, stopped⟩) (doer' : Nat) :
    ((agents.set doer ⟨duty, flow', stopped⟩).map (·.after action))[doer']?
      = if doer' = doer then some ((⟨duty, flow', stopped⟩ : Agent).after action)
        else agents[doer']?.map (·.after action) := by
  rw [List.getElem?_map, List.getElem?_set]
  by_cases h : doer' = doer
  · subst h
    have hlt : doer' < agents.length := (List.getElem?_eq_some_iff.mp hagent).1
    rw [if_pos rfl, if_pos hlt, if_pos rfl]
    rfl
  · rw [if_neg fun hc => h hc.symm, if_neg h]

/-- Whoever was there is there after somebody's action, on the same duty. -/
private theorem duty_after {agents : List Agent} {doer : Nat} {duty : Duty}
    {flow flow' : Flow duty.Result} {stopped : Bool} (action : Action)
    (hagent : agents[doer]? = some ⟨duty, flow, stopped⟩) {doer' : Nat} {agent : Agent}
    (hthere : agents[doer']? = some agent) :
    ∃ later : Agent, ((agents.set doer ⟨duty, flow', stopped⟩).map (·.after action))[doer']?
      = some later ∧ later.duty = agent.duty := by
  rw [agents_after action hagent]
  by_cases hdoer : doer' = doer
  · subst hdoer
    rw [hagent] at hthere
    exact ⟨_, if_pos rfl, by rw [← Option.some.inj hthere]; rfl⟩
  · rw [if_neg hdoer, hthere]
    exact ⟨_, rfl, rfl⟩

/-- Somebody takes up a duty, and has done nothing yet. -/
private theorem Sound.begin (h : o.Sound settings first) (duty : Duty) :
    Sound settings first { o with agents := o.agents ++ [⟨duty, duty.flow settings, false⟩] } := by
  refine ⟨h.history, ?_, ?_⟩
  · intro doer agent hagent
    by_cases hlt : doer < o.agents.length
    · rw [List.getElem?_append_left hlt] at hagent
      exact h.leads doer agent hagent
    · have hnobody : o.agents[doer]? = none := List.getElem?_eq_none (Nat.le_of_not_lt hlt)
      rw [List.getElem?_append_right (Nat.le_of_not_lt hlt)] at hagent
      obtain rfl := List.mem_singleton.mp (List.mem_of_getElem? hagent)
      show Flow.Leads _ (own o.past doer) _
      rw [h.own_nobody hnobody]
      exact .start
  · intro e he
    obtain ⟨agent, hagent, hduty⟩ := h.doers e he
    have hlt := (List.getElem?_eq_some_iff.mp hagent).1
    exact ⟨agent, by rw [List.getElem?_append_left hlt, hagent], hduty⟩

/-- Somebody acts and hears an answer. -/
private theorem Sound.act (h : o.Sound settings first) {doer : Nat} {duty : Duty} {action : Action}
    {next : action.Answer → Flow duty.Result} {stopped : Bool}
    (hagent : o.agents[doer]? = some ⟨duty, .act action next, stopped⟩) (time : Instant)
    (answer : action.Answer) (s : Store) (hhappens : Happens time o.store ⟨action, answer⟩ s) :
    Sound settings first
      ⟨s, action.watches o.watches,
        (o.agents.set doer ⟨duty, next answer, stopped⟩).map (·.after action),
        ⟨doer, duty, time, ⟨action, answer⟩, o.store, s⟩ :: o.past⟩ := by
  have hleads := h.leads doer _ hagent
  refine ⟨?_, ?_, ?_⟩
  · refine .event ⟨doer, duty, time, ⟨action, answer⟩, o.store, s⟩ h.history hhappens ?_ ?_
    · exact (hleads.keeps (duty.keeps settings)).1
    · intro e he hdoer
      obtain ⟨agent, hagent', hduty⟩ := h.doers e he
      rw [hdoer, hagent] at hagent'
      rw [← hduty, ← Option.some.inj hagent']
  · intro doer' agent hagent'
    rw [agents_after action hagent] at hagent'
    by_cases hdoer : doer' = doer
    · subst hdoer
      rw [if_pos rfl] at hagent'
      obtain rfl := Option.some.inj hagent'
      show Flow.Leads _ (own (_ :: o.past) doer') _
      rw [show own (_ :: o.past) doer' = _ from
        own_cons_self ⟨doer', duty, time, ⟨action, answer⟩, o.store, s⟩ o.past]
      exact hleads.step answer
    · rw [if_neg hdoer] at hagent'
      obtain ⟨old, hold, rfl⟩ := Option.map_eq_some_iff.mp hagent'
      show Flow.Leads _ (own (_ :: o.past) doer') _
      rw [own_cons_of_ne fun hc => hdoer hc.symm]
      exact h.leads doer' old hold
  · intro e he
    rcases List.mem_cons.mp he with rfl | he
    · exact duty_after action hagent hagent
    · obtain ⟨agent, hagent', hduty⟩ := h.doers e he
      obtain ⟨later, hlater, hduty'⟩ := duty_after action hagent hagent'
      exact ⟨later, hlater, hduty'.trans hduty⟩

theorem Step.sound (hstep : o.Step settings o') (h : o.Sound settings first) :
    o'.Sound settings first := by
  cases hstep with
  | begin duty hadmits => exact h.begin duty
  | act doer duty action next stopped hagent time answer s hhappens =>
      exact h.act hagent time answer s hhappens
  | leave watch => exact ⟨h.history, h.leads, h.doers⟩

/-- **Every office that comes about is sound.** -/
theorem Reached.sound (h : o.Reached settings first) : o.Sound settings first := by
  induction h with
  | opening => exact ⟨.start, fun _ _ h => (nomatch h), fun _ h => (nomatch h)⟩
  | step _ hstep ih => exact hstep.sound ih

/-! ### Those who have come to an end -/

/-- Somebody has returned. -/
def Returned (o : Office) (doer : Nat) : Prop :=
  ∃ duty result stopped, o.agents[doer]? = some ⟨duty, .done result, stopped⟩

/-- Somebody is a poller whose watch has been ended. -/
def Stopped (o : Office) (doer : Nat) : Prop :=
  ∃ agent, o.agents[doer]? = some agent ∧ agent.duty.watched?.isSome = true ∧ agent.stopped = true

/-- Whoever has returned has ended as the duty ends. -/
theorem Sound.ends (h : o.Sound settings first) {doer : Nat} {duty : Duty} {result : duty.Result}
    {stopped : Bool} (hagent : o.agents[doer]? = some ⟨duty, .done result, stopped⟩) :
    duty.Ends settings (own o.past doer) result :=
  (h.leads doer _ hagent).keeps (duty.keeps settings)

/-- Whoever has returned stays so, with the same result. -/
theorem Step.returned (hstep : o.Step settings o') {doer : Nat} {duty : Duty}
    {result : duty.Result} {stopped : Bool}
    (hagent : o.agents[doer]? = some ⟨duty, .done result, stopped⟩) :
    ∃ stopped', o'.agents[doer]? = some ⟨duty, .done result, stopped'⟩ := by
  cases hstep with
  | begin =>
      have hlt := (List.getElem?_eq_some_iff.mp hagent).1
      exact ⟨stopped, (List.getElem?_append_left hlt).trans hagent⟩
  | leave => exact ⟨stopped, hagent⟩
  | act other _ action _ _ hother =>
      have hne : doer ≠ other := by
        rintro rfl
        rw [hagent] at hother
        cases hother
      rw [agents_after action hother, if_neg hne, hagent]
      exact ⟨_, rfl⟩

theorem Sound.ends_of_returned (h : o.Sound settings first) {e : Event} (he : e ∈ o.past)
    (hreturned : o.Returned e.doer) :
    ∃ result, e.duty.Ends settings (own o.past e.doer) result := by
  obtain ⟨duty, result, stopped, hagent⟩ := hreturned
  obtain ⟨agent, hagent', hduty⟩ := h.doers e he
  rw [hagent, Option.some.injEq] at hagent'
  subst hagent'
  subst hduty
  exact ⟨result, h.ends hagent⟩

end Office

end AnalysisDesk
