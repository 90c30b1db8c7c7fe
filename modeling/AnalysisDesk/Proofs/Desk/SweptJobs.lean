/-
Sweeps among others.

A sweep goes by a list that may be out of date when it gets to an entry.  That does
no harm, because its write is taken only if the row has the status that it had on
the list, and an active row that still has its status is the row that was listed.
So what has elapsed on the list has elapsed when the job is failed.

A sweep begins at one instant: the one it was given, or the one that it read off the
clock before anything else.  Everything it does after that is what a sweep at this
instant may do (`Sound.sweep_starts`).  What it counts are the jobs that it has
ended, and as a job is ended once, what all sweeps count together is the number of
jobs that sweeps have failed.
-/
import AnalysisDesk.Proofs.Desk.OneWinner
import AnalysisDesk.Proofs.Desk.Sweeping
import AnalysisDesk.Proofs.Views.Counting
import Mathlib.Data.List.Sigma

namespace AnalysisDesk

variable {settings : DeskSettings} {first s : Store} {past : List Event} {e : Event} {job : JobId}
  {doer : Nat}

/-! ### Where a sweep begins -/

/-- Whether a duty is a sweep. -/
def Duty.isSweep : Duty → Bool
  | .sweepAt _ | .sweep => true
  | .submit _ _ | .ingest _ _ | .cancel _ _ | .resume | .shutdown | .check _ _ | .expire _ => false

/-- A sweep at an instant: it was given the instant, or has read it off the clock. -/
def Duty.SweepsAt (duty : Duty) (past : List Exchange) (now : Instant) : Prop :=
  duty = .sweepAt now ∨ (duty = .sweep ∧ (⟨.now, now⟩ : Exchange) ∈ past)

/-- What a procedure has done after its first action. -/
theorem Flow.Leads.of_act {α : Type} {action : Action} {next : action.Answer → Flow α}
    {past : List Exchange} {flow' : Flow α} (h : (Flow.act action next).Leads past flow') :
    past = [] ∨ ∃ answer newer, past = newer ++ [⟨action, answer⟩] ∧
      (next answer).Leads newer flow' := by
  induction h with
  | start => exact Or.inl rfl
  | @step past action' next' h answer ih =>
      rcases ih with rfl | ⟨first, newer, rfl, hnewer⟩
      · cases h
        exact Or.inr ⟨answer, [], rfl, .start⟩
      · exact Or.inr ⟨first, ⟨action', answer⟩ :: newer, rfl, hnewer.step answer⟩

/-- After the clock was read a sweep does what a sweep at that time may do. -/
private theorem Desk.sweep_leads {past : List Exchange} {flow' : DeskCall Nat}
    (h : (Desk.sweep settings).Leads past flow') (hpast : past ≠ []) :
    ∃ now newer, past = newer ++ [⟨.now, now⟩] ∧ (Desk.sweepAt settings now).Leads newer flow' := by
  rcases h.of_act with rfl | hleads
  · exact absurd rfl hpast
  · exact hleads

namespace Desk.SweepMay

variable {now : Instant} {ms : List Exchange}

theorem of_list {oldest : Instant} (h : SweepMay settings now ms (.query (.staleJobs oldest))) :
    cutoff settings now = .ok oldest := by
  cases h with
  | look _ hcutoff => exact hcutoff

theorem of_write {change : StoreWrite} (h : SweepMay settings now ms (.write change)) :
    ∃ oldest jobs tried, ms = afterListing oldest jobs tried ∧ ∃ current ∈ jobs,
      change = .failJob current.id current.status (timeoutReason settings current.status)
        (some now) := by
  cases h with
  | fail oldest jobs tried current hmem => exact ⟨oldest, jobs, tried, rfl, current, hmem, rfl⟩

end Desk.SweepMay

/-- **A sweep that has done anything has begun at one instant.** -/
theorem Office.Sound.sweep_starts {o : Office} (h : o.Sound settings first) {agent : Agent}
    (hagent : o.agents[doer]? = some agent) (hsweep : agent.duty.isSweep = true)
    (hbegun : own o.past doer ≠ []) :
    ∃ now, agent.duty.SweepsAt (own o.past doer) now ∧
      ∀ x ∈ own o.past doer, x.1 = .now ∨ ∃ older, Desk.SweepMay settings now older x.1 := by
  have hleads := h.leads doer agent hagent
  obtain ⟨duty, flow, stopped⟩ := agent
  have hmay : ∀ {now : Instant} {newer : List Exchange} {flow' : DeskCall Nat},
      (Desk.sweepAt settings now).Leads newer flow' → ∀ x ∈ newer,
      ∃ older, Desk.SweepMay settings now older x.1 := by
    intro now newer flow' hnewer x hx
    obtain ⟨_, older, -, hmay⟩ := hnewer.may_of_mem (Desk.sweepAt_keeps settings now rfl) hx
    exact ⟨_, hmay⟩
  cases duty with
  | sweepAt now => exact ⟨now, Or.inl rfl, fun x hx => Or.inr (hmay hleads x hx)⟩
  | sweep =>
      obtain ⟨now, newer, hpast, hnewer⟩ := Desk.sweep_leads hleads hbegun
      refine ⟨now, Or.inr ⟨rfl, by rw [hpast]; simp⟩, fun x hx => ?_⟩
      rw [hpast] at hx
      rcases List.mem_append.mp hx with hx | hx
      · exact Or.inr (hmay hnewer x hx)
      · rw [List.mem_singleton.mp hx]
        exact Or.inl rfl
  | submit | ingest | cancel | resume | shutdown | check | expire => exact Bool.noConfusion hsweep

/-! ### No job is failed before its time -/

namespace History

/-- What stood on the list of a sweep. -/
theorem stale_of_list (h : History settings first (e :: past) s) (hfirst : first.Reached)
    {oldest : Instant} {jobs : List Job} (hwhat : e.what = ⟨.query (.staleJobs oldest), .ok jobs⟩)
    {current : Job} (hmem : current ∈ jobs) :
    ∃ row, e.after.jobRow? current.id = some row ∧ row.read = .ok current ∧
      row.status = current.status.label ∧ Store.isStale oldest.stored row = true := by
  have hhappens := h.happens
  rw [hwhat] at hhappens
  obtain ⟨hanswer, hafter⟩ := hhappens.answered
  have hwf := h.earlier.wf hfirst
  have hanswer' : e.before.staleJobs oldest = .ok jobs := hanswer
  obtain ⟨row, hlisted, hread⟩ := readAll_mem hanswer' hmem
  obtain ⟨hrow, hstale⟩ := List.mem_filter.mp hlisted
  have hshows := hwf.shows hrow hread
  rw [hafter]
  exact ⟨row, (Store.jobRow?_eq_some_iff hwf.ids).mpr ⟨hrow, hshows.id⟩, hread, hshows.status,
    hstale⟩

/-- An active row that still has the status with which it was listed is the row that was listed. -/
theorem row_as_listed (h : History settings first past s) (hfirst : first.Reached)
    {tried : List Exchange} {oldest : Instant} {jobs : List Job} {current : Job}
    (hms : milestones (own past doer) = Desk.afterListing oldest jobs tried)
    (hmem : current ∈ jobs) {row : JobRow} (hrow : s.jobRow? current.id = some row)
    (hstatus : row.status = current.status.label) (hactive : row.isActive = true) :
    row.read = .ok current ∧ Store.isStale oldest.stored row = true := by
  obtain ⟨after, list, earlier, rfl, -, hlist, -⟩ := split_of_milestones _ hms
  obtain ⟨listed, hfound, hread, hlisted, hstale⟩ := h.upTo.stale_of_list hfirst hlist hmem
  obtain ⟨row', hrow', hlater⟩ := h.later_of_mem hfirst
    (List.mem_append_right _ (List.mem_cons_self ..)) hfound
  obtain rfl := Option.some.inj (hrow.symm.trans hrow')
  obtain rfl := hlater.same (hlater.active hactive) (hstatus.trans hlisted.symm)
  exact ⟨hread, hstale⟩

/-- **The row of a job that a sweep has failed is the one that stood on its list.** -/
theorem failed_as_listed (h : History settings first (e :: past) s) (hfirst : first.Reached)
    {tried : List Exchange} {now oldest : Instant} {jobs : List Job} {current : Job}
    (hwhat : e.what = .timedOut settings now current true)
    (hms : milestones (own past doer) = Desk.afterListing oldest jobs tried)
    (hmem : current ∈ jobs) :
    ∃ row, e.before.jobRow? current.id = some row ∧ row.read = .ok current ∧
      Store.isStale oldest.stored row = true ∧
      e.after.jobRow? current.id = some (row.timedOut settings now) := by
  have hended : e.what.ended? = some current.id := by rw [hwhat]; rfl
  obtain ⟨change, row, hevent⟩ := h.ended hfirst hended
  have hchange := hevent.what
  rw [hwhat] at hchange
  cases hchange
  obtain ⟨source, hsource, hstatus⟩ := hevent.source
  rw [List.mem_singleton.mp hsource] at hstatus
  obtain ⟨hread, hstale⟩ :=
    h.earlier.row_as_listed hfirst hms hmem hevent.before hstatus hevent.active
  have hactive : current.status.isActive = true := by
    rw [← JobRow.isActive_of_status hstatus]
    exact hevent.active
  refine ⟨row, hevent.before, hread, hstale, ?_⟩
  rw [JobRow.timedOut_of_status hstatus hactive]
  exact hevent.after

end History

/-- The write of a sweep that has ended a job was taken. -/
theorem Exchange.timedOut_of_ended {now : Instant} {current : Job} {x : Exchange}
    (hchange : x.1 = .write (.failJob current.id current.status
      (Desk.timeoutReason settings current.status) (some now)))
    (hended : x.ended? = some job) : x = .timedOut settings now current true := by
  obtain ⟨action, answer⟩ := x
  cases hchange
  match answer with
  | .ok true => rfl
  | .ok false | .error _ => exact nomatch hended

/-- A job that an event has failed because its time was over. -/
structure Event.TimesOut (e : Event) (settings : DeskSettings) (now : Instant) (job : JobId)
    (row : JobRow) : Prop where
  before : e.before.jobRow? job = some row
  expired : row.isExpired settings.pollTimeout now = true
  itsTime : row.HadItsTime settings.pollTimeout now
  after : e.after.jobRow? job = some (row.timedOut settings now)

namespace Office

variable {o : Office}

/-- What a sweep writes is that a job has failed which stood on the list of jobs whose windows had
begun too early for the instant at which the sweep began. -/
theorem Sound.listed_of_write (h : o.Sound settings first) {after earlier : List Event}
    (hpast : o.past = after ++ e :: earlier) (hsweep : e.duty.isSweep = true) {change : StoreWrite}
    (hchange : e.what.1 = .write change) :
    ∃ now oldest jobs tried, ∃ current ∈ jobs, e.duty.SweepsAt (own o.past e.doer) now ∧
      Desk.cutoff settings now = .ok oldest ∧
      milestones (own earlier e.doer) = Desk.afterListing oldest jobs tried ∧
      change = .failJob current.id current.status (Desk.timeoutReason settings current.status)
        (some now) := by
  have he : e ∈ o.past := by rw [hpast]; exact List.mem_append_right _ (List.mem_cons_self ..)
  obtain ⟨agent, hagent, hduty⟩ := h.doers e he
  have hown : e.what ∈ own o.past e.doer := mem_own.mpr ⟨e, he, rfl, rfl⟩
  obtain ⟨now, hstarts, hdoes⟩ := h.sweep_starts hagent (hduty ▸ hsweep) (List.ne_nil_of_mem hown)
  rw [hduty] at hstarts
  -- the table at the time of the event knows the list, the instant is known from the beginning
  obtain ⟨now', hmay⟩ : ∃ now', Desk.SweepMay settings now' (milestones (own earlier e.doer))
      (.write change) := by
    have hmay := (hpast ▸ h.history).upTo.may
    rw [hchange] at hmay
    rcases hstarts with hat | ⟨hat, -⟩
    · rw [hat] at hmay
      exact ⟨now, hmay⟩
    · rw [hat] at hmay
      exact hmay.resolve_left fun hc => nomatch hc
  obtain ⟨older, hagain⟩ := (hdoes _ hown).resolve_left (by rw [hchange]; exact fun hc => nomatch hc)
  rw [hchange] at hagain
  obtain ⟨oldest, jobs, tried, hms, current, hmem, rfl⟩ := hmay.of_write
  obtain ⟨_, _, _, -, _, -, hsame⟩ := hagain.of_write
  obtain rfl : now' = now := by
    injection hsame with _ _ _ hdate
    exact Option.some.inj hdate
  have hlist : (⟨.query (.staleJobs oldest), .ok jobs⟩ : Exchange) ∈ own o.past e.doer := by
    have hlisted : (⟨.query (.staleJobs oldest), .ok jobs⟩ : Exchange)
        ∈ milestones (own earlier e.doer) := by
      rw [hms]
      exact List.mem_append_right _ (List.mem_singleton_self _)
    obtain ⟨d, hd, hdoer, hwhat⟩ := mem_of_milestones hlisted
    refine mem_own.mpr ⟨d, ?_, hdoer, hwhat⟩
    rw [hpast]
    exact List.mem_append_right _ (List.mem_cons_of_mem _ hd)
  obtain ⟨_, hlooks⟩ := (hdoes _ hlist).resolve_left fun hc => nomatch hc
  exact ⟨now', oldest, jobs, tried, current, hmem, hstarts, hlooks.of_list, hms, rfl⟩

/-- A job that a sweep has ended stood on its list. -/
private theorem Sound.listed_of_swept (h : o.Sound settings first) {after earlier : List Event}
    (hpast : o.past = after ++ e :: earlier) (hsweep : e.duty.isSweep = true)
    (hended : e.what.ended? = some job) :
    ∃ now oldest jobs tried, ∃ current ∈ jobs, e.duty.SweepsAt (own o.past e.doer) now ∧
      Desk.cutoff settings now = .ok oldest ∧
      milestones (own earlier e.doer) = Desk.afterListing oldest jobs tried ∧
      current.id = job ∧ e.what = .timedOut settings now current true := by
  obtain ⟨change, hchange, hjob, -⟩ := Exchange.write_of_ended hended
  obtain ⟨now, oldest, jobs, tried, current, hmem, hstarts, hcutoff, hms, rfl⟩ :=
    h.listed_of_write hpast hsweep hchange
  exact ⟨now, oldest, jobs, tried, current, hmem, hstarts, hcutoff, hms, hjob,
    Exchange.timedOut_of_ended hchange hended⟩

/-- **No sweep fails a job whose window has not elapsed** at the time of the sweep. -/
theorem Reached.sweep_never_early (ho : o.Reached settings first) (hfirst : first.Reached)
    (he : e ∈ o.past) (hsweep : e.duty.isSweep = true) (hended : e.what.ended? = some job) :
    ∃ now, e.duty.SweepsAt (own o.past e.doer) now ∧
      (now.HasPlainYear → (now.before settings.pollTimeout).HasPlainYear →
        ∃ row, e.TimesOut settings now job row) := by
  obtain ⟨after, earlier, hpast⟩ := List.append_of_mem he
  obtain ⟨now, oldest, jobs, tried, current, hmem, hstarts, hcutoff, hms, rfl, hwhat⟩ :=
    ho.sound.listed_of_swept hpast hsweep hended
  refine ⟨now, hstarts, fun hnow hplain => ?_⟩
  rw [Desk.cutoff_of_plain hnow hplain, Except.ok.injEq] at hcutoff
  subst hcutoff
  have hlog : History settings first (e :: earlier) e.after := (hpast ▸ ho.sound.history).upTo
  have hreached := hlog.earlier.reached hfirst
  obtain ⟨row, hrow, hread, hstale, hafter⟩ := hlog.failed_as_listed hfirst hwhat hms hmem
  have hin := (Store.jobRow?_mem hrow).1
  have hexpired : row.isExpired settings.pollTimeout now = true :=
    JobRow.isExpired_iff.mpr ⟨current, hread, (hreached.isStale_iff hin hread hplain).mp hstale⟩
  exact ⟨row, hrow, hexpired, hreached.had_its_time hin hexpired, hafter⟩

/-! ### What sweeps count -/

end Office

/-- What a sweep that has returned has counted. -/
def Agent.counted : Agent → Nat
  | ⟨.sweepAt _, .done (.ok count), _⟩ => count
  | ⟨.sweep, .done (.ok count), _⟩ => count
  | _ => 0

/-- Whether an event is that of a sweep which ended a job. -/
def Event.sweeps (e : Event) : Bool := e.duty.isSweep && e.what.ends

/-- The jobs that sweeps have failed, last one first. -/
def sweptJobs (past : List Event) : List JobId :=
  past.filterMap fun e => if e.duty.isSweep then e.what.ended? else none

theorem mem_sweptJobs : job ∈ sweptJobs past ↔
    ∃ e ∈ past, e.duty.isSweep = true ∧ e.what.ended? = some job := by
  simp [sweptJobs, List.mem_filterMap, Option.ite_none_right_eq_some]

theorem length_sweptJobs (past : List Event) :
    (sweptJobs past).length = past.countP Event.sweeps := by
  unfold sweptJobs Event.sweeps
  rw [List.length_filterMap_eq_countP]
  refine List.countP_congr fun e _ => ?_
  cases hsweep : e.duty.isSweep <;> simp [Exchange.ends]

/-- The exchanges by which somebody has ended jobs are as many as the events. -/
theorem countP_own (past : List Event) (doer : Nat) :
    (own past doer).countP Exchange.ends
      = past.countP fun e => e.what.ends && e.doer == doer := by
  unfold own
  rw [List.countP_map, List.countP_filter]
  rfl

theorem Desk.SweepEnds.counted {now : Instant} {x : List Exchange} {result : Except DeskError Nat}
    (h : Desk.SweepEnds settings now x result) (hunfailing : ∀ y ∈ x, ¬ y.Failed) :
    (match result with | .ok count => count | .error _ => 0) = x.countP Exchange.ends := by
  cases h with
  | storage cause y hy hfailed => exact absurd hfailed (hunfailing y hy)
  | outOfRange cause _ hms => rw [countP_ends, hms]; rfl
  | swept => rfl

/-- A job that a sweep has failed is not failed by another one. -/
theorem History.nodup_sweptJobs (h : History settings first past s) (hfirst : first.Reached) :
    (sweptJobs past).Nodup := by
  induction h with
  | start => exact List.nodup_nil
  | @event past e hpast hhappens hmay hduty ih =>
      have hlog : History settings first (e :: past) e.after := .event e hpast hhappens hmay hduty
      unfold sweptJobs
      rw [List.filterMap_cons]
      split
      · exact ih
      · rename_i job hswept
        obtain ⟨-, hended⟩ := Option.ite_none_right_eq_some.mp hswept
        refine List.nodup_cons.mpr ⟨fun hmem => ?_, ih⟩
        obtain ⟨d, hd, -, hended'⟩ := mem_sweptJobs.mp hmem
        exact hlog.not_ended_again hfirst hd hended' hended

namespace Office

variable {o : Office}

/-- A job that a sweep has failed has failed. -/
theorem Reached.failed_of_swept (ho : o.Reached settings first) (hfirst : first.Reached)
    (hswept : job ∈ sweptJobs o.past) : FinalStatus o.store job .failed := by
  obtain ⟨e, he, hsweep, hended⟩ := mem_sweptJobs.mp hswept
  have hlog := ho.sound.history
  obtain ⟨after, earlier, hpast⟩ := List.append_of_mem he
  obtain ⟨now, _, _, _, current, _, -, -, -, -, hwhat⟩ :=
    ho.sound.listed_of_swept hpast hsweep hended
  obtain ⟨change, row, hevent⟩ := (hpast ▸ hlog).upTo.ended hfirst hended
  have hchange := hevent.what
  rw [hwhat] at hchange
  cases hchange
  obtain ⟨final, hfinal, hlater⟩ := hlog.later_of_mem hfirst he hevent.after
  exact ⟨final, hfinal, hlater.status_of_over hevent.inactive,
    hlater.isActive_of_over hevent.inactive⟩

/-- A sweep that has returned has counted the jobs that it has failed. -/
private theorem Sound.counted (h : o.Sound settings first)
    (hunfailing : Unfailing (o.past.filter fun e => e.duty.isSweep)) {agent : Agent}
    (hagent : o.agents[doer]? = some agent)
    (hreturned : agent.duty.isSweep = true → o.Returned doer) :
    agent.counted = o.past.countP fun e => e.sweeps && doer == e.doer := by
  have hduty : ∀ e ∈ o.past, e.doer = doer → e.duty = agent.duty := by
    rintro e he rfl
    obtain ⟨agent', hagent', hsame⟩ := h.doers e he
    rw [← hsame, Option.some.inj (hagent.symm.trans hagent')]
  cases hsweep : agent.duty.isSweep with
  | false =>
      have hnobody : o.past.countP (fun e => e.sweeps && doer == e.doer) = 0 := by
        rw [List.countP_eq_zero]
        intro e he hc
        rw [Bool.and_eq_true, Event.sweeps, Bool.and_eq_true, beq_iff_eq] at hc
        rw [hduty e he hc.2.symm, hsweep] at hc
        exact Bool.noConfusion hc.1.1
      rw [hnobody]
      obtain ⟨duty, flow, stopped⟩ := agent
      cases duty with
      | sweepAt | sweep => exact Bool.noConfusion hsweep
      | submit | ingest | cancel | resume | shutdown | check | expire => rfl
  | true =>
      have hown : (own o.past doer).countP Exchange.ends
          = o.past.countP fun e => e.sweeps && doer == e.doer := by
        rw [countP_own]
        refine List.countP_congr fun e he => ?_
        rw [Bool.and_eq_true, Bool.and_eq_true, Event.sweeps, Bool.and_eq_true, beq_iff_eq,
          beq_iff_eq]
        constructor
        · rintro ⟨hends, hdoer⟩
          exact ⟨⟨hduty e he hdoer ▸ hsweep, hends⟩, hdoer.symm⟩
        · rintro ⟨⟨-, hends⟩, hdoer⟩
          exact ⟨hends, hdoer.symm⟩
      have hfails : ∀ x ∈ own o.past doer, ¬ x.Failed := by
        intro x hx
        obtain ⟨e, he, hdoer, rfl⟩ := mem_own.mp hx
        exact hunfailing e (List.mem_filter.mpr ⟨he, hduty e he hdoer ▸ hsweep⟩)
      obtain ⟨duty, result, stopped, hdone⟩ := hreturned hsweep
      rw [← hown, Option.some.inj (hagent.symm.trans hdone)]
      rw [Option.some.inj (hagent.symm.trans hdone)] at hsweep
      have hends := h.ends hdone
      cases duty with
      | sweepAt now =>
          rw [← Desk.SweepEnds.counted hends hfails]
          match result with
          | .ok _ | .error _ => rfl
      | sweep =>
          obtain ⟨now, hends⟩ := hends
          rw [← Desk.SweepEnds.counted hends hfails]
          match result with
          | .ok _ | .error _ => rfl
      | submit | ingest | cancel | resume | shutdown | check | expire =>
          exact Bool.noConfusion hsweep

/-- **The counts of all sweeps add up** to the number of jobs that sweeps have failed. -/
theorem Reached.sum_counted (ho : o.Reached settings first)
    (hunfailing : Unfailing (o.past.filter fun e => e.duty.isSweep))
    (hreturned : ∀ doer agent, o.agents[doer]? = some agent → agent.duty.isSweep = true →
      o.Returned doer) :
    (o.agents.map Agent.counted).sum = (sweptJobs o.past).length := by
  have hplaces : (o.agents.zipIdx.map Prod.snd).Nodup := List.nodup_zipIdx_map_snd o.agents
  have hdoers : ∀ e ∈ o.past, (o.agents.zipIdx.any fun place => place.2 == e.doer) = true := by
    intro e he
    obtain ⟨agent, hagent, -⟩ := ho.sound.doers e he
    exact List.any_eq_true.mpr ⟨(agent, e.doer), List.mem_zipIdx_iff_getElem?.mpr hagent, by simp⟩
  have hcounted : o.agents.map Agent.counted = o.agents.zipIdx.map fun place =>
      o.past.countP fun e => e.sweeps && place.2 == e.doer := by
    calc o.agents.map Agent.counted
      _ = (o.agents.zipIdx.map Prod.fst).map Agent.counted := by rw [List.zipIdx_map_fst 0 o.agents]
      _ = o.agents.zipIdx.map fun place =>
            o.past.countP fun e => e.sweeps && place.2 == e.doer := by
        rw [List.map_map]
        refine List.map_congr_left fun place hplace => ?_
        have hagent := List.mem_zipIdx_iff_getElem?.mp hplace
        exact ho.sound.counted hunfailing hagent (hreturned _ _ hagent)
  rw [hcounted, ← countP_any_key Event.sweeps Event.doer Prod.snd o.past hplaces, length_sweptJobs]
  refine List.countP_congr fun e he => ?_
  rw [hdoers e he, Bool.and_true]

end Office

/-- **Sweeps fail the jobs whose windows have elapsed, and no others.**  A sweep that has the store for
itself fails all of them, counts them, and leaves nothing for a second one; among others it fails none
before its time, and no two sweeps count the same job. -/
theorem sweeps_fail_the_expired (settings : DeskSettings) :
    (∀ (s : Store) (now : Instant), s.ReachedInYears → now.HasPlainYear →
      (now.before settings.pollTimeout).HasPlainYear →
      (∀ row ∈ s.jobs, row.isExpired settings.pollTimeout now = true →
        row.HadItsTime settings.pollTimeout now) ∧
      (Desk.sweepAt settings now).Alone (fun result s' => Swept settings now s result s' ∧
        (Desk.sweepAt settings now).Alone (fun again s'' => again = .ok 0 ∧ s'' = s') s') s) ∧
    (∀ (first : Store) (o : Office), first.Reached → o.Reached settings first →
      (∀ e ∈ o.past, ∀ job, e.duty.isSweep = true → e.what.ended? = some job →
        ∃ now, e.duty.SweepsAt (own o.past e.doer) now ∧
          (now.HasPlainYear → (now.before settings.pollTimeout).HasPlainYear →
            ∃ row, e.TimesOut settings now job row)) ∧
      (Unfailing (o.past.filter fun e => e.duty.isSweep) →
          (∀ doer agent, o.agents[doer]? = some agent → agent.duty.isSweep = true →
            o.Returned doer) →
        (o.agents.map Agent.counted).sum = (sweptJobs o.past).length ∧ (sweptJobs o.past).Nodup ∧
          ∀ job ∈ sweptJobs o.past, FinalStatus o.store job .failed)) := by
  refine ⟨fun s now hs hnow hcutoff => ⟨?_, ?_⟩, fun first o hfirst ho => ⟨?_, ?_⟩⟩
  · exact fun row hrow hexpired => hs.reached.had_its_time hrow hexpired
  · refine (Desk.sweepAt_swept hs hnow hcutoff).mono fun result s' h => ⟨h, ?_⟩
    exact Desk.sweepAt_of_nobody h.reached hnow hcutoff h.nobodyLeft
  · exact fun e he job hsweep hended => ho.sweep_never_early hfirst he hsweep hended
  · intro hunfailing hreturned
    exact ⟨ho.sum_counted hunfailing hreturned, ho.sound.history.nodup_sweptJobs hfirst,
      fun job hjob => ho.failed_of_swept hfirst hjob⟩

/-- Two sweeps that have both listed the only job, which has been processing for years. -/
def Small.twoSweeps : Office :=
  Office.played Small.settings dispatched
    [.begin (.sweepAt ⟨1000000000000000000⟩), .begin (.sweepAt ⟨1000000000000000000⟩),
      .act 0 (calm 3), .act 1 (calm 4), .act 0 (calm 5), .act 1 (calm 6), .act 0 (calm 7),
      .act 0 (calm 8)]

theorem sweeps_fail_the_expired_played :
    Small.dispatched.ReachedInYears ∧
    Small.twoSweeps.Reached Small.settings Small.dispatched ∧
    Unfailing (Small.twoSweeps.past.filter fun e => e.duty.isSweep) ∧
    Small.dispatched.jobs.countP
      (JobRow.isExpired Small.settings.pollTimeout ⟨1000000000000000000⟩) = 1 ∧
    (Desk.sweepAt Small.settings ⟨1000000000000000000⟩).Alone (fun result s' =>
      Swept Small.settings ⟨1000000000000000000⟩ Small.dispatched result s' ∧
        (Desk.sweepAt Small.settings ⟨1000000000000000000⟩).Alone
          (fun again s'' => again = .ok 0 ∧ s'' = s') s') Small.dispatched ∧
    (Small.twoSweeps.agents.map Agent.counted).sum = (sweptJobs Small.twoSweeps.past).length ∧
    sweptJobs Small.twoSweeps.past = [default] := by
  have hyears := Small.dispatched_reachedInYears
  have hreached : Small.twoSweeps.Reached Small.settings Small.dispatched :=
    Office.reached_played ..
  have hunfailing : Unfailing (Small.twoSweeps.past.filter fun e => e.duty.isSweep) := by
    decide +kernel
  have hreturned : ∀ doer agent, Small.twoSweeps.agents[doer]? = some agent →
      agent.duty.isSweep = true → Small.twoSweeps.Returned doer := by
    intro doer agent hagent _
    have hall : ∀ place < Small.twoSweeps.agents.length, Small.twoSweeps.Returned place := by
      decide +kernel
    exact hall doer (List.getElem?_eq_some_iff.mp hagent).1
  obtain ⟨halone, hoffice⟩ := sweeps_fail_the_expired Small.settings
  obtain ⟨-, hsweep⟩ := halone Small.dispatched ⟨1000000000000000000⟩ hyears (by decide +kernel)
    (by decide +kernel)
  obtain ⟨-, hcounts⟩ := hoffice Small.dispatched Small.twoSweeps hyears.reached hreached
  exact ⟨hyears, hreached, hunfailing, by decide +kernel, hsweep, (hcounts hunfailing hreturned).1,
    by decide +kernel⟩

end AnalysisDesk
