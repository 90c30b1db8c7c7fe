/-
How a job comes to its end in a log.

Three writes are there to end a job, and each of them is taken only if the row
still stands where the writer wants it.  So the event that has ended a job found it
active and left it over, and as a row that is over never becomes active again there
is no second one.
-/
import AnalysisDesk.Proofs.Desk.Lives

namespace AnalysisDesk

variable {settings : DeskSettings} {first s : Store} {past : List Event} {e : Event} {job : JobId}

/-- Nothing that was done was answered with an error of the store. -/
def Unfailing (past : List Event) : Prop := ∀ e ∈ past, ¬ e.what.Failed

theorem Unfailing.not_failed (h : Unfailing past) {doer : Nat} {x : Exchange}
    (hmem : x ∈ own past doer) (hfailed : x.Failed) : False := by
  obtain ⟨e, he, -, rfl⟩ := mem_own.mp hmem
  exact h e he hfailed

/-! ### Events that end a job -/

/-- An event that ended a job, the write that it was, and the row before it. -/
structure Event.Ended (e : Event) (job : JobId) (change : StoreWrite) (row : JobRow) : Prop where
  what : e.what.1 = .write change
  about : change.job = job
  ending : change.isEnding = true
  source : ∃ source ∈ change.sources, row.status = source.label
  before : e.before.jobRow? job = some row
  active : row.isActive = true
  after : e.after.jobRow? job = some (change.endedRow e.time row)
  inactive : (change.endedRow e.time row).isActive = false

namespace History

/-- A job is ended by a write that found its row active. -/
theorem ended (h : History settings first (e :: past) s) (hfirst : first.Reached)
    (hended : e.what.ended? = some job) : ∃ change row, e.Ended job change row := by
  have htouched := h.touched hfirst job
  generalize hbefore : e.before.jobRow? job = row? at htouched
  generalize hafter : e.after.jobRow? job = row?' at htouched
  generalize hwhat : e.what = x at htouched hended
  cases htouched with
  | kept _ _ hnot => exact absurd (Or.inr (Or.inr hended)) hnot
  | created | dispatched | recorded => exact nomatch hended
  | ended change _ row hjob hending source hsource hstatus hactive hover =>
      exact ⟨change, row, by rw [hwhat], hjob, hending, ⟨source, hsource, hstatus⟩, hbefore,
        hactive, hafter, hover⟩

/-- A write that was declined has found the job where it does not want it. -/
theorem stands_of_declined (h : History settings first (e :: past) s) (hfirst : first.Reached)
    {change : StoreWrite} (hchange : e.what.1 = .write change) (hjob : change.job = job)
    (hdeclined : e.what.Declined) {row : JobRow} (hrow : e.before.jobRow? job = some row) :
    ∀ source ∈ change.sources, row.status ≠ source.label := by
  have htouched := h.touched hfirst job
  rw [hrow] at htouched
  generalize e.after.jobRow? job = row?' at htouched
  generalize e.what = x at htouched hchange hdeclined
  cases htouched with
  | kept _ _ _ hstands => exact hstands change hchange hjob hdeclined row rfl
  | dispatched _ _ _ _ hanswer => exact absurd hdeclined hanswer
  | recorded => exact hdeclined.elim
  | ended _ _ _ _ _ _ _ _ _ _ hanswer => exact absurd hdeclined hanswer

/-! ### A job ends once -/

/-- A job that has been ended cannot be ended again. -/
theorem not_ended_again (h : History settings first (e :: past) s) (hfirst : first.Reached)
    {d : Event} (hd : d ∈ past) (hended : d.what.ended? = some job) : e.what.ended? ≠ some job := by
  intro hagain
  obtain ⟨after, earlier, rfl⟩ := List.append_of_mem hd
  obtain ⟨change, row, hevent⟩ := h.earlier.upTo.ended hfirst hended
  obtain ⟨row', hrow', hlater⟩ := h.earlier.later_of_mem hfirst hd hevent.after
  obtain ⟨change', row'', hevent'⟩ := h.ended hfirst hagain
  rw [hevent'.before, Option.some.injEq] at hrow'
  subst hrow'
  have hover := hlater.isActive_of_over hevent.inactive
  rw [hevent'.active] at hover
  exact Bool.noConfusion hover

/-- **A job is ended by one event.** -/
theorem ended_unique (h : History settings first past s) (hfirst : first.Reached) {d : Event}
    (he : e ∈ past) (hd : d ∈ past) (hended : e.what.ended? = some job)
    (hended' : d.what.ended? = some job) : e = d := by
  induction h with
  | start => exact nomatch he
  | @event past last hpast hhappens hmay hduty ih =>
      have hlog : History settings first (last :: past) last.after :=
        .event last hpast hhappens hmay hduty
      rcases List.mem_cons.mp he with rfl | hold <;> rcases List.mem_cons.mp hd with heq | hold'
      · exact heq.symm
      · exact absurd hended (hlog.not_ended_again hfirst hold' hended')
      · subst heq
        exact absurd hended' (hlog.not_ended_again hfirst hold hended)
      · exact ih hold hold'

/-! ### Looks -/

/-- What a look at a job shows is its row at that time. -/
theorem looked (h : History settings first (e :: past) s) (hfirst : first.Reached) {current : Job}
    (hwhat : e.what = ⟨.query (.job job), .ok (some current)⟩) :
    ∃ row, e.before.jobRow? job = some row ∧ row.read = .ok current ∧ row.Shows current ∧
      e.after = e.before := by
  have hhappens := h.happens
  rw [hwhat] at hhappens
  obtain ⟨hanswer, hafter⟩ := hhappens.answered
  obtain ⟨row, hrow, hread, hshows⟩ := (h.earlier.wf hfirst).job?_shows hanswer
  exact ⟨row, hrow, hread, hshows, hafter⟩

/-- Whoever looks at a job after having ended it finds it over, with the status that it was given. -/
theorem found_of_look (h : History settings first past s) (hfirst : first.Reached) {doer : Nat}
    (newer : List Exchange) {older : List Exchange} {x : Exchange} {found : Option Job}
    (hms : milestones (own past doer) = newer ++ ⟨.query (.job job), .ok found⟩ :: x :: older)
    (hended : x.ended? = some job) :
    ∃ current, found = some current ∧ ∃ look ∈ past, ∃ row, look.after.jobRow? job = some row ∧
      row.Shows current ∧ row.isActive = false ∧
      ∃ change now old, x.1 = .write change ∧ row.status = (change.endedRow now old).status := by
  obtain ⟨after, look, earlier, rfl, -, hlook, hms'⟩ := split_of_milestones _ hms
  obtain ⟨after', write, earlier', rfl, -, rfl, -⟩ := split_of_milestones [] hms'
  have hlog := h.upTo
  obtain ⟨change, old, hevent⟩ := hlog.earlier.upTo.ended hfirst hended
  obtain ⟨row, hrow, hlater⟩ := hlog.earlier.later_of_mem hfirst
    (List.mem_append_right _ (List.mem_cons_self ..)) hevent.after
  cases found with
  | none =>
      have hhappens := hlog.happens
      rw [hlook] at hhappens
      rw [Store.job?_none hhappens.answered.1] at hrow
      exact nomatch hrow
  | some current =>
      obtain ⟨row', hrow', -, hshows, hafter⟩ := hlog.looked hfirst hlook
      rw [hrow, Option.some.injEq] at hrow'
      subst hrow'
      rw [← hafter] at hrow
      exact ⟨current, rfl, look, List.mem_append_right _ (List.mem_cons_self ..), row, hrow, hshows,
        hlater.isActive_of_over hevent.inactive, change, write.time, old, hevent.what,
        hlater.status_of_over hevent.inactive⟩

end History

end AnalysisDesk
