/-
A procedure among others.

In an office everybody has a duty, and what they do to the store is what their duties do.  Here
nothing is known of the others.  Between two things that a procedure does, they carry out any
operations on the store, with any arguments; what the procedure itself is answered is as open as
in an office.

That is enough for refused calls.  An idle exchange is one by its answer, and the only answers that
could mislead are those of a store that has lost a job; but no operation takes a row away.
-/
import AnalysisDesk.Proofs.Desk.Refusals
import AnalysisDesk.Proofs.Store.Stamps

namespace AnalysisDesk

/-- Something that a procedure did, and the store before and after it. -/
structure Flow.Deed where
  what : Exchange
  before : Store
  after : Store

/-- A procedure comes to another one by its deeds, last one first, and others do operations in
between. -/
inductive Flow.Among {α : Type} (flow : Flow α) (first : Store) :
    List Flow.Deed → Store → Flow α → Prop
  | start : Among flow first [] first flow
  | others {past : List Flow.Deed} {s : Store} {flow' : Flow α} (h : Among flow first past s flow')
      (op : Store.Operation) (now : Instant) : Among flow first past (op.after now s) flow'
  | own {past : List Flow.Deed} {s s' : Store} {action : Action} {next : action.Answer → Flow α}
      (h : Among flow first past s (.act action next)) (now : Instant) (answer : action.Answer)
      (hhappens : Happens now s ⟨action, answer⟩ s') :
      Among flow first (⟨⟨action, answer⟩, s, s'⟩ :: past) s' (next answer)

namespace Flow.Among

variable {α β : Type} {flow flow' : Flow α} {first s : Store} {past older : List Flow.Deed}
  {d : Flow.Deed} {job : JobId}

theorem leads (h : flow.Among first past s flow') : flow.Leads (past.map (·.what)) flow' := by
  induction h with
  | start => exact .start
  | others _ _ _ ih => exact ih
  | own _ _ answer _ ih => exact .step ih answer

theorem reached (h : flow.Among first past s flow') (hfirst : first.Reached) : s.Reached := by
  induction h with
  | start => exact hfirst
  | others _ op now ih => exact ih.after op now
  | own _ _ _ hhappens ih => exact hhappens.reached ih

/-- Before each deed there was a store that the procedure had come to. -/
theorem upTo (h : flow.Among first past s flow') {newer : List Flow.Deed}
    (hpast : past = newer ++ d :: older) :
    (∃ flow'', flow.Among first older d.before flow'') ∧
      ∃ now, Happens now d.before d.what d.after := by
  induction h generalizing newer with
  | start => simp at hpast
  | others _ _ _ ih => exact ih hpast
  | own h now _ hhappens ih =>
      cases newer with
      | nil =>
          cases hpast
          exact ⟨⟨_, h⟩, now, hhappens⟩
      | cons e newer =>
          rw [List.cons_append, List.cons.injEq] at hpast
          exact ih hpast.2

/-- A job that was seen stays. -/
theorem isSome_of_seen (h : flow.Among first past s flow') (hfirst : first.Reached) (hd : d ∈ past)
    (hseen : d.what.Sees job) : (s.jobRow? job).isSome = true := by
  induction h with
  | start => exact nomatch hd
  | others h op now ih =>
      obtain ⟨row, hrow⟩ := Option.isSome_iff_exists.mp (ih hd)
      obtain ⟨row', hrow', -⟩ := ((h.reached hfirst).continues op now).row hrow
      simp [hrow']
  | own h now _ hhappens ih =>
      have hwf := (h.reached hfirst).wf
      rcases List.mem_cons.mp hd with rfl | hd
      · exact hhappens.isSome_of_seen hwf hseen
      · exact (hhappens.touched hwf job).isSome (ih hd)

theorem neverLoses (h : flow.Among first past s flow') (hfirst : first.Reached) :
    NeverLoses (past.map (·.what)) := by
  rintro job ms hms ⟨x, hx, hseen⟩
  obtain ⟨after, before, heq, -, -, rfl⟩ := List.filter_eq_cons_iff.mp hms
  obtain ⟨newer, rest, rfl, -, hrest⟩ := List.map_eq_append_iff.mp heq
  obtain ⟨look, older, rfl, hlook, rfl⟩ := List.map_eq_cons_iff.mp hrest
  obtain ⟨d, hd, rfl⟩ := List.mem_map.mp (mem_of_mem_milestones hx)
  obtain ⟨⟨flow'', hearlier⟩, now, hhappens⟩ := h.upTo rfl
  have hsome := hearlier.isSome_of_seen hfirst hd hseen
  rw [hlook] at hhappens
  rw [Store.job?_none hhappens.answered.1] at hsome
  exact Bool.noConfusion hsome

/-- A procedure that is over has nothing to do. -/
theorem of_done {result : α} (h : (Flow.done result).Among first past s flow') : past = [] := by
  have hover : past = [] ∧ flow' = .done result := by
    induction h with
    | start => exact ⟨rfl, rfl⟩
    | others _ _ _ ih => exact ih
    | own _ _ _ _ ih => exact nomatch ih.2
  exact hover.1

/-- A procedure whose result is passed on does what it does without that. -/
theorem of_map {f : α → β} {flow' : Flow β} (h : (flow.map f).Among first past s flow') :
    ∃ rest, flow.Among first past s rest ∧ flow' = rest.map f := by
  induction h with
  | start => exact ⟨flow, .start, rfl⟩
  | others _ op now ih =>
      obtain ⟨rest, hrest, rfl⟩ := ih
      exact ⟨rest, .others hrest op now, rfl⟩
  | own _ now answer hhappens ih =>
      obtain ⟨rest, hrest, heq⟩ := ih
      cases rest with
      | done | collapse => exact nomatch heq
      | act action next =>
          cases heq
          exact ⟨next answer, .own hrest now answer hhappens, rfl⟩

/-- **Nobody notices a call that was refused**, whatever the others do. -/
theorem unnoticed_of_refused {settings : DeskSettings} {duty : Duty} {result : duty.Result}
    (h : (duty.flow settings).Among first past s (.done result)) (hfirst : first.Reached)
    (hrefused : duty.refuses result = true) : ∀ d ∈ past, d.what.Unnoticed d.before d.after := by
  intro d hd
  have hidle := Duty.idle_of_refused h.leads hrefused (h.neverLoses hfirst) d.what
    (List.mem_map_of_mem hd)
  obtain ⟨newer, older, hpast⟩ := List.append_of_mem hd
  obtain ⟨⟨flow'', hearlier⟩, now, hhappens⟩ := h.upTo hpast
  exact hhappens.unnoticed (hearlier.reached hfirst).wf hidle

/-- Nobody notices a look. -/
theorem unnoticed_of_look {user : Int} {look : Look} {flow' : DeskCall look.Result}
    (h : (look.call user).Among first past s flow') (hfirst : first.Reached) :
    ∀ d ∈ past, d.what.Unnoticed d.before d.after := by
  intro d hd
  obtain ⟨question, hquestion⟩ := Look.query_of_leads h.leads d.what (List.mem_map_of_mem hd)
  obtain ⟨newer, older, hpast⟩ := List.append_of_mem hd
  obtain ⟨⟨flow'', hearlier⟩, now, hhappens⟩ := h.upTo hpast
  obtain ⟨⟨action, answer⟩, before, after⟩ := d
  cases hquestion
  exact hhappens.unnoticed (hearlier.reached hfirst).wf rfl

end Flow.Among

end AnalysisDesk
