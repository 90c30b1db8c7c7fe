/-
The life of a job in a log.

A row comes into a store once and stays.  From then on it only goes forward:
`JobRow.Later` says what one state of it still tells about a later one.  The point
where this could fail is the handle that a submission records after the fact,
because the store would keep it on any row that has none.  It does not fail,
because the submission that records a handle on a job is the one that created the
job, and it records only after its own mark was declined, when the job was over.

That rests on who owns a job.  A job that was created in a log has one creator,
nobody else marks it or records its handle, and a handle on it can be traced back
to an event of its creator.  `History.owned` is the invariant; the induction is over
the log, and each case is what the table of submissions says about the event.
-/
import AnalysisDesk.Proofs.Desk.Office
import Mathlib.Logic.Relation

namespace AnalysisDesk

variable {settings : DeskSettings} {first s : Store} {past : List Event} {e : Event} {job : JobId}

/-! ### Logs -/

namespace History

theorem after_eq (h : History settings first (e :: past) s) : s = e.after := by
  cases h with
  | event => rfl

theorem earlier (h : History settings first (e :: past) s) :
    History settings first past e.before := by
  cases h with
  | event _ h => exact h

theorem happens (h : History settings first (e :: past) s) :
    Happens e.time e.before e.what e.after := by
  cases h with
  | event _ _ hhappens => exact hhappens

theorem may (h : History settings first (e :: past) s) :
    e.duty.May settings (milestones (own past e.doer)) e.what.1 := by
  cases h with
  | event _ _ _ hmay => exact hmay

theorem sameDuty (h : History settings first (e :: past) s) {e' : Event} (he' : e' ∈ past)
    (hdoer : e'.doer = e.doer) : e'.duty = e.duty := by
  cases h with
  | event _ _ _ _ hduty => exact hduty e' he' hdoer

/-- The log up to one of its events. -/
theorem upTo {after earlier : List Event} (h : History settings first (after ++ e :: earlier) s) :
    History settings first (e :: earlier) e.after := by
  induction after generalizing s with
  | nil =>
      have hs := h.after_eq
      subst hs
      exact h
  | cons d rest ih => exact ih h.earlier

theorem reached (h : History settings first past s) (hfirst : first.Reached) : s.Reached := by
  induction h with
  | start => exact hfirst
  | event e _ hhappens _ _ ih => exact hhappens.reached ih

theorem wf (h : History settings first past s) (hfirst : first.Reached) : s.WF :=
  (h.reached hfirst).wf

theorem repositories (h : History settings first past s) (hfirst : first.Reached) :
    s.repositories = first.repositories := by
  induction h with
  | start => rfl
  | event e hpast hhappens _ _ ih => exact (hhappens.repositories (hpast.wf hfirst)).trans ih

/-- What an event makes of the row of a job. -/
theorem touched (h : History settings first (e :: past) s) (hfirst : first.Reached) (job : JobId) :
    Touched job e.time e.what (e.before.jobRow? job) (e.after.jobRow? job) :=
  h.happens.touched (h.earlier.wf hfirst) job

end History

/-- A milestone of an agent is one of its events, and the milestones before it are those that the
agent had passed then. -/
theorem split_of_milestones {doer : Nat} {x : Exchange} (newer : List Exchange)
    {older : List Exchange} :
    ∀ {past : List Event}, milestones (own past doer) = newer ++ x :: older →
      ∃ after e earlier, past = after ++ e :: earlier ∧ e.doer = doer ∧ e.what = x ∧
        milestones (own earlier doer) = older := by
  intro past
  induction past generalizing newer with
  | nil => intro h; exact absurd h (by simp [own])
  | cons e past ih =>
      intro h
      have hlater : ∀ {newer' : List Exchange},
          milestones (own past doer) = newer' ++ x :: older →
          ∃ after d earlier, e :: past = after ++ d :: earlier ∧ d.doer = doer ∧ d.what = x ∧
            milestones (own earlier doer) = older := by
        intro newer' h'
        obtain ⟨after, d, earlier, rfl, hd⟩ := ih _ h'
        exact ⟨e :: after, d, earlier, rfl, hd⟩
      by_cases hdoer : e.doer = doer
      · subst hdoer
        rw [own_cons_self] at h
        cases hmilestone : e.what.isMilestone with
        | false =>
            rw [milestones_cons_of_other hmilestone] at h
            exact hlater h
        | true =>
            rw [milestones_cons_of_milestone hmilestone] at h
            cases newer with
            | nil =>
                rw [List.nil_append, List.cons.injEq] at h
                exact ⟨[], e, past, rfl, rfl, h⟩
            | cons y newer =>
                rw [List.cons_append, List.cons.injEq] at h
                exact hlater h.2
      · rw [own_cons_of_ne hdoer] at h
        exact hlater h

theorem mem_of_milestones {doer : Nat} {x : Exchange} (h : x ∈ milestones (own past doer)) :
    ∃ e ∈ past, e.doer = doer ∧ e.what = x :=
  mem_own.mp (mem_of_mem_milestones h)

theorem mem_milestones_own (he : e ∈ past) (h : e.what.isMilestone = true) :
    e.what ∈ milestones (own past e.doer) :=
  List.mem_filter.mpr ⟨mem_own.mpr ⟨e, he, rfl, rfl⟩, h⟩

/-! ### Rows stay -/

theorem Touched.isSome {now : Instant} {x : Exchange} {row? row?' : Option JobRow}
    (h : Touched job now x row? row?') (hsome : row?.isSome = true) : row?'.isSome = true := by
  cases h with
  | kept => exact hsome
  | created | dispatched | recorded | ended => rfl

theorem History.isSome_of_mem (h : History settings first past s) (hfirst : first.Reached)
    (he : e ∈ past) (hsome : (e.after.jobRow? job).isSome = true) :
    (s.jobRow? job).isSome = true := by
  induction h with
  | start => exact nomatch he
  | event d hpast hhappens hmay hduty ih =>
      rcases List.mem_cons.mp he with rfl | he
      · exact hsome
      · exact (hhappens.touched (hpast.wf hfirst) job).isSome (ih he)

/-! ### Creators -/

/-- Somebody has created a job. -/
def Created (past : List Event) (job : JobId) (doer : Nat) : Prop :=
  ∃ e ∈ past, e.doer = doer ∧
    ∃ new created, e.what = ⟨.write (.createJob job new), .ok (.created created)⟩

namespace History

/-- The job was not there before it was created, and it is there afterwards. -/
theorem row_of_creation (h : History settings first (e :: past) s) (hfirst : first.Reached)
    {new : NewJob} {created : Job}
    (hwhat : e.what = ⟨.write (.createJob job new), .ok (.created created)⟩) :
    e.before.jobRow? job = none ∧
      e.after.jobRow? job = some (Store.pendingRow job new e.time) := by
  have htouched := h.touched hfirst job
  rw [hwhat] at htouched
  generalize e.before.jobRow? job = row? at htouched ⊢
  generalize e.after.jobRow? job = row?' at htouched ⊢
  cases htouched with
  | kept _ _ hnot => exact absurd (Or.inl ⟨new, created, rfl⟩) hnot
  | created => exact ⟨rfl, rfl⟩
  | ended _ _ _ _ hending => exact Bool.noConfusion hending

theorem isSome_of_created (h : History settings first past s) (hfirst : first.Reached)
    {doer : Nat} (hcreated : Created past job doer) : (s.jobRow? job).isSome = true := by
  obtain ⟨e, he, -, new, created, hwhat⟩ := hcreated
  obtain ⟨after, earlier, rfl⟩ := List.append_of_mem he
  refine h.isSome_of_mem hfirst he ?_
  rw [(h.upTo.row_of_creation hfirst hwhat).2]
  rfl

/-- **A job has one creator.** -/
theorem creator_unique (h : History settings first past s) (hfirst : first.Reached)
    {doer doer' : Nat} (hcreated : Created past job doer) (hcreated' : Created past job doer') :
    doer = doer' := by
  induction h with
  | start =>
      obtain ⟨_, he, -⟩ := hcreated
      exact nomatch he
  | @event past e hpast hhappens hmay hduty ih =>
      have hlast : ∀ {d d' : Nat}, (e.doer = d ∧ ∃ new created,
          e.what = ⟨.write (.createJob job new), .ok (.created created)⟩) →
          Created past job d' → False := by
        intro d d' hnew hold
        obtain ⟨-, new, created, hwhat⟩ := hnew
        have hnone := (row_of_creation (.event e hpast hhappens hmay hduty) hfirst hwhat).1
        have hsome := hpast.isSome_of_created hfirst hold
        rw [hnone] at hsome
        exact Bool.noConfusion hsome
      obtain ⟨d, hd, hdoer, hwhat⟩ := hcreated
      obtain ⟨d', hd', hdoer', hwhat'⟩ := hcreated'
      rcases List.mem_cons.mp hd with rfl | hold <;> rcases List.mem_cons.mp hd' with heq | hold'
      · rw [← hdoer, ← hdoer', heq]
      · exact (hlast ⟨hdoer, hwhat⟩ ⟨d', hold', hdoer', hwhat'⟩).elim
      · subst heq
        exact (hlast ⟨hdoer', hwhat'⟩ ⟨d, hold, hdoer, hwhat⟩).elim
      · exact ih ⟨d, hold, hdoer, hwhat⟩ ⟨d', hold', hdoer', hwhat'⟩

end History

/-! ### Handles -/

/-- An event that may have put a handle on a job. -/
def Event.Handles (e : Event) (job : JobId) (handle : String) : Prop :=
  ¬ e.what.Declined ∧
    (e.what.1 = .write (.markDispatched job handle) ∨ e.what.1 = .write (.recordHandle job handle))

/-- A mark on a job that came too late. -/
def Event.MarksInVain (e : Event) (job : JobId) : Prop :=
  ∃ handle, e.what = ⟨.write (.markDispatched job handle), .ok false⟩

/-- What a row tells of the events of the one who created its job. -/
structure Owned (past : List Event) (job : JobId) (creator : Nat) (row : JobRow) : Prop where
  handle : ∀ handle, row.externalHandle = some handle →
    ∃ e ∈ past, e.doer = creator ∧ e.Handles job handle
  overtaken : (∃ e ∈ past, e.doer = creator ∧ e.MarksInVain job) → row.isActive = false
  pending : row.status = JobStatus.pending.label → row.externalHandle = none

theorem Owned.keep {creator : Nat} {row : JobRow} (h : Owned past job creator row)
    (hnew : e.doer = creator → e.MarksInVain job → row.isActive = false) :
    Owned (e :: past) job creator row := by
  refine ⟨?_, ?_, h.pending⟩
  · intro handle hhandle
    obtain ⟨d, hd, hevent⟩ := h.handle handle hhandle
    exact ⟨d, List.mem_cons_of_mem _ hd, hevent⟩
  · rintro ⟨d, hd, hdoer, hvain⟩
    rcases List.mem_cons.mp hd with rfl | hd
    · exact hnew hdoer hvain
    · exact h.overtaken ⟨d, hd, hdoer, hvain⟩

namespace History

/-- Whoever has passed the creation of a job is its creator. -/
theorem created_of_milestones {doer : Nat} {requester : Int} {request : SubmitRequest}
    {repository : Repository} {created : Job} (newer : List Exchange)
    (h : milestones (own past doer)
      = newer ++ Desk.afterCreation requester request repository job created) :
    Created past job doer := by
  have hmem : (⟨.write (.createJob job (request.newJob repository)), .ok (.created created)⟩ :
      Exchange) ∈ milestones (own past doer) := by
    rw [h]
    exact List.mem_append_right _ (List.mem_cons_self ..)
  obtain ⟨e, he, hdoer, hwhat⟩ := mem_of_milestones hmem
  exact ⟨e, he, hdoer, _, _, hwhat⟩

theorem created_of_mark (h : History settings first (e :: past) s) {handle : String}
    (hwhat : e.what.1 = .write (.markDispatched job handle)) : Created past job e.doer := by
  have hmay := h.may
  rw [hwhat] at hmay
  obtain ⟨requester, request, repository, created, -, hms⟩ := Duty.may_markDispatched hmay
  exact created_of_milestones [_] hms

theorem created_of_record (h : History settings first (e :: past) s) {handle : String}
    (hwhat : e.what.1 = .write (.recordHandle job handle)) : Created past job e.doer := by
  have hmay := h.may
  rw [hwhat] at hmay
  obtain ⟨requester, request, repository, created, -, hms⟩ := Duty.may_recordHandle hmay
  exact created_of_milestones [_, _] hms

/-- A handle is recorded only after a mark in vain. -/
theorem vain_of_record (h : History settings first (e :: past) s) {handle : String}
    (hwhat : e.what.1 = .write (.recordHandle job handle)) :
    ∃ d ∈ past, d.doer = e.doer ∧ d.MarksInVain job := by
  have hmay := h.may
  rw [hwhat] at hmay
  obtain ⟨requester, request, repository, created, -, hms⟩ := Duty.may_recordHandle hmay
  have hmem : (⟨.write (.markDispatched job handle), .ok false⟩ : Exchange) ∈
      milestones (own past e.doer) := by
    rw [hms]
    exact List.mem_cons_self ..
  obtain ⟨d, hd, hdoer, hwhat⟩ := mem_of_milestones hmem
  exact ⟨d, hd, hdoer, handle, hwhat⟩

/-- Up to its mark a submission puts a handle on no job. -/
theorem unhandled_afterHandover {requester : Int} {request : SubmitRequest}
    {repository : Repository} {id : JobId} {created : Job} {handle : String} :
    ∀ x ∈ Desk.afterHandover requester request repository id created handle, ∀ handle',
      x.1 ≠ .write (.markDispatched job handle') ∧ x.1 ≠ .write (.recordHandle job handle') := by
  simp [Desk.afterHandover, Desk.afterCreation, Desk.afterDrawing, Desk.afterLookup]

/-- Whoever marks a job has neither marked it before nor recorded a handle. -/
theorem no_handle_before_mark (h : History settings first (e :: past) s) {handle : String}
    (hwhat : e.what.1 = .write (.markDispatched job handle)) {d : Event} (hd : d ∈ past)
    (hdoer : d.doer = e.doer) (handle' : String) :
    d.what.1 ≠ .write (.markDispatched job handle') ∧
      d.what.1 ≠ .write (.recordHandle job handle') := by
  have hmay := h.may
  rw [hwhat] at hmay
  obtain ⟨requester, request, repository, created, -, hms⟩ := Duty.may_markDispatched hmay
  have hnone : ∀ x ∈ milestones (own past e.doer), x.1 ≠ .write (.markDispatched job handle') ∧
      x.1 ≠ .write (.recordHandle job handle') := by
    rw [hms]
    exact fun x hx => unhandled_afterHandover x hx handle'
  have hmem : d.what.isMilestone = true → d.what ∈ milestones (own past e.doer) := by
    intro hmilestone
    rw [← hdoer]
    exact mem_milestones_own hd hmilestone
  refine ⟨fun hc => ?_, fun hc => ?_⟩
  · exact (hnone _ (hmem (Exchange.isMilestone_of_write hc))).1 hc
  · exact (hnone _ (hmem (Exchange.isMilestone_of_write hc))).2 hc

/-- A mark in vain tells that the job is over.  A job that is processing has a handle, and that would
be the work of its creator, who has done nothing of the kind. -/
private theorem over_of_vain (h : History settings first (e :: past) s) (hfirst : first.Reached)
    (hvain : e.MarksInVain job) {row : JobRow} (hrow : e.before.jobRow? job = some row)
    (howned : Owned past job e.doer row) (hpending : row.status ≠ JobStatus.pending.label) :
    row.isActive = false := by
  obtain ⟨handle, hwhat⟩ := hvain
  have hmark : e.what.1 = .write (.markDispatched job handle) := by rw [hwhat]
  cases hactive : row.isActive with
  | false => rfl
  | true =>
      rcases JobRow.isActive_iff.mp hactive with hc | hprocessing
      · exact absurd hc hpending
      · obtain ⟨kept, hkept⟩ := Option.ne_none_iff_exists'.mp
          ((h.earlier.wf hfirst).handled row (Store.jobRow?_mem hrow).1 (Or.inl hprocessing))
        obtain ⟨d, hd, hdoer, -, hhandles⟩ := howned.handle kept hkept
        exact absurd hhandles (not_or.mpr (h.no_handle_before_mark hmark hd hdoer kept))

/-- The creator's mark, when it is taken. -/
private theorem owned_of_mark (h : History settings first (e :: past) s) {handle : String}
    (hmark : e.what.1 = .write (.markDispatched job handle)) (htaken : ¬ e.what.Declined)
    (row : JobRow) : Owned (e :: past) job e.doer (row.dispatched handle e.time) := by
  refine ⟨?_, ?_, fun hc => ?_⟩
  · intro handle' hhandle
    obtain rfl := Option.some.inj hhandle
    exact ⟨e, List.mem_cons_self .., rfl, htaken, Or.inl hmark⟩
  · rintro ⟨d, hd, hdoer, handle', hvain⟩
    rcases List.mem_cons.mp hd with rfl | hd
    · rw [hvain] at htaken
      exact absurd rfl htaken
    · refine absurd ?_ (h.no_handle_before_mark hmark hd hdoer handle').1
      rw [hvain]
  · have hlabel : JobStatus.processing.label = JobStatus.pending.label := hc
    exact absurd (JobStatus.label_injective hlabel) (by decide)

/-- A handle that the creator records. -/
private theorem owned_of_record (h : History settings first (e :: past) s) {handle : String}
    (hrecord : e.what.1 = .write (.recordHandle job handle)) {row : JobRow}
    (howned : Owned past job e.doer row) : Owned (e :: past) job e.doer (row.withHandle handle) := by
  have hover : row.isActive = false := howned.overtaken (h.vain_of_record hrecord)
  refine ⟨?_, fun _ => hover, fun hc => ?_⟩
  · intro handle' hhandle
    obtain rfl := Option.some.inj hhandle
    refine ⟨e, List.mem_cons_self .., rfl, ?_, Or.inr hrecord⟩
    generalize e.what = x at hrecord ⊢
    obtain ⟨action, answer⟩ := x
    cases hrecord
    exact id
  · have hactive : row.isActive = true := JobRow.isActive_iff.mpr (Or.inl hc)
    rw [hover] at hactive
    exact Bool.noConfusion hactive

/-- One event after the creation. -/
private theorem owned_step (h : History settings first (e :: past) s) (hfirst : first.Reached)
    {creator : Nat} (hcreated : Created past job creator)
    (ih : ∀ row, e.before.jobRow? job = some row → Owned past job creator row) {row : JobRow}
    (hrow : e.after.jobRow? job = some row) : Owned (e :: past) job creator row := by
  have hsame : ∀ {doer : Nat}, Created past job doer → creator = doer := fun hother =>
    h.earlier.creator_unique hfirst hcreated hother
  have htouched := h.touched hfirst job
  rw [hrow] at htouched
  generalize hbefore : e.before.jobRow? job = row? at htouched
  generalize hwhat : e.what = x at htouched
  cases htouched with
  | kept _ _ hnot hdeclined =>
      refine (ih row hbefore).keep fun hdoer hvain => ?_
      subst hdoer
      refine h.over_of_vain hfirst hvain hbefore (ih row hbefore) ?_
      obtain ⟨handle, hvain⟩ := hvain
      obtain rfl := hwhat.symm.trans hvain
      exact hdeclined _ rfl rfl rfl row rfl .pending (List.mem_singleton_self _)
  | created =>
      have hsome := h.earlier.isSome_of_created hfirst hcreated
      rw [hbefore] at hsome
      exact Bool.noConfusion hsome
  | dispatched handle answer old hstatus hanswer =>
      have hmark : e.what.1 = .write (.markDispatched job handle) := by rw [hwhat]
      obtain rfl := hsame (h.created_of_mark hmark)
      refine h.owned_of_mark hmark ?_ old
      rw [hwhat]
      exact hanswer
  | recorded handle answer old hnone =>
      have hrecord : e.what.1 = .write (.recordHandle job handle) := by rw [hwhat]
      obtain rfl := hsame (h.created_of_record hrecord)
      exact h.owned_of_record hrecord (ih old hbefore)
  | ended change answer old hjob hending source hsource hstatus hactive hover hanswer =>
      refine ⟨?_, fun _ => hover, fun hc => ?_⟩
      · intro handle hhandle
        rw [change.endedRow_handle] at hhandle
        obtain ⟨d, hd, hevent⟩ := (ih old hbefore).handle handle hhandle
        exact ⟨d, List.mem_cons_of_mem _ hd, hevent⟩
      · rw [JobRow.isActive_iff.mpr (Or.inl hc)] at hover
        exact Bool.noConfusion hover

/-- The event that creates a job: nobody can have marked it before. -/
private theorem owned_of_creation (h : History settings first (e :: past) s)
    (hfirst : first.Reached) {new : NewJob} {created : Job}
    (hwhat : e.what = ⟨.write (.createJob job new), .ok (.created created)⟩)
    (hfresh : ¬ Created past job e.doer) {row : JobRow} (hrow : e.after.jobRow? job = some row) :
    Owned (e :: past) job e.doer row := by
  obtain ⟨-, hpending⟩ := h.row_of_creation hfirst hwhat
  rw [hrow, Option.some.injEq] at hpending
  subst hpending
  refine ⟨fun _ hc => (nomatch hc), ?_, fun _ => rfl⟩
  rintro ⟨d, hd, hdoer, handle, hvain⟩
  rcases List.mem_cons.mp hd with rfl | hd
  · exact nomatch hwhat.symm.trans hvain
  · refine absurd ?_ hfresh
    obtain ⟨after, earlier, rfl⟩ := List.append_of_mem hd
    obtain ⟨c, hc, hcdoer, hcreates⟩ := h.earlier.upTo.created_of_mark (congrArg Sigma.fst hvain)
    exact ⟨c, List.mem_append_right _ (List.mem_cons_of_mem _ hc), hcdoer.trans hdoer, hcreates⟩

/-- **What a row tells of its creator's events.** -/
theorem owned (h : History settings first past s) (hfirst : first.Reached) {creator : Nat}
    (hcreated : Created past job creator) {row : JobRow} (hrow : s.jobRow? job = some row) :
    Owned past job creator row := by
  induction h generalizing row with
  | start =>
      obtain ⟨_, he, -⟩ := hcreated
      exact nomatch he
  | @event past e hpast hhappens hmay hduty ih =>
      have hlog : History settings first (e :: past) e.after := .event e hpast hhappens hmay hduty
      by_cases hold : Created past job creator
      · exact hlog.owned_step hfirst hold (fun _ => ih hold) hrow
      · obtain ⟨d, hd, hdoer, new, created, hwhat⟩ := hcreated
        rcases List.mem_cons.mp hd with rfl | hd
        · subst hdoer
          exact hlog.owned_of_creation hfirst hwhat hold hrow
        · exact absurd ⟨d, hd, hdoer, new, created, hwhat⟩ hold

/-- Somebody who has passed no milestone that could have put a handle on a job has put none. -/
theorem unhandled_of_milestones {doer : Nat}
    (hms : ∀ x ∈ milestones (own past doer), x.Declined ∨ ∀ handle,
      x.1 ≠ .write (.markDispatched job handle) ∧ x.1 ≠ .write (.recordHandle job handle)) :
    ∀ d ∈ past, d.doer = doer → ∀ handle, ¬ d.Handles job handle := by
  rintro d hd rfl handle ⟨htaken, hwrites⟩
  have hmem := mem_milestones_own hd
    (hwrites.elim Exchange.isMilestone_of_write Exchange.isMilestone_of_write)
  rcases hms _ hmem with hdeclined | hother
  · exact htaken hdeclined
  · exact hwrites.elim (hother handle).1 (hother handle).2

/-- If the creator of a job has put no handle on it, then nobody has. -/
theorem no_handle (h : History settings first past s) (hfirst : first.Reached) {creator : Nat}
    (hcreated : Created past job creator)
    (hnever : ∀ d ∈ past, d.doer = creator → ∀ handle, ¬ d.Handles job handle) {row : JobRow}
    (hrow : s.jobRow? job = some row) : row.externalHandle = none := by
  cases hhandle : row.externalHandle with
  | none => rfl
  | some handle =>
      obtain ⟨d, hd, hdoer, hhandles⟩ := (h.owned hfirst hcreated hrow).handle handle hhandle
      exact absurd hhandles (hnever d hd hdoer handle)

end History

/-! ### Going forward -/

/-- What one state of a row tells about a later one. -/
structure JobRow.Later (row row' : JobRow) : Prop where
  handle : row.status ≠ JobStatus.pending.label → ∀ handle, row.externalHandle = some handle →
    row'.externalHandle = some handle
  inactive : row.isActive = false →
    row' = row ∨ (row.externalHandle = none ∧ ∃ handle, row' = row.withHandle handle)
  same : row.isActive = true → row'.status = row.status → row' = row
  active : row'.isActive = true → row.isActive = true
  pending : row'.status = JobStatus.pending.label → row.status = JobStatus.pending.label

namespace JobRow.Later

variable {row row' row'' : JobRow}

theorem refl (row : JobRow) : row.Later row :=
  ⟨fun _ _ h => h, fun _ => Or.inl rfl, fun _ _ => rfl, fun h => h, fun h => h⟩

theorem isActive_of_over (h : row.Later row') (hover : row.isActive = false) :
    row'.isActive = false := by
  cases hactive : row'.isActive with
  | false => rfl
  | true => rw [h.active hactive] at hover; exact Bool.noConfusion hover

theorem status_of_over (h : row.Later row') (hover : row.isActive = false) :
    row'.status = row.status := by
  rcases h.inactive hover with rfl | ⟨-, handle, rfl⟩ <;> rfl

/-- A row that is over and has a handle does not change any more. -/
theorem eq_of_over (h : row.Later row') (hover : row.isActive = false)
    (hhandle : row.externalHandle ≠ none) : row' = row := by
  rcases h.inactive hover with rfl | ⟨hnone, -⟩
  · rfl
  · exact absurd hnone hhandle

theorem trans (h : row.Later row') (h' : row'.Later row'') : row.Later row'' := by
  refine ⟨?_, ?_, ?_, fun hc => h.active (h'.active hc), fun hc => h.pending (h'.pending hc)⟩
  · intro hpending handle hhandle
    exact h'.handle (fun hc => hpending (h.pending hc)) handle (h.handle hpending handle hhandle)
  · intro hover
    have hover' := h.isActive_of_over hover
    rcases h.inactive hover with rfl | ⟨hnone, handle, rfl⟩
    · exact h'.inactive hover
    · exact Or.inr ⟨hnone, handle, h'.eq_of_over hover' (Option.some_ne_none _)⟩
  · intro hactive hstatus
    -- the status in between is the same: it is active, and nothing goes back to pending
    have hbetween : row'.status = row.status := by
      have hactive'' : row''.isActive = true := by
        rw [isActive, hstatus]
        exact hactive
      rcases isActive_iff.mp (h'.active hactive'') with hpending' | hprocessing'
      · rw [hpending', h.pending hpending']
      · rcases isActive_iff.mp hactive with hpending | hprocessing
        · rw [h'.pending (hstatus.trans hpending), hpending]
        · rw [hprocessing', hprocessing]
    obtain rfl := h.same hactive hbetween
    exact h'.same hactive hstatus

end JobRow.Later

namespace History

/-- A handle is recorded only on a job that is over. -/
theorem over_of_record (h : History settings first (e :: past) s) (hfirst : first.Reached)
    {handle : String} (hwhat : e.what.1 = .write (.recordHandle job handle)) {row : JobRow}
    (hrow : e.before.jobRow? job = some row) : row.isActive = false := by
  obtain ⟨d, hd, hdoer, hvain⟩ := h.vain_of_record hwhat
  exact (h.earlier.owned hfirst (h.created_of_record hwhat) hrow).overtaken ⟨d, hd, hdoer, hvain⟩

/-- One event takes a row forward. -/
theorem later_step (h : History settings first (e :: past) s) (hfirst : first.Reached)
    {row : JobRow} (hrow : e.before.jobRow? job = some row) :
    ∃ row', e.after.jobRow? job = some row' ∧ row.Later row' := by
  have htouched := h.touched hfirst job
  rw [hrow] at htouched
  generalize e.after.jobRow? job = row?' at htouched ⊢
  generalize hwhat : e.what = x at htouched
  cases htouched with
  | kept => exact ⟨row, rfl, .refl row⟩
  | dispatched handle answer _ hstatus =>
      have hactive : row.isActive = true := JobRow.isActive_iff.mpr (Or.inl hstatus)
      have hmoved : JobStatus.processing.label ≠ JobStatus.pending.label := fun hc =>
        absurd (JobStatus.label_injective hc) (by decide)
      refine ⟨_, rfl, fun hpending => absurd hstatus hpending, fun hover => ?_, fun _ hsame => ?_,
        fun _ => hactive, fun hc => absurd hc hmoved⟩
      · rw [hactive] at hover
        exact Bool.noConfusion hover
      · exact absurd (hsame.trans hstatus) hmoved
  | recorded handle _ _ hnone =>
      have hover := h.over_of_record hfirst (by rw [hwhat]) hrow
      refine ⟨_, rfl, fun _ handle' hhandle => ?_, fun _ => Or.inr ⟨hnone, handle, rfl⟩,
        fun hactive => ?_, id, id⟩
      · rw [hnone] at hhandle
        exact nomatch hhandle
      · rw [hover] at hactive
        exact Bool.noConfusion hactive
  | ended change _ _ _ _ _ _ _ hactive hover =>
      have hnever : ∀ {status : JobStatus}, status.isActive = true →
          (change.endedRow e.time row).status ≠ status.label := by
        intro status hstatus hc
        rw [JobRow.isActive_of_status hc, hstatus] at hover
        exact Bool.noConfusion hover
      refine ⟨_, rfl, fun _ handle hhandle => ?_, fun hc => ?_, fun _ hsame => ?_,
        fun _ => hactive, fun hc => absurd hc (hnever rfl)⟩
      · rw [change.endedRow_handle, hhandle]
      · rw [hactive] at hc
        exact Bool.noConfusion hc
      · rcases JobRow.isActive_iff.mp hactive with hpending | hprocessing
        · exact absurd (hsame.trans hpending) (hnever rfl)
        · exact absurd (hsame.trans hprocessing) (hnever rfl)

/-- **A row goes forward** from any event on. -/
theorem later_of_mem (h : History settings first past s) (hfirst : first.Reached) (he : e ∈ past)
    {row : JobRow} (hrow : e.after.jobRow? job = some row) :
    ∃ row', s.jobRow? job = some row' ∧ row.Later row' := by
  induction h with
  | start => exact nomatch he
  | event d hpast hhappens hmay hduty ih =>
      rcases List.mem_cons.mp he with rfl | he
      · exact ⟨row, hrow, .refl row⟩
      · obtain ⟨row', hrow', hlater⟩ := ih he
        obtain ⟨row'', hrow'', hlater'⟩ :=
          later_step (.event d hpast hhappens hmay hduty) hfirst hrow'
        exact ⟨row'', hrow'', hlater.trans hlater'⟩

theorem later_of_before (h : History settings first past s) (hfirst : first.Reached) (he : e ∈ past)
    {row : JobRow} (hrow : e.before.jobRow? job = some row) :
    ∃ row', s.jobRow? job = some row' ∧ row.Later row' := by
  obtain ⟨after, earlier, rfl⟩ := List.append_of_mem he
  obtain ⟨between, hbetween, hlater⟩ := h.upTo.later_step hfirst hrow
  obtain ⟨row', hrow', hlater'⟩ := h.later_of_mem hfirst he hbetween
  exact ⟨row', hrow', hlater.trans hlater'⟩

/-- A row goes forward from the first store on. -/
theorem later_of_first (h : History settings first past s) (hfirst : first.Reached)
    {row : JobRow} (hrow : first.jobRow? job = some row) :
    ∃ row', s.jobRow? job = some row' ∧ row.Later row' := by
  induction h with
  | start => exact ⟨row, hrow, .refl row⟩
  | event d hpast hhappens hmay hduty ih =>
      obtain ⟨row', hrow', hlater⟩ := ih
      obtain ⟨row'', hrow'', hlater'⟩ :=
        later_step (.event d hpast hhappens hmay hduty) hfirst hrow'
      exact ⟨row'', hrow'', hlater.trans hlater'⟩

end History

namespace Office

variable {o o' : Office}

/-- What can be reached from an office that comes about comes about. -/
theorem Reached.steps (ho : o.Reached settings first)
    (hsteps : Relation.ReflTransGen (Step settings) o o') : o'.Reached settings first := by
  induction hsteps with
  | refl => exact ho
  | tail _ hstep ih => exact ih.step hstep

/-- Nothing that was done is undone. -/
theorem past_of_steps (hsteps : Relation.ReflTransGen (Step settings) o o') : o.past <:+ o'.past := by
  induction hsteps with
  | refl => exact List.suffix_refl _
  | tail _ hstep ih =>
      cases hstep with
      | begin | leave => exact ih
      | act => exact ih.trans (List.suffix_cons _ _)

/-- **A row goes forward** from any office on. -/
theorem Reached.later_of_steps (ho : o.Reached settings first) (hfirst : first.Reached)
    (hsteps : Relation.ReflTransGen (Step settings) o o') {row : JobRow}
    (hrow : o.store.jobRow? job = some row) :
    ∃ row', o'.store.jobRow? job = some row' ∧ row.Later row' := by
  induction hsteps with
  | refl => exact ⟨row, hrow, .refl row⟩
  | tail hsteps hstep ih =>
      obtain ⟨row', hrow', hlater⟩ := ih
      have hlog := ((ho.steps hsteps).step hstep).sound.history
      cases hstep with
      | begin | leave => exact ⟨row', hrow', hlater⟩
      | act =>
          obtain ⟨row'', hrow'', hlater'⟩ := hlog.later_step hfirst hrow'
          exact ⟨row'', hrow'', hlater.trans hlater'⟩

/-- Whoever has returned stays so, whatever the office goes on to do. -/
theorem returned_of_steps (hsteps : Relation.ReflTransGen (Step settings) o o') {doer : Nat}
    {duty : Duty} {result : duty.Result} {stopped : Bool}
    (hagent : o.agents[doer]? = some ⟨duty, .done result, stopped⟩) :
    ∃ stopped', o'.agents[doer]? = some ⟨duty, .done result, stopped'⟩ := by
  induction hsteps with
  | refl => exact ⟨stopped, hagent⟩
  | tail _ hstep ih =>
      obtain ⟨stopped', hagent'⟩ := ih
      exact hstep.returned hagent'

end Office

end AnalysisDesk
