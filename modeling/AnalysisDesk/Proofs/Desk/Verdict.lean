/-
The last word on a job.

A job is processing, and many want to end it.  The first write that is taken is the
only one, for afterwards the row does not stand any more where a writer wants it.
The row and the findings that this write has left are the last word on the job:
nobody adds to them, not even a handle, since a job that was processing has one.
`History.verdict` is the invariant, and the induction is over the log; an event has
either ended the job or left it alone.

What follows is how this looks from inside: whoever looks at the job after it was
ended, or after a write on it came too late, sees the last word.
-/
import AnalysisDesk.Proofs.Desk.Endings

namespace AnalysisDesk

/-- A job that is processing when the office opens. -/
structure Underway (first : Store) (job : JobId) (row : JobRow) : Prop where
  found : first.jobRow? job = some row
  status : row.status = JobStatus.processing.label

/-- The events that have ended a job. -/
def endings (past : List Event) (job : JobId) : List Event :=
  past.filter fun e => e.what.ended? = some job

theorem mem_endings {past : List Event} {job : JobId} {e : Event} :
    e ∈ endings past job ↔ e ∈ past ∧ e.what.ended? = some job := by
  simp [endings]

/-- What has become of a job that was processing. -/
inductive Verdict (past : List Event) (job : JobId) (row : JobRow) (s : Store) : Prop
  | waiting (hnobody : endings past job = []) (hrow : s.jobRow? job = some row)
      (hfindings : s.findingsOf job = ([], []))
  /-- One write has ended it, and the row and the findings are those of this write. -/
  | spoken (winner : Event) (change : StoreWrite) (hwinner : endings past job = [winner])
      (hchange : winner.what.1 = .write change) (hbefore : winner.before.jobRow? job = some row)
      (hrow : s.jobRow? job = some (change.endedRow winner.time row))
      (hover : (change.endedRow winner.time row).isActive = false)
      (hfindings : s.findingsOf job = change.findings winner.before)

variable {settings : DeskSettings} {first s : Store} {past : List Event} {e : Event} {job : JobId}
  {row : JobRow}

theorem Underway.active (h : Underway first job row) : row.isActive = true :=
  JobRow.isActive_iff.mpr (Or.inr h.status)

/-- What is processing has a handle. -/
theorem Underway.handle (h : Underway first job row) (hfirst : first.Reached) :
    row.externalHandle ≠ none :=
  hfirst.wf.handled row (Store.jobRow?_mem h.found).1 (Or.inl h.status)

theorem Underway.not_pending (h : Underway first job row) {r : JobRow}
    (hcases : r = row ∨ r.isActive = false) : r.status ≠ JobStatus.pending.label := by
  intro hc
  rcases hcases with rfl | hover
  · exact absurd (JobStatus.label_injective (h.status.symm.trans hc)) (by decide)
  · rw [JobRow.isActive_iff.mpr (Or.inl hc)] at hover
    exact Bool.noConfusion hover

/-- The row as it was, or as it is in the end. -/
theorem Verdict.found (h : Verdict past job row s) :
    ∃ r, s.jobRow? job = some r ∧ (r = row ∨ r.isActive = false) ∧
      r.externalHandle = row.externalHandle ∧ r.repositoryId = row.repositoryId := by
  cases h with
  | waiting _ hrow => exact ⟨row, hrow, Or.inl rfl, rfl, rfl⟩
  | spoken winner change _ _ _ hrow hover =>
      exact ⟨_, hrow, Or.inr hover, change.endedRow_handle _ _, change.endedRow_repositoryId _ _⟩

namespace History

/-! ### What the winner leaves -/

/-- An event that has not ended a job leaves its findings alone. -/
theorem findings_of_not_ended (h : History settings first (e :: past) s) (hfirst : first.Reached)
    (hok : ¬ e.what.Failed) (hnot : e.what.ended? ≠ some job) :
    e.after.findingsOf job = e.before.findingsOf job := by
  rcases h.happens.wrote_or_eq (h.earlier.wf hfirst) hok with hsame | ⟨change, a, hwhat, hran⟩
  · rw [hsame]
  · refine hran.findings ?_
    rw [← hwhat]
    exact hnot

/-- An event that has not ended a job leaves its row alone, once the job was dispatched. -/
theorem row_of_not_ended (h : History settings first (e :: past) s) (hfirst : first.Reached)
    (hok : ¬ e.what.Failed) (hnot : e.what.ended? ≠ some job) {r : JobRow}
    (hrow : e.before.jobRow? job = some r) (hpending : r.status ≠ JobStatus.pending.label)
    (hhandle : r.externalHandle ≠ none) : e.after.jobRow? job = some r := by
  have htouched := h.touched hfirst job
  rw [hrow] at htouched
  generalize hafter : e.after.jobRow? job = row?' at htouched ⊢
  generalize hwhat : e.what = x at htouched hok hnot
  cases htouched with
  | kept => rfl
  | dispatched _ _ _ hstatus => exact absurd hstatus hpending
  | recorded _ _ _ hnone => exact absurd hnone hhandle
  | ended change answer _ hjob hending _ _ _ _ _ hanswer =>
      rcases Exchange.ended_or_declined hending answer with hc | hc | hc
      · exact absurd (hc.trans (congrArg some hjob)) hnot
      · exact absurd hc hanswer
      · exact absurd hc hok

/-- The findings of a job that an event has ended. -/
theorem findings_of_ended (h : History settings first (e :: past) s) (hfirst : first.Reached)
    {change : StoreWrite} {r : JobRow} (hended : e.what.ended? = some job)
    (hevent : e.Ended job change r) : e.after.findingsOf job = change.findings e.before := by
  have hwf := h.earlier.wf hfirst
  have hnone := hwf.findingsOf_of_active hevent.before hevent.active
  have hok : ¬ e.what.Failed := by
    intro hc
    generalize e.what = x at hended hc
    obtain ⟨change', hchange, -, -⟩ := Exchange.write_of_ended hended
    obtain ⟨action, answer⟩ := x
    cases hchange
    obtain ⟨cause, rfl⟩ := hc
    cases change' <;> exact nomatch hended
  have hwrite := hevent.what
  rcases h.happens.wrote_or_eq hwf hok with hsame | ⟨change', a, hwhat, hran⟩
  · have hafter := hevent.after
    rw [hsame, hevent.before, Option.some.injEq] at hafter
    have hover := hevent.inactive
    rw [← hafter, hevent.active] at hover
    exact Bool.noConfusion hover
  · rw [hwhat] at hwrite hended
    cases hwrite
    have hjob := hevent.about
    subst hjob
    rw [hran.findings_of_ended hended, hnone]
    rfl

/-- **The verdict on a job stands** once it was spoken. -/
theorem verdict (h : History settings first past s) (hfirst : first.Reached)
    (hunfailing : Unfailing past) (hunderway : Underway first job row) :
    Verdict past job row s := by
  induction h with
  | start =>
      exact .waiting rfl hunderway.found
        (hfirst.wf.findingsOf_of_active hunderway.found hunderway.active)
  | @event past e hpast hhappens hmay hduty ih =>
      have hlog : History settings first (e :: past) e.after := .event e hpast hhappens hmay hduty
      have hbefore := ih fun d hd => hunfailing d (List.mem_cons_of_mem _ hd)
      have hok := hunfailing e (List.mem_cons_self ..)
      by_cases hended : e.what.ended? = some job
      · obtain ⟨change, r, hevent⟩ := hlog.ended hfirst hended
        have hnew : endings (e :: past) job = e :: endings past job :=
          List.filter_cons_of_pos (by simpa using hended)
        cases hbefore with
        | waiting hnobody hrow =>
            rw [hevent.before, Option.some.injEq] at hrow
            subst hrow
            exact .spoken e change (hnew.trans (congrArg _ hnobody)) hevent.what hevent.before
              hevent.after hevent.inactive (hlog.findings_of_ended hfirst hended hevent)
        | spoken winner change' _ _ _ hrow hover =>
            rw [hevent.before, Option.some.injEq] at hrow
            rw [← hrow, hevent.active] at hover
            exact Bool.noConfusion hover
      · have hsame : endings (e :: past) job = endings past job :=
          List.filter_cons_of_neg (by simpa using hended)
        obtain ⟨r, hr, hcases, hhandle, -⟩ := hbefore.found
        have hrow := hlog.row_of_not_ended hfirst hok hended hr (hunderway.not_pending hcases)
          (hhandle ▸ hunderway.handle hfirst)
        have hfindings := hlog.findings_of_not_ended hfirst hok hended
        cases hbefore with
        | waiting hnobody hold hnone =>
            rw [hr] at hold
            exact .waiting (hsame.trans hnobody) (hrow.trans hold) (hfindings.trans hnone)
        | spoken winner change hwinner hchange hfound hold hover hgiven =>
            rw [hr] at hold
            exact .spoken winner change (hsame.trans hwinner) hchange hfound (hrow.trans hold) hover
              (hfindings.trans hgiven)

/-! ### Looks at the job -/

/-- Every event finds the job as it was or as it is in the end. -/
theorem before_of_underway (h : History settings first past s) (hfirst : first.Reached)
    (hunfailing : Unfailing past) (hunderway : Underway first job row) (he : e ∈ past) :
    ∃ r, e.before.jobRow? job = some r ∧ (r = row ∨ r.isActive = false) ∧
      r.externalHandle = row.externalHandle ∧ r.repositoryId = row.repositoryId := by
  obtain ⟨after, earlier, rfl⟩ := List.append_of_mem he
  refine (h.upTo.earlier.verdict hfirst (fun d hd => hunfailing d ?_) hunderway).found
  exact List.mem_append_right _ (List.mem_cons_of_mem _ hd)

/-- A row that an event has found over is the last word. -/
theorem last_of_over (h : History settings first past s) (hfirst : first.Reached)
    (hunfailing : Unfailing past) (hunderway : Underway first job row) (he : e ∈ past)
    {r : JobRow} (hrow : e.before.jobRow? job = some r) (hover : r.isActive = false) :
    s.jobRow? job = some r := by
  obtain ⟨r', hrow', -, hhandle, -⟩ := h.before_of_underway hfirst hunfailing hunderway he
  rw [hrow, Option.some.injEq] at hrow'
  subst hrow'
  obtain ⟨final, hfinal, hlater⟩ := h.later_of_before hfirst he hrow
  rw [hlater.eq_of_over hover (hhandle ▸ hunderway.handle hfirst)] at hfinal
  exact hfinal

/-- Nobody who looks for the job misses it. -/
theorem found_of_underway (h : History settings first past s) (hfirst : first.Reached)
    (hunfailing : Unfailing past) (hunderway : Underway first job row) (he : e ∈ past)
    {found : Option Job} (hwhat : e.what = ⟨.query (.job job), .ok found⟩) :
    ∃ current r, found = some current ∧ e.before.jobRow? job = some r ∧ r.read = .ok current ∧
      r.Shows current := by
  obtain ⟨r, hrow, -⟩ := h.before_of_underway hfirst hunfailing hunderway he
  obtain ⟨after, earlier, rfl⟩ := List.append_of_mem he
  cases found with
  | none =>
      have hhappens := h.upTo.happens
      rw [hwhat] at hhappens
      rw [Store.job?_none hhappens.answered.1] at hrow
      exact nomatch hrow
  | some current =>
      obtain ⟨r', hrow', hread, hshows, -⟩ := h.upTo.looked hfirst hwhat
      exact ⟨current, r', rfl, hrow', hread, hshows⟩

/-- What the owner finds. -/
theorem found_of_owner (h : History settings first past s) (hfirst : first.Reached)
    (hunfailing : Unfailing past) (hunderway : Underway first job row) {requester : Int}
    (howns : first.owns requester row = true) (he : e ∈ past) {found : Option Job}
    (hwhat : e.what = ⟨.query (.ownedJob job requester), .ok found⟩) :
    ∃ current r, found = some current ∧ e.before.jobRow? job = some r ∧ r.Shows current := by
  obtain ⟨r, hrow, -, -, hrepository⟩ := h.before_of_underway hfirst hunfailing hunderway he
  obtain ⟨after, earlier, rfl⟩ := List.append_of_mem he
  have hlog := h.upTo
  have hhappens := hlog.happens
  rw [hwhat] at hhappens
  have hanswer := hhappens.answered.1
  cases found with
  | none =>
      have howns' : e.before.owns requester r = true := by
        rw [Store.owns, hlog.earlier.repositories hfirst, hrepository]
        exact howns
      exact absurd hanswer (Store.ownedJob?_ne_none hrow howns')
  | some current =>
      obtain ⟨r', hrow', hshows⟩ := (hlog.earlier.wf hfirst).ownedJob?_shows hanswer
      exact ⟨current, r', rfl, hrow', hshows⟩

/-- A write that was there to end a job which is processing, and was declined, came too late. -/
theorem over_of_declined (h : History settings first past s) (hfirst : first.Reached)
    (hunfailing : Unfailing past) (hunderway : Underway first job row) (he : e ∈ past)
    {change : StoreWrite} (hchange : e.what.1 = .write change) (hjob : change.job = job)
    (hsource : .processing ∈ change.sources) (hdeclined : e.what.Declined) :
    ∃ r, e.before.jobRow? job = some r ∧ r.isActive = false := by
  obtain ⟨r, hrow, hcases, -, -⟩ := h.before_of_underway hfirst hunfailing hunderway he
  rcases hcases with rfl | hover
  · obtain ⟨after, earlier, rfl⟩ := List.append_of_mem he
    exact absurd hunderway.status
      (h.upTo.stands_of_declined hfirst hchange hjob hdeclined hrow _ hsource)
  · exact ⟨r, hrow, hover⟩

end History

end AnalysisDesk
