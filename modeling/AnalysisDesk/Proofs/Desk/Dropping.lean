/-
The analyzer drops nothing that is alive.

Four procedures tell the analyzer to drop a job, and each has its handle from
somewhere else: a submission from the analyzer, a cancellation and an expiry from
a second look, a sweep from the list that it took before it wrote.  What makes all
four right is the same: the row was over before the handle was known or as soon as
the write was taken, a row that is over keeps its status, and a handle on it is
kept as well.  So the analyzer can be told any number of times, with anything going
on in between.
-/
import AnalysisDesk.Proofs.Desk.Play

namespace AnalysisDesk

variable {settings : DeskSettings} {first s : Store} {past : List Event} {e : Event} {job : JobId}

/-- The row of a job that the analyzer may be told to drop. -/
structure JobRow.Dropped (row : JobRow) (handle : String) : Prop where
  status : row.status = JobStatus.cancelled.label ∨ row.status = JobStatus.failed.label
  handle : row.externalHandle = some handle

theorem JobRow.Dropped.inactive {row : JobRow} {handle : String} (h : row.Dropped handle) :
    row.isActive = false := by
  rcases h.status with h | h <;> exact JobRow.isActive_of_status h

theorem JobRow.Dropped.later {row row' : JobRow} {handle : String} (h : row.Dropped handle)
    (hlater : row.Later row') : row' = row :=
  hlater.eq_of_over h.inactive (by rw [h.handle]; exact Option.some_ne_none _)

/-- A row that is over and has no handle was not completed: what the analyzer reports, it reports of
a job that has one. -/
theorem Store.WF.cancelled_or_failed {row : JobRow} (h : s.WF) (hrow : row ∈ s.jobs)
    (hover : row.isActive = false) (hnone : row.externalHandle = none) :
    row.status = JobStatus.cancelled.label ∨ row.status = JobStatus.failed.label := by
  obtain ⟨status, hstatus⟩ := h.status row hrow
  cases status with
  | pending => rw [JobRow.isActive_iff.mpr (Or.inl hstatus)] at hover; exact Bool.noConfusion hover
  | processing => exact absurd hnone (h.handled row hrow (Or.inl hstatus))
  | completed => exact absurd hnone (h.handled row hrow (Or.inr hstatus))
  | failed => exact Or.inr hstatus
  | cancelled => exact Or.inl hstatus

namespace History

/-! ### Where the handle comes from -/

/-- A handle that was read after the job had been ended. -/
theorem dropped_of_look (h : History settings first past s) (hfirst : first.Reached) {doer : Nat}
    (newer : List Exchange) {older : List Exchange} {x : Exchange} {current : Job} {handle : String}
    (hms : milestones (own past doer)
      = newer ++ ⟨.query (.job job), .ok (some current)⟩ :: x :: older)
    (hended : x.ended? = some job)
    (hstatus : ∀ change, x.1 = .write change → ∀ now row,
      (change.endedRow now row).status = JobStatus.cancelled.label ∨
        (change.endedRow now row).status = JobStatus.failed.label)
    (hhandle : current.externalHandle = some handle) :
    ∃ row, s.jobRow? job = some row ∧ row.Dropped handle := by
  obtain ⟨_, hfound, look, hlook, row, hrow, hshows, -, change, now, old, hchange, hended⟩ :=
    h.found_of_look hfirst newer hms hended
  cases hfound
  have hdropped : row.Dropped handle := by
    refine ⟨?_, hshows.handle.trans hhandle⟩
    rw [hended]
    exact hstatus change hchange now old
  obtain ⟨row', hrow', hlater⟩ := h.later_of_mem hfirst hlook hrow
  rw [hdropped.later hlater] at hrow'
  exact ⟨row, hrow', hdropped⟩

/-- What a list of stale jobs shows is their rows at that time. -/
theorem listed (h : History settings first (e :: past) s) (hfirst : first.Reached)
    {oldest : Instant} {jobs : List Job} (hwhat : e.what = ⟨.query (.staleJobs oldest), .ok jobs⟩)
    {current : Job} (hmem : current ∈ jobs) :
    ∃ row, e.before.jobRow? current.id = some row ∧ row.Shows current ∧ e.after = e.before := by
  have hhappens := h.happens
  rw [hwhat] at hhappens
  obtain ⟨hanswer, hafter⟩ := hhappens.answered
  obtain ⟨row, hrow, hshows⟩ := (h.earlier.wf hfirst).staleJobs_shows hanswer hmem
  exact ⟨row, hrow, hshows, hafter⟩

/-- The row of a job that a sweep has ended is the one that stood on its list: the write was taken, so
the row had the status that it had on the list, and an active row with the same status is the same
row. -/
theorem ended_of_list (h : History settings first (e :: past) s) (hfirst : first.Reached)
    {doer : Nat} {tried : List Exchange} {now oldest : Instant} {jobs : List Job} {current : Job}
    (hwhat : e.what = .timedOut settings now current true)
    (hms : milestones (own past doer) = Desk.afterListing oldest jobs tried)
    (hmem : current ∈ jobs) :
    ∃ row : JobRow, row.Shows current ∧ e.after.jobRow? current.id
      = some (row.ended .failed (Desk.timeoutReason settings current.status) now) := by
  obtain ⟨after, list, earlier, rfl, -, hlist, -⟩ := split_of_milestones _ hms
  obtain ⟨row, hrow, hshows, hafter⟩ := h.earlier.upTo.listed hfirst hlist hmem
  have hended : e.what.ended? = some current.id := by rw [hwhat]; rfl
  obtain ⟨change, row', hevent⟩ := h.ended hfirst hended
  have hchange := hevent.what
  rw [hwhat] at hchange
  cases hchange
  rw [← hafter] at hrow
  obtain ⟨row'', hrow'', hlater⟩ := h.earlier.later_of_mem hfirst
    (List.mem_append_right _ (List.mem_cons_self ..)) hrow
  rw [hevent.before, Option.some.injEq] at hrow''
  subst hrow''
  obtain ⟨source, hsource, hstatus⟩ := hevent.source
  rw [List.mem_singleton.mp hsource, ← hshows.status] at hstatus
  obtain rfl := hlater.same (hlater.active hevent.active) hstatus
  exact ⟨row', hshows, hevent.after⟩

/-- A handle that stood on the list of a sweep which then ended the job. -/
theorem dropped_of_list (h : History settings first past s) (hfirst : first.Reached) {doer : Nat}
    (newer : List Exchange) {tried : List Exchange} {now oldest : Instant} {jobs : List Job} {current : Job}
    {handle : String}
    (hms : milestones (own past doer)
      = newer ++ .timedOut settings now current true :: Desk.afterListing oldest jobs tried)
    (hmem : current ∈ jobs) (hhandle : current.externalHandle = some handle) :
    ∃ row, s.jobRow? current.id = some row ∧ row.Dropped handle := by
  obtain ⟨after, write, earlier, rfl, -, hwrite, hms'⟩ := split_of_milestones _ hms
  obtain ⟨row, hshows, hrow⟩ := h.upTo.ended_of_list hfirst hwrite hms' hmem
  have hdropped : (row.ended .failed (Desk.timeoutReason settings current.status) now).Dropped
      handle := ⟨Or.inr rfl, hshows.handle.trans hhandle⟩
  obtain ⟨row', hrow', hlater⟩ := h.later_of_mem hfirst
    (List.mem_append_right _ (List.mem_cons_self ..)) hrow
  obtain rfl := hdropped.later hlater
  exact ⟨_, hrow', hdropped⟩

/-- A submission that goes to record its handle has left none on the row: a handle would be its own
work, and all it has done about one is a mark in vain. -/
private theorem no_handle_before_record (h : History settings first past s) (hfirst : first.Reached)
    {doer : Nat} (hcreated : Created past job doer) {row : JobRow} (hrow : s.jobRow? job = some row)
    {requester : Int} {request : SubmitRequest} {repository : Repository} {created : Job}
    {handle : String}
    (hms : milestones (own past doer)
      = Desk.afterMark requester request repository job created handle false) :
    row.externalHandle = none := by
  refine h.no_handle hfirst hcreated (unhandled_of_milestones fun x hx => ?_) hrow
  rw [hms] at hx
  rcases List.mem_cons.mp hx with rfl | hx
  · exact Or.inl rfl
  · exact Or.inr (unhandled_afterHandover x hx)

/-- A handle that is recorded on a row without one. -/
theorem row_of_record (h : History settings first (e :: past) s) (hfirst : first.Reached)
    {handle : String} (hrecord : e.what = ⟨.write (.recordHandle job handle), .ok ()⟩) {row : JobRow}
    (hrow : e.before.jobRow? job = some row) (hnone : row.externalHandle = none) :
    e.after.jobRow? job = some (row.withHandle handle) := by
  have htouched := h.touched hfirst job
  rw [hrow, hrecord] at htouched
  generalize e.after.jobRow? job = row?' at htouched ⊢
  cases htouched with
  | kept _ _ _ _ hkept => exact absurd hnone (hkept handle rfl row rfl)
  | recorded => rfl
  | ended _ _ _ _ hending => exact Bool.noConfusion hending

/-- A handle that its submission has recorded.  The row had none until then, so the analyzer did not
have the job, and it cannot have been completed. -/
theorem dropped_of_record (h : History settings first past s) (hfirst : first.Reached) {doer : Nat}
    (newer : List Exchange) {requester : Int} {request : SubmitRequest} {repository : Repository}
    {created : Job} {handle : String}
    (hms : milestones (own past doer)
      = newer ++ Desk.afterRecord requester request repository job created handle) :
    ∃ row, s.jobRow? job = some row ∧ row.Dropped handle := by
  obtain ⟨after, record, earlier, rfl, rfl, hrecord, hms'⟩ := split_of_milestones _ hms
  have hlog := h.upTo
  have hwhat : record.what.1 = .write (.recordHandle job handle) := by rw [hrecord]
  have hcreated := hlog.created_of_record hwhat
  obtain ⟨row, hrow⟩ := Option.isSome_iff_exists.mp (hlog.earlier.isSome_of_created hfirst hcreated)
  have hover := hlog.over_of_record hfirst hwhat hrow
  have hnone := hlog.earlier.no_handle_before_record hfirst hcreated hrow hms'
  have hstatus : row.status = JobStatus.cancelled.label ∨ row.status = JobStatus.failed.label :=
    (hlog.earlier.wf hfirst).cancelled_or_failed (Store.jobRow?_mem hrow).1 hover hnone
  have hdropped : (row.withHandle handle).Dropped handle := ⟨hstatus, rfl⟩
  obtain ⟨row', hrow', hlater⟩ := h.later_of_mem hfirst
    (List.mem_append_right _ (List.mem_cons_self ..)) (hlog.row_of_record hfirst hrecord hrow hnone)
  rw [hdropped.later hlater] at hrow'
  exact ⟨_, hrow', hdropped⟩

/-- Whoever tells the analyzer to drop a job knows its handle, and the job has been cancelled or has
failed. -/
theorem dropped_of_drops (h : History settings first past s) (hfirst : first.Reached) {doer : Nat}
    {duty : Duty} {handle : String}
    (hdrops : duty.Drops settings (milestones (own past doer)) job handle) :
    ∃ row, s.jobRow? job = some row ∧ row.Dropped handle := by
  generalize hms : milestones (own past doer) = ms at hdrops
  cases hdrops with
  | submit requester request repository created heq =>
      exact h.dropped_of_record hfirst [] (hms.trans heq)
  | cancel requester found current hhandle heq =>
      refine h.dropped_of_look hfirst [_] (hms.trans heq) rfl ?_ hhandle
      intro change hchange now row
      cases hchange
      exact Or.inl rfl
  | sweep _ now oldest jobs tried current hmem hjob hhandle heq =>
      subst hjob
      exact h.dropped_of_list hfirst [_] (hms.trans heq) hmem hhandle
  | expire current hhandle heq =>
      refine h.dropped_of_look hfirst [] (hms.trans heq) rfl ?_ hhandle
      intro change hchange now row
      cases hchange
      exact Or.inr rfl

end History

/-- **The analyzer is never told to drop live or completed work.**  Whatever the office has been
doing, with a store that may fail at any call: whenever the analyzer is told to drop a job, the job
stands in the store at that moment as cancelled or failed, with the handle that is passed on. -/
theorem abandoned_only_when_dropped {settings : DeskSettings} {first : Store} {o : Office}
    (hfirst : first.Reached) (ho : o.Reached settings first) {e : Event} (he : e ∈ o.past)
    {job : JobId} {handle : String} {answer : Except AnalyzerFault Unit}
    (hwhat : e.what = ⟨.abandon job handle, answer⟩) :
    ∃ row, e.before.jobRow? job = some row ∧
      (row.status = JobStatus.cancelled.label ∨ row.status = JobStatus.failed.label) ∧
      row.externalHandle = some handle := by
  obtain ⟨after, earlier, hpast⟩ := List.append_of_mem he
  have hlog := ho.sound.history
  rw [hpast] at hlog
  have hmay := hlog.upTo.may
  rw [hwhat] at hmay
  obtain ⟨row, hrow, hdropped⟩ := hlog.upTo.earlier.dropped_of_drops hfirst (Duty.may_abandon hmay)
  exact ⟨row, hrow, hdropped.status, hdropped.handle⟩

theorem abandoned_only_when_dropped_played :
    ∃ e ∈ Small.overtaken.past, e.what.1 = .abandon default "h-1" ∧
      ∃ row, e.before.jobRow? default = some row ∧
        (row.status = JobStatus.cancelled.label ∨ row.status = JobStatus.failed.label) ∧
        row.externalHandle = some "h-1" := by
  have hfound : ∃ e ∈ Small.overtaken.past, e.what.1 = .abandon default "h-1" := by decide +kernel
  obtain ⟨e, he, haction⟩ := hfound
  refine ⟨e, he, haction, ?_⟩
  have hwhat : ∃ answer, e.what = ⟨.abandon default "h-1", answer⟩ := by
    generalize e.what = x at haction
    obtain ⟨action, answer⟩ := x
    cases haction
    exact ⟨answer, rfl⟩
  obtain ⟨answer, hwhat⟩ := hwhat
  exact abandoned_only_when_dropped Small.store_reached (Office.reached_played ..) he hwhat

end AnalysisDesk
