/-
When a job was dispatched, and what stays true of it.

That a job is over, and the time at which it was dispatched, are facts about a
store that no operation takes back.  The time is kept as a text; as the clock shows
whole milliseconds, the text is that of the instant itself, and what is read of it
is the instant again.
-/
import AnalysisDesk.Proofs.Store.Onward
import AnalysisDesk.Proofs.Store.Reading
import AnalysisDesk.Proofs.Time.StoredText

namespace AnalysisDesk

/-- An instant that a clock of milliseconds shows. -/
def Instant.IsWhole (t : Instant) : Prop := t.cut = t

theorem readTimestamp_stored {t read : Instant} (hwhole : t.IsWhole)
    (h : readTimestamp t.stored = .ok read) : read = t := by
  unfold readTimestamp at h
  rw [Timestamp.read_stored] at h
  by_cases hyear : t.HasPlainYear
  · rw [if_pos hyear] at h
    exact (Except.ok.inj h).symm.trans hwhole
  · rw [if_neg hyear] at h
    exact nomatch h

/-- A row shows the time at which it was dispatched. -/
theorem JobRow.dispatchedAt_of_read {row : JobRow} {job : Job} {t : Instant} (hwhole : t.IsWhole)
    (htext : row.dispatchedAt = some t.stored) (hread : row.read = .ok job) :
    job.dispatchedAt = some t := by
  have hreadAt := JobRow.read_dispatchedAt hread
  rw [htext] at hreadAt
  cases hstamp : readTimestamp t.stored with
  | error cause =>
      rw [readTimestamp?, hstamp] at hreadAt
      cases hreadAt
  | ok read =>
      rw [readTimestamp?, hstamp] at hreadAt
      rw [← Except.ok.inj hreadAt, readTimestamp_stored hwhole hstamp]

theorem JobStatus.not_step_pending {status : JobStatus} : ¬ status.Step .pending := by
  intro h
  cases status <;> exact Bool.noConfusion h

namespace JobRow.Goes

variable {row row' : JobRow}

/-- Nothing becomes pending again. -/
theorem not_pending (h : row.Goes (Relation.ReflGen JobStatus.Step) row')
    (hpending : row.status ≠ JobStatus.pending.label) : row'.status ≠ JobStatus.pending.label := by
  obtain ⟨a, b, ha, hb, hab⟩ := h.status
  intro hc
  obtain rfl := JobStatus.label_injective (hb.symm.trans hc)
  cases hab with
  | refl => exact hpending ha
  | single hstep => exact JobStatus.not_step_pending hstep

end JobRow.Goes

namespace Store

/-- A job that is over. -/
def Over (s : Store) (job : JobId) : Prop :=
  ∃ row, s.jobRow? job = some row ∧ row.isActive = false

/-- A job that was dispatched at an instant. -/
def DispatchedAt (s : Store) (job : JobId) (t : Instant) : Prop :=
  ∃ row, s.jobRow? job = some row ∧ row.status ≠ JobStatus.pending.label ∧
    row.dispatchedAt = some t.stored

/-- All times of dispatch are those of a clock of milliseconds. -/
def Stamped (s : Store) : Prop :=
  ∀ row ∈ s.jobs, ∀ text, row.dispatchedAt = some text →
    ∃ t : Instant, t.IsWhole ∧ text = t.stored

variable {s s' : Store} {job : JobId}

theorem Continues.row {may : JobStatus → JobStatus → Prop} (h : Continues may s s') {row : JobRow}
    (hrow : s.jobRow? job = some row) : ∃ row', s'.jobRow? job = some row' ∧ row.Goes may row' := by
  obtain ⟨id, row', hfound, hfound', hgoes, -⟩ := h.jobs row (jobRow?_mem hrow).1
  have hid : id = job :=
    JobId.text_inj.mp ((jobRow?_mem hfound).2.symm.trans (jobRow?_mem hrow).2)
  subst hid
  exact ⟨row', hfound', hgoes⟩

theorem Over.mono {may : JobStatus → JobStatus → Prop} (h : s.Over job)
    (hcontinues : Continues may s s') : s'.Over job := by
  obtain ⟨row, hrow, hover⟩ := h
  obtain ⟨row', hrow', hgoes⟩ := hcontinues.row hrow
  exact ⟨row', hrow', (hgoes.settled hover).isActive.trans hover⟩

theorem Over.not_processing (h : s.Over job) {row : JobRow} (hrow : s.jobRow? job = some row) :
    row.status ≠ JobStatus.processing.label := by
  intro hstatus
  obtain ⟨row', hrow', hover⟩ := h
  obtain rfl := Option.some.inj (hrow.symm.trans hrow')
  rw [JobRow.isActive_of_processing hstatus] at hover
  exact Bool.noConfusion hover

theorem DispatchedAt.mono {t : Instant} (h : s.DispatchedAt job t)
    (hcontinues : Continues (Relation.ReflGen JobStatus.Step) s s') : s'.DispatchedAt job t := by
  obtain ⟨row, hrow, hpending, hdispatched⟩ := h
  obtain ⟨row', hrow', hgoes⟩ := hcontinues.row hrow
  refine ⟨row', hrow', hgoes.not_pending hpending, ?_⟩
  rw [hgoes.dispatchedOnce (by rw [hdispatched]; exact Option.some_ne_none _), hdispatched]

/-- A job that was dispatched is processing or over. -/
theorem DispatchedAt.over {t : Instant} (h : s.DispatchedAt job t)
    (hprocessing : ∀ row, s.jobRow? job = some row → row.status ≠ JobStatus.processing.label) :
    s.Over job := by
  obtain ⟨row, hrow, hpending, -⟩ := h
  refine ⟨row, hrow, ?_⟩
  cases hactive : row.isActive with
  | false => rfl
  | true => exact absurd (JobRow.isActive_iff.mp hactive) (not_or.mpr ⟨hpending, hprocessing row hrow⟩)

/-- A listed job was dispatched at the time that it shows. -/
theorem Stamped.of_listed (h : s.Stamped) (hs : s.WF) {jobs : List Job}
    (hjobs : s.processingJobs = .ok jobs) {listed : Job} (hmem : listed ∈ jobs) {t : Instant}
    (ht : listed.dispatchedAt = some t) : t.IsWhole ∧ s.DispatchedAt listed.id t := by
  obtain ⟨row, hlisted, hread⟩ := readAll_mem hjobs hmem
  obtain ⟨hrow, hstatus⟩ := List.mem_filter.mp hlisted
  have hprocessing : row.status = JobStatus.processing.label := by simpa using hstatus
  have hfound : s.jobRow? listed.id = some row :=
    (jobRow?_eq_some_iff hs.ids).mpr ⟨hrow, (hs.shows hrow hread).id⟩
  cases htext : row.dispatchedAt with
  | none =>
      have hreadAt := JobRow.read_dispatchedAt hread
      rw [htext, ht] at hreadAt
      exact nomatch hreadAt
  | some text =>
      obtain ⟨stamp, hwhole, rfl⟩ := h row hrow text htext
      obtain rfl := Option.some.inj ((JobRow.dispatchedAt_of_read hwhole htext hread).symm.trans ht)
      refine ⟨hwhole, row, hfound, fun hc => ?_, htext⟩
      exact absurd (JobStatus.label_injective (hprocessing.symm.trans hc)) (by decide)

end Store

end AnalysisDesk
