/-
When the window of a job has elapsed.

An active job may take a certain time.  Its window begins when it is dispatched, and
until then when it was created.  Whether the window has elapsed is found out by the
store, which compares two texts: the time at which the window began and the instant
before which it would have to have begun.  In years with four digits texts compare
as milliseconds do, and both sides are cut downwards.  So a job of which the store
says that its window has elapsed has had all of it.
-/
import AnalysisDesk.Desk.Operations
import AnalysisDesk.Proofs.Store.Dated
import AnalysisDesk.Proofs.Time.StoredOrder

namespace AnalysisDesk

/-! ### Instants -/

namespace Instant

variable {t u : Instant}

/-- The instant that lies a span earlier. -/
def before (t : Instant) (span : Span) : Instant := ⟨t.nanos - span.nanos⟩

@[simp] theorem millis_cut (t : Instant) : t.cut.millis = t.millis :=
  Int.mul_ediv_cancel _ (by decide)

theorem nanos_lt_of_millis_lt (h : t.millis < u.millis) : t.nanos < u.nanos := by
  unfold millis nanosPerMilli at h
  omega

/-- Years with four digits lie well within what sixty-four bits of milliseconds hold. -/
theorem HasPlainYear.bounds (h : t.HasPlainYear) :
    -62167219200000000000 ≤ t.nanos ∧ t.nanos < 253402300800000000000 := by
  obtain ⟨hlow, hhigh⟩ := h
  have hyear : t.year = Date.yearOf (t.nanos / nanosPerDay + Date.epochDays) := rfl
  rw [hyear] at hlow hhigh
  obtain ⟨hbelow, habove⟩ := Date.yearOf_spec (t.nanos / nanosPerDay + Date.epochDays)
  have hfirst := Date.daysBeforeYear_mono hlow
  have hlast := Date.daysBeforeYear_mono (Int.add_le_add_right hhigh 1)
  have hzero : Date.daysBeforeYear 0 = -366 := rfl
  have hend : Date.daysBeforeYear (9999 + 1) = 3652059 := rfl
  rw [hzero] at hfirst
  rw [hend] at hlast
  unfold Date.epochDays nanosPerDay at *
  omega

end Instant

/-! ### Windows -/

/-- When the window of an active job began. -/
def Job.windowStart? (job : Job) : Option Instant :=
  match job.status with
  | .processing => job.dispatchedAt
  | .pending => some job.createdAt
  | .completed | .failed | .cancelled => none

/-- Whether the window of a job began before an instant, to the millisecond. -/
def Job.beganBefore (cutoff : Instant) (job : Job) : Bool :=
  job.windowStart?.any fun start => start.millis < cutoff.millis

/-- Whether the window of a job had elapsed at an instant. -/
def Job.isExpired (timeout : Span) (now : Instant) (job : Job) : Bool :=
  job.beganBefore (now.before timeout)

/-- The same of the row that the job is read from. -/
def JobRow.isExpired (timeout : Span) (now : Instant) (row : JobRow) : Bool :=
  match row.read with
  | .ok job => job.isExpired timeout now
  | .error _ => false

theorem Job.beganBefore_iff {job : Job} {cutoff : Instant} :
    job.beganBefore cutoff = true ↔
      ∃ start, job.windowStart? = some start ∧ start.millis < cutoff.millis := by
  unfold Job.beganBefore
  rw [Option.any_eq_true]
  exact exists_congr fun start => and_congr_right fun _ => decide_eq_true_iff

theorem JobRow.isExpired_iff {timeout : Span} {now : Instant} {row : JobRow} :
    row.isExpired timeout now = true ↔
      ∃ job, row.read = .ok job ∧ job.isExpired timeout now = true := by
  unfold JobRow.isExpired
  cases row.read with
  | ok job => simp
  | error cause => simp

/-- **A window that has elapsed has been given in full**: whatever instant it really began at, if that
is stored as the beginning that is read, then a whole timeout has gone by since. -/
theorem Job.elapsed_of_isExpired {job : Job} {timeout : Span} {now start : Instant}
    (h : job.isExpired timeout now = true) (hstart : job.windowStart? = some start.cut) :
    (start.after timeout).nanos < now.nanos := by
  obtain ⟨begun, hbegun, hearly⟩ := Job.beganBefore_iff.mp h
  obtain rfl := Option.some.inj (hstart.symm.trans hbegun)
  rw [Instant.millis_cut] at hearly
  have hnanos := Instant.nanos_lt_of_millis_lt hearly
  have hbefore : (now.before timeout).nanos = now.nanos - timeout.nanos := rfl
  have hafter : (start.after timeout).nanos = start.nanos + timeout.nanos := rfl
  omega

namespace JobRow

variable {row : JobRow} {job : Job} {status : JobStatus}

/-- A whole timeout has gone by since a job was dispatched, or created if it is pending.  That is true
of every instant that is stored as the time in its row. -/
def HadItsTime (timeout : Span) (now : Instant) (row : JobRow) : Prop :=
  (row.status = JobStatus.processing.label ∧ ∃ text, row.dispatchedAt = some text ∧
      ∀ t : Instant, t.stored = text → (t.after timeout).nanos < now.nanos) ∨
    (row.status = JobStatus.pending.label ∧
      ∀ t : Instant, t.stored = row.createdAt → (t.after timeout).nanos < now.nanos)

/-- The times of a job that was read are those of its row. -/
theorem Written.times_of_read (h : row.Written) {id : JobId} (hid : row.id = id.text)
    (hstatus : row.status = status.label) (hread : row.read = .ok job) :
    readTimestamp row.createdAt = .ok job.createdAt ∧
      readTimestamp? row.dispatchedAt = .ok job.dispatchedAt := by
  rcases h.read_cases hid hstatus with ⟨t, -, -, hfailed⟩ |
    ⟨-, createdAt, dispatchedAt, completedAt, hcreated, hdispatched, -, hshown⟩
  · rw [hread] at hfailed
    exact nomatch hfailed
  · obtain rfl := Except.ok.inj (hread.symm.trans hshown)
    exact ⟨hcreated, hdispatched⟩

/-- A job that was read was dispatched at the time that its row has, if there is one. -/
theorem Written.dispatchedAt_of_read (h : row.Written) (hread : row.read = .ok job)
    (hsome : row.dispatchedAt ≠ none) :
    ∃ t : Instant, t.HasPlainYear ∧ row.dispatchedAt = some t.stored ∧
      job.dispatchedAt = some t.cut := by
  obtain ⟨text, htext⟩ := Option.ne_none_iff_exists'.mp hsome
  obtain ⟨t, rfl⟩ := h.times text (Or.inr (Or.inl htext))
  have hdispatched := JobRow.read_dispatchedAt hread
  rw [htext, readTimestamp?] at hdispatched
  cases hstamp : readTimestamp t.stored with
  | error cause =>
      rw [hstamp] at hdispatched
      cases hdispatched
  | ok begun =>
      rw [hstamp] at hdispatched
      obtain ⟨hyear, rfl⟩ := readTimestamp_eq_ok_iff.mp hstamp
      exact ⟨t, hyear, htext, (Except.ok.inj hdispatched).symm⟩

/-- The window of an active job has begun at a time that stands in its row. -/
theorem Written.windowStart (h : row.Written) (hstanding : row.Standing) {id : JobId}
    (hid : row.id = id.text) (hshows : row.Shows job) (hread : row.read = .ok job) :
    (job.status = .processing ∧ ∃ t : Instant, t.HasPlainYear ∧ row.dispatchedAt = some t.stored ∧
        job.windowStart? = some t.cut) ∨
      (job.status = .pending ∧ ∃ t : Instant, t.HasPlainYear ∧ row.createdAt = t.stored ∧
        job.windowStart? = some t.cut) ∨
      (job.status.isActive = false ∧ job.windowStart? = none) := by
  unfold Job.windowStart?
  cases hstatus : job.status with
  | completed | failed | cancelled => exact Or.inr (Or.inr ⟨rfl, rfl⟩)
  | pending =>
      obtain ⟨t, htime⟩ := h.times row.createdAt (Or.inl rfl)
      have hcreated := (h.times_of_read hid hshows.status hread).1
      rw [htime] at hcreated
      obtain ⟨hyear, hbegun⟩ := readTimestamp_eq_ok_iff.mp hcreated
      exact Or.inr (Or.inl ⟨rfl, t, hyear, htime, congrArg some hbegun⟩)
  | processing =>
      have hprocessing : row.status = JobStatus.processing.label := by rw [hshows.status, hstatus]
      exact Or.inl ⟨rfl, h.dispatchedAt_of_read hread (hstanding.dispatched (Or.inl hprocessing))⟩

end JobRow

namespace Store

variable {s : Store} {row : JobRow} {job : Job} {cutoff : Instant}

theorem stored_lt_stored_iff {t u : Instant} (ht : t.HasPlainYear) (hu : u.HasPlainYear) :
    t.stored < u.stored ↔ t.cut.millis < u.millis := by
  rw [Instant.millis_cut, ← String.not_le, Instant.stored_le_stored_iff hu ht, Int.not_le]

/-- **The store finds out by texts whether a window began before an instant.** -/
theorem Reached.isStale_iff (hs : s.Reached) (hrow : row ∈ s.jobs) (hread : row.read = .ok job)
    (hcutoff : cutoff.HasPlainYear) :
    isStale cutoff.stored row = true ↔ job.beganBefore cutoff = true := by
  obtain ⟨id, hid⟩ := hs.wf.named row hrow
  have hshows := hs.wf.shows hrow hread
  have hlabel : ∀ {status : JobStatus}, job.status = status → row.status = status.label :=
    fun h => hshows.status.trans (congrArg _ h)
  rw [Job.beganBefore_iff]
  unfold isStale
  rcases (hs.written.rows row hrow).windowStart (hs.inStep row hrow) hid hshows hread with
    ⟨hstatus, t, hyear, htime, hstart⟩ | ⟨hstatus, t, hyear, htime, hstart⟩ | ⟨hover, hstart⟩
  · rw [hlabel hstatus, htime, hstart]
    simp [stored_lt_stored_iff hyear hcutoff]
  · rw [hlabel hstatus, htime, hstart]
    simp [stored_lt_stored_iff hyear hcutoff]
  · have hactive := JobRow.isActive_of_status hshows.status
    rw [hover, ← Bool.not_eq_true, JobRow.isActive_iff, not_or] at hactive
    rw [hstart]
    simp [hactive.1, hactive.2]

/-- Instants with one stored form are those of one millisecond. -/
theorem cut_of_stored_eq {t u : Instant} (ht : t.HasPlainYear) (h : u.stored = t.stored) :
    u.cut = t.cut := by
  have hu : u.HasPlainYear := ht.of_stored h.symm
  have hle := (Instant.stored_le_stored_iff hu ht).mp (by rw [h])
  have hge := (Instant.stored_le_stored_iff ht hu).mp (by rw [h])
  unfold Instant.cut
  rw [Int.le_antisymm hle hge]

/-- **No window is cut short.**  If it has elapsed, then since the dispatch of a job that is
processing, or the creation of one that is pending, a whole timeout has gone by. -/
theorem Reached.had_its_time (hs : s.Reached) (hrow : row ∈ s.jobs) {timeout : Span} {now : Instant}
    (h : row.isExpired timeout now = true) : row.HadItsTime timeout now := by
  obtain ⟨job, hread, hexpired⟩ := JobRow.isExpired_iff.mp h
  obtain ⟨id, hid⟩ := hs.wf.named row hrow
  have hshows := hs.wf.shows hrow hread
  rcases (hs.written.rows row hrow).windowStart (hs.inStep row hrow) hid hshows hread with
    ⟨hstatus, t, hyear, htime, hstart⟩ | ⟨hstatus, t, hyear, htime, hstart⟩ | ⟨-, hstart⟩
  · refine Or.inl ⟨by rw [hshows.status, hstatus], t.stored, htime, fun u hu => ?_⟩
    exact job.elapsed_of_isExpired hexpired (cut_of_stored_eq hyear hu ▸ hstart)
  · refine Or.inr ⟨by rw [hshows.status, hstatus], fun u hu => ?_⟩
    exact job.elapsed_of_isExpired hexpired (cut_of_stored_eq hyear (hu.trans htime) ▸ hstart)
  · obtain ⟨start, hc, -⟩ := Job.beganBefore_iff.mp hexpired
    rw [hstart] at hc
    exact nomatch hc

/-- A row that stands on the list of those that have waited too long is active. -/
theorem isActive_of_isStale {text : String} (h : isStale text row = true) : row.isActive = true := by
  unfold isStale at h
  rw [Bool.or_eq_true, Bool.and_eq_true, Bool.and_eq_true, beq_iff_eq, beq_iff_eq] at h
  exact JobRow.isActive_iff.mpr (h.symm.imp And.left And.left)

end Store

/-! ### Instants before which windows have elapsed -/

theorem Instant.isShowable_iff (t : Instant) : t.isShowable = true ↔
    -8334601228800000000000 ≤ t.nanos ∧ t.nanos < 8210266876800000000000 := by
  have hfirst : Instant.firstDay.toDay = -96465292 := by decide +kernel
  have hlast : Instant.lastDay.toDay = 95026236 := by decide +kernel
  unfold Instant.isShowable Instant.nanosPerDay
  rw [hfirst, hlast, Bool.and_eq_true, decide_eq_true_eq, decide_eq_true_eq]
  omega

namespace Desk

variable {settings : DeskSettings} {now : Instant}

/-- There is an instant before which windows have elapsed unless the timeout has no room in sixty-four
bits of milliseconds, or the clock cannot show the instant. -/
theorem cutoff_eq_ok (hlong : settings.pollTimeout.nanos ≤ longestTimeout.nanos)
    (hshowable : (now.before settings.pollTimeout).isShowable = true) :
    cutoff settings now = .ok (now.before settings.pollTimeout) := by
  unfold cutoff
  rw [if_neg (Nat.not_lt.mpr hlong)]
  exact if_pos hshowable

/-- In years with four digits there is such an instant. -/
theorem cutoff_of_plain (hnow : now.HasPlainYear)
    (hcutoff : (now.before settings.pollTimeout).HasPlainYear) :
    cutoff settings now = .ok (now.before settings.pollTimeout) := by
  have hbound := hnow.bounds
  have hbound' := hcutoff.bounds
  have hnanos : (now.before settings.pollTimeout).nanos = now.nanos - settings.pollTimeout.nanos :=
    rfl
  have hlongest : longestTimeout.nanos = 9223372036854775807000000 := rfl
  exact cutoff_eq_ok (by omega) ((Instant.isShowable_iff _).mpr (by omega))

end Desk

end AnalysisDesk
