/-
Times in order.

A job is created, dispatched and ended by different writes, and each of them brings a time
of its own.  All writes but one take the time at which they are done, so that on a clock
that does not go back a later write brings no earlier time.  The one exception is a sweep,
which fails a job as of the instant that it was given, and this may lie in the past.

What a sweep fails stood on its list, and on the list are jobs whose window began before
the instant less the timeout.  So the instant of the sweep comes after the dispatch of a
job that is processing and after the creation of one that is pending, whatever the clock
says.  The store finds that out by texts; that these agree with the instants behind them
is `stored_lt_stored_iff`.

The log carries the rest: the times of creation and of dispatch in a row are times of
events, so that they lie behind every event that is yet to come.
-/
import AnalysisDesk.Proofs.Desk.Shapes
import AnalysisDesk.Proofs.Desk.SweptJobs

namespace AnalysisDesk

/-! ### The times of a row -/

/-- A row whose times are those of given instants, in their order to the millisecond. -/
structure JobRow.Timeline (row : JobRow) (created : Instant) (dispatched completed : Option Instant) :
    Prop where
  createdAt : row.createdAt = created.stored
  dispatchedAt : row.dispatchedAt = dispatched.map Instant.stored
  completedAt : row.completedAt = completed.map Instant.stored
  createdPlain : created.HasPlainYear
  dispatchedPlain : ∀ t, dispatched = some t → t.HasPlainYear
  completedPlain : ∀ t, completed = some t → t.HasPlainYear
  dispatchedLater : ∀ t, dispatched = some t → created.millis ≤ t.millis
  completedLater : ∀ t, completed = some t → created.millis ≤ t.millis
  completedLast : ∀ t, completed = some t → ∀ d, dispatched = some d → d.millis ≤ t.millis

/-- A row whose times are in order, and were written by events as far as creation and dispatch are
concerned. -/
def JobRow.Chronicled (row : JobRow) (past : List Event) : Prop :=
  ∃ created dispatched completed, row.Timeline created dispatched completed ∧
    (∃ e ∈ past, created = e.time) ∧ ∀ t, dispatched = some t → ∃ e ∈ past, t = e.time

/-- A job whose times are in order, and that has those which its status wants. -/
structure Job.Chronological (job : Job) : Prop where
  dispatchedLater : ∀ t, job.dispatchedAt = some t → job.createdAt.nanos ≤ t.nanos
  completedLater : ∀ t, job.completedAt = some t → job.createdAt.nanos ≤ t.nanos
  completedLast : ∀ t, job.completedAt = some t →
    ∀ d, job.dispatchedAt = some d → d.nanos ≤ t.nanos
  ended : job.completedAt.isSome = job.status.isTerminal
  taken : job.status = .processing ∨ job.status = .completed → job.dispatchedAt.isSome = true

theorem Instant.millis_mono {t u : Instant} (h : t.nanos ≤ u.nanos) : t.millis ≤ u.millis := by
  unfold millis nanosPerMilli
  omega

theorem Instant.cut_mono {t u : Instant} (h : t.millis ≤ u.millis) : t.cut.nanos ≤ u.cut.nanos := by
  unfold cut ofMillis nanosPerMilli
  dsimp only
  omega

namespace JobRow

variable {row row' : JobRow} {past : List Event} {e : Event} {created : Instant}
  {dispatched completed : Option Instant}

theorem Chronicled.cons (h : row.Chronicled past) (e : Event) : row.Chronicled (e :: past) := by
  obtain ⟨created, dispatched, completed, htimes, hcreated, hdispatched⟩ := h
  exact ⟨created, dispatched, completed, htimes, List.exists_mem_cons_of_exists hcreated,
    fun t ht => List.exists_mem_cons_of_exists (hdispatched t ht)⟩

/-- A job has a time at which it ended exactly if it is over. -/
theorem Shape.completedAt_isSome {findings : List IssueRow × List MetricRow} {status : JobStatus}
    (h : row.Shape findings status) : row.completedAt.isSome = status.isTerminal := by
  have hnone : row.Unended → row.completedAt.isSome = false := fun h => by rw [h.completedAt]; rfl
  cases status with
  | pending | processing => exact hnone h.2.2.1
  | completed => exact Option.isSome_iff_ne_none.mpr h.2.2.1
  | failed | cancelled => exact Option.isSome_iff_ne_none.mpr h.1

/-- A job that the analyzer works on or has completed was dispatched. -/
theorem Shape.dispatchedAt_isSome {findings : List IssueRow × List MetricRow} {status : JobStatus}
    (h : row.Shape findings status) (htaken : status = .processing ∨ status = .completed) :
    row.dispatchedAt.isSome = true := by
  rcases htaken with rfl | rfl
  · exact Option.isSome_iff_ne_none.mpr h.2.1
  · exact Option.isSome_iff_ne_none.mpr h.2.1

/-- The times of a job that is new. -/
theorem timeline_of_pendingRow {now : Instant} (hplain : now.HasPlainYear) (id : JobId)
    (job : NewJob) : (Store.pendingRow id job now).Timeline now none none where
  createdAt := rfl
  dispatchedAt := rfl
  completedAt := rfl
  createdPlain := hplain
  dispatchedPlain := by simp
  completedPlain := by simp
  dispatchedLater := by simp
  completedLater := by simp
  completedLast := by simp

/-- The times of a row are all that counts. -/
theorem Timeline.congr (h : row.Timeline created dispatched completed)
    (hcreatedAt : row'.createdAt = row.createdAt) (hdispatchedAt : row'.dispatchedAt = row.dispatchedAt)
    (hcompletedAt : row'.completedAt = row.completedAt) :
    row'.Timeline created dispatched completed :=
  { h with
    createdAt := hcreatedAt.trans h.createdAt
    dispatchedAt := hdispatchedAt.trans h.dispatchedAt
    completedAt := hcompletedAt.trans h.completedAt }

/-- A row that is dispatched at an instant behind its creation. -/
theorem Timeline.withDispatch (h : row.Timeline created dispatched none) {t : Instant}
    (hplain : t.HasPlainYear) (hcreated : created.millis ≤ t.millis)
    (hcreatedAt : row'.createdAt = row.createdAt) (hdispatchedAt : row'.dispatchedAt = some t.stored)
    (hcompletedAt : row'.completedAt = row.completedAt) :
    row'.Timeline created (some t) none where
  createdAt := hcreatedAt.trans h.createdAt
  dispatchedAt := hdispatchedAt
  completedAt := hcompletedAt.trans h.completedAt
  createdPlain := h.createdPlain
  dispatchedPlain := by simpa using hplain
  completedPlain := by simp
  dispatchedLater := by simpa using hcreated
  completedLater := by simp
  completedLast := by simp

/-- A row that has ended at an instant behind its other times. -/
theorem Timeline.ended (h : row.Timeline created dispatched completed) {t : Instant}
    (hplain : t.HasPlainYear) (hcreated : created.millis ≤ t.millis)
    (hdispatched : ∀ d, dispatched = some d → d.millis ≤ t.millis)
    (hcreatedAt : row'.createdAt = row.createdAt) (hdispatchedAt : row'.dispatchedAt = row.dispatchedAt)
    (hcompletedAt : row'.completedAt = some t.stored) :
    row'.Timeline created dispatched (some t) where
  createdAt := hcreatedAt.trans h.createdAt
  dispatchedAt := hdispatchedAt.trans h.dispatchedAt
  completedAt := hcompletedAt
  createdPlain := h.createdPlain
  dispatchedPlain := h.dispatchedPlain
  completedPlain := by simpa using hplain
  dispatchedLater := h.dispatchedLater
  completedLater := by simpa using hcreated
  completedLast := by simpa using hdispatched

/-- The times of a job that waited too long lie before the cutoff. -/
theorem Timeline.before_of_isStale (h : row.Timeline created dispatched completed)
    (hstanding : row.Standing) {cutoff : Instant} (hcutoff : cutoff.HasPlainYear)
    (hstale : Store.isStale cutoff.stored row = true) :
    created.millis ≤ cutoff.millis ∧ ∀ d, dispatched = some d → d.millis ≤ cutoff.millis := by
  have hearlier : ∀ {t : Instant}, t.HasPlainYear → t.stored < cutoff.stored →
      t.millis ≤ cutoff.millis := by
    intro t ht hlt
    rw [Store.stored_lt_stored_iff ht hcutoff, Instant.millis_cut] at hlt
    exact Int.le_of_lt hlt
  unfold Store.isStale at hstale
  rw [Bool.or_eq_true, Bool.and_eq_true, Bool.and_eq_true, beq_iff_eq, beq_iff_eq, decide_eq_true_eq,
    decide_eq_true_eq, h.createdAt, h.dispatchedAt] at hstale
  rcases hstale with ⟨-, hlt⟩ | ⟨hpending, hlt⟩
  · cases dispatched with
    | none => exact ⟨hearlier h.createdPlain hlt, fun _ hc => nomatch hc⟩
    | some t =>
        have hle := hearlier (h.dispatchedPlain t rfl) hlt
        exact ⟨(h.dispatchedLater t rfl).trans hle, fun _ heq => Option.some.inj heq ▸ hle⟩
  · refine ⟨hearlier h.createdPlain hlt, fun d hd => ?_⟩
    have hnone := hstanding.undispatched hpending
    rw [h.dispatchedAt, hd] at hnone
    exact nomatch hnone

/-- The times that are read of a row are its instants, to the millisecond. -/
theorem Timeline.read (h : row.Timeline created dispatched completed) (hwritten : row.Written)
    {id : JobId} {status : JobStatus} (hid : row.id = id.text) (hstatus : row.status = status.label) :
    row.read = .ok (row.shown id status created.cut (dispatched.map Instant.cut)
      (completed.map Instant.cut)) := by
  rw [hwritten.read_eq hid hstatus, h.createdAt, h.dispatchedAt, h.completedAt,
    readTimestamp_stored_eq h.createdPlain, readTimestamp?_stored_eq h.dispatchedPlain,
    readTimestamp?_stored_eq h.completedPlain]
  rfl

end JobRow

/-! ### Who writes which time -/

namespace StoreWrite

/-- The instant at which a job is over that a write has ended. -/
def endsAt (now : Instant) : StoreWrite → Instant
  | .failJob _ _ _ date => date.getD now
  | .createJob _ _ | .markDispatched _ _ | .recordHandle _ _ | .cancelJob _ _ | .applyReport _ _ =>
    now

theorem endedRow_times (now : Instant) (row : JobRow) {change : StoreWrite}
    (hending : change.isEnding = true) :
    (change.endedRow now row).createdAt = row.createdAt ∧
      (change.endedRow now row).dispatchedAt = row.dispatchedAt ∧
      (change.endedRow now row).completedAt = some (change.endsAt now).stored := by
  cases change with
  | failJob | cancelJob | applyReport => exact ⟨rfl, rfl, rfl⟩
  | createJob | markDispatched | recordHandle => exact Bool.noConfusion hending

end StoreWrite

/-- Nobody but a sweep fails a job as of another time than that of the write. -/
theorem Duty.may_failJob {settings : DeskSettings} {duty : Duty} {ms : List Exchange} {job : JobId}
    {source : JobStatus} {reason : String} {date : Option Instant}
    (h : duty.May settings ms (.write (.failJob job source reason date))) :
    date = none ∨ duty.isSweep = true := by
  cases duty with
  | sweepAt | sweep => exact Or.inr rfl
  | submit => cases h with | refuse => exact Or.inl rfl
  | ingest => cases h with | refuse => exact Or.inl rfl
  | expire => cases h with | fail => exact Or.inl rfl
  | check =>
      cases h with
      | malformed | rejected => exact Or.inl rfl
      | ingest _ _ _ _ h => cases h with | refuse => exact Or.inl rfl
  | cancel | resume | shutdown => cases h

/-- An event that, if it fails a job as of some instant, does so because the job had waited since
before a cutoff that lies no later. -/
def Event.FailsLate (e : Event) : Prop :=
  ∀ job source reason date, e.what.1 = .write (.failJob job source reason (some date)) →
    date.HasPlainYear ∧ ∀ row, e.before.jobRow? job = some row → row.status = source.label →
      row.isActive = true → ∃ cutoff : Instant, cutoff.HasPlainYear ∧ cutoff.millis ≤ date.millis ∧
        Store.isStale cutoff.stored row = true

/-! ### Logs -/

/-- The times of all jobs are in order, and written by events. -/
def Store.Chronicled (s : Store) (past : List Event) : Prop :=
  ∀ id row, s.jobRow? id = some row → row.Chronicled past

section Logs

variable {settings : DeskSettings} {first s : Store} {past : List Event} {e : Event}

/-- What was written before an event was written earlier. -/
private theorem earlier_of_events (hclock : ∀ d ∈ past, d.time.nanos ≤ e.time.nanos) {t : Instant}
    (h : ∃ d ∈ past, t = d.time) : t.millis ≤ e.time.millis := by
  obtain ⟨d, hd, rfl⟩ := h
  exact Instant.millis_mono (hclock d hd)

/-- The end of a job comes after its other times. -/
private theorem chronicled_of_end (hclock : ∀ d ∈ past, d.time.nanos ≤ e.time.nanos)
    (hyear : e.time.HasPlainYear) (hlate : e.FailsLate) {change : StoreWrite}
    (hwhat : e.what.1 = .write change) (hending : change.isEnding = true) {row : JobRow}
    (hrow : e.before.jobRow? change.job = some row) (hstanding : row.Standing) {source : JobStatus}
    (hsource : source ∈ change.sources) (hstatus : row.status = source.label)
    (hactive : row.isActive = true) (h : row.Chronicled past) :
    (change.endedRow e.time row).Chronicled (e :: past) := by
  obtain ⟨created, dispatched, completed, htimes, hcreated, hdispatched⟩ := h
  -- at the time of the event all that was written lies behind, whatever is ended
  have hnow : e.time.HasPlainYear ∧ created.millis ≤ e.time.millis ∧
      ∀ d, dispatched = some d → d.millis ≤ e.time.millis :=
    ⟨hyear, earlier_of_events hclock hcreated,
      fun d hd => earlier_of_events hclock (hdispatched d hd)⟩
  have hend : (change.endsAt e.time).HasPlainYear ∧ created.millis ≤ (change.endsAt e.time).millis ∧
      ∀ d, dispatched = some d → d.millis ≤ (change.endsAt e.time).millis := by
    cases change with
    | failJob job source' reason date =>
        cases date with
        | none => exact hnow
        | some date =>
            rw [List.mem_singleton.mp hsource] at hstatus
            obtain ⟨hplain, hwaited⟩ := hlate job source' reason date hwhat
            obtain ⟨cutoff, hcutoff, hle, hstale⟩ := hwaited row hrow hstatus hactive
            obtain ⟨hcreated', hdispatched'⟩ := htimes.before_of_isStale hstanding hcutoff hstale
            exact ⟨hplain, hcreated'.trans hle, fun d hd => (hdispatched' d hd).trans hle⟩
    | createJob | markDispatched | recordHandle | cancelJob | applyReport => exact hnow
  obtain ⟨hcreatedAt, hdispatchedAt, hcompletedAt⟩ := change.endedRow_times e.time row hending
  have hafter := htimes.ended hend.1 hend.2.1 hend.2.2 hcreatedAt hdispatchedAt hcompletedAt
  exact ⟨created, dispatched, _, hafter, List.exists_mem_cons_of_exists hcreated,
    fun d hd => List.exists_mem_cons_of_exists (hdispatched d hd)⟩

/-- One event keeps the times of every job in order. -/
theorem History.chronicled_step (h : History settings first (e :: past) s) (hfirst : first.Reached)
    (hclock : ∀ d ∈ past, d.time.nanos ≤ e.time.nanos) (hyear : e.time.HasPlainYear)
    (hlate : e.FailsLate) (hbefore : e.before.Chronicled past) : e.after.Chronicled (e :: past) := by
  have hreached := h.earlier.reached hfirst
  have hs : e.before.WF := hreached.wf
  intro job row hrow
  rcases h.happens.ran_or_eq hs with heq | ⟨change, answer, hwhat, hran⟩
  · rw [heq] at hrow
    exact (hbefore job row hrow).cons e
  by_cases hjob : change.job = job
  · subst hjob
    generalize hafter : e.after = s' at hran hrow
    cases hran with
    | broken | occupied | notRecorded | declined => exact (hbefore _ row hrow).cons e
    | created id new _ _ hnew =>
        have hput : Store.jobRow? { e.before with
            jobs := e.before.jobs ++ [Store.pendingRow id new e.time] } id
              = some (Store.pendingRow id new e.time) :=
          Store.jobRow?_append_pending new e.time hnew
        obtain rfl := Option.some.inj (hput.symm.trans hrow)
        exact ⟨e.time, none, none, JobRow.timeline_of_pendingRow hyear id new,
          ⟨e, List.mem_cons_self .., rfl⟩, by simp⟩
    | dispatched id handle old hold hstatus =>
        obtain rfl := Store.eq_of_putRow hold hrow rfl
        obtain ⟨created, dispatched, completed, htimes, hcreated, -⟩ := hbefore id old hold
        have hunended := (hreached.inStep old (Store.jobRow?_mem hold).1).unended
          (JobRow.isActive_of_pending hstatus)
        obtain rfl : completed = none :=
          Option.map_eq_none_iff.mp (htimes.completedAt.symm.trans hunended.completedAt)
        refine ⟨created, some e.time, none, htimes.withDispatch hyear ?_ rfl rfl rfl,
          List.exists_mem_cons_of_exists hcreated,
          fun t ht => ⟨e, List.mem_cons_self .., (Option.some.inj ht).symm⟩⟩
        exact earlier_of_events hclock hcreated
    | recorded id handle old hold hnone =>
        obtain rfl := Store.eq_of_putRow hold hrow rfl
        obtain ⟨created, dispatched, completed, htimes, hevents⟩ := (hbefore id old hold).cons e
        exact ⟨created, dispatched, completed, htimes.congr rfl rfl rfl, hevents⟩
    | ended _ _ old hended hold source hsource hstatus hactive =>
        obtain ⟨_, hchange, -, hending⟩ := Exchange.write_of_ended hended
        cases hchange
        rw [change.furnish_jobRow?] at hrow
        obtain rfl := Store.eq_of_putRow hold hrow (change.endedRow_id e.time old)
        exact chronicled_of_end hclock hyear hlate hwhat hending hold
          (hreached.inStep old (Store.jobRow?_mem hold).1) hsource hstatus hactive
          (hbefore _ old hold)
  · rw [hran.row_of_ne hjob] at hrow
    exact (hbefore job row hrow).cons e

/-- **A log that begins without jobs, on a clock that does not go back, keeps the times of every job
in order.** -/
theorem History.chronicled (h : History settings first past s) (hfirst : first.Reached)
    (hempty : first.jobs = []) (hyears : ∀ e ∈ past, e.time.HasPlainYear)
    (hclock : past.Pairwise fun later earlier => earlier.time.nanos ≤ later.time.nanos)
    (hlate : ∀ e ∈ past, e.FailsLate) : s.Chronicled past := by
  induction h with
  | start =>
      intro job row hrow
      have hmem := (Store.jobRow?_mem hrow).1
      rw [hempty] at hmem
      exact nomatch hmem
  | event e hpast hhappens hmay hduty ih =>
      rw [List.forall_mem_cons] at hyears hlate
      rw [List.pairwise_cons] at hclock
      exact History.chronicled_step (.event e hpast hhappens hmay hduty) hfirst hclock.1 hyears.1
        hlate.1 (ih hyears.2 hclock.2 hlate.2)

end Logs

/-! ### Offices -/

namespace Office

variable {settings : DeskSettings} {first : Store} {o : Office}

/-- A sweep fails jobs that had waited since before its cutoff, and its cutoff lies no later than the
instant that it was given. -/
theorem Sound.failsLate (h : o.Sound settings first) (hfirst : first.Reached) {e : Event}
    (he : e ∈ o.past)
    (hsweeps : ∀ now, e.duty.SweepsAt (own o.past e.doer) now →
      now.HasPlainYear ∧ (now.before settings.pollTimeout).HasPlainYear) : e.FailsLate := by
  intro job source reason date hchange
  obtain ⟨after, earlier, hpast⟩ := List.append_of_mem he
  have hlog : History settings first (e :: earlier) e.after := (hpast ▸ h.history).upTo
  have hmay := hlog.may
  rw [hchange] at hmay
  have hsweep : e.duty.isSweep = true :=
    (Duty.may_failJob hmay).resolve_left (Option.some_ne_none date)
  obtain ⟨now, oldest, jobs, tried, current, hmem, hstarts, hcutoff, hms, hsame⟩ :=
    h.listed_of_write hpast hsweep hchange
  injection hsame with hid hsource _ hdate
  obtain rfl := Option.some.inj hdate
  subst hid
  subst hsource
  obtain ⟨hyear, hplain⟩ := hsweeps date hstarts
  rw [Desk.cutoff_of_plain hyear hplain, Except.ok.injEq] at hcutoff
  subst hcutoff
  refine ⟨hyear, fun row hrow hstatus hactive => ⟨_, hplain, Instant.millis_mono ?_, ?_⟩⟩
  · show date.nanos - settings.pollTimeout.nanos ≤ date.nanos
    omega
  · exact (hlog.earlier.row_as_listed hfirst hms hmem hrow hstatus hactive).2

end Office

/-- **The times of a job are in order.**  In an office that began with users and repositories alone,
on a clock that does not go back and in years of four digits, every job was created no later than it
was dispatched, and dispatched no later than it ended; it has a time at which it ended exactly if
its status says that it is over, and one of dispatch if it is processing or was completed.  This
holds whatever the duties do and the store fails to do, and whatever instants sweeps were given, as
long as these and the cutoffs lie in such years. -/
theorem times_in_order (settings : DeskSettings) (first : Store) (o : Office)
    (hfirst : first.Reached) (hempty : first.jobs = []) (ho : o.Reached settings first)
    (hyears : ∀ e ∈ o.past, e.time.HasPlainYear)
    (hclock : o.past.Pairwise fun later earlier => earlier.time.nanos ≤ later.time.nanos)
    (hsweeps : ∀ e ∈ o.past, ∀ now, e.duty.SweepsAt (own o.past e.doer) now →
      now.HasPlainYear ∧ (now.before settings.pollTimeout).HasPlainYear) :
    ∀ row ∈ o.store.jobs, ∃ job, row.ReadAs job ∧ job.Chronological := by
  intro row hrow
  have hhistory := ho.sound.history
  have hreached := hhistory.reached hfirst
  obtain ⟨id, hid⟩ := hreached.wf.named row hrow
  have hfound : o.store.jobRow? id = some row :=
    (Store.jobRow?_eq_some_iff hreached.wf.ids).mpr ⟨hrow, hid⟩
  obtain ⟨status, hstatus, hshape⟩ := hhistory.shaped hfirst hempty id row hfound
  obtain ⟨created, dispatched, completed, htimes, -⟩ := hhistory.chronicled hfirst hempty hyears
    hclock (fun e he => ho.sound.failsLate hfirst he (hsweeps e he)) id row hfound
  refine ⟨_, ⟨htimes.read (hreached.written.rows row hrow) hid hstatus, hid, hstatus, rfl, rfl⟩, ?_⟩
  have hcut : ∀ {t? : Option Instant} {t : Instant}, t?.map Instant.cut = some t →
      ∃ u, t? = some u ∧ t = u.cut := fun h => by
    obtain ⟨u, hu, rfl⟩ := Option.map_eq_some_iff.mp h
    exact ⟨u, hu, rfl⟩
  constructor
  · intro t ht
    obtain ⟨u, hu, rfl⟩ := hcut ht
    exact Instant.cut_mono (htimes.dispatchedLater u hu)
  · intro t ht
    obtain ⟨u, hu, rfl⟩ := hcut ht
    exact Instant.cut_mono (htimes.completedLater u hu)
  · intro t ht d hd
    obtain ⟨u, hu, rfl⟩ := hcut ht
    obtain ⟨v, hv, rfl⟩ := hcut hd
    exact Instant.cut_mono (htimes.completedLast u hu v hv)
  · have hends := hshape.completedAt_isSome
    rw [htimes.completedAt] at hends
    show (completed.map Instant.cut).isSome = status.isTerminal
    exact Option.isSome_map.trans (Option.isSome_map.symm.trans hends)
  · intro htaken
    have hsome := hshape.dispatchedAt_isSome htaken
    rw [htimes.dispatchedAt] at hsome
    show (dispatched.map Instant.cut).isSome = true
    exact Option.isSome_map.trans (Option.isSome_map.symm.trans hsome)

/-- A job that a sweep leaves alone, as it was given an instant in the past, and that another one
fails as of an instant that is yet to come; and a job that was completed meanwhile. -/
def Small.sweptBothWays : Office :=
  let report : Report :=
    ⟨.completed, some .zero, none, none, none, none, none, [], [], none⟩
  let second (nanos : Int) : Surroundings :=
    ⟨⟨nanos⟩, JobId.numbered 1, .ok "h-2", .ok .underway⟩
  Office.played settings store
    [.begin (.submit 1 ⟨1, none, none⟩), .act 0 (calm 1000000), .act 0 (calm 1000000),
      .act 0 (calm 1500000), .act 0 (calm 2000000), .act 0 (calm 2500000),
      .begin (.ingest default report), .act 1 (calm 3000000), .act 1 (calm 3000001),
      .begin (.submit 1 ⟨1, none, none⟩), .act 2 (second 4000000), .act 2 (second 4000000),
      .act 2 (second 4000000), .act 2 (second 5000000), .act 2 (second 6000000),
      .begin (.sweepAt ⟨-1000000000000⟩), .act 3 (second 7000000),
      .begin (.sweepAt ⟨1000000000000⟩), .act 4 (second 8000000), .act 4 (second 9000000)]

theorem times_in_order_played :
    Small.store.jobs = [] ∧
      Small.sweptBothWays.store.jobs.map (fun row => (row.status, row.dispatchedAt, row.completedAt))
        = [("completed", some "1970-01-01T00:00:00.002Z", some "1970-01-01T00:00:00.003Z"),
          ("failed", some "1970-01-01T00:00:00.006Z", some "1970-01-01T00:16:40.000Z")] ∧
      ∀ row ∈ Small.sweptBothWays.store.jobs, ∃ job, row.ReadAs job ∧ job.Chronological := by
  refine ⟨by decide +kernel, by decide +kernel,
    times_in_order Small.settings Small.store _ Small.store_reached (by decide +kernel)
      (Office.reached_played ..) (by decide +kernel) (by decide +kernel) fun e he now hnow => ?_⟩
  -- of the duties that were done only two are sweeps
  have hduties : ∀ e ∈ Small.sweptBothWays.past, e.duty.isSweep = true →
      e.duty = .sweepAt ⟨-1000000000000⟩ ∨ e.duty = .sweepAt ⟨1000000000000⟩ := by decide +kernel
  have hplain : ∀ now : Instant, now = ⟨-1000000000000⟩ ∨ now = ⟨1000000000000⟩ →
      now.HasPlainYear ∧ (now.before Small.settings.pollTimeout).HasPlainYear := by
    rintro now (rfl | rfl) <;> decide +kernel
  refine hplain now ?_
  rcases hnow with hnow | ⟨hnow, -⟩
  · refine (hduties e he (by rw [hnow]; rfl)).imp ?_ ?_ <;>
      exact fun h => Duty.sweepAt.inj (hnow.symm.trans h)
  · rcases hduties e he (by rw [hnow]; rfl) with h | h <;> exact nomatch hnow.symm.trans h

end AnalysisDesk
