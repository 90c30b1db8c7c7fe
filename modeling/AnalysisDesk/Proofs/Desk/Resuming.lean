/-
What resuming watches.

After a restart nobody watches the jobs that are processing.  Resuming lists them and
starts a poller on each, as far as it knows under which handle and since when.  It
always knows: a row that is processing has a handle and a time of dispatch, whoever
wrote it.  A poller that is started replaces the one that was on the job, so there is
never more than one.  It does not get to the end of the list if the clock has no room for
the time that a job may take; but for a century it always has.

A sweep before that takes jobs away from those that are processing and leaves the
others as they are, so nothing that it has not failed is missed either.
-/
import AnalysisDesk.Proofs.Desk.Ingesting
import AnalysisDesk.Proofs.Desk.Sweeping
import AnalysisDesk.Proofs.Desk.Watchers

namespace AnalysisDesk

namespace Scene

variable (s : Scene)

theorem run_startPoller {α : Type} (hroom : s.reaches s.settings.pollTimeout = true) (job : JobId)
    (handle : String) (t : Instant) (next : (Action.startPoller job handle t).Answer → Flow α) :
    s.run (.act (.startPoller job handle t) next) = (s.startPoller job handle t).run (next ()) := by
  rw [run, overflow?_eq_none hroom]
  exact if_pos (Int.le_refl _)

/-- The pollers on a job after one was started. -/
theorem filter_startPoller (job other : JobId) (handle : String) (t : Instant) :
    ((s.startPoller job handle t).pollers.filter fun poller => poller.job = other)
      = if other = job then [s.posted job handle t]
        else s.pollers.filter fun poller => poller.job = other := by
  show ((s.pollers.filter fun poller => poller.job != job) ++ [s.posted job handle t]).filter _ = _
  rw [List.filter_append, List.filter_filter]
  by_cases hsame : other = job
  · subst hsame
    rw [if_pos rfl]
    have hgone : (s.pollers.filter fun poller => decide (poller.job = other) && poller.job != other)
        = [] := by
      rw [List.filter_eq_nil_iff]
      intro poller _
      by_cases hjob : poller.job = other <;> simp [hjob]
    rw [hgone, List.nil_append]
    exact List.filter_cons_of_pos (decide_eq_true rfl)
  · rw [if_neg hsame]
    have hkept : ∀ poller ∈ s.pollers, (decide (poller.job = other) && poller.job != job)
        = decide (poller.job = other) := by
      intro poller _
      by_cases hjob : poller.job = other
      · simp [hjob, hsame]
      · simp [hjob]
    rw [List.filter_congr hkept]
    have hnew : ([s.posted job handle t].filter fun poller => poller.job = other) = [] := by
      rw [List.filter_eq_nil_iff]
      intro poller hposted hc
      rw [List.mem_singleton.mp hposted] at hc
      exact hsame (of_decide_eq_true hc).symm
    rw [hnew, List.append_nil]

/-- No job has two pollers after one was started. -/
theorem nodup_startPoller (h : (s.pollers.map (·.job)).Nodup) (job : JobId) (handle : String)
    (t : Instant) : ((s.startPoller job handle t).pollers.map (·.job)).Nodup := by
  show (((s.pollers.filter fun poller => poller.job != job) ++ [s.posted job handle t]).map
    (·.job)).Nodup
  rw [List.map_append, List.nodup_append]
  refine ⟨h.sublist (List.filter_sublist.map _), List.nodup_singleton _, ?_⟩
  intro kept hkept new hnew hsame
  obtain ⟨poller, hpoller, rfl⟩ := List.mem_map.mp hkept
  have hjob : new = job := List.mem_singleton.mp hnew
  have hne := (List.mem_filter.mp hpoller).2
  rw [hsame, hjob, bne_self_eq_false] at hne
  exact Bool.noConfusion hne

end Scene

/-- Some jobs are watched from now on, by one poller each, and the others as before. -/
structure Scene.Watches (s : Scene) (jobs : List Job) (pollers : List Poller) : Prop where
  listed : ∀ job ∈ jobs, ∀ handle t, job.externalHandle = some handle → job.dispatchedAt = some t →
    (pollers.filter fun poller => poller.job = job.id) = [s.posted job.id handle t]
  others : ∀ id, id ∉ jobs.map (·.id) → (pollers.filter fun poller => poller.job = id)
    = s.pollers.filter fun poller => poller.job = id
  single : (s.pollers.map (·.job)).Nodup → (pollers.map (·.job)).Nodup

namespace Desk

/-- **The loop of resuming** starts a poller on each job of its list, and counts them. -/
private theorem run_resumeJobs : ∀ (jobs : List Job) (s : Scene) (resumed : Nat),
    s.reaches s.settings.pollTimeout = true →
    (∀ job ∈ jobs, job.externalHandle ≠ none ∧ job.dispatchedAt ≠ none) →
    (jobs.map (·.id)).Nodup →
    ∃ pollers, s.run (resumeJobs jobs resumed)
        = (.ready (.done (.ok (resumed + jobs.length))), { s with pollers }) ∧
      s.Watches jobs pollers := by
  intro jobs
  induction jobs with
  | nil =>
      intro s resumed _ _ _
      exact ⟨s.pollers, rfl, fun _ h => (nomatch h), fun _ _ => rfl, id⟩
  | cons job rest ih =>
      intro s resumed hroom hknown hnodup
      obtain ⟨hnew, hrest⟩ := List.nodup_cons.mp hnodup
      obtain ⟨hjob, hothers⟩ := List.forall_mem_cons.mp hknown
      obtain ⟨handle, hhandle⟩ := Option.ne_none_iff_exists'.mp hjob.1
      obtain ⟨t, ht⟩ := Option.ne_none_iff_exists'.mp hjob.2
      obtain ⟨pollers, hrun, hwatches⟩ :=
        ih (s.startPoller job.id handle t) (resumed + 1) hroom hothers hrest
      refine ⟨pollers, ?_, ?_, ?_, fun h => hwatches.single (s.nodup_startPoller h _ _ _)⟩
      · have hstart : resumeJobs (job :: rest) resumed
            = .startPoller job.id handle t (resumeJobs rest (resumed + 1)) := by
          simp only [resumeJobs, hhandle, ht]
        rw [hstart, Flow.startPoller, Scene.run_startPoller s hroom, hrun,
          List.length_cons, Nat.add_right_comm, Nat.add_assoc]
        rfl
      · intro listed hlisted handle' t' hhandle' ht'
        rcases List.mem_cons.mp hlisted with rfl | hlisted
        · rw [hwatches.others _ hnew, s.filter_startPoller, if_pos rfl,
            Option.some.inj (hhandle.symm.trans hhandle'), Option.some.inj (ht.symm.trans ht')]
        · exact hwatches.listed listed hlisted handle' t' hhandle' ht'
      · intro id hid
        rw [List.map_cons, List.mem_cons, not_or] at hid
        rw [hwatches.others id hid.2, s.filter_startPoller, if_neg hid.1]

end Desk

/-! ### The pollers after a restart -/

/-- A poller that goes on with a job as the row of the job has it.  What is left of the time that the
job may take is what has not gone by since it was dispatched, and nothing more than the whole of it if
the clock was set back. -/
structure Poller.Resumes (poller : Poller) (s : Scene) (row : JobRow) : Prop where
  job : row.id = poller.job.text
  handle : row.externalHandle = some poller.handle
  deadline : ∃ (job : Job) (t : Instant), row.read = .ok job ∧ job.dispatchedAt = some t ∧
    row.dispatchedAt = some t.stored ∧
    poller.deadline.nanos = s.now.nanos
      + max 0 (s.settings.pollTimeout.nanos - max 0 (s.now.nanos - t.nanos))
  nextTick : poller.nextTick = s.now.after s.settings.pollInterval
  phase : 0 < s.settings.pollInterval.nanos → s.reaches s.settings.pollInterval = true →
    poller.phase = .waiting

/-- A row that is processing has one poller, which goes on with its job. -/
def JobRow.IsWatched (row : JobRow) (s : Scene) (pollers : List Poller) : Prop :=
  ∃ poller : Poller, poller.Resumes s row ∧
    (pollers.filter fun other => other.job = poller.job) = [poller]

/-- The pollers after resuming. -/
structure Scene.Resumed (s : Scene) (pollers : List Poller) : Prop where
  watched : ∀ row ∈ s.store.jobs, row.status = JobStatus.processing.label →
    row.IsWatched s pollers
  others : ∀ id : JobId,
    (∀ row ∈ s.store.jobs, row.id = id.text → row.status ≠ JobStatus.processing.label) →
    (pollers.filter fun poller => poller.job = id)
      = s.pollers.filter fun poller => poller.job = id
  single : (s.pollers.map (·.job)).Nodup → (pollers.map (·.job)).Nodup

theorem Scene.posted_deadline_eq (s : Scene) (job : JobId) (handle : String) (t : Instant) :
    (s.posted job handle t).deadline.nanos = s.now.nanos
      + max 0 (s.settings.pollTimeout.nanos - max 0 (s.now.nanos - t.nanos)) := by
  have hdeadline : (s.posted job handle t).deadline.nanos = s.now.nanos
      + ((s.settings.pollTimeout.nanos - (s.now.nanos - t.nanos).toNat : Nat) : Int) := rfl
  rw [hdeadline]
  omega

/-- The poller that is started on a job as it was read goes on with it. -/
theorem Scene.posted_resumes (s : Scene) {row : JobRow} {job : Job} {handle : String} {t : Instant}
    (hread : row.read = .ok job) (hshows : row.Shows job) (hhandle : job.externalHandle = some handle)
    (ht : job.dispatchedAt = some t) (hstored : row.dispatchedAt = some t.stored) :
    (s.posted job.id handle t).Resumes s row := by
  refine ⟨hshows.id, hshows.handle.trans hhandle, ⟨job, t, hread, ht, hstored, ?_⟩, rfl, ?_⟩
  · exact s.posted_deadline_eq job.id handle t
  · exact fun hticks hroom => if_pos ⟨hticks, hroom⟩

namespace Store

variable {s : Store}

/-- A job that is processing is known to the analyzer under a handle, and was dispatched. -/
theorem Reached.known_of_processing (hs : s.Reached) {row : JobRow} {job : Job}
    (hrow : row ∈ s.jobs) (hread : row.read = .ok job)
    (hstatus : row.status = JobStatus.processing.label) :
    job.externalHandle ≠ none ∧
      ∃ t : Instant, job.dispatchedAt = some t ∧ row.dispatchedAt = some t.stored := by
  have hshows := hs.wf.shows hrow hread
  refine ⟨hshows.handle ▸ hs.wf.handled row hrow (Or.inl hstatus), ?_⟩
  obtain ⟨t, -, hstored, ht⟩ := (hs.written.rows row hrow).dispatchedAt_of_read hread
    ((hs.inStep row hrow).dispatched (Or.inl hstatus))
  exact ⟨t.cut, ht, hstored.trans (congrArg some (Instant.stored_congr t.millis_cut.symm))⟩

/-- Some jobs are those that are processing, as their rows have them, and none of them twice. -/
structure IsProcessingList (s : Store) (jobs : List Job) : Prop where
  listed : ∀ row ∈ s.jobs, row.status = JobStatus.processing.label →
    ∃ job ∈ jobs, row.read = .ok job
  rows : ∀ job ∈ jobs, ∃ row ∈ s.jobs, row.status = JobStatus.processing.label ∧
    row.read = .ok job
  ids : (jobs.map (·.id)).Nodup
  length : jobs.length = s.jobs.countP fun row => row.status == JobStatus.processing.label

/-- **The list of the jobs that are processing leaves none of them out.** -/
theorem ReachedInYears.processingJobs_eq (hs : s.ReachedInYears) :
    ∃ jobs, s.processingJobs = .ok jobs ∧ s.IsProcessingList jobs := by
  obtain ⟨shown, hshown⟩ := hs.reached.exists_shown hs.dated
  generalize hrows : s.jobs.filter (fun row => row.status == JobStatus.processing.label) = rows
  have hmem : ∀ row, row ∈ rows ↔ row ∈ s.jobs ∧ row.status = JobStatus.processing.label := by
    intro row
    rw [← hrows, List.mem_filter, beq_iff_eq]
  have hread : ∀ row ∈ rows, row.read = .ok (shown row) := fun row hrow =>
    (hshown row ((hmem row).mp hrow).1).read
  have hanswer : s.processingJobs = .ok (rows.map shown) := by
    unfold Store.processingJobs
    rw [hrows, readAll_eq_ok_iff, List.forall₂_map_right_iff, List.forall₂_same]
    exact hread
  refine ⟨rows.map shown, hanswer, ⟨?_, ?_, ?_, ?_⟩⟩
  · intro row hrow hstatus
    have hin := (hmem row).mpr ⟨hrow, hstatus⟩
    exact ⟨shown row, List.mem_map_of_mem hin, hread row hin⟩
  · intro job hjob
    obtain ⟨row, hrow, rfl⟩ := List.mem_map.mp hjob
    obtain ⟨hin, hstatus⟩ := (hmem row).mp hrow
    exact ⟨row, hin, hstatus, hread row hrow⟩
  · have htexts : ((rows.map shown).map (·.id.text)).Nodup := by
      have hsame : (rows.map shown).map (·.id.text) = rows.map (·.id) := by
        rw [List.map_map]
        exact List.map_congr_left fun row hrow => (hshown row ((hmem row).mp hrow).1).id.symm
      rw [hsame, ← hrows]
      exact hs.reached.wf.ids.sublist (List.filter_sublist.map _)
    rw [show (fun job : Job => job.id.text) = JobId.text ∘ Job.id from rfl, ← List.map_map] at htexts
    exact htexts.of_map
  · rw [List.length_map, List.countP_eq_length_filter, hrows]

end Store

namespace Desk

/-- **Resuming skips no job that is processing.** -/
theorem run_resume (s : Scene) (hs : s.store.ReachedInYears)
    (hroom : s.reaches s.settings.pollTimeout = true) :
    ∃ pollers, s.run resume = (.ready (.done (.ok (s.store.jobs.countP fun row =>
        row.status == JobStatus.processing.label))), { s with pollers }) ∧ s.Resumed pollers := by
  have hwf := hs.reached.wf
  obtain ⟨jobs, hanswer, hjobs⟩ := hs.processingJobs_eq
  have hknown : ∀ job ∈ jobs, job.externalHandle ≠ none ∧ job.dispatchedAt ≠ none := by
    intro job hjob
    obtain ⟨row, hrow, hstatus, hread⟩ := hjobs.rows job hjob
    obtain ⟨hhandle, t, ht, -⟩ := hs.reached.known_of_processing hrow hread hstatus
    exact ⟨hhandle, ht ▸ Option.some_ne_none t⟩
  obtain ⟨pollers, hrun, hwatches⟩ := run_resumeJobs jobs s 0 hroom hknown hjobs.ids
  refine ⟨pollers, ?_, ?_, ?_, hwatches.single⟩
  · have hasked : StoreQuery.run s.store .processingJobs = .ok jobs := hanswer
    unfold resume Flow.query
    rw [Scene.run_query, hasked]
    refine hrun.trans ?_
    rw [Nat.zero_add, hjobs.length]
  · intro row hrow hstatus
    obtain ⟨job, hjob, hread⟩ := hjobs.listed row hrow hstatus
    obtain ⟨hhandle, t, ht, hstored⟩ := hs.reached.known_of_processing hrow hread hstatus
    obtain ⟨handle, hhandle⟩ := Option.ne_none_iff_exists'.mp hhandle
    exact ⟨_, s.posted_resumes hread (hwf.shows hrow hread) hhandle ht hstored,
      hwatches.listed job hjob handle t hhandle ht⟩
  · intro id hid
    refine hwatches.others id fun hc => ?_
    obtain ⟨job, hjob, rfl⟩ := List.mem_map.mp hc
    obtain ⟨row, hrow, hstatus, hread⟩ := hjobs.rows job hjob
    exact hid row hrow (hwf.shows hrow hread).id hstatus

end Desk

/-- A hundred years. -/
def Span.century : Span := .ofSeconds (36525 * 86400)

/-- The clock has room for a century whenever it begins. -/
theorem Scene.reaches_of_le_century {span : Span} (h : span.nanos ≤ Span.century.nanos)
    (s : Scene) : s.reaches span = true :=
  reaches_of_le (Nat.le_trans h (by decide)) s

/-- **Restart recovery skips nothing.**  Each job that is processing has one poller after resuming,
whatever pollers there were, and if a sweep came first, then each that the sweep has not failed.  The
clock must have room for the time that a job may take, and it has if that is no more than a
century. -/
theorem restart_skips_nothing (settings : DeskSettings) :
    (∀ s : Scene, s.settings = settings → s.store.ReachedInYears →
      settings.pollTimeout.nanos ≤ Span.century.nanos ∨ s.reaches settings.pollTimeout = true →
      ∃ pollers, s.run Desk.resume = (.ready (.done (.ok (s.store.jobs.countP fun row =>
        row.status == JobStatus.processing.label))), { s with pollers }) ∧ s.Resumed pollers) ∧
    (∀ (s : Store) (now : Instant), s.ReachedInYears → now.HasPlainYear →
      settings.pollTimeout.nanos ≤ Span.century.nanos →
      (Desk.sweepAt settings now).Alone (fun result s' => (∃ count, result = .ok count) ∧
        ∀ later : Scene, later.settings = settings → later.store = s' → later.now = now →
          ∃ resumed pollers, later.run Desk.resume
              = (.ready (.done (.ok resumed)), { later with pollers }) ∧
            ∀ row ∈ s.jobs, row.status = JobStatus.processing.label →
              row.timedOut settings now ∈ s'.jobs ∨
                (row ∈ s'.jobs ∧ row.IsWatched later pollers)) s) := by
  refine ⟨?_, fun s now hs hnow hshort => ?_⟩
  · rintro s rfl hs hroom
    exact Desk.run_resume s hs (hroom.elim (fun hshort => s.reaches_of_le_century hshort) id)
  have hbounds := hnow.bounds
  have hcutoff : Desk.cutoff settings now = .ok (now.before settings.pollTimeout) := by
    have hcentury : Span.century.nanos = 3155760000000000000 := rfl
    have hlongest : Desk.longestTimeout.nanos = 9223372036854775807000000 := rfl
    have hnanos : (now.before settings.pollTimeout).nanos
        = now.nanos - settings.pollTimeout.nanos := rfl
    exact Desk.cutoff_eq_ok (by omega) ((Instant.isShowable_iff _).mpr (by omega))
  refine (Desk.sweepAt_alone hs hnow hcutoff).mono ?_
  rintro result s' ⟨hresult, hafter, hs'⟩
  refine ⟨⟨_, hresult⟩, fun later hsettings hstore _ => ?_⟩
  rw [← hsettings] at hshort
  obtain ⟨pollers, hrun, hresumed⟩ :=
    Desk.run_resume later (hstore ▸ hs') (later.reaches_of_le_century hshort)
  refine ⟨_, pollers, hrun, fun row hrow hstatus => ?_⟩
  have hmapped : (if Store.isStale (now.before settings.pollTimeout).stored row
      then row.timedOut settings now else row) ∈ s'.jobs := by
    rw [hafter]
    exact List.mem_map_of_mem hrow
  cases hstale : Store.isStale (now.before settings.pollTimeout).stored row with
  | true => exact Or.inl (by rwa [hstale] at hmapped)
  | false =>
      rw [hstale] at hmapped
      exact Or.inr ⟨hmapped, hresumed.watched row (hstore ▸ hmapped) hstatus⟩

/-- The desk after a restart, ten minutes after its only job was dispatched. -/
def Small.restarted : Scene :=
  ⟨Small.settings, Small.dispatched, ⟨600000000000⟩, ⟨599000000000⟩, .empty, [], 0, []⟩

theorem restart_skips_nothing_played :
    Small.dispatched.ReachedInYears ∧
    Small.settings.pollTimeout.nanos ≤ Span.century.nanos ∧
    (∃ row ∈ Small.dispatched.jobs, row.status = JobStatus.processing.label) ∧
    (∃ pollers, Small.restarted.run Desk.resume
        = (.ready (.done (.ok 1)), { Small.restarted with pollers }) ∧
      Small.restarted.Resumed pollers) ∧
    (Desk.sweepAt Small.settings ⟨600000000000⟩).Alone (fun result s' =>
      (∃ count, result = .ok count) ∧
      ∀ later : Scene, later.settings = Small.settings → later.store = s' →
        later.now = ⟨600000000000⟩ →
        ∃ resumed pollers, later.run Desk.resume
            = (.ready (.done (.ok resumed)), { later with pollers }) ∧
          ∀ row ∈ Small.dispatched.jobs, row.status = JobStatus.processing.label →
            row.timedOut Small.settings ⟨600000000000⟩ ∈ s'.jobs ∨
              (row ∈ s'.jobs ∧ row.IsWatched later pollers)) Small.dispatched := by
  have hyears := Small.dispatched_reachedInYears
  have hshort : Small.settings.pollTimeout.nanos ≤ Span.century.nanos := by decide
  have hone : (Small.restarted.store.jobs.countP fun row =>
      row.status == JobStatus.processing.label) = 1 := by decide +kernel
  obtain ⟨hresume, hsweep⟩ := restart_skips_nothing Small.settings
  obtain ⟨pollers, hrun, hresumed⟩ := hresume Small.restarted rfl hyears (Or.inl hshort)
  refine ⟨hyears, hshort, by decide +kernel, ⟨pollers, ?_, hresumed⟩,
    hsweep Small.dispatched ⟨600000000000⟩ hyears (by decide +kernel) hshort⟩
  rw [hrun, hone]

end AnalysisDesk
