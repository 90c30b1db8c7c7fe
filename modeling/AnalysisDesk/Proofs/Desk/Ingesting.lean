/-
What becomes of a report, from its arrival to what the owner of the job reads.

An ingest that nobody interferes with reads the job, checks the report and makes one
write.  Four things can come of it: there is no such job, the job does not wait for a
report, the report cannot be used and fails the job, or it is written and reads back.
A job that was ended by a report does not wait for another one, so whatever is
ingested afterwards changes nothing.

Whether a job can be read depends on its times alone.  A time whose year has no room
in a timestamp is written and cannot be read, and then the ingest fails before it has
changed anything.
-/
import AnalysisDesk.Desk.Scene
import AnalysisDesk.Proofs.Desk.Play
import AnalysisDesk.Proofs.Store.Delivery

namespace AnalysisDesk

/-! ### Running procedures that only call the store -/

namespace Scene

variable {α : Type} (s : Scene)

theorem run_query (question : StoreQuery) (next : Except StoreError question.Answer → Flow α) :
    s.run (.act (.query question) next) = s.run (next (question.run s.store)) :=
  if_pos (Int.le_refl _)

theorem run_write (change : StoreWrite) (next : Except StoreError change.Answer → Flow α) :
    s.run (.act (.write change) next)
      = { s with store := (change.run s.now s.store).2 }.run
          (next (change.run s.now s.store).1) :=
  if_pos (Int.le_refl _)

end Scene

/-! ### What comes of a report -/

/-- A job whose report could not be used. -/
structure Store.Rejects (s s' : Store) (now : Instant) (job : JobId) (row : JobRow)
    (problem : ReportProblem) : Prop where
  found : s'.jobRow? job
    = some (row.ended .failed ("malformed analysis result: " ++ problem.message) now)
  unscored : (row.ended .failed ("malformed analysis result: " ++ problem.message) now).Unscored
  findings : s'.findingsOf job = ([], [])
  others : Store.OnlyChanged job s s'

/-- A job whose report was written, and what its owner reads from then on. -/
structure Store.Accepts (s s' : Store) (now : Instant) (job : JobId) (row : JobRow)
    (report : CheckedReport) : Prop where
  found : s'.jobRow? job = some (Store.rowWithReport report now row)
  owned : ∃ owner, s.owns owner row = true
  read : now.HasPlainYear → ∀ owner, s.owns owner row = true → ∃ current detail,
    s.job? job = .ok (some current) ∧
      (∀ later : Scene, later.store = s' →
        later.run (Desk.detail job owner) = (.ready (.done (.ok detail)), later)) ∧
      detail.job = current.withReport report now ∧ detail.Tells report
  others : Store.OnlyChanged job s s'

/-- What may come of a report that is ingested: the answer, and the store afterwards. -/
inductive Ingested (s : Store) (now : Instant) (job : JobId) (report : Report) :
    Except DeskError IngestOutcome → Store → Prop
  | unknown (hrow : s.jobRow? job = none) : Ingested s now job report (.error .notFound) s
  | idle (row : JobRow) (status : JobStatus) (hrow : s.jobRow? job = some row)
      (hstatus : row.status = status.label) (hidle : status ≠ .processing) :
      Ingested s now job report (.ok (.ignored status)) s
  | malformed (row : JobRow) (problem : ReportProblem) (s' : Store)
      (hrow : s.jobRow? job = some row) (hstatus : row.status = JobStatus.processing.label)
      (hcheck : report.check = .error problem) (hrejects : s.Rejects s' now job row problem) :
      Ingested s now job report (.error (.malformedResult problem.message)) s'
  | applied (row : JobRow) (checked : CheckedReport) (s' : Store)
      (hrow : s.jobRow? job = some row) (hstatus : row.status = JobStatus.processing.label)
      (hcheck : report.check = .ok checked) (haccepts : s.Accepts s' now job row checked) :
      Ingested s now job report (.ok (.applied checked.status)) s'

/-- A job whose times can all be read. -/
def Store.Legible (s : Store) (job : JobId) : Prop :=
  ∀ row, s.jobRow? job = some row → row.Legible

namespace Desk

variable {s : Scene} {job : JobId} {current : Job}

/-! ### The run of an ingest -/

/-- A procedure that goes by the status of a job. -/
theorem run_currentStatus {α : Type} (s : Scene) (job : JobId) (next : JobStatus → DeskCall α) :
    s.run (currentStatus job next) =
      match s.store.job? job with
      | .error cause => (.ready (.done (.error (.storage cause))), s)
      | .ok none => (.ready (.done (.error .notFound)), s)
      | .ok (some current) => s.run (next current.status) := by
  unfold currentStatus Flow.query
  rw [Scene.run_query]
  dsimp only [StoreQuery.run]
  rcases s.store.job? job with cause | _ | current <;> rfl

theorem run_ingest_of_error {cause : StoreError} (h : s.store.job? job = .error cause)
    (report : Report) :
    s.run (ingest job report) = (.ready (.done (.error (.storage cause))), s) := by
  rw [ingest, run_currentStatus, h]

theorem run_ingest_of_none (h : s.store.job? job = .ok none) (report : Report) :
    s.run (ingest job report) = (.ready (.done (.error .notFound)), s) := by
  rw [ingest, run_currentStatus, h]

theorem run_ingest_of_idle (h : s.store.job? job = .ok (some current))
    (hidle : current.status ≠ .processing) (report : Report) :
    s.run (ingest job report) = (.ready (.done (.ok (.ignored current.status))), s) := by
  rw [ingest, run_currentStatus, h]
  dsimp only
  rw [if_neg hidle]
  rfl

theorem run_ingest_of_malformed (h : s.store.job? job = .ok (some current))
    (hstatus : current.status = .processing) {report : Report} {problem : ReportProblem}
    (hcheck : report.check = .error problem) {s' : Store}
    (hfail : s.store.failJob job .processing (malformedReason problem.message) s.now
      = (.ok true, s')) :
    s.run (ingest job report)
      = (.ready (.done (.error (.malformedResult problem.message))), { s with store := s' }) := by
  rw [ingest, run_currentStatus, h]
  dsimp only
  rw [if_pos hstatus, hcheck]
  dsimp only [Flow.write]
  rw [Scene.run_write]
  dsimp only [StoreWrite.run, Option.getD_none]
  rw [hfail]
  rfl

theorem run_ingest_of_checked (h : s.store.job? job = .ok (some current))
    (hstatus : current.status = .processing) {report : Report} {checked : CheckedReport}
    (hcheck : report.check = .ok checked) {s' : Store}
    (happly : s.store.applyReport Store.noneRefused job checked s.now = (.ok true, s')) :
    s.run (ingest job report)
      = (.ready (.done (.ok (.applied checked.status))), { s with store := s' }) := by
  rw [ingest, run_currentStatus, h]
  dsimp only
  rw [if_pos hstatus, hcheck]
  dsimp only [Flow.write]
  rw [Scene.run_write]
  dsimp only [StoreWrite.run]
  rw [happly]
  rfl

/-- A job with its findings is what the store says. -/
theorem run_detail {owner : Int} {detail : JobDetail}
    (h : s.store.jobDetail job owner = .ok (some detail)) :
    s.run (Desk.detail job owner) = (.ready (.done (.ok detail)), s) := by
  refine (s.run_query (.jobDetail job owner) viewed).trans ?_
  show s.run (viewed (s.store.jobDetail job owner)) = _
  rw [h]
  rfl

/-- A report for a job that does not wait for one changes nothing. -/
theorem run_ingest_unchanged
    (h : ∀ current, s.store.job? job = .ok (some current) → current.status ≠ .processing)
    (report : Report) : (s.run (ingest job report)).2 = s := by
  rw [ingest, run_currentStatus]
  match hjob : s.store.job? job with
  | .error cause => rfl
  | .ok none => rfl
  | .ok (some current) =>
      dsimp only
      rw [if_neg (h current hjob)]
      rfl

end Desk

namespace Store

variable {s s' : Store} {job : JobId} {row : JobRow} {now : Instant}

/-- A job with the row of another status is not read as processing. -/
theorem not_processing_of_row (hrow : s.jobRow? job = some row) {status : JobStatus}
    (hstatus : row.status = status.label) (hnot : status ≠ .processing) :
    ∀ current, s.job? job = .ok (some current) → current.status ≠ .processing := by
  intro current hcurrent hc
  obtain ⟨row', hrow', hread⟩ := readOne_some hcurrent
  obtain rfl := Option.some.inj (hrow.symm.trans hrow')
  have hshows := JobRow.read_shows ⟨status, hstatus⟩ ⟨job, (jobRow?_mem hrow).2⟩ hread
  exact hnot (JobStatus.label_injective (hstatus.symm.trans (hshows.status.trans (by rw [hc]))))

/-- The job whose report cannot be used. -/
theorem Reached.rejects (hs : s.Reached) (hrow : s.jobRow? job = some row)
    (hstatus : row.status = JobStatus.processing.label) (problem : ReportProblem) (now : Instant) :
    s.Rejects (s.putRow job
      (row.ended .failed ("malformed analysis result: " ++ problem.message) now))
      now job row problem := by
  have hactive := JobRow.isActive_of_processing hstatus
  obtain ⟨hscores, hcounters⟩ := ((hs.inStep row (jobRow?_mem hrow).1).unended hactive).unscored
  exact ⟨jobRow?_putRow_self hrow (jobRow?_mem hrow).2, ⟨hscores, hcounters⟩,
    hs.wf.findingsOf_of_active hrow hactive, .putRow hrow rfl⟩

/-- The job whose report is written. -/
theorem Reached.accepts (hs : s.Reached) (hrow : s.jobRow? job = some row)
    (hstatus : row.status = JobStatus.processing.label) {current : Job}
    (hread : row.read = .ok current) {report : CheckedReport} (hsound : report.Sound)
    (now : Instant) :
    s.Accepts ((s.putRow job (rowWithReport report now row)).withFindings job report)
      now job row report := by
  obtain ⟨hmem, hid⟩ := jobRow?_mem hrow
  have happly := applyReport_of_processing hs.wf hrow hstatus hsound now
  generalize hs' : (s.putRow job (rowWithReport report now row)).withFindings job report = s'
    at happly ⊢
  have hwf' : s'.WF := by
    have hafter := (hs.after (.applyReport noneRefused job report) now).wf
    rwa [Operation.after, happly] at hafter
  have hrow' : s'.jobRow? job = some (rowWithReport report now row) := by
    rw [← hs']
    exact jobRow?_putRow_self hrow hid
  have hfindings : s'.findingsOf job
      = (issueRows job s.lastIssue report.issues, metricRows job s.lastMetric report.metrics) := by
    have hnone : (s.putRow job (rowWithReport report now row)).findingsOf job = ([], []) :=
      hs.wf.findingsOf_of_active hrow (JobRow.isActive_of_processing hstatus)
    rw [← hs', findingsOf_withFindings, hnone]
    rfl
  refine ⟨hrow', hs.written.owner hmem, fun hyear owner howns => ?_, ?_⟩
  · obtain ⟨issues, hissues, htold⟩ := issuesOf_reported (congrArg Prod.fst hfindings)
    obtain ⟨metrics, hmetrics, htold'⟩ :=
      metricsOf_reported hsound.metrics (congrArg Prod.snd hfindings)
    have hread' := (hs.written.rows row hmem).read_rowWithReport hid hstatus hread hsound hyear
    have howns' : s'.owns owner (rowWithReport report now row) = true := by
      rw [← hs']
      exact howns
    refine ⟨current, _, ?_, ?_, rfl, JobDetail.tells_of_content htold htold'⟩
    · rw [job?_of_row hrow, hread]
      rfl
    · rintro later rfl
      exact Desk.run_detail (jobDetail_of_read hwf' hrow' howns' hread' hissues hmetrics)
  · rw [← hs']
    have hput : OnlyChanged job s (s.putRow job (rowWithReport report now row)) := .putRow hrow rfl
    exact hput.withFindings report

end Store

/-- A report that arrives while its job is processing ends the job. -/
private theorem ingest_of_processing {s : Scene} (hs : s.store.Reached) {job : JobId} {row : JobRow}
    (hrow : s.store.jobRow? job = some row) (hstatus : row.status = JobStatus.processing.label)
    {current : Job} (hread : row.read = .ok current) (hcurrent : current.status = .processing)
    (report : Report) :
    ∃ result s', s.run (Desk.ingest job report) = (.ready (.done result), { s with store := s' }) ∧
      (∀ current, s'.job? job = .ok (some current) → current.status ≠ .processing) ∧
      Ingested s.store s.now job report result s' := by
  have hjob : s.store.job? job = .ok (some current) := by
    rw [Store.job?_of_row hrow, hread]
    rfl
  cases hcheck : report.check with
  | error problem =>
      have hfail := Store.failJob_of_processing hs.wf hrow hstatus
        (Desk.malformedReason problem.message) s.now
      have hrejects := hs.rejects hrow hstatus problem s.now
      have hto : (row.ended .failed ("malformed analysis result: " ++ problem.message)
          s.now).status = JobStatus.failed.label := rfl
      exact ⟨_, _, Desk.run_ingest_of_malformed hjob hcurrent hcheck hfail,
        Store.not_processing_of_row hrejects.found hto (by decide),
        .malformed row problem _ hrow hstatus hcheck hrejects⟩
  | ok checked =>
      have hsound := Report.check_sound hcheck
      have happly := Store.applyReport_of_processing hs.wf hrow hstatus hsound s.now
      have haccepts := hs.accepts hrow hstatus hread hsound s.now
      have hto : (Store.rowWithReport checked s.now row).status = checked.status.label := rfl
      have hended : checked.status ≠ .processing := by
        rcases hsound.status with hstatus' | hstatus' <;> rw [hstatus'] <;> decide
      exact ⟨_, _, Desk.run_ingest_of_checked hjob hcurrent hcheck happly,
        Store.not_processing_of_row haccepts.found hto hended,
        .applied row checked _ hrow hstatus hcheck haccepts⟩

/-- **A report from its arrival to what the owner of the job reads.**  In every reachable store an
ingest runs through and does one of four things: it finds no job, it ignores the report, it fails
the job with the problem of the report, or it writes the report, which then reads back.  A further
ingest changes nothing.  Only if a time of the job has no room in a timestamp it fails and leaves
everything as it is. -/
theorem ingest_end_to_end (s : Scene) (hs : s.store.Reached) (job : JobId) (report : Report) :
    ∃ result s', s.run (Desk.ingest job report) = (.ready (.done result), { s with store := s' }) ∧
      (∀ later : Scene, later.store = s' → ∀ again : Report,
        (later.run (Desk.ingest job again)).2 = later) ∧
      ((s.store.Legible job ∧ Ingested s.store s.now job report result s') ∨
        ∃ (row : JobRow) (t : Instant), s.store.jobRow? job = some row ∧ row.IsTime t.stored ∧
          ¬ t.HasPlainYear ∧ result = .error (.storage (.badTimestamp t.stored .invalid)) ∧
          s' = s.store) := by
  have hunchanged : ∀ {s' : Store},
      (∀ current, s'.job? job = .ok (some current) → current.status ≠ .processing) →
      ∀ later : Scene, later.store = s' → ∀ again : Report,
        (later.run (Desk.ingest job again)).2 = later := by
    rintro s' hidle later rfl again
    exact Desk.run_ingest_unchanged hidle again
  cases hrow : s.store.jobRow? job with
  | none =>
      have hjob : s.store.job? job = .ok none := by
        rw [Store.job?, hrow]
        rfl
      refine ⟨_, s.store, Desk.run_ingest_of_none hjob report, hunchanged fun current hcurrent => ?_,
        Or.inl ⟨fun row hc => ?_, .unknown hrow⟩⟩
      · rw [hjob] at hcurrent
        cases hcurrent
      · rw [hrow] at hc
        cases hc
  | some row =>
      obtain ⟨hmem, hid⟩ := Store.jobRow?_mem hrow
      obtain ⟨status, hstatus⟩ := hs.wf.status row hmem
      have hjob := Store.job?_of_row hrow
      rcases (hs.written.rows row hmem).read_cases hid hstatus with
        ⟨t, htime, hyear, hread⟩ | ⟨hlegible, createdAt, dispatchedAt, completedAt, -, -, -, hread⟩
      · rw [hread] at hjob
        refine ⟨_, s.store, Desk.run_ingest_of_error hjob report, hunchanged fun current hcurrent => ?_,
          Or.inr ⟨row, t, rfl, htime, hyear, rfl, rfl⟩⟩
        rw [hjob] at hcurrent
        cases hcurrent
      · have hlegible' : s.store.Legible job := by
          intro row' hrow'
          rwa [← Option.some.inj (hrow.symm.trans hrow')]
        by_cases hprocessing : status = .processing
        · subst hprocessing
          obtain ⟨result, s', hrun, hidle, hingested⟩ :=
            ingest_of_processing hs hrow hstatus hread rfl report
          exact ⟨result, s', hrun, hunchanged hidle, Or.inl ⟨hlegible', hingested⟩⟩
        · rw [hread] at hjob
          exact ⟨_, s.store, Desk.run_ingest_of_idle hjob hprocessing report,
            hunchanged (Store.not_processing_of_row hrow hstatus hprocessing),
            Or.inl ⟨hlegible', .idle row status hrow hstatus hprocessing⟩⟩

namespace Small

/-- A scene in which nobody is at work. -/
def scene (s : Store) : Scene := ⟨settings, s, ⟨3000000⟩, ⟨0⟩, .empty, [], 0, []⟩

/-- A report with findings in no particular order. -/
def report : Report where
  status := .completed
  qualityScore := some .zero
  maintainabilityIndex := none
  complexityScore := none
  securityRating := none
  issuesFound := none
  filesAnalyzed := some 7
  issues :=
    [⟨"a.c", none, "high", "style", "long file", none, none⟩,
      ⟨"a.c", some 4, "high", "style", "long line", none, none⟩,
      ⟨"b.c", some 9, "critical", "safety", "overflow", none, none⟩]
  metrics := [⟨"lines", .zero, some "a.c"⟩, ⟨"lines", .ofNat 3, some "b.c"⟩]
  error := none

/-- A job that was dispatched at the beginning of the year 10000. -/
def undated : Store :=
  Store.Operation.after ⟨253402300800000000000⟩
    (Store.Operation.after ⟨1⟩ store
      (.createJob default ⟨1, "https://git.example.com/site.git", "main", none⟩))
    (.markDispatched default "h-1")

theorem undated_reached : undated.Reached := (store_reached.after _ _).after _ _

end Small

/-- The times of a small store can be read. -/
private theorem legible_dispatched : Small.dispatched.Legible default := by
  have hreads : ∀ row ∈ Small.dispatched.jobs, row.read.isOk = true := by decide +kernel
  intro row hrow
  have hmem := (Store.jobRow?_mem hrow).1
  exact Small.dispatched_reached.legible_of_read hmem (hreads row hmem)

/-- A report that is written. -/
theorem ingest_end_to_end_played :
    Small.dispatched.Reached ∧ Small.dispatched.Legible default ∧
      ∃ s', (Small.scene Small.dispatched).run (Desk.ingest default Small.report)
          = (.ready (.done (.ok (.applied .completed))),
            { Small.scene Small.dispatched with store := s' }) ∧
        (∀ later : Scene, later.store = s' → ∀ again : Report,
          (later.run (Desk.ingest default again)).2 = later) ∧
        Ingested Small.dispatched ⟨3000000⟩ default Small.report (.ok (.applied .completed)) s' := by
  have hs := Small.dispatched_reached
  obtain ⟨result, s', hrun, hagain, ⟨-, hingested⟩ | ⟨row, t, hrow, htime, hyear, -⟩⟩ :=
    ingest_end_to_end (Small.scene Small.dispatched) hs default Small.report
  · have hprocessing : ∀ row ∈ Small.dispatched.jobs,
        row.status = JobStatus.processing.label := by decide +kernel
    have hcheck : (Small.report.check.toOption.map CheckedReport.status) = some .completed := by
      decide +kernel
    have hresult : result = .ok (.applied .completed) := by
      cases hingested with
      | unknown hrow => exact absurd hrow (by decide +kernel)
      | idle row status hrow hstatus hidle =>
          have hlabel := hprocessing row (Store.jobRow?_mem hrow).1
          exact absurd (JobStatus.label_injective (hstatus.symm.trans hlabel)) hidle
      | malformed row problem s' hrow hstatus hproblem =>
          rw [hproblem] at hcheck
          exact nomatch hcheck
      | applied row checked s' hrow hstatus hchecked =>
          rw [hchecked] at hcheck
          rw [Option.some.inj hcheck]
    subst hresult
    exact ⟨hs, legible_dispatched, s', hrun, hagain, hingested⟩
  · exact absurd (legible_dispatched row hrow t htime) hyear

/-- A job that is processing and a report that is in order, of which nothing comes that comes of
reports: the job cannot be read. -/
theorem ingest_of_undated :
    Small.undated.Reached ∧
      (∃ row, Small.undated.jobRow? default = some row ∧
        row.status = JobStatus.processing.label) ∧
      (∃ checked, Small.report.check = .ok checked) ∧
      ¬ ∃ result s', (Small.scene Small.undated).run (Desk.ingest default Small.report)
          = (.ready (.done result), { Small.scene Small.undated with store := s' }) ∧
        Ingested Small.undated ⟨3000000⟩ default Small.report result s' := by
  have hjob : (Small.scene Small.undated).store.job? default
      = .error (.badTimestamp "+10000-01-01T00:00:00.000Z" .invalid) := by decide +kernel
  refine ⟨Small.undated_reached, by decide +kernel, ?_, ?_⟩
  · exact ⟨_, rfl⟩
  · rintro ⟨result, s', hrun, hingested⟩
    rw [Desk.run_ingest_of_error hjob, Prod.mk.injEq, Task.ready.injEq, Flow.done.injEq] at hrun
    obtain ⟨rfl, -⟩ := hrun
    cases hingested

end AnalysisDesk
