/-
What a poller does with what it is answered.

An answer that is not the last one leaves everything as it was: the poller takes it and
waits for its next tick.  The last answer ends the job.  A report is ingested, and if it
cannot be used the job fails for that; a document that is no report and a refusal fail
the job as well.  The store takes the write, for the job is still processing, and the
poller goes.
-/
import AnalysisDesk.Proofs.Analyzer.PollAnswers
import AnalysisDesk.Proofs.Desk.Ingesting
import AnalysisDesk.Proofs.Desk.PollerTurns
import AnalysisDesk.Proofs.Desk.Sweeping

namespace AnalysisDesk

namespace Desk

/-- What a poller does with an answer of the analyzer.  The result says whether the watch goes on. -/
def actOn (job : JobId) : Except AnalyzerFault PollAnswer → Flow Bool
  | .ok .underway => .done true
  | .ok (.finished report) => (ingest job report).map fun _ => false
  | .ok (.malformed _ reason) =>
    .write (.failJob job .processing (malformedReason reason) none) fun _ => .done false
  | .error (.rejected message) =>
    .write (.failJob job .processing
      ("analyzer lost the job: " ++ (AnalyzerFault.rejected message).text) none) fun _ => .done false
  | .error (.unavailable _) | .error (.unexpected _) => .done true

/-- A check of a job that is processing asks about it, and acts on the answer. -/
theorem checkJob_asks (job : JobId) (handle : String) {current : Job}
    (hstatus : current.status = .processing) :
    ∃ next, checkJob job handle = .act (.query (.job job)) next ∧
      next (.ok (some current)) = .act (.poll handle) (actOn job) := by
  refine ⟨_, rfl, ?_⟩
  dsimp only
  rw [if_pos hstatus]
  unfold Flow.poll
  congr 1
  funext answer
  rcases answer with (_ | _ | _) | (_ | _ | _) <;> rfl

end Desk

/-! ### The last answer -/

/-- A job that is over, and completed exactly if the last answer about it was a report that says so
and can be used. -/
def Store.EndedBy (s : Store) (job : JobId) (answer : Except AnalyzerFault PollAnswer) : Prop :=
  ∃ (row : JobRow) (status : JobStatus), s.jobRow? job = some row ∧ row.status = status.label ∧
    status.isTerminal = true ∧
    (status = .completed ↔ ∃ report checked, answer = .ok (.finished report) ∧
      report.status = .completed ∧ report.check = .ok checked)

namespace Store

variable {s s' : Store} {job : JobId} {row : JobRow}

/-- Others who leave a job alone leave it ended. -/
theorem EndedBy.spared {answer : Except AnalyzerFault PollAnswer} (hspares : s.Spares job s')
    (h : s.EndedBy job answer) : s'.EndedBy job answer := by
  obtain ⟨row, status, hrow, hrest⟩ := h
  exact ⟨row, status, hspares.row.trans hrow, hrest⟩

/-- A job that is processing is failed, whatever for. -/
theorem endedBy_failJob (answer : Except AnalyzerFault PollAnswer) (hs : s.Reached)
    (hrow : s.jobRow? job = some row) (hstatus : row.status = JobStatus.processing.label)
    (hunusable : ∀ report checked, answer = .ok (.finished report) → report.check ≠ .ok checked)
    (reason : String) (now : Instant) :
    ∃ s', StoreWrite.run now s (.failJob job .processing reason none) = (.ok true, s') ∧
      s'.EndedBy job answer := by
  refine ⟨_, failJob_of_processing hs.wf hrow hstatus reason now,
    row.ended .failed reason now, .failed, ?_, rfl, rfl, ?_⟩
  · exact jobRow?_putRow_self hrow (jobRow?_mem hrow).2
  · refine iff_of_false (by decide) ?_
    rintro ⟨report, checked, hanswer, -, hcheck⟩
    exact hunusable report checked hanswer hcheck

/-- A report that can be used ends a job that is processing as it says. -/
theorem endedBy_applyReport (hs : s.Reached) (hrow : s.jobRow? job = some row)
    (hstatus : row.status = JobStatus.processing.label) {report : Report} {checked : CheckedReport}
    (hcheck : report.check = .ok checked) (now : Instant) :
    ∃ s', StoreWrite.run now s (.applyReport job checked) = (.ok true, s') ∧
      s'.EndedBy job (.ok (.finished report)) := by
  have hsound := Report.check_sound hcheck
  refine ⟨_, applyReport_of_processing hs.wf hrow hstatus hsound now,
    rowWithReport checked now row, checked.status, ?_, rfl, ?_, ?_⟩
  · exact jobRow?_putRow_self hrow (jobRow?_mem hrow).2
  · rcases hsound.status with hto | hto <;> rw [hto] <;> rfl
  · rw [Report.status_of_check hcheck]
    constructor
    · intro hcompleted
      refine ⟨report, checked, rfl, ?_, hcheck⟩
      cases hlabelled : report.status with
      | completed => rfl
      | failed => rw [hlabelled] at hcompleted; exact nomatch hcompleted
    · rintro ⟨report', checked', hsame, hlabelled, -⟩
      obtain rfl := PollAnswer.finished.inj (Except.ok.inj hsame)
      rw [hlabelled]
      rfl

end Store

namespace Desk

variable {s : Store} {job : JobId} {row : JobRow} {current : Job}

/-- **An ingest ends a job that is processing**, if nobody else touches the job meanwhile. -/
theorem ingest_ensures (hs : s.Reached) (hrow : s.jobRow? job = some row)
    (hread : row.read = .ok current) (hstatus : current.status = .processing) (report : Report) :
    (ingest job report).Ensures (Store.Spares job)
      (fun _ s' => s'.EndedBy job (.ok (.finished report))) s := by
  have hlabel : row.status = JobStatus.processing.label := by
    rw [(hs.wf.shows (Store.jobRow?_mem hrow).1 hread).status, hstatus]
  intro s' hs'
  have hrow' := hs'.row.trans hrow
  have hfound : StoreQuery.run s' (.job job) = .ok (some current) := by
    show s'.job? job = _
    rw [Store.job?_of_row hrow', hread]
    rfl
  rw [hfound]
  dsimp only
  rw [if_pos hstatus]
  cases hcheck : report.check with
  | error problem =>
      intro t ht now
      obtain ⟨ended, hwrite, hended⟩ := Store.endedBy_failJob
        (.ok (.finished report)) (ht.reached (hs'.reached hs)) (ht.row.trans hrow') hlabel
        (by
          rintro report' checked hsame hc
          obtain rfl := PollAnswer.finished.inj (Except.ok.inj hsame)
          rw [hcheck] at hc
          exact nomatch hc)
        (malformedReason problem.message) now
      rw [hwrite]
      exact hended
  | ok checked =>
      intro t ht now
      obtain ⟨ended, hwrite, hended⟩ := Store.endedBy_applyReport (ht.reached (hs'.reached hs))
        (ht.row.trans hrow') hlabel hcheck now
      rw [hwrite]
      exact hended

/-- A poller that fails a job that is processing ends it, and its watch on it. -/
theorem failJob_ensures (answer : Except AnalyzerFault PollAnswer) (hs : s.Reached)
    (hrow : s.jobRow? job = some row) (hstatus : row.status = JobStatus.processing.label)
    (hunusable : ∀ report checked, answer = .ok (.finished report) → report.check ≠ .ok checked)
    (reason : String) :
    (Flow.write (.failJob job .processing reason none) fun _ => .done false).Ensures
      (Store.Spares job) (fun goesOn s' => goesOn = false ∧ s'.EndedBy job answer) s := by
  intro s' hs' now
  obtain ⟨ended, hwrite, hended⟩ := Store.endedBy_failJob answer (hs'.reached hs)
    (hs'.row.trans hrow) hstatus hunusable reason now
  rw [hwrite]
  exact ⟨rfl, hended⟩

/-- **The last answer ends a job that is processing**, and the watch on it. -/
theorem actOn_ensures (hs : s.Reached) (hrow : s.jobRow? job = some row)
    (hread : row.read = .ok current) (hstatus : current.status = .processing)
    {answer : Except AnalyzerFault PollAnswer} (hfinal : PollAnswer.isFinal answer = true) :
    (actOn job answer).Ensures (Store.Spares job)
      (fun goesOn s' => goesOn = false ∧ s'.EndedBy job answer) s := by
  have hlabel : row.status = JobStatus.processing.label := by
    rw [(hs.wf.shows (Store.jobRow?_mem hrow).1 hread).status, hstatus]
  match answer with
  | .ok (.finished report) =>
      refine Flow.Ensures.map _ ?_
      exact (ingest_ensures hs hrow hread hstatus report).mono fun _ _ h => ⟨rfl, h⟩
  | .ok (.malformed raw reason) =>
      exact failJob_ensures (.ok (.malformed raw reason)) hs hrow hlabel
        (fun _ _ hc => nomatch hc) (malformedReason reason)
  | .error (.rejected message) =>
      exact failJob_ensures (.error (.rejected message)) hs hrow hlabel
        (fun _ _ hc => nomatch hc) _
  | .ok .underway | .error (.unavailable _) | .error (.unexpected _) =>
      exact Bool.noConfusion hfinal

theorem currentStatus_onlyCalls {job : JobId} {next : JobStatus → DeskCall IngestOutcome}
    {calls : Nat} (h : ∀ status, (next status).OnlyCalls calls) :
    (currentStatus job next).OnlyCalls (calls + 1) := by
  refine ⟨rfl, fun found => ?_⟩
  match found with
  | .error _ | .ok none => cases calls <;> trivial
  | .ok (some current) => exact h current.status

/-- An ingest calls the store three times at most: once more than usual if the job has ended between
the look and the write. -/
theorem ingest_onlyCalls (job : JobId) (report : Report) : (ingest job report).OnlyCalls 3 := by
  refine currentStatus_onlyCalls fun status => ?_
  by_cases hstatus : status = .processing
  · rw [if_pos hstatus]
    cases report.check with
    | error problem =>
        refine ⟨rfl, fun failed => ?_⟩
        match failed with
        | .error _ | .ok true => trivial
        | .ok false => exact currentStatus_onlyCalls fun _ => trivial
    | ok checked =>
        refine ⟨rfl, fun applied => ?_⟩
        match applied with
        | .error _ | .ok true => trivial
        | .ok false => exact currentStatus_onlyCalls fun _ => trivial
  · rw [if_neg hstatus]
    trivial

theorem actOn_onlyCalls (job : JobId) (answer : Except AnalyzerFault PollAnswer) :
    (actOn job answer).OnlyCalls 3 := by
  match answer with
  | .ok (.finished report) => exact (ingest_onlyCalls job report).map _
  | .ok (.malformed _ _) | .error (.rejected _) => exact ⟨rfl, fun _ => trivial⟩
  | .ok .underway | .error (.unavailable _) | .error (.unexpected _) => trivial

/-- After an answer that is not the last one there is nothing to do. -/
theorem actOn_of_not_final (job : JobId) {answer : Except AnalyzerFault PollAnswer}
    (h : PollAnswer.isFinal answer = false) : actOn job answer = .done true := by
  match answer with
  | .ok .underway | .error (.unavailable _) | .error (.unexpected _) => rfl
  | .ok (.finished _) | .ok (.malformed _ _) | .error (.rejected _) => exact Bool.noConfusion h

/-- After the last one there is. -/
theorem actOn_of_final (job : JobId) {answer : Except AnalyzerFault PollAnswer}
    (h : PollAnswer.isFinal answer = true) : ∀ result, actOn job answer ≠ .done result := by
  intro result
  match answer with
  | .ok (.finished _) | .ok (.malformed _ _) | .error (.rejected _) => exact fun hc => nomatch hc
  | .ok .underway | .error (.unavailable _) | .error (.unexpected _) => exact Bool.noConfusion h

end Desk

/-! ### The turns of a poller that has been answered -/

/-- A job that is processing, and can be read. -/
def Store.IsProcessing (s : Store) (job : JobId) : Prop :=
  s.Reached ∧ ∃ current, s.job? job = .ok (some current) ∧ current.status = .processing

theorem Store.IsProcessing.spared {s s' : Store} {job : JobId} (h : s.IsProcessing job)
    (hspares : s.Spares job s') : s'.IsProcessing job := by
  obtain ⟨hs, current, hjob, hstatus⟩ := h
  refine ⟨hspares.reached hs, current, ?_, hstatus⟩
  unfold Store.job? at hjob ⊢
  rw [hspares.row]
  exact hjob

/-- Where all times are in years with four digits, every job that is processing can be read. -/
theorem Store.ReachedInYears.isProcessing {s : Store} (hs : s.ReachedInYears) {job : JobId}
    {row : JobRow} (hrow : s.jobRow? job = some row)
    (hstatus : row.status = JobStatus.processing.label) : s.IsProcessing job := by
  obtain ⟨shown, hshown⟩ := hs.reached.exists_shown hs.dated
  have hmem := (Store.jobRow?_mem hrow).1
  have hread := (hshown row hmem).read
  have hsame := (hs.reached.wf.shows hmem hread).status.symm.trans hstatus
  refine ⟨hs.reached, shown row, ?_, JobStatus.label_injective hsame⟩
  rw [Store.job?_of_row hrow, hread]
  rfl

/-- A poller that has asked about its job and goes on with an answer at an instant. -/
def Poller.asking (poller : Poller) (wake : Instant)
    (answer : Except AnalyzerFault PollAnswer) : Poller :=
  { poller with
    phase := .checking (.waiting wake (.poll poller.handle) answer (Desk.actOn poller.job)) }

/-- The poller on a job that is processing has been answered, and has not taken the answer yet. -/
structure Scene.Answered (s : Scene) (job : JobId) (poller : Poller)
    (answer : Except AnalyzerFault PollAnswer) : Prop where
  asked : ∃ wake : Instant, wake.nanos ≤ s.now.nanos ∧
    s.poller? job = some (poller.asking wake answer)
  processing : s.store.IsProcessing job

namespace Scene

variable {s s' t : Scene} {job : JobId} {poller : Poller}
  {answer : Except AnalyzerFault PollAnswer}

theorem Answered.spared (h : s.Answered job poller answer) (hspares : s.Spares job t) :
    t.Answered job poller answer := by
  obtain ⟨⟨wake, hwake, hpoller⟩, hprocessing⟩ := h
  exact ⟨⟨wake, Int.le_trans hwake hspares.later, hspares.poller.trans hpoller⟩,
    hprocessing.spared hspares.store⟩

/-- A turn in which a check goes on without changing the store. -/
private theorem turn_of_step {task task' : Task Bool} (hpoller : s.poller? job = some poller)
    (hphase : poller.phase = .checking task) (hstep : (s.step task).1 = task')
    (hpollers : (s.step task).2.pollers = s.pollers) (hstore : (s.step task).2.store = s.store)
    (hunderway : ∀ result, task' ≠ .ready (.done result)) :
    (s.turnPoller Scene.step job).poller? job = some { poller with phase := .checking task' } ∧
      (s.turnPoller Scene.step job).store = s.store := by
  rw [← hstep] at hunderway ⊢
  refine ⟨poller?_turnPoller hpoller hphase hpollers hunderway, ?_⟩
  rw [turnPoller_of_checking hpoller hphase, store_putPoller, hstore]

/-- **A poller that checks a job that is processing asks the analyzer**, in the third turn of the
check. -/
theorem HasTurned.asks (h : HasTurned job 3 s s') (hpoller : s.poller? job = some poller)
    (hphase : poller.phase = .checking (.ready (Desk.checkJob job poller.handle)))
    (hprocessing : s.store.IsProcessing job) :
    ∃ wake answer, s'.poller? job = some (poller.asking wake answer) ∧
      s'.store.IsProcessing job := by
  obtain rfl : poller.job = job := poller?_job hpoller
  obtain ⟨t, hspares, u, hspares', v, hspares'', hlast⟩ := h
  have ht := hprocessing.spared hspares.store
  obtain ⟨current, hjob, hstatus⟩ := ht.2
  obtain ⟨next, hcheck, hnext⟩ := Desk.checkJob_asks poller.job poller.handle hstatus
  rw [hcheck] at hphase
  -- in the first turn the look at the job is begun, and finds it processing
  obtain ⟨hbegun, hstore⟩ := turn_of_step (hspares.poller.trans hpoller) hphase rfl rfl rfl
    (fun _ hc => nomatch hc)
  rw [← hstore] at ht
  have hu := ht.spared hspares'.store
  have hwake : t.now.nanos ≤ u.now.nanos := by
    have hlater := hspares'.later
    rwa [now_turnPoller] at hlater
  have hfound : StoreQuery.run t.store (.job poller.job) = .ok (some current) := hjob
  have hstep : u.step (t.step (.ready (.act (.query (.job poller.job)) next))).1
      = (.ready (.act (.poll poller.handle) (Desk.actOn poller.job)), u) := by
    rw [← hnext, ← hfound]
    exact if_pos hwake
  -- in the second this is taken note of, and in the third the analyzer is asked
  obtain ⟨hnoted, hstore'⟩ := turn_of_step (hspares'.poller.trans hbegun) rfl
    (congrArg Prod.fst hstep) (congrArg (fun stepped => stepped.2.pollers) hstep)
    (congrArg (fun stepped => stepped.2.store) hstep) (fun _ hc => nomatch hc)
  rw [← hstore'] at hu
  have hv := hu.spared hspares''.store
  obtain ⟨hasked, hstore''⟩ := turn_of_step (hspares''.poller.trans hnoted) rfl rfl rfl rfl
    (fun _ hc => nomatch hc)
  rw [← hstore''] at hv
  exact ⟨_, _, hlast.poller.trans hasked, hv.spared hlast.store⟩

/-- **After an answer that is not the last one a poller waits again**, and the store is as it was. -/
theorem Answered.waits (h : s.Answered job poller answer)
    (hnot : PollAnswer.isFinal answer = false) :
    (s.turnPoller Scene.step job).store = s.store ∧
      (s.turnPoller Scene.step job).poller? job = some { poller with phase := .waiting } := by
  obtain ⟨⟨wake, hwake, hpoller⟩, -⟩ := h
  have hstep : s.step (.waiting wake (.poll poller.handle) answer (Desk.actOn poller.job))
      = (.ready (.done true), s) := by
    rw [← Desk.actOn_of_not_final poller.job hnot]
    exact if_pos hwake
  rw [turnPoller_of_checking hpoller rfl, hstep]
  have hjob := poller?_job hpoller
  exact ⟨rfl, poller?_putPoller hpoller hjob⟩

/-- A poller that has taken the last answer acts on it. -/
theorem Answered.checks (h : s.Answered job poller answer)
    (hfinal : PollAnswer.isFinal answer = true) :
    (s.turnPoller Scene.step job).Checks job (fun store => store.EndedBy job answer) 6 := by
  obtain ⟨⟨wake, hwake, hpoller⟩, hs, current, hjob, hstatus⟩ := h
  obtain ⟨row, hrow, hread⟩ := Store.readOne_some hjob
  obtain rfl : (poller.asking wake answer).job = job := poller?_job hpoller
  have hstep : s.step (.waiting wake (.poll poller.handle) answer (Desk.actOn poller.job))
      = (.ready (Desk.actOn poller.job answer), s) := if_pos hwake
  obtain ⟨hstays, hstore⟩ := turn_of_step hpoller rfl (congrArg Prod.fst hstep)
    (congrArg (fun stepped => stepped.2.pollers) hstep)
    (congrArg (fun stepped => stepped.2.store) hstep)
    (fun result hc => Desk.actOn_of_final poller.job hfinal result (Task.ready.inj hc))
  refine ⟨_, _, hstays, rfl, ?_, ?_⟩
  · exact Task.Nears.ready (Desk.actOn_onlyCalls poller.job answer)
  · rw [hstore]
    exact Desk.actOn_ensures hs hrow hread hstatus hfinal

/-- **After the last answer a job is over and the watch on it has ended**, once the poller has had
eight turns, whatever others do meanwhile that leave the job alone. -/
theorem Answered.ends {turns : Nat} (h : s.Answered job poller answer)
    (hfinal : PollAnswer.isFinal answer = true) (hturned : HasTurned job turns s s')
    (henough : 8 ≤ turns) : s'.poller? job = none ∧ s'.store.EndedBy job answer := by
  obtain ⟨turns, rfl⟩ : ∃ rest, turns = rest + 1 := ⟨turns - 1, by omega⟩
  obtain ⟨t, hspares, hrest⟩ := hturned
  have hchecks := (h.spared hspares).checks hfinal
  exact hrest.ends (fun _ _ hspares hended => hended.spared hspares) hchecks (by omega)

end Scene

/-- **Every answer of the analyzer is acted on.**  A poller asks about a job that is processing.  An
answer that is not the last one leaves the store as it is and the poller waiting until its next tick
or its deadline; the last one ends the job and the watch on it.  And a document is taken for what its
status says, so one that says that the job is over is a last answer, and no other document is. -/
theorem analyzer_answers_acted_on :
    (∀ (s s' : Scene) (job : JobId) (poller : Poller),
      s.poller? job = some poller →
      poller.phase = .checking (.ready (Desk.checkJob job poller.handle)) →
      s.store.IsProcessing job → Scene.HasTurned job 3 s s' →
        ∃ wake answer, s'.poller? job = some (poller.asking wake answer) ∧
          s'.store.IsProcessing job) ∧
    (∀ (s : Scene) (job : JobId) (poller : Poller) (answer : Except AnalyzerFault PollAnswer),
      s.Answered job poller answer →
      (PollAnswer.isFinal answer = false →
        (s.turnPoller Scene.step job).store = s.store ∧
        (s.turnPoller Scene.step job).poller? job = some { poller with phase := .waiting } ∧
        ∀ turns s', Scene.HasTurned job turns (s.turnPoller Scene.step job) s' →
          s'.now.nanos < poller.deadline.nanos → s'.now.nanos < poller.nextTick.nanos →
            s'.poller? job = some { poller with phase := .waiting } ∧
            s'.store.jobRow? job = s.store.jobRow? job) ∧
      (PollAnswer.isFinal answer = true →
        ∀ turns s', 8 ≤ turns → Scene.HasTurned job turns s s' →
          s'.poller? job = none ∧ s'.store.EndedBy job answer)) ∧
    (∀ document : Json, PollAnswer.Classifies document (PollAnswer.ofJson document)) := by
  refine ⟨?_, fun s job poller answer h => ⟨?_, ?_⟩, ?_⟩
  · intro s s' job poller hpoller hphase hprocessing hturned
    exact hturned.asks hpoller hphase hprocessing
  · intro hnot
    obtain ⟨hstore, hpoller⟩ := h.waits hnot
    refine ⟨hstore, hpoller, fun turns s' hturned hdeadline htick => ?_⟩
    rw [← hstore]
    exact hturned.waits rfl hpoller hdeadline htick
  · intro hfinal turns s' henough hturned
    exact h.ends hfinal hturned henough
  · exact PollAnswer.ofJson_classifies

namespace Small

/-- The poller on the only job, which ticks once a second. -/
def watcher : Poller := ⟨default, "h-1", ⟨600000000002⟩, ⟨1003000000⟩, .waiting⟩

/-- The scene after the poller was answered. -/
def answered (answer : Except AnalyzerFault PollAnswer) : Scene :=
  { scene dispatched with pollers := [watcher.asking ⟨3000000⟩ answer] }

/-- What the analyzer says of a job that is completed. -/
def completedDocument : Json :=
  .obj [("quality_score", .int 80), ("status", .str "completed")]

end Small

theorem analyzer_answers_acted_on_played :
    (Small.answered (.ok .underway)).Answered default Small.watcher (.ok .underway) ∧
    ((Small.answered (.ok .underway)).turnPoller Scene.step default).store = Small.dispatched ∧
    (Small.answered (.ok (.finished Small.report))).Answered default Small.watcher
      (.ok (.finished Small.report)) ∧
    ((fun s : Scene => s.turnPoller Scene.step default)^[8]
      (Small.answered (.ok (.finished Small.report)))).store.EndedBy default
        (.ok (.finished Small.report)) ∧
    (∃ checked, Small.report.status = .completed ∧ Small.report.check = .ok checked) ∧
    PollAnswer.Classifies Small.completedDocument (PollAnswer.ofJson Small.completedDocument) ∧
    PollAnswer.isFinal (PollAnswer.ofJson Small.completedDocument) = true := by
  have hfound : ∃ row ∈ Small.dispatched.jobRow? default,
      row.status = JobStatus.processing.label := by decide +kernel
  obtain ⟨row, hrow, hstatus⟩ := hfound
  have hprocessing := Small.dispatched_reachedInYears.isProcessing hrow hstatus
  have hanswered : ∀ answer, (Small.answered answer).Answered default Small.watcher answer :=
    fun answer => ⟨⟨_, Int.le_refl _, rfl⟩, hprocessing⟩
  obtain ⟨-, hacts, hclassifies⟩ := analyzer_answers_acted_on
  have hunderway := (hacts _ default _ _ (hanswered (.ok .underway))).1 rfl
  have hfinished := (hacts _ default _ _ (hanswered (.ok (.finished Small.report)))).2 rfl 8 _
    (Nat.le_refl _) (Scene.hasTurned_iterate default 8 _)
  have hlabelled : Small.completedDocument.IsOver := ⟨"completed", by decide, rfl⟩
  exact ⟨hanswered _, hunderway.1, hanswered _, hfinished.2, ⟨_, rfl, rfl⟩, hclassifies _,
    (hclassifies _).final.mpr hlabelled⟩

end AnalysisDesk
