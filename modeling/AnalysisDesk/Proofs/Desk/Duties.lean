/-
What somebody at the desk can be busy with.

A duty is a call of the desk that reads or changes jobs, or one of the two things
that a poller does.  `Duty.May` and `Duty.Ends` put the tables of the single
procedures together, and `Duty.keeps` says that every duty keeps to its own.  What
follows is who may do what: only a submission creates a job, marks it or records
its handle, a watch is begun by a submission or by resuming, and the analyzer is
told to drop a job by those alone who have ended it or were overtaken.
-/
import AnalysisDesk.Proofs.Desk.Submitting
import AnalysisDesk.Proofs.Desk.Watching

namespace AnalysisDesk

/-- A call of the desk, or what a poller does at a tick or at its deadline. -/
inductive Duty where
  | submit (requester : Int) (request : SubmitRequest)
  | ingest (job : JobId) (report : Report)
  | cancel (job : JobId) (requester : Int)
  | sweepAt (now : Instant)
  | sweep
  | resume
  | shutdown
  | check (job : JobId) (handle : String)
  | expire (job : JobId)
deriving DecidableEq

namespace Duty

/-- What a duty ends with. -/
def Result : Duty → Type
  | .submit _ _ => Except DeskError SubmitOutcome
  | .ingest _ _ => Except DeskError IngestOutcome
  | .cancel _ _ => Except DeskError Job
  | .sweepAt _ | .sweep | .resume => Except DeskError Nat
  | .shutdown => Unit
  | .check _ _ => Bool
  | .expire _ => Unit

/-- The procedure of a duty. -/
def flow (settings : DeskSettings) : (duty : Duty) → Flow duty.Result
  | .submit requester request => Desk.submit settings requester request
  | .ingest job report => Desk.ingest job report
  | .cancel job requester => Desk.cancel settings job requester
  | .sweepAt now => Desk.sweepAt settings now
  | .sweep => Desk.sweep settings
  | .resume => Desk.resume
  | .shutdown => Desk.shutdown
  | .check job handle => Desk.checkJob job handle
  | .expire job => Desk.expireJob settings job

/-- What a duty may do after some milestones. -/
def May (settings : DeskSettings) : Duty → List Exchange → Action → Prop
  | .submit requester request, ms, action => Desk.SubmitMay requester request ms action
  | .ingest job report, ms, action => Desk.IngestMay [] job report ms action
  | .cancel job requester, ms, action => Desk.CancelMay job requester ms action
  | .sweepAt now, ms, action => Desk.SweepMay settings now ms action
  | .sweep, ms, action => action = .now ∨ ∃ now, Desk.SweepMay settings now ms action
  | .resume, ms, action => Desk.ResumeMay ms action
  | .shutdown, _, action => action = .stopAllPollers
  | .check job handle, ms, action => Desk.CheckMay job handle ms action
  | .expire job, ms, action => Desk.ExpireMay settings job ms action

/-- The job that a poller watches. -/
def watched? : Duty → Option JobId
  | .check job _ | .expire job => some job
  | .submit _ _ | .ingest _ _ | .cancel _ _ | .sweepAt _ | .sweep | .resume | .shutdown => none

/-- How a duty may end. -/
def Ends (settings : DeskSettings) : (duty : Duty) → List Exchange → duty.Result → Prop
  | .submit requester request, past, result => Desk.SubmitEnds requester request past result
  | .ingest job report, past, result => Desk.IngestEnds [] job report past result
  | .cancel job requester, past, result => Desk.CancelEnds job requester past result
  | .sweepAt now, past, result => Desk.SweepEnds settings now past result
  | .sweep, past, result => ∃ now, Desk.SweepEnds settings now past result
  | .expire job, past, _ => Desk.ExpireEnds settings job past
  | .resume, _, _ | .shutdown, _, _ | .check _ _, _, _ => True

/-- **Every duty keeps to its tables**, whatever it is answered. -/
theorem keeps (settings : DeskSettings) (duty : Duty) :
    (duty.flow settings).Keeps (fun past action => duty.May settings (milestones past) action)
      (duty.Ends settings) [] := by
  cases duty with
  | submit requester request => exact Desk.submit_keeps settings requester request
  | ingest job report => exact Desk.ingest_keeps job report rfl
  | cancel job requester => exact Desk.cancel_keeps settings job requester
  | sweepAt now => exact Desk.sweepAt_keeps settings now rfl
  | sweep =>
      refine ⟨Or.inl rfl, fun now => ?_⟩
      refine Flow.Keeps.mono ?_ ?_ (Desk.sweepAt_keeps settings now (milestones_cons_now now []))
      · intro past action h
        exact Or.inr ⟨now, h⟩
      · intro past result h
        exact ⟨now, h⟩
  | resume => exact Desk.resume_keeps
  | shutdown => exact Desk.shutdown_keeps
  | check job handle => exact Desk.checkJob_keeps job handle
  | expire job => exact Desk.expireJob_keeps settings job

/-! ### Who may do what -/

variable {settings : DeskSettings} {duty : Duty} {ms : List Exchange} {job : JobId}

theorem may_createJob {new : NewJob} (h : duty.May settings ms (.write (.createJob job new))) :
    ∃ requester request repository, duty = .submit requester request ∧
      ms = Desk.afterDrawing requester request repository job := by
  cases duty with
  | submit requester request =>
      cases h with
      | create repository => exact ⟨requester, request, repository, rfl, rfl⟩
  | sweep => rcases h with h | ⟨_, h⟩ <;> cases h
  | check => cases h with | ingest _ _ _ _ h => cases h
  | ingest | cancel | sweepAt | resume | shutdown | expire => cases h

theorem may_enqueue {spec : JobSpec} (h : duty.May settings ms (.enqueue spec)) :
    ∃ requester request repository id job, duty = .submit requester request ∧
      spec = Desk.specOf job ∧
      ms = Desk.afterCreation requester request repository id job := by
  cases duty with
  | submit requester request =>
      cases h with
      | enqueue repository id job => exact ⟨requester, request, repository, id, job, rfl, rfl, rfl⟩
  | sweep => rcases h with h | ⟨_, h⟩ <;> cases h
  | check => cases h with | ingest _ _ _ _ h => cases h
  | ingest | cancel | sweepAt | resume | shutdown | expire => cases h

theorem may_markDispatched {handle : String}
    (h : duty.May settings ms (.write (.markDispatched job handle))) :
    ∃ requester request repository created, duty = .submit requester request ∧
      ms = Desk.afterHandover requester request repository job created handle := by
  cases duty with
  | submit requester request =>
      cases h with
      | mark repository _ created => exact ⟨requester, request, repository, created, rfl, rfl⟩
  | sweep => rcases h with h | ⟨_, h⟩ <;> cases h
  | check => cases h with | ingest _ _ _ _ h => cases h
  | ingest | cancel | sweepAt | resume | shutdown | expire => cases h

theorem may_recordHandle {handle : String}
    (h : duty.May settings ms (.write (.recordHandle job handle))) :
    ∃ requester request repository created, duty = .submit requester request ∧
      ms = Desk.afterMark requester request repository job created handle false := by
  cases duty with
  | submit requester request =>
      cases h with
      | record repository _ created => exact ⟨requester, request, repository, created, rfl, rfl⟩
  | sweep => rcases h with h | ⟨_, h⟩ <;> cases h
  | check => cases h with | ingest _ _ _ _ h => cases h
  | ingest | cancel | sweepAt | resume | shutdown | expire => cases h

/-- Only an ingest writes a report, and it is the report that was checked. -/
theorem may_applyReport {checked : CheckedReport}
    (h : duty.May settings ms (.write (.applyReport job checked))) :
    ∃ report : Report, report.check = .ok checked ∧
      (duty = .ingest job report ∨ ∃ handle, duty = .check job handle) := by
  cases duty with
  | ingest job' report =>
      cases h with
      | apply current hstatus _ hcheck => exact ⟨report, hcheck, Or.inl rfl⟩
  | check job' handle =>
      cases h with
      | ingest current report _ _ h =>
          cases h with
          | apply _ _ _ hcheck => exact ⟨report, hcheck, Or.inr ⟨handle, rfl⟩⟩
  | sweep => rcases h with h | ⟨_, h⟩ <;> cases h
  | submit | cancel | sweepAt | resume | shutdown | expire => cases h

theorem may_startPoller {handle : String} {t : Instant}
    (h : duty.May settings ms (.startPoller job handle t)) :
    (∃ requester request repository created, duty = .submit requester request ∧
      ms = Desk.afterMark requester request repository job created handle true) ∨
    duty = .resume := by
  cases duty with
  | submit requester request =>
      cases h with
      | watch repository _ created =>
          exact Or.inl ⟨requester, request, repository, created, rfl, rfl⟩
  | resume => exact Or.inr rfl
  | sweep => rcases h with h | ⟨_, h⟩ <;> cases h
  | check => cases h with | ingest _ _ _ _ h => cases h
  | ingest | cancel | sweepAt | shutdown | expire => cases h

/-- Whoever ends a watch from outside has just ended the job. -/
theorem may_stopPoller (h : duty.May settings ms (.stopPoller job)) :
    duty.watched? = none ∧ ∃ x ∈ ms, x.ended? = some job := by
  have hsweep : ∀ {now : Instant}, Desk.SweepMay settings now ms (.stopPoller job) →
      ∃ x ∈ ms, x.ended? = some job := by
    intro now h
    cases h with
    | stop oldest jobs tried listed hmem =>
        exact ⟨.timedOut settings now listed true, List.mem_cons_self .., rfl⟩
  cases duty with
  | cancel _ requester =>
      cases h with
      | stop found current =>
          exact ⟨rfl, ⟨.write (.cancelJob job Desk.cancelReason), .ok true⟩,
            List.mem_cons_of_mem _ (List.mem_cons_self ..), rfl⟩
  | sweepAt now => exact ⟨rfl, hsweep h⟩
  | sweep =>
      rcases h with h | ⟨_, h⟩
      · cases h
      · exact ⟨rfl, hsweep h⟩
  | check => cases h with | ingest _ _ _ _ h => cases h
  | submit | ingest | resume | shutdown | expire => cases h

theorem may_stopAllPollers (h : duty.May settings ms .stopAllPollers) : duty = .shutdown := by
  cases duty with
  | shutdown => rfl
  | sweep => rcases h with h | ⟨_, h⟩ <;> cases h
  | check => cases h with | ingest _ _ _ _ h => cases h
  | submit | ingest | cancel | sweepAt | resume | expire => cases h

/-- Who tells the analyzer to drop a job. -/
inductive Drops (settings : DeskSettings) (ms : List Exchange) (job : JobId) (handle : String) :
    Duty → Prop
  | submit (requester : Int) (request : SubmitRequest) (repository : Repository) (created : Job)
      (h : ms = Desk.afterRecord requester request repository job created handle) :
      Drops settings ms job handle (.submit requester request)
  | cancel (requester : Int) (found current : Job)
      (hhandle : current.externalHandle = some handle)
      (h : ms = Desk.afterStop job requester found current) :
      Drops settings ms job handle (.cancel job requester)
  | sweep (duty : Duty) (now oldest : Instant) (jobs : List Job) (tried : List Exchange)
      (listed : Job) (hmem : listed ∈ jobs) (hjob : listed.id = job)
      (hhandle : listed.externalHandle = some handle)
      (h : ms = ⟨.stopPoller job, ()⟩ :: .timedOut settings now listed true ::
        Desk.afterListing oldest jobs tried) : Drops settings ms job handle duty
  | expire (current : Job) (hhandle : current.externalHandle = some handle)
      (h : ms = ⟨.query (.job job), .ok (some current)⟩ :: Desk.afterDeadline settings job true) :
      Drops settings ms job handle (.expire job)

theorem may_abandon {handle : String} (h : duty.May settings ms (.abandon job handle)) :
    Drops settings ms job handle duty := by
  have hsweep : ∀ {now : Instant}, Desk.SweepMay settings now ms (.abandon job handle) →
      Drops settings ms job handle duty := by
    intro now h
    cases h with
    | abandon oldest jobs tried listed hmem _ hhandle =>
        exact .sweep duty now oldest jobs tried listed hmem rfl hhandle rfl
  cases duty with
  | submit requester request =>
      cases h with
      | abandon repository _ created => exact .submit requester request repository created rfl
  | cancel _ requester =>
      cases h with
      | abandon found current _ hhandle => exact .cancel requester found current hhandle rfl
  | sweepAt now => exact hsweep h
  | sweep =>
      rcases h with h | ⟨_, h⟩
      · cases h
      · exact hsweep h
  | expire =>
      cases h with
      | abandon current _ hhandle => exact .expire current hhandle rfl
  | check => cases h with | ingest _ _ _ _ h => cases h
  | ingest | resume | shutdown => cases h

end Duty

end AnalysisDesk
