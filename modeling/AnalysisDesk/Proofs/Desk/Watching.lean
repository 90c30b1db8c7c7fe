/-
The manners of those who watch jobs.

A poller checks its job at every tick and expires it at the deadline; resuming
starts pollers and shutting down stops them.  A check ends a job as an ingest
does, or because the analyzer has lost it or sends a report that cannot be
decoded.  Only an expiry tells the analyzer to drop a job, under the handle that
it reads after its own write.
-/
import AnalysisDesk.Proofs.Desk.Ending

namespace AnalysisDesk

namespace Desk

/-! ### Checking -/

section Checking

variable (job : JobId) (handle : String)

/-- The milestones of a check that has asked the analyzer. -/
def afterPoll (current : Job) (answer : Except AnalyzerFault PollAnswer) : List Exchange :=
  [⟨.poll handle, answer⟩, ⟨.query (.job job), .ok (some current)⟩]

/-- What a check may do after some milestones. -/
inductive CheckMay : List Exchange → Action → Prop
  | look : CheckMay [] (.query (.job job))
  | poll (current : Job) (hstatus : current.status = .processing) :
      CheckMay [⟨.query (.job job), .ok (some current)⟩] (.poll handle)
  | malformed (current : Job) (raw reason : String) :
      CheckMay (afterPoll job handle current (.ok (.malformed raw reason)))
        (.write (.failJob job .processing (malformedReason reason) none))
  | rejected (current : Job) (message : String) :
      CheckMay (afterPoll job handle current (.error (.rejected message)))
        (.write (.failJob job .processing
          ("analyzer lost the job: " ++ (AnalyzerFault.rejected message).text) none))
  | ingest (current : Job) (report : Report) (ms : List Exchange) (action : Action)
      (h : IngestMay (afterPoll job handle current (.ok (.finished report))) job report ms action) :
      CheckMay ms action

variable {job handle}

/-- **What a check does**, whatever it is answered. -/
theorem checkJob_keeps (job : JobId) (handle : String) :
    (checkJob job handle).Keeps (fun past action => CheckMay job handle (milestones past) action)
      (fun _ _ => True) [] := by
  refine ⟨.look, fun answer => ?_⟩
  match answer with
  | .error _ => trivial
  | .ok none => trivial
  | .ok (some current) =>
      show (if current.status = .processing then _ else _ : Flow Bool).Keeps _ _ _
      by_cases hstatus : current.status = .processing
      · rw [if_pos hstatus]
        refine ⟨CheckMay.poll current hstatus, fun answer => ?_⟩
        match answer with
        | .ok .underway => trivial
        | .ok (.malformed raw reason) =>
            exact ⟨CheckMay.malformed current raw reason, fun _ => trivial⟩
        | .error (.rejected message) =>
            exact ⟨CheckMay.rejected current message, fun _ => trivial⟩
        | .error (.unavailable _) => trivial
        | .error (.unexpected _) => trivial
        | .ok (.finished report) =>
            refine Flow.Keeps.map _ (Flow.Keeps.mono ?_ ?_ (ingest_keeps job report rfl))
            · intro past action h
              exact CheckMay.ingest current report _ action h
            · intro past result _
              trivial
      · rw [if_neg hstatus]
        trivial

end Checking

/-! ### Expiring -/

section Expiring

variable (settings : DeskSettings) (job : JobId)

/-- The milestones of an expiry that has written. -/
def afterDeadline (taken : Bool) : List Exchange :=
  [⟨.write (.failJob job .processing (timeoutReason settings .processing) none), .ok taken⟩]

/-- What an expiry may do after some milestones. -/
inductive ExpireMay : List Exchange → Action → Prop
  | fail :
      ExpireMay [] (.write (.failJob job .processing (timeoutReason settings .processing) none))
  | look : ExpireMay (afterDeadline settings job true) (.query (.job job))
  | abandon (current : Job) (handle : String) (hhandle : current.externalHandle = some handle) :
      ExpireMay (⟨.query (.job job), .ok (some current)⟩ :: afterDeadline settings job true)
        (.abandon job handle)
  | sleep (ms : List Exchange) (span : Span) : ExpireMay ms (.sleep span)

/-- How an expiry may end. -/
inductive ExpireEnds (past : List Exchange) : Prop
  | failed (x : Exchange) (hmem : x ∈ past) (hfailed : x.Failed)
  | late (h : milestones past = afterDeadline settings job false)
  | gone (h : milestones past = ⟨.query (.job job), .ok none⟩ :: afterDeadline settings job true)
  | expired (current : Job)
      (h : milestones past =
        ⟨.query (.job job), .ok (some current)⟩ :: afterDeadline settings job true)
      (htold : ∀ handle, current.externalHandle = some handle →
        ∃ answer, (⟨.abandon job handle, answer⟩ : Exchange) ∈ past)

variable {settings job}

private theorem ExpireMay.atMilestones {past ms : List Exchange} {action : Action}
    (hpast : milestones past = ms) (hmay : ExpireMay settings job ms action) :
    ExpireMay settings job (milestones past) action :=
  hpast ▸ hmay

/-- **What an expiry does**, whatever it is answered. -/
theorem expireJob_keeps (settings : DeskSettings) (job : JobId) :
    (expireJob settings job).Keeps
      (fun past action => ExpireMay settings job (milestones past) action)
      (fun past _ => ExpireEnds settings job past) [] := by
  refine ⟨ExpireMay.fail, fun answer => ?_⟩
  match answer with
  | .error cause => exact .failed _ (List.mem_cons_self ..) ⟨cause, rfl⟩
  | .ok false => exact .late rfl
  | .ok true =>
      refine ⟨ExpireMay.look, fun answer => ?_⟩
      match answer with
      | .error cause => exact .failed _ (List.mem_cons_self ..) ⟨cause, rfl⟩
      | .ok none => exact .gone rfl
      | .ok (some current) =>
          refine abandonIfKnown_keeps
            (⟨.query (.job job), .ok (some current)⟩ :: afterDeadline settings job true)
            ?_ ?_ rfl ?_
          · intro past handle hhandle h
            exact ExpireMay.atMilestones h (.abandon current handle hhandle)
          · intro past span _
            exact ExpireMay.sleep _ span
          · intro past _ h htold
            exact .expired current h htold

/-- How an expiry ends that has ended a job: it was its own job, and the expiry has told the analyzer
unless the store has lost the job. -/
theorem ExpireEnds.of_ended {past : List Exchange} (h : ExpireEnds settings job past) {x : Exchange}
    (hx : x ∈ past) {ended : JobId} (hended : x.ended? = some ended) :
    (∃ y ∈ past, y.Failed) ∨
    (ended = job ∧ ((milestones past =
        ⟨.query (.job job), .ok none⟩ :: afterDeadline settings job true) ∨
      ∃ current, milestones past =
          ⟨.query (.job job), .ok (some current)⟩ :: afterDeadline settings job true ∧
        ∀ handle, current.externalHandle = some handle →
          ∃ answer, (⟨.abandon job handle, answer⟩ : Exchange) ∈ past)) := by
  have hmem := mem_milestones_of_ended hx hended
  have hjob : ∀ {answer : Except StoreError (Option Job)},
      milestones past = ⟨.query (.job job), answer⟩ :: afterDeadline settings job true →
      ended = job := by
    intro answer hms
    rw [hms] at hmem
    rcases List.mem_cons.mp hmem with hc | hmem
    · exact absurd hc (Exchange.ne_of_ended hended rfl)
    · obtain rfl := List.mem_singleton.mp hmem
      exact (Option.some.inj hended).symm
  cases h with
  | failed y hy hfailed => exact Or.inl ⟨y, hy, hfailed⟩
  | late hms =>
      rw [hms] at hmem
      exact absurd (List.mem_singleton.mp hmem) (Exchange.ne_of_ended hended rfl)
  | gone hms => exact Or.inr ⟨hjob hms, Or.inl hms⟩
  | expired current hms htold => exact Or.inr ⟨hjob hms, Or.inr ⟨current, hms, htold⟩⟩

end Expiring

/-! ### Resuming and shutting down -/

/-- What resuming may do after some milestones. -/
inductive ResumeMay : List Exchange → Action → Prop
  | look : ResumeMay [] (.query .processingJobs)
  | watch (jobs : List Job) (watched : List Exchange) (job : Job) (hmem : job ∈ jobs)
      (handle : String) (hhandle : job.externalHandle = some handle) (dispatchedAt : Instant)
      (hdispatched : job.dispatchedAt = some dispatchedAt) :
      ResumeMay (watched ++ [⟨.query .processingJobs, .ok jobs⟩])
        (.startPoller job.id handle dispatchedAt)

private theorem resumeJobs_keeps {jobs : List Job} :
    ∀ (rest : List Job) (watched past : List Exchange) (resumed : Nat),
      (∀ job ∈ rest, job ∈ jobs) →
      milestones past = watched ++ [⟨.query .processingJobs, .ok jobs⟩] →
      (resumeJobs rest resumed).Keeps (fun past action => ResumeMay (milestones past) action)
        (fun _ _ => True) past := by
  intro rest
  induction rest with
  | nil => intro watched past resumed _ _; trivial
  | cons job rest ih =>
      intro watched past resumed hrest hpast
      have hrest' : ∀ other ∈ rest, other ∈ jobs := fun other h =>
        hrest other (List.mem_cons_of_mem _ h)
      unfold resumeJobs
      split
      · rename_i handle dispatchedAt hhandle hdispatched
        refine ⟨?_, fun _ => ih (⟨.startPoller job.id handle dispatchedAt, ()⟩ :: watched) _ _ hrest' ?_⟩
        · show ResumeMay (milestones past) _
          rw [hpast]
          exact .watch jobs watched job (hrest job (List.mem_cons_self ..)) handle hhandle
            dispatchedAt hdispatched
        · rw [milestones_cons_of_milestone rfl, hpast]
          rfl
      · exact ih watched _ _ hrest' hpast

/-- **What resuming does**, whatever it is answered. -/
theorem resume_keeps :
    resume.Keeps (fun past action => ResumeMay (milestones past) action) (fun _ _ => True) [] := by
  refine ⟨ResumeMay.look, fun answer => ?_⟩
  match answer with
  | .error _ => trivial
  | .ok jobs => exact resumeJobs_keeps jobs [] _ 0 (fun _ h => h) rfl

theorem shutdown_keeps :
    shutdown.Keeps (fun _ action => action = .stopAllPollers) (fun _ _ => True) [] :=
  ⟨rfl, fun _ => trivial⟩

end Desk

end AnalysisDesk
