/-
What the desk does.

A job is created in the store before the analyzer hears of it, and every later step is conditional
on where the job stands then.  Whoever moves a job to its end also tells the analyzer to drop it,
if the analyzer has it.

Submitting may be overtaken: a job can be cancelled or swept while the analyzer is being asked to
take it.  Then the handle is recorded after the fact, so that the job can be dropped.
-/
import AnalysisDesk.Desk.Error
import AnalysisDesk.Desk.Flow
import AnalysisDesk.Desk.Settings

namespace AnalysisDesk

/-- A call of the desk: a procedure that ends with an answer or an error. -/
abbrev DeskCall (α : Type) : Type := Flow (Except DeskError α)

namespace Desk

def cancelReason : String := "cancelled by user"

def malformedReason (explanation : String) : String :=
  "malformed analysis result: " ++ explanation

/-- The error of a job that took too long, by the status it had. -/
def timeoutReason (settings : DeskSettings) : JobStatus → String
  | .pending => "never dispatched within " ++ settings.pollTimeout.describe
  | _ => "timed out after " ++ settings.pollTimeout.describe ++ " waiting for analyzer"

/-! ### Calls that are tried again -/

/-- Hands a job to the analyzer; attempt number `attempt`, after which `left` may follow. -/
def enqueueFrom {α : Type} (policy : RetryPolicy) (spec : JobSpec)
    (next : Except AnalyzerFault String → Flow α) : Nat → Nat → Flow α
  | 0, _ => .enqueue spec next
  | left + 1, attempt =>
    .enqueue spec fun answer =>
      match policy.pause? attempt answer with
      | none => next answer
      | some pause => .sleep pause (enqueueFrom policy spec next left (attempt + 1))

/-- Hands a job to the analyzer as often as needed and allowed. -/
def enqueue {α : Type} (policy : RetryPolicy) (spec : JobSpec)
    (next : Except AnalyzerFault String → Flow α) : Flow α :=
  enqueueFrom policy spec next (policy.attempts - 1) 1

/-- Tells the analyzer to drop a job; attempt number `attempt`, after which `left` may follow. -/
def abandonFrom {α : Type} (policy : RetryPolicy) (job : JobId) (handle : String)
    (next : Flow α) : Nat → Nat → Flow α
  | 0, _ => .abandon job handle fun _ => next
  | left + 1, attempt =>
    .abandon job handle fun answer =>
      match policy.pause? attempt answer with
      | none => next
      | some pause => .sleep pause (abandonFrom policy job handle next left (attempt + 1))

/-- Tells the analyzer to drop a job, as often as needed and allowed.  Whether it does is its own
business. -/
def abandon {α : Type} (policy : RetryPolicy) (job : JobId) (handle : String)
    (next : Flow α) : Flow α :=
  abandonFrom policy job handle next (policy.attempts - 1) 1

/-- The same for a job that the analyzer may not have. -/
def abandonIfKnown {α : Type} (policy : RetryPolicy) (job : JobId) (handle : Option String)
    (next : Flow α) : Flow α :=
  match handle with
  | none => next
  | some handle => abandon policy job handle next

/-! ### Submitting -/

/-- The status that a job has in the store. -/
def currentStatus {α : Type} (job : JobId) (next : JobStatus → DeskCall α) : DeskCall α :=
  .query (.job job) fun
    | .error cause => .done (.error (.storage cause))
    | .ok none => .done (.error .notFound)
    | .ok (some current) => next current.status

/-- What the analyzer is told about a job. -/
def specOf (job : Job) : JobSpec := ⟨job.id, job.cloneUrl, job.branch, job.commitSha⟩

/-- The analyzer has taken a job. -/
def dispatched (settings : DeskSettings) (job : JobId) (handle : String) :
    DeskCall SubmitOutcome :=
  .write (.markDispatched job handle) fun
    | .error cause => .done (.error (.storage cause))
    | .ok true =>
      .now fun t => .startPoller job handle t (.done (.ok ⟨job, some handle, .processing⟩))
    | .ok false =>
      .write (.recordHandle job handle) fun
        | .error cause => .done (.error (.storage cause))
        | .ok () =>
          abandon settings.retry job handle
            (currentStatus job fun status => .done (.ok ⟨job, some handle, status⟩))

/-- The analyzer has not taken a job. -/
def notDispatched (job : JobId) (fault : AnalyzerFault) : DeskCall SubmitOutcome :=
  .write (.failJob job .pending fault.text none) fun
    | .error cause => .done (.error (.storage cause))
    | .ok _ => .done (.error (.notDispatched fault.text))

/-- Creates a job for a repository and hands it to the analyzer. -/
def submit (settings : DeskSettings) (requester : Int) (request : SubmitRequest) :
    DeskCall SubmitOutcome :=
  .query (.ownedRepository request.repositoryId requester) fun
    | .error cause => .done (.error (.storage cause))
    | .ok none => .done (.error .notFound)
    | .ok (some repository) =>
      .freshId fun id =>
        .write (.createJob id (request.newJob repository)) fun
          | .error cause => .done (.error (.storage cause))
          | .ok (.active existing) => .done (.error (.conflict existing))
          | .ok (.created job) =>
            enqueue settings.retry (specOf job) fun
              | .ok handle => dispatched settings id handle
              | .error fault => notDispatched id fault

/-! ### Ending jobs -/

/-- Writes a finished report, if the job still waits for it.  A report that cannot be used ends
the job all the same. -/
def ingest (job : JobId) (report : Report) : DeskCall IngestOutcome :=
  currentStatus job fun status =>
    if status = .processing then
      match report.check with
      | .error problem =>
        .write (.failJob job .processing (malformedReason problem.message) none) fun
          | .error cause => .done (.error (.storage cause))
          | .ok true => .done (.error (.malformedResult problem.message))
          | .ok false => currentStatus job fun status => .done (.ok (.ignored status))
      | .ok checked =>
        .write (.applyReport job checked) fun
          | .error cause => .done (.error (.storage cause))
          | .ok true => .done (.ok (.applied checked.status))
          | .ok false => currentStatus job fun status => .done (.ok (.ignored status))
    else .done (.ok (.ignored status))

/-- Cancels an active job of the requester.  The handle is read after the job was cancelled, so
one that was recorded in the meantime is not missed. -/
def cancel (settings : DeskSettings) (job : JobId) (requester : Int) : DeskCall Job :=
  .query (.ownedJob job requester) fun
    | .error cause => .done (.error (.storage cause))
    | .ok none => .done (.error .notFound)
    | .ok (some found) =>
      if found.status.isActive then
        .write (.cancelJob job cancelReason) fun
          | .error cause => .done (.error (.storage cause))
          | .ok cancelled =>
            .query (.job job) fun
              | .error cause => .done (.error (.storage cause))
              | .ok none => .done (.error .notFound)
              | .ok (some current) =>
                match cancelled with
                | true =>
                  .stopPoller job
                    (abandonIfKnown settings.retry job current.externalHandle
                      (.done (.ok current)))
                | false => .done (.error (.notCancellable current.status))
      else .done (.error (.notCancellable found.status))

/-! ### Sweeping -/

/-- The longest timeout that can be taken off an instant. -/
def longestTimeout : Span := .ofMillis Limit.greatest64.toNat

/-- The instant before which an active job has waited too long. -/
def cutoff (settings : DeskSettings) (now : Instant) : Except StoreError Instant :=
  if longestTimeout.nanos < settings.pollTimeout.nanos then .error .timeoutOutOfRange
  else
    let t : Instant := ⟨now.nanos - settings.pollTimeout.nanos⟩
    if t.isShowable then .ok t else .error .cutoffOutOfRange

/-- Fails the listed jobs, if they stand where they stood, and counts them on top of `swept`. -/
def sweepJobs (settings : DeskSettings) (now : Instant) : List Job → Nat → DeskCall Nat
  | [], swept => .done (.ok swept)
  | job :: rest, swept =>
    .write (.failJob job.id job.status (timeoutReason settings job.status) (some now)) fun
      | .error cause => .done (.error (.storage cause))
      | .ok false => sweepJobs settings now rest swept
      | .ok true =>
        .stopPoller job.id
          (abandonIfKnown settings.retry job.id job.externalHandle
            (sweepJobs settings now rest (swept + 1)))

/-- Fails every active job that has waited too long at `now`, and says how many it failed. -/
def sweepAt (settings : DeskSettings) (now : Instant) : DeskCall Nat :=
  match cutoff settings now with
  | .error cause => .done (.error (.storage cause))
  | .ok cutoff =>
    .query (.staleJobs cutoff) fun
      | .error cause => .done (.error (.storage cause))
      | .ok jobs => sweepJobs settings now jobs 0

/-- The same at the time of the call. -/
def sweep (settings : DeskSettings) : DeskCall Nat := .now (sweepAt settings)

/-! ### Starting and stopping -/

/-- Watches the listed jobs as far as the analyzer knows them, and counts them on top of
`resumed`. -/
def resumeJobs : List Job → Nat → DeskCall Nat
  | [], resumed => .done (.ok resumed)
  | job :: rest, resumed =>
    match job.externalHandle, job.dispatchedAt with
    | some handle, some dispatchedAt =>
      .startPoller job.id handle dispatchedAt (resumeJobs rest (resumed + 1))
    | _, _ => resumeJobs rest resumed

/-- Watches the jobs that the store says are processing. -/
def resume : DeskCall Nat :=
  .query .processingJobs fun
    | .error cause => .done (.error (.storage cause))
    | .ok jobs => resumeJobs jobs 0

/-- Ends all watches. -/
def shutdown : Flow Unit := .stopAllPollers (.done ())

/-! ### Looking -/

/-- The answer of a view. -/
def viewed {α : Type} : Except StoreError (Option α) → DeskCall α
  | .error cause => .done (.error (.storage cause))
  | .ok none => .done (.error .notFound)
  | .ok (some view) => .done (.ok view)

/-- A job with its findings. -/
def detail (job : JobId) (requester : Int) : DeskCall JobDetail :=
  .query (.jobDetail job requester) viewed

def repositoryPage (repository : Int) (request : PageRequest) (requester : Int) :
    DeskCall (Page Job) :=
  .query (.repositoryPage repository request requester) viewed

def userPage (request : PageRequest) (requester : Int) : DeskCall (Page Job) :=
  .query (.userPage request requester) viewed

def latestJobs (limit : Option Nat) (requester : Int) : DeskCall (List Job) :=
  .query (.latestJobs limit requester) viewed

def issuePage (job : JobId) (filter : IssueFilter) (request : PageRequest) (requester : Int) :
    DeskCall (Page Issue) :=
  .query (.issuePage job filter request requester) viewed

def metricsView (job : JobId) (filter : MetricFilter) (requester : Int) :
    DeskCall MetricsView :=
  .query (.metricsView job filter requester) viewed

/-- The figures of a user, if their issues can be added up. -/
def userStats (user : Int) : DeskCall UserStats :=
  .query (.userStats user) fun
    | .error cause => .done (.error (.storage cause))
    | .ok none => .done (.error .notFound)
    | .ok (some (.ok stats)) => .done (.ok stats)
    | .ok (some (.error cause)) => .collapse cause

/-! ### Watching a job -/

/-- Asks the analyzer about a job and acts on the answer.  The result says whether the watch goes
on. -/
def checkJob (job : JobId) (handle : String) : Flow Bool :=
  .query (.job job) fun
    | .error _ => .done true
    | .ok none => .done false
    | .ok (some current) =>
      if current.status = .processing then
        .poll handle fun
          | .ok .underway => .done true
          | .ok (.finished report) => (ingest job report).map fun _ => false
          | .ok (.malformed _ reason) =>
            .write (.failJob job .processing (malformedReason reason) none) fun _ => .done false
          | .error (.rejected message) =>
            .write (.failJob job .processing
                ("analyzer lost the job: " ++ (AnalyzerFault.rejected message).text) none)
              fun _ => .done false
          | .error _ => .done true
      else .done false

/-- Fails a job that took too long, and tells the analyzer to drop it. -/
def expireJob (settings : DeskSettings) (job : JobId) : Flow Unit :=
  .write (.failJob job .processing (timeoutReason settings .processing) none) fun
    | .ok true =>
      .query (.job job) fun
        | .ok (some current) =>
          abandonIfKnown settings.retry job current.externalHandle (.done ())
        | _ => .done ()
    | _ => .done ()

end Desk

end AnalysisDesk
