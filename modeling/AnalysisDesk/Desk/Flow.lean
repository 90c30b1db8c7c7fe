/-
Procedures of the desk.

A procedure is a tree.  At each node it does one thing — asks the store, writes to it, calls the
analyzer, waits — and what it does next depends on the answer.  `Flow` says nothing about how the
answers come about and what happens in between, so the same procedure can be run alone or mixed
with others.

Queries and writes are listed by name, `StoreQuery` and `StoreWrite`, and are carried out at one
go: between two nodes the store may change, within one it cannot.

A procedure ends with a result or collapses.  Then whoever has called it gets no answer.
-/
import AnalysisDesk.Analyzer.Answer
import AnalysisDesk.Desk.Request
import AnalysisDesk.Store.Write
import AnalysisDesk.Views.Listing

namespace AnalysisDesk

/-- A question to the store. -/
inductive StoreQuery where
  | user (id : Int)
  | ownedRepository (id user : Int)
  | job (id : JobId)
  | ownedJob (id : JobId) (user : Int)
  | processingJobs
  | staleJobs (cutoff : Instant)
  | jobDetail (id : JobId) (user : Int)
  | repositoryPage (repository : Int) (request : PageRequest) (user : Int)
  | userPage (request : PageRequest) (user : Int)
  | latestJobs (limit : Option Nat) (user : Int)
  | issuePage (job : JobId) (filter : IssueFilter) (request : PageRequest) (user : Int)
  | metricsView (job : JobId) (filter : MetricFilter) (user : Int)
  | userStats (user : Int)

namespace StoreQuery

/-- The type of the answer. -/
def Answer : StoreQuery → Type
  | .user _ => Option User
  | .ownedRepository _ _ => Option Repository
  | .job _ | .ownedJob _ _ => Option Job
  | .processingJobs | .staleJobs _ => List Job
  | .jobDetail _ _ => Option JobDetail
  | .repositoryPage _ _ _ | .userPage _ _ => Option (Page Job)
  | .latestJobs _ _ => Option (List Job)
  | .issuePage _ _ _ _ => Option (Page Issue)
  | .metricsView _ _ _ => Option MetricsView
  | .userStats _ => Option (Except Overflow UserStats)

/-- The answer of a store. -/
def run (s : Store) : (query : StoreQuery) → Except StoreError query.Answer
  | .user id => s.user? id
  | .ownedRepository id owner => s.ownedRepository? id owner
  | .job id => s.job? id
  | .ownedJob id owner => s.ownedJob? id owner
  | .processingJobs => s.processingJobs
  | .staleJobs cutoff => s.staleJobs cutoff
  | .jobDetail id owner => s.jobDetail id owner
  | .repositoryPage id request owner => s.repositoryPage id request owner
  | .userPage request owner => s.userPage request owner
  | .latestJobs limit owner => s.latestJobs limit owner
  | .issuePage id filter request owner => s.issuePage id filter request owner
  | .metricsView id filter owner => s.metricsView id filter owner
  | .userStats owner => s.userStats owner

end StoreQuery

/-- A change of the store.  It happens at the time of the call, except that a failure may be dated
otherwise. -/
inductive StoreWrite where
  | createJob (id : JobId) (job : NewJob)
  | markDispatched (id : JobId) (handle : String)
  | recordHandle (id : JobId) (handle : String)
  | failJob (id : JobId) (source : JobStatus) (reason : String) (date : Option Instant)
  | cancelJob (id : JobId) (reason : String)
  | applyReport (id : JobId) (report : CheckedReport)

namespace StoreWrite

/-- The type of the answer; where it is a truth value it says whether anything was changed. -/
def Answer : StoreWrite → Type
  | .createJob _ _ => Creation
  | .recordHandle _ _ => Unit
  | .markDispatched _ _ | .failJob _ _ _ _ | .cancelJob _ _ | .applyReport _ _ => Bool

/-- The answer of a store, and the store afterwards. -/
def run (now : Instant) (s : Store) : (write : StoreWrite) → Store.Outcome write.Answer
  | .createJob id job => s.createJob id job now
  | .markDispatched id handle => s.markDispatched id handle now
  | .recordHandle id handle => s.recordHandle id handle
  | .failJob id source reason date => s.failJob id source reason (date.getD now)
  | .cancelJob id reason => s.cancelJob id reason now
  | .applyReport id report => s.applyReport Store.noneRefused id report now

end StoreWrite

/-- One thing that a procedure does. -/
inductive Action where
  | query (question : StoreQuery)
  | write (change : StoreWrite)
  /-- Hands a job to the analyzer. -/
  | enqueue (spec : JobSpec)
  /-- Asks the analyzer about a job. -/
  | poll (handle : String)
  /-- Tells the analyzer to drop a job. -/
  | abandon (job : JobId) (handle : String)
  | sleep (span : Span)
  | now
  /-- Takes an identifier that nobody has taken before. -/
  | freshId
  /-- Starts to watch a job; a watch on the same job ends. -/
  | startPoller (job : JobId) (handle : String) (dispatchedAt : Instant)
  /-- Ends the watch on a job. -/
  | stopPoller (job : JobId)
  /-- Ends all watches. -/
  | stopAllPollers

/-- The type of what a procedure learns from an action. -/
def Action.Answer : Action → Type
  | .query question => Except StoreError question.Answer
  | .write change => Except StoreError change.Answer
  | .enqueue _ => Except AnalyzerFault String
  | .poll _ => Except AnalyzerFault PollAnswer
  | .abandon _ _ => Except AnalyzerFault Unit
  | .sleep _ => Unit
  | .now => Instant
  | .freshId => JobId
  | .startPoller _ _ _ | .stopPoller _ | .stopAllPollers => Unit

/-- Whether an action asks or changes the store. -/
def Action.isStoreCall : Action → Bool
  | .query _ | .write _ => true
  | _ => false

/-- A procedure that ends with an `α`. -/
inductive Flow (α : Type) : Type where
  | done (result : α)
  /-- It goes no further. -/
  | collapse (cause : Overflow)
  | act (action : Action) (next : action.Answer → Flow α)

namespace Flow

/-- Goes on with another procedure after the end of the first. -/
def bind {α β : Type} (flow : Flow α) (f : α → Flow β) : Flow β :=
  match flow with
  | .done result => f result
  | .collapse cause => .collapse cause
  | .act action next => .act action fun answer => (next answer).bind f

/-- Applies a function to the result. -/
def map {α β : Type} (f : α → β) (flow : Flow α) : Flow β := flow.bind fun a => .done (f a)

/-! ### Procedures that begin with a given action -/

variable {α : Type}

def query (question : StoreQuery) (next : Except StoreError question.Answer → Flow α) : Flow α :=
  .act (.query question) next

def write (change : StoreWrite) (next : Except StoreError change.Answer → Flow α) : Flow α :=
  .act (.write change) next

def enqueue (spec : JobSpec) (next : Except AnalyzerFault String → Flow α) : Flow α :=
  .act (.enqueue spec) next

def poll (handle : String) (next : Except AnalyzerFault PollAnswer → Flow α) : Flow α :=
  .act (.poll handle) next

def abandon (job : JobId) (handle : String) (next : Except AnalyzerFault Unit → Flow α) :
    Flow α :=
  .act (.abandon job handle) next

def sleep (span : Span) (next : Flow α) : Flow α := .act (.sleep span) fun _ => next

def now (next : Instant → Flow α) : Flow α := .act .now next

def freshId (next : JobId → Flow α) : Flow α := .act .freshId next

def startPoller (job : JobId) (handle : String) (dispatchedAt : Instant) (next : Flow α) :
    Flow α :=
  .act (.startPoller job handle dispatchedAt) fun _ => next

def stopPoller (job : JobId) (next : Flow α) : Flow α := .act (.stopPoller job) fun _ => next

def stopAllPollers (next : Flow α) : Flow α := .act .stopAllPollers fun _ => next

end Flow

end AnalysisDesk
