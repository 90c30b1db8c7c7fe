/-
What a user may look at.

Every view takes the user who asks.  Whoever does not own a job or a repository gets the same
answer as if it did not exist: none.  Each view looks at the store once.
-/
import AnalysisDesk.Views.Page
import AnalysisDesk.Views.Grouped
import AnalysisDesk.Views.Stats

namespace AnalysisDesk

/-- A job with all its findings. -/
structure JobDetail where
  job : Job
  issues : List Issue
  metrics : List Metric
  summary : Summary
deriving DecidableEq, Inhabited

/-- A job's metrics, in one list and by type. -/
structure MetricsView where
  metrics : List Metric
  grouped : List (String × List Metric)
deriving DecidableEq, Inhabited

namespace JobDetail

def toJson (d : JobDetail) : Json :=
  .object (d.job.fields ++
    [("issues", .arr (d.issues.map Issue.toJson)), ("metrics", .arr (d.metrics.map Metric.toJson)),
      ("summary", d.summary.toJson)])

end JobDetail

namespace MetricsView

def ofMetrics (metrics : List Metric) : MetricsView := ⟨metrics, Metric.grouped metrics⟩

def toJson (v : MetricsView) : Json :=
  .object [("metrics", .arr (v.metrics.map Metric.toJson)),
    ("grouped", .object (v.grouped.map fun group => (group.1, .arr (group.2.map Metric.toJson))))]

end MetricsView

namespace Store

/-- The outcome of a view: none if the user may not have it. -/
abbrev View (α : Type) : Type := Except StoreError (Option α)

/-- Goes on only if something is there. -/
def guarded {α β : Type} (owned : Except StoreError (Option α)) (view : Except StoreError β) :
    View β :=
  match owned with
  | .error e => .error e
  | .ok none => .ok none
  | .ok (some _) => view.map some

/-- A page of a listing. -/
def paged {α : Type} (choice : PageChoice) (listing : List α × Nat) : Page α :=
  ⟨listing.1, choice.pagination listing.2⟩

/-- A page of a repository's jobs, newest first. -/
def repositoryPage (s : Store) (repository : Int) (request : PageRequest) (user : Int) :
    View (Page Job) :=
  let choice := request.resolve PageRequest.jobItems
  guarded (s.ownedRepository? repository user)
    ((s.jobsOfRepository repository choice.window).map (paged choice))

/-- A page of all the user's jobs, newest first. -/
def userPage (s : Store) (request : PageRequest) (user : Int) : View (Page Job) :=
  let choice := request.resolve PageRequest.jobItems
  guarded (s.user? user) ((s.recentJobsOf user choice.window).map (paged choice))

/-- The user's latest jobs. -/
def latestJobs (s : Store) (limit : Option Nat) (user : Int) : View (List Job) :=
  match s.userPage ⟨some 1, some (limit.getD PageRequest.latestItems)⟩ user with
  | .error e => .error e
  | .ok page => .ok (page.map (·.items))

/-- A page of a job's issues, worst first. -/
def issuePage (s : Store) (job : JobId) (filter : IssueFilter) (request : PageRequest)
    (user : Int) : View (Page Issue) :=
  let choice := request.resolve PageRequest.issueItems
  guarded (s.ownedJob? job user)
    ((s.issuesOf job filter (some choice.window)).map (paged choice))

/-- A job's metrics, greatest first and by type. -/
def metricsView (s : Store) (job : JobId) (filter : MetricFilter) (user : Int) :
    View MetricsView :=
  guarded (s.ownedJob? job user) ((s.metricsOf job filter).map MetricsView.ofMetrics)

/-- The figures of a user, or what the program falls over in computing them. -/
def userStats (s : Store) (user : Int) : View (Except Overflow UserStats) :=
  guarded (s.user? user) do
    let jobs ← s.jobsOf user
    let counts ← s.severityCounts user
    return UserStats.ofJobs jobs counts

/-- A job with its findings. -/
def jobDetail (s : Store) (job : JobId) (user : Int) : View JobDetail :=
  match s.ownedJob? job user with
  | .error e => .error e
  | .ok none => .ok none
  | .ok (some found) =>
    match s.issuesOf job .all none with
    | .error e => .error e
    | .ok (issues, _) =>
      match s.metricsOf job .all with
      | .error e => .error e
      | .ok metrics => .ok (some ⟨found, issues, metrics, Summary.ofFindings issues metrics⟩)

/-- The document of a list of latest jobs. -/
def latestToJson (jobs : List Job) : Json := .object [("analyses", .arr (jobs.map Job.toJson))]

end Store

end AnalysisDesk
