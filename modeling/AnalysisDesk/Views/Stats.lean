/-
What a user's jobs add up to.

Scores and issues count for completed jobs only.  The completed jobs are put in the order in which
they were completed; the trend is the step from the last score but one to the last.  The numbers of
their issues are added up in that order too, and there are no figures if a total on the way has no
room.
-/
import AnalysisDesk.Views.Summary

namespace AnalysisDesk

/-- How many jobs have each status. -/
structure StatusCounts where
  pending : Nat
  processing : Nat
  completed : Nat
  failed : Nat
  cancelled : Nat
deriving DecidableEq, Repr, Inhabited

namespace StatusCounts

/-- Counts the statuses of a list. -/
def ofStatuses (statuses : List JobStatus) : StatusCounts where
  pending := statuses.count .pending
  processing := statuses.count .processing
  completed := statuses.count .completed
  failed := statuses.count .failed
  cancelled := statuses.count .cancelled

def active (c : StatusCounts) : Nat := c.pending + c.processing

def toJson (c : StatusCounts) : Json :=
  .object [("pending", .nat c.pending), ("processing", .nat c.processing),
    ("completed", .nat c.completed), ("failed", .nat c.failed), ("cancelled", .nat c.cancelled)]

end StatusCounts

/-- A user's figures. -/
structure UserStats where
  totalAnalyses : Nat
  byStatus : StatusCounts
  active : Nat
  averageQualityScore : Option Double
  totalIssuesFound : Int
  issuesBySeverity : SeverityTable
  qualityTrend : Option Double
  repositoriesAnalyzed : Nat
deriving DecidableEq, Repr, Inhabited

namespace UserStats

/-- The completed jobs in the order of their completion; jobs completed at one instant keep the
order of their creation. -/
def completedInOrder (jobs : List Job) : List Job :=
  (jobs.filter fun job => job.status == .completed).mergeSort fun a b =>
    (a.completedAt.getD a.createdAt).nanos ≤ (b.completedAt.getD b.createdAt).nanos

/-- The mean of some scores, if there are any. -/
def average (scores : List Double) : Option Double :=
  if scores.isEmpty then none
  else some ((scores.foldl Double.add .negZero).div (.ofNat scores.length))

/-- The last score less the one before it. -/
def trend (scores : List Double) : Option Double :=
  match scores.reverse with
  | latest :: previous :: _ => some (latest.sub previous)
  | _ => none

/-- The issues that the completed jobs have found, added up in the order of their completion. -/
def issueTotal (jobs : List Job) : Except Overflow Int :=
  Limit.addAll 0 ((completedInOrder jobs).filterMap (·.issuesFound))

/-- The figures of jobs, oldest first, and of the issues of the completed ones, once the total of
these is known. -/
def withTotal (jobs : List Job) (severities : List (Severity × Nat)) (total : Int) : UserStats :=
  let completed := completedInOrder jobs
  let scores := completed.filterMap (·.qualityScore)
  let byStatus := StatusCounts.ofStatuses (jobs.map (·.status))
  { totalAnalyses := jobs.length
    byStatus := byStatus
    active := byStatus.active
    averageQualityScore := average scores
    totalIssuesFound := total
    issuesBySeverity := SeverityTable.ofCounts severities
    qualityTrend := trend scores
    repositoriesAnalyzed := (completed.map (·.repositoryId)).eraseDups.length }

/-- The figures of jobs, oldest first, and of the issues of the completed ones. -/
def ofJobs (jobs : List Job) (severities : List (Severity × Nat)) : Except Overflow UserStats :=
  (issueTotal jobs).map (withTotal jobs severities)

def toJson (s : UserStats) : Json :=
  .object [("total_analyses", .nat s.totalAnalyses), ("by_status", s.byStatus.toJson),
    ("active", .nat s.active),
    ("average_quality_score", .option .number s.averageQualityScore),
    ("total_issues_found", .int s.totalIssuesFound),
    ("issues_by_severity", s.issuesBySeverity.toJson),
    ("quality_trend", .option .number s.qualityTrend),
    ("repositories_analyzed", .nat s.repositoriesAnalyzed)]

end UserStats

end AnalysisDesk
