/-
Checked reports.

`Report.check` accepts a report if a completed one has a quality score, the scores and the values
of metrics are finite, the counters are not negative and every severity is one of the four labels.
Otherwise it names the first problem in that order.  The store writes a checked report as it is.
-/
import AnalysisDesk.Report.Basic

namespace AnalysisDesk

/-- What is wrong with a report. -/
inductive ReportProblem where
  | noQualityScore
  | scoreNotFinite (field : String)
  | counterNegative (field : String) (value : Int)
  | unknownSeverity (index : Nat) (severity : String)
  | metricNotFinite (metricType : String)
deriving DecidableEq, Repr

def ReportProblem.message : ReportProblem → String
  | .noQualityScore => "completed report has no quality_score"
  | .scoreNotFinite field => field ++ " is not a finite number"
  | .counterNegative field value => field ++ " is negative: " ++ toString value
  | .unknownSeverity index severity =>
    "issue #" ++ toString index ++ " has unknown severity '" ++ severity ++ "'"
  | .metricNotFinite metricType => "metric '" ++ metricType ++ "' has non-finite value"

/-- An issue of a checked report. -/
structure CheckedIssue where
  severity : Severity
  category : String
  title : String
  description : Option String
  suggestion : Option String
  filePath : String
  lineNumber : Option Int
deriving DecidableEq, Repr, Inhabited

/-- A metric of a checked report. -/
structure CheckedMetric where
  metricType : String
  value : Double
  filePath : Option String
deriving DecidableEq, Repr, Inhabited

/-- A report whose every member has been checked. -/
structure CheckedReport where
  status : JobStatus
  qualityScore : Option Double
  maintainabilityIndex : Option Double
  complexityScore : Option Double
  securityRating : Option Double
  issuesFound : Int
  filesAnalyzed : Option Int
  issues : List CheckedIssue
  metrics : List CheckedMetric
  error : Option String
deriving DecidableEq, Repr, Inhabited

namespace Report

/-- The scores with the names under which they are reported. -/
def scores (r : Report) : List (String × Option Double) :=
  [("quality_score", r.qualityScore), ("maintainability_index", r.maintainabilityIndex),
    ("complexity_score", r.complexityScore), ("security_rating", r.securityRating)]

/-- The counters with the names under which they are reported. -/
def counters (r : Report) : List (String × Option Int) :=
  [("issues_found", r.issuesFound), ("files_analyzed", r.filesAnalyzed)]

def isCompletedUnscored (r : Report) : Bool :=
  r.status = .completed ∧ r.qualityScore.isNone

/-- The first score that is no finite number. -/
def badScore? (scores : List (String × Option Double)) : Option ReportProblem :=
  scores.findSome? fun score =>
    match score.2 with
    | some value => if value.isFinite then none else some (.scoreNotFinite score.1)
    | none => none

/-- The first counter below zero. -/
def badCounter? (counters : List (String × Option Int)) : Option ReportProblem :=
  counters.findSome? fun counter =>
    match counter.2 with
    | some value => if value < 0 then some (.counterNegative counter.1 value) else none
    | none => none

/-- Checks the issues from index `index` on. -/
def checkIssues : Nat → List ReportedIssue → Except ReportProblem (List CheckedIssue)
  | _, [] => .ok []
  | index, issue :: rest =>
    match Severity.ofLabel? issue.severity with
    | none => .error (.unknownSeverity index issue.severity)
    | some severity =>
      match checkIssues (index + 1) rest with
      | .error problem => .error problem
      | .ok issues =>
        .ok (⟨severity, issue.category, issue.title, issue.description, issue.suggestion,
          issue.filePath, issue.lineNumber⟩ :: issues)

def checkMetrics : List ReportedMetric → Except ReportProblem (List CheckedMetric)
  | [] => .ok []
  | metric :: rest =>
    if metric.value.isFinite then
      match checkMetrics rest with
      | .error problem => .error problem
      | .ok metrics => .ok (⟨metric.metricType, metric.value, metric.filePath⟩ :: metrics)
    else .error (.metricNotFinite metric.metricType)

/-- Checks a report.  A report that does not say how many issues were found has as many as it
lists. -/
def check (r : Report) : Except ReportProblem CheckedReport :=
  if r.isCompletedUnscored then .error .noQualityScore
  else
    match badScore? r.scores with
    | some problem => .error problem
    | none =>
      match badCounter? r.counters with
      | some problem => .error problem
      | none =>
        match checkIssues 0 r.issues with
        | .error problem => .error problem
        | .ok issues =>
          match checkMetrics r.metrics with
          | .error problem => .error problem
          | .ok metrics =>
            .ok {
              status := r.status.jobStatus
              qualityScore := r.qualityScore
              maintainabilityIndex := r.maintainabilityIndex
              complexityScore := r.complexityScore
              securityRating := r.securityRating
              issuesFound := r.issuesFound.getD r.issues.length
              filesAnalyzed := r.filesAnalyzed
              issues := issues
              metrics := metrics
              error := r.error }

end Report

/-! ### Encoding -/

def CheckedIssue.toJson (i : CheckedIssue) : Json :=
  .object [("severity", .str i.severity.label), ("category", .str i.category),
    ("title", .str i.title), ("description", .option .str i.description),
    ("suggestion", .option .str i.suggestion), ("file_path", .str i.filePath),
    ("line_number", .option .int i.lineNumber)]

def CheckedMetric.toJson (m : CheckedMetric) : Json :=
  .object [("metric_type", .str m.metricType), ("value", .number m.value),
    ("file_path", .option .str m.filePath)]

def CheckedReport.toJson (r : CheckedReport) : Json :=
  .object [("status", .str r.status.label), ("quality_score", .option .number r.qualityScore),
    ("maintainability_index", .option .number r.maintainabilityIndex),
    ("complexity_score", .option .number r.complexityScore),
    ("security_rating", .option .number r.securityRating), ("issues_found", .int r.issuesFound),
    ("files_analyzed", .option .int r.filesAnalyzed),
    ("issues", .arr (r.issues.map CheckedIssue.toJson)),
    ("metrics", .arr (r.metrics.map CheckedMetric.toJson)), ("error", .option .str r.error)]

end AnalysisDesk
