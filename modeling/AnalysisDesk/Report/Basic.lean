/-
Reports.

What the analyzer says about a job once it is done: how it ended, some scores, the issues and the
metrics it found.  The analyzer is not trusted, so an issue's severity is any text and a score any
number; `Report/Validation` turns a report into findings that can be stored as they are.
-/
import AnalysisDesk.Json.Decode
import AnalysisDesk.Job.Status
import AnalysisDesk.Severity

namespace AnalysisDesk

/-- How the analyzer says a job ended. -/
inductive ReportStatus where
  | completed
  | failed
deriving DecidableEq, Repr, Inhabited

def ReportStatus.label : ReportStatus → String
  | .completed => "completed"
  | .failed => "failed"

/-- The status that a job gets from the report. -/
def ReportStatus.jobStatus : ReportStatus → JobStatus
  | .completed => .completed
  | .failed => .failed

/-- An issue as the analyzer reports it. -/
structure ReportedIssue where
  filePath : String
  lineNumber : Option Int
  severity : String
  category : String
  title : String
  description : Option String
  suggestion : Option String
deriving DecidableEq, Repr, Inhabited

/-- A metric as the analyzer reports it. -/
structure ReportedMetric where
  metricType : String
  value : Double
  filePath : Option String
deriving DecidableEq, Repr, Inhabited

/-- A report of the analyzer. -/
structure Report where
  status : ReportStatus
  qualityScore : Option Double
  maintainabilityIndex : Option Double
  complexityScore : Option Double
  securityRating : Option Double
  issuesFound : Option Int
  filesAnalyzed : Option Int
  issues : List ReportedIssue
  metrics : List ReportedMetric
  error : Option String
deriving DecidableEq, Repr, Inhabited

/-! ### Decoding -/

open Decode

def ReportStatus.decoder : Decoder ReportStatus :=
  .label [("completed", .completed), ("failed", .failed)]

def ReportedIssue.fields : Fields ReportedIssue :=
  ReportedIssue.mk
    <$> Fields.required "file_path" .string
    <*> Fields.spare "line_number" .int64
    <*> Fields.required "severity" .string
    <*> Fields.required "category" .string
    <*> Fields.required "title" .string
    <*> Fields.spare "description" .string
    <*> Fields.spare "suggestion" .string

def ReportedIssue.decoder : Decoder ReportedIssue := Fields.decoder "ReportedIssue" fields

def ReportedMetric.fields : Fields ReportedMetric :=
  ReportedMetric.mk
    <$> Fields.required "metric_type" .string
    <*> Fields.required "value" .double
    <*> Fields.spare "file_path" .string

def ReportedMetric.decoder : Decoder ReportedMetric := Fields.decoder "ReportedMetric" fields

def Report.fields : Fields Report :=
  Report.mk
    <$> Fields.required "status" ReportStatus.decoder
    <*> Fields.spare "quality_score" .double
    <*> Fields.spare "maintainability_index" .double
    <*> Fields.spare "complexity_score" .double
    <*> Fields.spare "security_rating" .double
    <*> Fields.spare "issues_found" .int64
    <*> Fields.spare "files_analyzed" .int64
    <*> Fields.defaulted "issues" (.list ReportedIssue.decoder) []
    <*> Fields.defaulted "metrics" (.list ReportedMetric.decoder) []
    <*> Fields.spare "error" .string

def Report.decoder : Decoder Report := Fields.decoder "AnalysisReport" fields

/-! ### Encoding -/

def ReportedIssue.toJson (i : ReportedIssue) : Json :=
  .object [("file_path", .str i.filePath), ("line_number", .option .int i.lineNumber),
    ("severity", .str i.severity), ("category", .str i.category), ("title", .str i.title),
    ("description", .option .str i.description), ("suggestion", .option .str i.suggestion)]

def ReportedMetric.toJson (m : ReportedMetric) : Json :=
  .object [("metric_type", .str m.metricType), ("value", .number m.value),
    ("file_path", .option .str m.filePath)]

/-- The document that encodes a report, every member written. -/
def Report.toJson (r : Report) : Json :=
  .object [("status", .str r.status.label), ("quality_score", .option .number r.qualityScore),
    ("maintainability_index", .option .number r.maintainabilityIndex),
    ("complexity_score", .option .number r.complexityScore),
    ("security_rating", .option .number r.securityRating),
    ("issues_found", .option .int r.issuesFound), ("files_analyzed", .option .int r.filesAnalyzed),
    ("issues", .arr (r.issues.map ReportedIssue.toJson)),
    ("metrics", .arr (r.metrics.map ReportedMetric.toJson)), ("error", .option .str r.error)]

end AnalysisDesk
