/-
What the desk keeps.

Users own repositories, a repository has jobs, a job has the issues and the metrics that its
report brought.
-/
import AnalysisDesk.Job.Id
import AnalysisDesk.Report.Checked
import AnalysisDesk.Time.Timestamp

namespace AnalysisDesk

/-- Someone who may submit and look at jobs. -/
structure User where
  id : Int
  username : String
  createdAt : Instant
deriving DecidableEq, Repr, Inhabited

/-- A repository that can be analyzed. -/
structure Repository where
  id : Int
  userId : Int
  name : String
  cloneUrl : String
  defaultBranch : String
  createdAt : Instant
deriving DecidableEq, Repr, Inhabited

/-- One analysis of a repository, from its submission to its end. -/
structure Job where
  id : JobId
  repositoryId : Int
  cloneUrl : String
  branch : String
  commitSha : Option String
  status : JobStatus
  qualityScore : Option Double
  maintainabilityIndex : Option Double
  complexityScore : Option Double
  securityRating : Option Double
  issuesFound : Option Int
  filesAnalyzed : Option Int
  /-- The name under which the analyzer knows the job. -/
  externalHandle : Option String
  error : Option String
  createdAt : Instant
  dispatchedAt : Option Instant
  completedAt : Option Instant
deriving DecidableEq, Inhabited

/-- A stored issue. -/
structure Issue where
  id : Int
  jobId : JobId
  severity : Severity
  category : String
  title : String
  description : Option String
  suggestion : Option String
  filePath : String
  lineNumber : Option Int
deriving DecidableEq, Inhabited

/-- A stored metric. -/
structure Metric where
  id : Int
  jobId : JobId
  metricType : String
  value : Double
  filePath : Option String
deriving DecidableEq, Inhabited

/-- What a new job is made of. -/
structure NewJob where
  repositoryId : Int
  cloneUrl : String
  branch : String
  commitSha : Option String
deriving DecidableEq, Repr, Inhabited

/-! ### Encoding -/

def Instant.toJson (t : Instant) : Json := .str t.text

def User.toJson (u : User) : Json :=
  .object [("id", .int u.id), ("username", .str u.username), ("created_at", u.createdAt.toJson)]

def Repository.toJson (r : Repository) : Json :=
  .object [("id", .int r.id), ("user_id", .int r.userId), ("name", .str r.name),
    ("clone_url", .str r.cloneUrl), ("default_branch", .str r.defaultBranch),
    ("created_at", r.createdAt.toJson)]

/-- The members of a job's document. -/
def Job.fields (j : Job) : List (String × Json) :=
  [("id", .str j.id.text), ("repository_id", .int j.repositoryId), ("clone_url", .str j.cloneUrl),
    ("branch", .str j.branch), ("commit_sha", .option .str j.commitSha),
    ("status", .str j.status.label), ("quality_score", .option .number j.qualityScore),
    ("maintainability_index", .option .number j.maintainabilityIndex),
    ("complexity_score", .option .number j.complexityScore),
    ("security_rating", .option .number j.securityRating),
    ("issues_found", .option .int j.issuesFound), ("files_analyzed", .option .int j.filesAnalyzed),
    ("external_handle", .option .str j.externalHandle), ("error", .option .str j.error),
    ("created_at", j.createdAt.toJson), ("dispatched_at", .option Instant.toJson j.dispatchedAt),
    ("completed_at", .option Instant.toJson j.completedAt)]

def Job.toJson (j : Job) : Json := .object j.fields

def Issue.toJson (i : Issue) : Json :=
  .object [("id", .int i.id), ("analysis_id", .str i.jobId.text),
    ("severity", .str i.severity.label), ("category", .str i.category), ("title", .str i.title),
    ("description", .option .str i.description), ("suggestion", .option .str i.suggestion),
    ("file_path", .str i.filePath), ("line_number", .option .int i.lineNumber)]

def Metric.toJson (m : Metric) : Json :=
  .object [("id", .int m.id), ("analysis_id", .str m.jobId.text),
    ("metric_type", .str m.metricType), ("value", .number m.value),
    ("file_path", .option .str m.filePath)]

/-! ### Decoding -/

open Decode

def JobStatus.decoder : Decoder JobStatus := .label (JobStatus.all.map fun s => (s.label, s))

def Severity.decoder : Decoder Severity := .label (Severity.all.map fun s => (s.label, s))

def JobId.decoder : Decoder JobId :=
  .parsed "a UUID string" fun s =>
    match JobId.read? s with
    | some id => .ok id
    | none => .error ("UUID parsing failed: " ++ (JobId.flaw s).message)

def Instant.decoder : Decoder Instant :=
  .parsed "an RFC 3339 formatted date and time string" fun s =>
    match Timestamp.readLenient s with
    | .ok t => .ok t
    | .error fault => .error fault.message

def Job.decoder : Decoder Job :=
  Fields.decoder "AnalysisJob" <|
    Job.mk
      <$> Fields.required "id" JobId.decoder
      <*> Fields.required "repository_id" .int64
      <*> Fields.required "clone_url" .string
      <*> Fields.required "branch" .string
      <*> Fields.optional "commit_sha" .string
      <*> Fields.required "status" JobStatus.decoder
      <*> Fields.optional "quality_score" .double
      <*> Fields.optional "maintainability_index" .double
      <*> Fields.optional "complexity_score" .double
      <*> Fields.optional "security_rating" .double
      <*> Fields.optional "issues_found" .int64
      <*> Fields.optional "files_analyzed" .int64
      <*> Fields.optional "external_handle" .string
      <*> Fields.optional "error" .string
      <*> Fields.required "created_at" Instant.decoder
      <*> Fields.optional "dispatched_at" Instant.decoder
      <*> Fields.optional "completed_at" Instant.decoder

def Issue.decoder : Decoder Issue :=
  Fields.decoder "Issue" <|
    Issue.mk
      <$> Fields.required "id" .int64
      <*> Fields.required "analysis_id" JobId.decoder
      <*> Fields.required "severity" Severity.decoder
      <*> Fields.required "category" .string
      <*> Fields.required "title" .string
      <*> Fields.optional "description" .string
      <*> Fields.optional "suggestion" .string
      <*> Fields.required "file_path" .string
      <*> Fields.optional "line_number" .int64

def Metric.decoder : Decoder Metric :=
  Fields.decoder "Metric" <|
    Metric.mk
      <$> Fields.required "id" .int64
      <*> Fields.required "analysis_id" JobId.decoder
      <*> Fields.required "metric_type" .string
      <*> Fields.required "value" .double
      <*> Fields.optional "file_path" .string

end AnalysisDesk
