/-
What callers ask of the desk, and what they get.
-/
import AnalysisDesk.Job.Basic
import AnalysisDesk.Text.Blank

namespace AnalysisDesk

/-- The wish to have a repository analyzed. -/
structure SubmitRequest where
  repositoryId : Int
  branch : Option String
  commitSha : Option String
deriving DecidableEq, Repr, Inhabited

namespace SubmitRequest

def decoder : Decoder SubmitRequest :=
  Decode.Fields.decoder "SubmitRequest" <|
    SubmitRequest.mk
      <$> Decode.Fields.required "repository_id" .int64
      <*> Decode.Fields.spare "branch" .string
      <*> Decode.Fields.spare "commit_sha" .string

/-- The job that is wanted.  A blank branch stands for the repository's own, a blank commit for
none. -/
def newJob (request : SubmitRequest) (repository : Repository) : NewJob where
  repositoryId := request.repositoryId
  cloneUrl := repository.cloneUrl
  branch := (request.branch.bind Text.nonBlank?).getD repository.defaultBranch
  commitSha := request.commitSha.bind Text.nonBlank?

end SubmitRequest

/-- What a submission led to. -/
structure SubmitOutcome where
  job : JobId
  handle : Option String
  status : JobStatus
deriving DecidableEq, Inhabited

def SubmitOutcome.toJson (o : SubmitOutcome) : Json :=
  .object [("analysis_id", .str o.job.text), ("external_handle", .option .str o.handle),
    ("status", .str o.status.label)]

/-- What became of a report. -/
inductive IngestOutcome where
  /-- It was written, and the job has this status now. -/
  | applied (status : JobStatus)
  /-- The job was not processing any more, and nothing was written. -/
  | ignored (status : JobStatus)
deriving DecidableEq, Repr, Inhabited

def IngestOutcome.toJson : IngestOutcome → Json
  | .applied status => .object [("outcome", .str "applied"), ("status", .str status.label)]
  | .ignored status => .object [("outcome", .str "ignored"), ("status", .str status.label)]

end AnalysisDesk
