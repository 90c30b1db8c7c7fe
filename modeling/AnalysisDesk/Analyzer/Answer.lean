/-
What the analyzer is asked for, and what it says about a job.

The analyzer's document about a job has a status.  As long as that says that the job is under way,
the rest of the document does not matter.  If it says that the job is over, the document is the
report, and one that cannot be decoded will not get better by asking again.
-/
import AnalysisDesk.Analyzer.Fault
import AnalysisDesk.Job.Id
import AnalysisDesk.Json.Writer
import AnalysisDesk.Report.Basic

namespace AnalysisDesk

/-- What the analyzer needs to start on a job. -/
structure JobSpec where
  job : JobId
  repositoryUrl : String
  branch : String
  commitSha : Option String
deriving DecidableEq, Inhabited

/-- What the analyzer says when asked about a job. -/
inductive PollAnswer where
  /-- It is not done yet. -/
  | underway
  | finished (report : Report)
  /-- It is done, but its report cannot be decoded. -/
  | malformed (raw reason : String)
deriving DecidableEq, Repr, Inhabited

namespace PollAnswer

/-- The statuses of a job that is under way. -/
def underwayLabels : List String := ["pending", "queued", "processing"]

/-- The statuses of a job that is over. -/
def overLabels : List String := [ReportStatus.completed.label, ReportStatus.failed.label]

/-- What the document about a job says. -/
def ofJson (document : Json) : Except AnalyzerFault PollAnswer :=
  match (document.field? "status").bind Json.str? with
  | none => .error (.unexpected "missing status field")
  | some status =>
    if underwayLabels.contains status then .ok .underway
    else if overLabels.contains status then
      match Report.decoder.ofJson document with
      | .ok report => .ok (.finished report)
      | .error fault => .ok (.malformed document.write fault.message)
    else .error (.unexpected ("unknown analysis status '" ++ status ++ "'"))

end PollAnswer

end AnalysisDesk
