/-
What a caller of the desk is told when a call fails.
-/
import AnalysisDesk.Store.Error

namespace AnalysisDesk

/-- Why a call to the desk fails. -/
inductive DeskError where
  /-- It does not exist, or belongs to somebody else; the caller cannot tell which. -/
  | notFound
  /-- The repository has an active job. -/
  | conflict (existing : JobId)
  /-- A job that has ended cannot be cancelled. -/
  | notCancellable (status : JobStatus)
  /-- The analyzer did not take the job. -/
  | notDispatched (message : String)
  /-- The report of a job cannot be used. -/
  | malformedResult (message : String)
  | storage (cause : StoreError)
deriving DecidableEq

namespace DeskError

def message : DeskError → String
  | .notFound => "Not found"
  | .conflict existing =>
    "An analysis is already in progress for this repository (" ++ existing.text ++ ")"
  | .notCancellable status => "Cannot cancel an analysis that is " ++ status.label
  | .notDispatched message => "Analyzer dispatch failed: " ++ message
  | .malformedResult message => "Malformed analysis result: " ++ message
  | .storage cause => "Storage error: " ++ cause.chain

end DeskError

end AnalysisDesk
