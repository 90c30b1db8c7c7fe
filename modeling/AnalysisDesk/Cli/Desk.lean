/-
The desk on the command line.

A procedure of the desk runs here alone and without pollers: it asks and changes a store that the
command has opened, and every change is kept at once.

No deadline is too far off for the clock here.  A command starts pollers only after it has swept, and
a sweep fails by a time limit of that length.
-/
import AnalysisDesk.Cli.Errand
import AnalysisDesk.Desk.Flow

namespace AnalysisDesk.Cli

/-- Sends a request to the analyzer and reads the reply. -/
def call {α : Type} (request : AnalyzerRequest)
    (read : AnalyzerReply → Except ClientFault α) : Errand (Except AnalyzerFault α) := do
  let delivery ← Errand.send request
  return (AnalyzerClient.reply request delivery >>= read).mapError ClientFault.toFault

/-- Carries out an action of the desk; `keep` keeps a store that has changed. -/
def act (client : AnalyzerClient) (keep : Store → Errand Unit) (store : Store) :
    (action : Action) → Errand (action.Answer × Store)
  | .query question => return (question.run store, store)
  | .write change => do
    let now ← Errand.now
    let (answer, store) := change.run now store
    keep store
    return (answer, store)
  | .enqueue spec => return (← call (client.handover spec) AnalyzerClient.handleOf, store)
  | .poll handle => return (← call (client.question handle) AnalyzerClient.answerOf, store)
  | .abandon _ handle => return (← call (client.withdrawal handle) AnalyzerClient.droppedOf, store)
  | .sleep span => return (← Errand.pause span, store)
  | .now => return (← Errand.now, store)
  | .freshId => return (← Errand.freshId, store)
  | .startPoller _ _ _ | .stopPoller _ | .stopAllPollers => return ((), store)

/-- Runs a procedure of the desk. -/
def runDesk {α : Type} (client : AnalyzerClient) (keep : Store → Errand Unit) :
    Store → Flow α → Errand (Except Overflow α)
  | _, .done result => .done (.ok result)
  | _, .collapse cause => .done (.error cause)
  | store, .act action next =>
    (act client keep store action).bind fun (answer, store) =>
      runDesk client keep store (next answer)

end AnalysisDesk.Cli
