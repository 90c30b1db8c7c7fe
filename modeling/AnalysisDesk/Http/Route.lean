/-
Routes.

The path of a request says what it is about.  Paths are compared piece by piece as they are
written; only the pieces that name a job or a repository are decoded.
-/
import AnalysisDesk.Http.Form

namespace AnalysisDesk

/-- What a path leads to; `id` is a piece as it is written. -/
inductive Route where
  | jobs
  | latestJobs
  | stats
  | job (id : String)
  | issues (id : String)
  | metrics (id : String)
  | cancel (id : String)
  | repositoryJobs (id : String)
  | health
deriving DecidableEq, Repr

/-- What is done with what a path leads to. -/
inductive Access where
  | look
  | act
deriving DecidableEq, Repr

namespace Route

/-- The pieces of a path. -/
def pieces (path : String) : List String := (Text.cutAt '/' path.toList).map String.ofList

/-- The route of a path. -/
def ofPath? (path : String) : Option Route :=
  match pieces path with
  | ["", "health"] => some .health
  | ["", "api", "analysis"] => some .jobs
  | ["", "api", "analysis", "recent"] => some .latestJobs
  | ["", "api", "analysis", "stats"] => some .stats
  | ["", "api", "analysis", id] => if id.isEmpty then none else some (.job id)
  | ["", "api", "analysis", id, "issues"] => some (.issues id)
  | ["", "api", "analysis", id, "metrics"] => some (.metrics id)
  | ["", "api", "analysis", id, "cancel"] => some (.cancel id)
  | ["", "api", "repositories", id, "analyses"] => some (.repositoryJobs id)
  | _ => none

/-- Whether one can look at a route. -/
def canLook : Route → Bool
  | .cancel _ => false
  | _ => true

/-- Whether one can do something at a route. -/
def canAct : Route → Bool
  | .jobs | .cancel _ => true
  | _ => false

/-- The methods of a route. -/
def methods (route : Route) : List String :=
  (if route.canLook then ["GET", "HEAD"] else []) ++ if route.canAct then ["POST"] else []

/-- What a method asks for at a route. -/
def access? (route : Route) (method : String) : Option Access :=
  if (method = "GET" ∨ method = "HEAD") ∧ route.canLook then some .look
  else if method = "POST" ∧ route.canAct then some .act
  else none

end Route

end AnalysisDesk
