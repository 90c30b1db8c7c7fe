/-
Answers to requests.
-/
import AnalysisDesk.Desk.Error
import AnalysisDesk.Json.Writer

namespace AnalysisDesk

/-- The body of an answer. -/
inductive HttpBody where
  | empty
  | plain (text : String)
  | document (json : Json)
deriving Inhabited

/-- An answer to a request. -/
structure HttpAnswer where
  status : Nat
  headers : List (String × String)
  body : HttpBody
deriving Inhabited

namespace HttpAnswer

/-- An answer with a document. -/
def document (status : Nat) (json : Json) : HttpAnswer :=
  ⟨status, [("content-type", "application/json")], .document json⟩

/-- An answer with a plain text. -/
def plain (status : Nat) (text : String) : HttpAnswer :=
  ⟨status, [("content-type", "text/plain; charset=utf-8")], .plain text⟩

/-- An answer without body. -/
def bare (status : Nat) (headers : List (String × String)) : HttpAnswer :=
  ⟨status, headers, .empty⟩

/-- An answer that says what is wrong. -/
def fault (status : Nat) (message : String) : HttpAnswer :=
  document status (.object [("error", .str message)])

/-- The answer without its body. -/
def withoutBody (answer : HttpAnswer) : HttpAnswer := { answer with body := .empty }

/-- The answer with more headers. -/
def withHeaders (answer : HttpAnswer) (more : List (String × String)) : HttpAnswer :=
  { answer with headers := answer.headers ++ more }

/-- The status of an error of the desk. -/
def statusOf : DeskError → Nat
  | .notFound => 404
  | .conflict _ | .notCancellable _ => 409
  | .notDispatched _ => 502
  | .malformedResult _ => 422
  | .storage _ => 500

/-- The answer to an error of the desk.  A conflict names the job that is in the way. -/
def ofError : DeskError → HttpAnswer
  | .conflict existing =>
    document 409 (.object [("error", .str (DeskError.conflict existing).message),
      ("analysis_id", .str existing.text)])
  | e => fault (statusOf e) e.message

/-- The answer to a result of the desk. -/
def ofResult {α : Type} (status : Nat) (encode : α → Json) : Except DeskError α → HttpAnswer
  | .ok a => document status (encode a)
  | .error e => ofError e

end HttpAnswer

end AnalysisDesk
