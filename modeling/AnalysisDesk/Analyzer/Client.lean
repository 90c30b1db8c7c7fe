/-
The analyzer as a service on the web.

A job is handed over by a `POST` below the analyzer's address, and the answer names the handle.
What became of it is asked by a `GET` of the address that ends with the handle, and a `DELETE` of
that address drops it.  The handle is put at the end of the address as it is.

Only the requests and the reading of the replies are here; whoever sends a request says what came
back, or that nothing did.
-/
import AnalysisDesk.Analyzer.Answer
import AnalysisDesk.Text.Blank
import AnalysisDesk.Web.Address
import AnalysisDesk.Web.Status

namespace AnalysisDesk

/-- A request to the analyzer. -/
structure AnalyzerRequest where
  method : String
  /-- The address, as it has been put together. -/
  url : String
  body : Option Json
deriving Inhabited

/-- What came back. -/
structure AnalyzerReply where
  status : WebStatus
  body : String
deriving DecidableEq, Repr, Inhabited

/-- What a request led to. -/
inductive Delivery where
  | answered (reply : AnalyzerReply)
  /-- There was no answer, or not in time. -/
  | lost
deriving DecidableEq, Repr, Inhabited

/-- What can be wrong with a call. -/
inductive ClientFault where
  /-- The address is none. -/
  | noAddress
  /-- The analyzer does not answer. -/
  | silent (url : String)
  /-- The analyzer did not grant the request. -/
  | refused (status : WebStatus) (body : String)
  /-- The body is not the document that was expected. -/
  | unreadable
  /-- The handle is empty. -/
  | noHandle
  /-- The document makes no sense. -/
  | senseless (fault : AnalyzerFault)
deriving DecidableEq, Repr

namespace ClientFault

/-- The most characters that are kept of a refusal. -/
def longestRefusal : Nat := 512

/-- A refusal in words: the status, and the body without blanks around it. -/
def refusal (status : WebStatus) (body : String) : String :=
  String.ofList ((status.text ++ " " ++ Text.trim body).toList.take longestRefusal)

/-- What the desk gets to hear. -/
def toFault : ClientFault → AnalyzerFault
  | .noAddress => .unexpected "builder error"
  | .silent url => .unavailable ("error sending request for url (" ++ url ++ ")")
  | .refused status body =>
    if status.isPassing then .unavailable (refusal status body)
    else .rejected (refusal status body)
  | .unreadable => .unexpected "error decoding response body"
  | .noHandle => .unexpected "empty analysis_id in enqueue response"
  | .senseless fault => fault

end ClientFault

/-- A client of the analyzer. -/
structure AnalyzerClient where
  /-- The analyzer's address without slashes at the end. -/
  base : String
deriving DecidableEq, Repr, Inhabited

namespace AnalyzerClient

/-- The client of the analyzer at an address. -/
def ofUrl (url : String) : AnalyzerClient :=
  ⟨String.ofList (Text.dropEndWhile (· == '/') url.toList)⟩

/-! ### Requests -/

/-- Where jobs are handed over. -/
def jobsUrl (c : AnalyzerClient) : String := c.base ++ "/api/v1/analyze"

/-- Where the analyzer keeps the job with a handle. -/
def jobUrl (c : AnalyzerClient) (handle : String) : String := c.jobsUrl ++ "/" ++ handle

/-- The request to take a job. -/
def handover (c : AnalyzerClient) (spec : JobSpec) : AnalyzerRequest where
  method := "POST"
  url := c.jobsUrl
  body := some (.object [("repository_url", .str spec.repositoryUrl),
    ("branch", .str spec.branch), ("commit_sha", .option .str spec.commitSha)])

/-- The question what became of a job. -/
def question (c : AnalyzerClient) (handle : String) : AnalyzerRequest :=
  ⟨"GET", c.jobUrl handle, none⟩

/-- The request to drop a job. -/
def withdrawal (c : AnalyzerClient) (handle : String) : AnalyzerRequest :=
  ⟨"DELETE", c.jobUrl handle, none⟩

/-! ### Replies -/

/-- The reply to a request. -/
def reply (request : AnalyzerRequest) (delivery : Delivery) : Except ClientFault AnalyzerReply :=
  match WebAddress.ofText? request.url, delivery with
  | none, _ => .error .noAddress
  | some address, .lost => .error (.silent address.text)
  | some _, .answered reply =>
    .ok { reply with body := if reply.status.hasBody then reply.body else "" }

/-- The body of a reply that grants the request. -/
def granted (reply : AnalyzerReply) : Except ClientFault String :=
  if reply.status.isSuccess then .ok reply.body else .error (.refused reply.status reply.body)

/-- The handle in the document that answers a handover. -/
def handleDecoder : Decoder String :=
  Decode.Fields.decoder "EnqueueResponse" <|
    (fun handle _ _ => handle)
      <$> Decode.Fields.required "analysis_id" .string
      <*> Decode.Fields.required "status" .string
      <*> Decode.Fields.spare "message" .string

/-- The handle under which a job was taken. -/
def handleOf (reply : AnalyzerReply) : Except ClientFault String := do
  let body ← granted reply
  match handleDecoder.ofText body with
  | .error _ => throw .unreadable
  | .ok handle => if handle.isEmpty then throw .noHandle else return handle

/-- What the analyzer says about a job. -/
def answerOf (reply : AnalyzerReply) : Except ClientFault PollAnswer := do
  let body ← granted reply
  match Json.read? body with
  | none => throw .unreadable
  | some document => (PollAnswer.ofJson document).mapError .senseless

/-- Whether a job was dropped.  One that the analyzer does not have counts as dropped. -/
def droppedOf (reply : AnalyzerReply) : Except ClientFault Unit :=
  if reply.status.isNotFound then .ok () else (granted reply).map fun _ => ()

end AnalyzerClient

end AnalysisDesk
