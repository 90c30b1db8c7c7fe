/-
The service.

A request is answered in three steps.  First it is seen who asks, what for, and with which
particulars; at each of these points the request can be turned away, and then nothing has
happened.  What is left is a call to the desk on behalf of the requester.  Its result is turned
into an answer.
-/
import AnalysisDesk.Desk.Operations
import AnalysisDesk.Http.Answer
import AnalysisDesk.Http.MediaType
import AnalysisDesk.Http.Route

namespace AnalysisDesk

namespace HttpService

/-- The header that names the requester. -/
def userHeader : String := "x-user-id"

/-- Whether a value of a header is visible text. -/
def isVisible (value : String) : Bool :=
  value.toList.all fun c => c = '\t' || (0x20 ≤ c.toNat && c.toNat < 0x7F)

/-- Who asks: a positive number in the first header of that name. -/
def requester? (request : HttpRequest) : Option Int :=
  (request.header? userHeader).bind fun value =>
    if isVisible value then
      match Text.readInteger (Text.trim value) with
      | .ok id => if 0 < id then some id else none
      | .error _ => none
    else none

def unauthorized : HttpAnswer := .fault 401 ("Missing or invalid " ++ userHeader ++ " header")

/-- A piece of the path, decoded. -/
def decodedPiece (raw : String) : Except HttpAnswer String :=
  match Text.ofBytes? (Text.percentDecoded (Text.bytes raw)) with
  | some text => .ok text
  | none => .error (.plain 400 "Invalid URL: Invalid UTF-8 in `id`")

/-- The job that a text names.  What is no identifier names nothing. -/
def jobNamed (text : String) : Except HttpAnswer JobId :=
  match JobId.read? text with
  | some id => .ok id
  | none => .error (.ofError .notFound)

def jobIn (raw : String) : Except HttpAnswer JobId := (decodedPiece raw).bind jobNamed

/-- The repository that a piece of the path names. -/
def repositoryIn (raw : String) : Except HttpAnswer Int :=
  (decodedPiece raw).bind fun text =>
    match Text.readInteger text with
    | .ok id => .ok id
    | .error _ =>
      .error (.plain 400 ("Invalid URL: Cannot parse " ++ Decode.ticked text ++ " to a `i64`"))

/-- What a query asks for. -/
def asked {α : Type} (form : Option String → Except Form.Fault α) (request : HttpRequest) :
    Except HttpAnswer α :=
  match form request.query with
  | .ok a => .ok a
  | .error fault =>
    .error (.fault 400 ("Failed to deserialize query string: " ++ fault.message))

/-! ### Bodies -/

/-- Whether a value of a header is the media type of documents. -/
def isDocumentType (value : String) : Bool :=
  isVisible value && ((MediaType.ofText? value).map MediaType.isDocument).getD false

/-- The most bytes that a body may have. -/
def bodyLimit : Nat := 2097152

/-- What a body holds. -/
def sent {α : Type} (decoder : Decoder α) (request : HttpRequest) : Except HttpAnswer α :=
  if ((request.header? "content-type").map isDocumentType).getD false then
    if bodyLimit < request.body.utf8ByteSize then
      .error (.fault 400 "Failed to buffer the request body: length limit exceeded")
    else
      match decoder.ofText request.body with
      | .ok a => .ok a
      | .error .broken => .error (.fault 400 "Failed to parse the request body as JSON")
      | .error fault =>
        .error (.fault 400
          ("Failed to deserialize the JSON body into the target type: " ++ fault.located))
  else .error (.fault 400 "Expected request with `Content-Type: application/json`")

/-! ### Calls -/

/-- What a request amounts to. -/
inductive Call where
  | health
  | submit (request : SubmitRequest)
  | cancel (job : JobId)
  | detail (job : JobId)
  | issues (job : JobId) (filter : IssueFilter) (page : PageRequest)
  | metrics (job : JobId) (filter : MetricFilter)
  | repositoryJobs (repository : Int) (page : PageRequest)
  | jobs (page : PageRequest)
  | latestJobs (limit : Option Nat)
  | stats

/-- The particulars of a request that has a requester, or the answer that turns it away. -/
def call (request : HttpRequest) : Route → Access → Except HttpAnswer Call
  | .health, _ => .ok .health
  | .jobs, .act => (sent SubmitRequest.decoder request).map .submit
  | .jobs, .look => (asked Form.page request).map .jobs
  | .latestJobs, _ => (asked Form.latest request).map .latestJobs
  | .stats, _ => .ok .stats
  | .job id, _ => (jobIn id).map .detail
  | .cancel id, _ => (jobIn id).map .cancel
  | .issues id, _ => do
    let job ← jobIn id
    let (filter, page) ← asked Form.issues request
    return .issues job filter page
  | .metrics id, _ => do
    let job ← jobIn id
    let filter ← asked Form.metrics request
    return .metrics job filter
  | .repositoryJobs id, _ => do
    let repository ← repositoryIn id
    let page ← asked Form.page request
    return .repositoryJobs repository page

/-- Carries out a call on behalf of a requester. -/
def perform (settings : DeskSettings) (requester : Int) : Call → Flow HttpAnswer
  | .health => .done (.plain 200 "ok")
  | .submit request =>
    (Desk.submit settings requester request).map (.ofResult 201 SubmitOutcome.toJson)
  | .cancel job => (Desk.cancel settings job requester).map (.ofResult 200 Job.toJson)
  | .detail job => (Desk.detail job requester).map (.ofResult 200 JobDetail.toJson)
  | .issues job filter page =>
    (Desk.issuePage job filter page requester).map (.ofResult 200 (Page.toJson Issue.toJson))
  | .metrics job filter =>
    (Desk.metricsView job filter requester).map (.ofResult 200 MetricsView.toJson)
  | .repositoryJobs repository page =>
    (Desk.repositoryPage repository page requester).map (.ofResult 200 (Page.toJson Job.toJson))
  | .jobs page => (Desk.userPage page requester).map (.ofResult 200 (Page.toJson Job.toJson))
  | .latestJobs limit =>
    (Desk.latestJobs limit requester).map (.ofResult 200 Store.latestToJson)
  | .stats => (Desk.userStats requester).map (.ofResult 200 UserStats.toJson)

/-- Answers a request at a route. -/
def serve (settings : DeskSettings) (request : HttpRequest) (route : Route) (access : Access) :
    Flow HttpAnswer :=
  if route = .health then perform settings 0 .health
  else
    match requester? request with
    | none => .done unauthorized
    | some requester =>
      match call request route access with
      | .error answer => .done answer
      | .ok call => perform settings requester call

/-! ### Sharing with other origins -/

def varyHeader : String × String :=
  ("vary", "origin, access-control-request-method, access-control-request-headers")

/-- The headers that let pages of any origin see an answer. -/
def sharedHeaders : List (String × String) :=
  [varyHeader, ("access-control-allow-origin", "*"), ("access-control-expose-headers", "*")]

/-- The headers that let pages of any origin send any request. -/
def preflightHeaders : List (String × String) :=
  [varyHeader, ("access-control-allow-origin", "*"), ("access-control-allow-methods", "*"),
    ("access-control-allow-headers", "*")]

/-- The header that names the methods of a route. -/
def allowHeader (route : Route) : String × String := ("allow", ",".intercalate route.methods)

/-- The allowed methods, where the route does not know the one that was asked for. -/
def allowHeaders (route : Option Route) : List (String × String) :=
  match route with
  | none => []
  | some route => [allowHeader route]

/-- Answers a request.  With `open` set, pages of any origin may use the service. -/
def handle (settings : DeskSettings) (isOpen : Bool) (request : HttpRequest) : Flow HttpAnswer :=
  let route := Route.ofPath? request.path
  if isOpen ∧ request.method = "OPTIONS" then
    .done (.bare 200 (preflightHeaders ++ allowHeaders route))
  else
    let answer : Flow HttpAnswer :=
      match route with
      | none => .done (.bare 404 [])
      | some route =>
        match route.access? request.method with
        | none => .done (.bare 405 [allowHeader route])
        | some access => serve settings request route access
    answer.map fun answer =>
      let answer := if isOpen then answer.withHeaders sharedHeaders else answer
      if request.method = "HEAD" then answer.withoutBody else answer

end HttpService

end AnalysisDesk
