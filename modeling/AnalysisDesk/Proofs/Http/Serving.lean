/-
Requests as calls of the desk.

Serving a request adds two things to the desk: it is seen who asks, and what comes out is written
as an answer.  `Asks` is the table of the routes: which call a request amounts to, with the user
and the particulars in their places, and how a success of it is answered.  `TurnsAway` is the
other table, of what a request that has a requester can be turned away for.

`call_cases` says that the service goes by these two tables, and it is the only proof that looks at
the routes one by one.  In particular whoever does not say who they are is told so before anything
else is looked at, and a procedure that turns somebody away has no actions at all.

What a request does to the store is what the call does.  So the answers by which the requester is
at fault are those of calls that were refused, and of these nobody takes notice.
-/
import AnalysisDesk.Proofs.Desk.Among
import AnalysisDesk.Proofs.Http.Particulars

namespace AnalysisDesk

open HttpService

/-! ### What a request amounts to -/

/-- A call of the desk, and how a success of it is answered. -/
structure Commission where
  Result : Type
  call : DeskCall Result
  success : Nat
  encode : Result → Json

/-- The piece of the path that names a job. -/
def Route.jobPiece? : Route → Option String
  | .job raw | .issues raw | .metrics raw | .cancel raw => some raw
  | .jobs | .latestJobs | .stats | .repositoryJobs _ | .health => none

section Tables

variable (settings : DeskSettings) (request : HttpRequest) (user : Int)

/-- What a request asks for on behalf of a user. -/
inductive Asks : Route → Access → Commission → Prop
  | submit (wish : SubmitRequest) (hbody : request.Carries wish) :
      Asks .jobs .act ⟨_, Desk.submit settings user wish, 201, SubmitOutcome.toJson⟩
  | jobs (page : PageRequest) (hquery : Form.AsksPage request.query page) :
      Asks .jobs .look ⟨_, Desk.userPage page user, 200, Page.toJson Job.toJson⟩
  | latestJobs {access : Access} (limit : Option Nat)
      (hquery : Form.AsksLatest request.query limit) :
      Asks .latestJobs access ⟨_, Desk.latestJobs limit user, 200, Store.latestToJson⟩
  | stats {access : Access} :
      Asks .stats access ⟨_, Desk.userStats user, 200, UserStats.toJson⟩
  | detail {access : Access} {raw : String} (job : JobId) (hjob : NamesJob raw job) :
      Asks (.job raw) access ⟨_, Desk.detail job user, 200, JobDetail.toJson⟩
  | issues {access : Access} {raw : String} (job : JobId) (filter : IssueFilter) (page : PageRequest)
      (hjob : NamesJob raw job) (hquery : Form.AsksIssues request.query filter page) :
      Asks (.issues raw) access
        ⟨_, Desk.issuePage job filter page user, 200, Page.toJson Issue.toJson⟩
  | metrics {access : Access} {raw : String} (job : JobId) (filter : MetricFilter)
      (hjob : NamesJob raw job) (hquery : Form.AsksMetrics request.query filter) :
      Asks (.metrics raw) access ⟨_, Desk.metricsView job filter user, 200, MetricsView.toJson⟩
  | cancel {access : Access} {raw : String} (job : JobId) (hjob : NamesJob raw job) :
      Asks (.cancel raw) access ⟨_, Desk.cancel settings job user, 200, Job.toJson⟩
  | repositoryJobs {access : Access} {raw : String} (repository : Int) (page : PageRequest)
      (hrepository : NamesRepository raw repository) (hquery : Form.AsksPage request.query page) :
      Asks (.repositoryJobs raw) access
        ⟨_, Desk.repositoryPage repository page user, 200, Page.toJson Job.toJson⟩

/-- What a request with a requester is turned away for, and with which status.  Where a path that
names no job comes with a query that asks for nothing, the path counts. -/
inductive TurnsAway : Route → Access → Nat → Prop
  | body (h : ∀ wish, ¬ request.Carries wish) : TurnsAway .jobs .act 400
  | page (h : ∀ page, ¬ Form.AsksPage request.query page) : TurnsAway .jobs .look 400
  | latest {access : Access} (h : ∀ limit, ¬ Form.AsksLatest request.query limit) :
      TurnsAway .latestJobs access 400
  | noText {route : Route} {access : Access} {raw : String} (hroute : route.jobPiece? = some raw)
      (h : ∀ text, ¬ Spells raw text) : TurnsAway route access 400
  | noJob {route : Route} {access : Access} {raw text : String}
      (hroute : route.jobPiece? = some raw) (htext : Spells raw text)
      (h : JobId.read? text = none) : TurnsAway route access 404
  | issues {access : Access} {raw : String} (hjob : ∃ job, NamesJob raw job)
      (h : ∀ filter page, ¬ Form.AsksIssues request.query filter page) :
      TurnsAway (.issues raw) access 400
  | metrics {access : Access} {raw : String} (hjob : ∃ job, NamesJob raw job)
      (h : ∀ filter, ¬ Form.AsksMetrics request.query filter) : TurnsAway (.metrics raw) access 400
  | repository {access : Access} {raw : String}
      (h : (∀ repository, ¬ NamesRepository raw repository) ∨
        ∀ page, ¬ Form.AsksPage request.query page) : TurnsAway (.repositoryJobs raw) access 400

end Tables

/-! ### How a result is answered -/

/-- The document about an error. -/
def faultDocument (e : DeskError) : Json := .object [("error", .str e.message)]

/-- What an answer tells of the result of a call: its status and the document in its body. -/
inductive Tells {α : Type} (success : Nat) (encode : α → Json) :
    Except DeskError α → Nat → Json → Prop
  | done (a : α) : Tells success encode (.ok a) success (encode a)
  | notFound : Tells success encode (.error .notFound) 404 (faultDocument .notFound)
  | conflict (existing : JobId) :
      Tells success encode (.error (.conflict existing)) 409
        (.object [("error", .str (DeskError.conflict existing).message),
          ("analysis_id", .str existing.text)])
  | notCancellable (status : JobStatus) :
      Tells success encode (.error (.notCancellable status)) 409
        (faultDocument (.notCancellable status))
  | notDispatched (message : String) :
      Tells success encode (.error (.notDispatched message)) 502
        (faultDocument (.notDispatched message))
  | malformed (message : String) :
      Tells success encode (.error (.malformedResult message)) 422
        (faultDocument (.malformedResult message))
  | storage (cause : StoreError) :
      Tells success encode (.error (.storage cause)) 500 (faultDocument (.storage cause))

/-- An answer that tells a result; who asks for the head alone gets the status alone. -/
def Conveys (request : HttpRequest) (c : Commission) (result : Except DeskError c.Result)
    (answer : HttpAnswer) : Prop :=
  ∃ json, Tells c.success c.encode result answer.status json ∧
    answer.body = if request.method = "HEAD" then .empty else .document json

theorem ofResult_tells {α : Type} (success : Nat) (encode : α → Json)
    (result : Except DeskError α) :
    ∃ json, Tells success encode result (HttpAnswer.ofResult success encode result).status json ∧
      (HttpAnswer.ofResult success encode result).body = .document json := by
  rcases result with e | a
  · cases e with
    | notFound => exact ⟨_, .notFound, rfl⟩
    | conflict existing => exact ⟨_, .conflict existing, rfl⟩
    | notCancellable status => exact ⟨_, .notCancellable status, rfl⟩
    | notDispatched message => exact ⟨_, .notDispatched message, rfl⟩
    | malformedResult message => exact ⟨_, .malformed message, rfl⟩
    | storage cause => exact ⟨_, .storage cause, rfl⟩
  · exact ⟨_, .done a, rfl⟩

/-- An answer as it leaves the service. -/
def dressed (isOpen : Bool) (request : HttpRequest) (answer : HttpAnswer) : HttpAnswer :=
  let answer := if isOpen then answer.withHeaders sharedHeaders else answer
  if request.method = "HEAD" then answer.withoutBody else answer

section Dressed

variable (isOpen : Bool) (request : HttpRequest) (answer : HttpAnswer)

@[simp] theorem dressed_status : (dressed isOpen request answer).status = answer.status := by
  by_cases hhead : request.method = "HEAD" <;> cases isOpen <;>
    simp [dressed, hhead, HttpAnswer.withoutBody, HttpAnswer.withHeaders]

@[simp] theorem dressed_body :
    (dressed isOpen request answer).body =
      if request.method = "HEAD" then .empty else answer.body := by
  by_cases hhead : request.method = "HEAD" <;> cases isOpen <;>
    simp [dressed, hhead, HttpAnswer.withoutBody, HttpAnswer.withHeaders]

end Dressed

/-! ### The service goes by the tables -/

theorem Flow.map_map {α β γ : Type} (f : α → β) (g : β → γ) (flow : Flow α) :
    (flow.map f).map g = flow.map (g ∘ f) := by
  induction flow with
  | done | collapse => rfl
  | act action next ih =>
      show Flow.act action _ = Flow.act action _
      congr 1
      funext answer
      exact ih answer

/-- What becomes of the particulars of a request: it is turned away, or carried out. -/
inductive CallCase (settings : DeskSettings) (request : HttpRequest) (user : Int) (route : Route)
    (access : Access) : Except HttpAnswer Call → Prop
  | turnedAway (answer : HttpAnswer) (h : TurnsAway request route access answer.status) :
      CallCase settings request user route access (.error answer)
  | carriedOut (call : Call) (c : Commission) (h : Asks settings request user route access c)
      (hperform : perform settings user call = c.call.map (.ofResult c.success c.encode)) :
      CallCase settings request user route access (.ok call)

section Cases

variable {settings : DeskSettings} {request : HttpRequest} {user : Int} {route : Route}
  {access : Access}

/-- The particulars are read one after the other. -/
theorem CallCase.bind {α : Type} {reader : Except HttpAnswer α} {next : α → Except HttpAnswer Call}
    (hok : ∀ a, reader = .ok a → CallCase settings request user route access (next a))
    (herror : ∀ answer, reader = .error answer → TurnsAway request route access answer.status) :
    CallCase settings request user route access (reader.bind next) := by
  cases reader with
  | error answer => exact .turnedAway answer (herror answer rfl)
  | ok a => exact hok a rfl

theorem CallCase.map {α : Type} {reader : Except HttpAnswer α} {make : α → Call}
    (hok : ∀ a, reader = .ok a → CallCase settings request user route access (.ok (make a)))
    (herror : ∀ answer, reader = .error answer → TurnsAway request route access answer.status) :
    CallCase settings request user route access (reader.map make) := by
  cases reader with
  | error answer => exact .turnedAway answer (herror answer rfl)
  | ok a => exact hok a rfl

/-- A path that names no job counts before everything that is read after it. -/
theorem CallCase.job {raw : String} {next : JobId → Except HttpAnswer Call}
    (hpiece : route.jobPiece? = some raw)
    (hnamed : ∀ job, NamesJob raw job → CallCase settings request user route access (next job)) :
    CallCase settings request user route access ((jobIn raw).bind next) := by
  have hreads := jobIn_reads raw
  generalize jobIn raw = result at hreads ⊢
  cases hreads with
  | named job hjob => exact hnamed job hjob
  | noJob text htext hread => exact .turnedAway _ (.noJob hpiece htext hread)
  | noText answer hnone hstatus =>
      refine .turnedAway answer ?_
      rw [hstatus]
      exact .noText hpiece hnone

end Cases

/-- **The service goes by the tables.** -/
theorem call_cases (settings : DeskSettings) (request : HttpRequest) (user : Int) {route : Route}
    (access : Access) (hroute : route ≠ .health) :
    CallCase settings request user route access (call request route access) := by
  cases route with
  | health => exact absurd rfl hroute
  | jobs =>
      cases access with
      | act =>
          refine .map (fun wish hwish => ?_) fun answer hanswer => ?_
          · exact .carriedOut _ _ (.submit wish (sent_eq_ok_iff.mp hwish)) rfl
          · rw [sent_error hanswer]
            refine .body fun wish hwish => ?_
            rw [sent_eq_ok_iff.mpr hwish] at hanswer
            exact nomatch hanswer
      | look =>
          refine .map (fun page hpage => ?_) fun answer hanswer => ?_
          · have hpage := Form.page_eq_ok_iff.mp (asked_eq_ok_iff.mp hpage)
            exact .carriedOut _ _ (.jobs page hpage) rfl
          · obtain ⟨hstatus, hnone⟩ := asked_error hanswer
            exact hstatus ▸ .page fun page hpage => hnone page (Form.page_eq_ok_iff.mpr hpage)
  | latestJobs =>
      refine .map (fun limit hlimit => ?_) fun answer hanswer => ?_
      · have hlimit := Form.latest_eq_ok_iff.mp (asked_eq_ok_iff.mp hlimit)
        exact .carriedOut _ _ (.latestJobs limit hlimit) rfl
      · obtain ⟨hstatus, hnone⟩ := asked_error hanswer
        exact hstatus ▸ .latest fun limit hlimit => hnone limit (Form.latest_eq_ok_iff.mpr hlimit)
  | stats => exact .carriedOut _ _ .stats rfl
  | job raw => exact .job rfl fun job hjob => .carriedOut _ _ (.detail job hjob) rfl
  | cancel raw => exact .job rfl fun job hjob => .carriedOut _ _ (.cancel job hjob) rfl
  | issues raw =>
      refine .job rfl fun job hjob => .bind (fun wanted hwanted => ?_) fun answer hanswer => ?_
      · obtain ⟨filter, page⟩ := wanted
        have hquery := Form.issues_eq_ok_iff.mp (asked_eq_ok_iff.mp hwanted)
        exact .carriedOut _ _ (.issues job filter page hjob hquery) rfl
      · obtain ⟨hstatus, hnone⟩ := asked_error hanswer
        exact hstatus ▸ .issues ⟨job, hjob⟩ fun filter page hquery =>
          hnone (filter, page) (Form.issues_eq_ok_iff.mpr hquery)
  | metrics raw =>
      refine .job rfl fun job hjob => .bind (fun filter hfilter => ?_) fun answer hanswer => ?_
      · have hquery := Form.metrics_eq_ok_iff.mp (asked_eq_ok_iff.mp hfilter)
        exact .carriedOut _ _ (.metrics job filter hjob hquery) rfl
      · obtain ⟨hstatus, hnone⟩ := asked_error hanswer
        exact hstatus ▸ .metrics ⟨job, hjob⟩ fun filter hquery =>
          hnone filter (Form.metrics_eq_ok_iff.mpr hquery)
  | repositoryJobs raw =>
      refine .bind (fun repository hrepository => ?_) fun answer hanswer => ?_
      · have hrepository := repositoryIn_eq_ok_iff.mp hrepository
        refine .bind (fun page hpage => ?_) fun answer hanswer => ?_
        · have hpage := Form.page_eq_ok_iff.mp (asked_eq_ok_iff.mp hpage)
          exact .carriedOut _ _ (.repositoryJobs repository page hrepository hpage) rfl
        · obtain ⟨hstatus, hnone⟩ := asked_error hanswer
          exact hstatus ▸ .repository (Or.inr fun page hpage =>
            hnone page (Form.page_eq_ok_iff.mpr hpage))
      · rw [repositoryIn_error hanswer]
        refine .repository (Or.inl fun repository hrepository => ?_)
        rw [repositoryIn_eq_ok_iff.mpr hrepository] at hanswer
        exact nomatch hanswer

section Readings

variable {settings : DeskSettings} {request : HttpRequest} {user : Int} {route : Route}
  {access : Access}

/-- What a request asks for is what is carried out. -/
theorem call_of_asks {c : Commission} (h : Asks settings request user route access c) :
    ∃ asked, call request route access = .ok asked ∧
      perform settings user asked = c.call.map (.ofResult c.success c.encode) := by
  cases h with
  | submit wish hbody =>
      refine ⟨.submit wish, ?_, rfl⟩
      rw [call, sent_eq_ok_iff.mpr hbody]
      rfl
  | jobs page hquery =>
      refine ⟨.jobs page, ?_, rfl⟩
      rw [call, asked_eq_ok_iff.mpr (Form.page_eq_ok_iff.mpr hquery)]
      rfl
  | latestJobs limit hquery =>
      refine ⟨.latestJobs limit, ?_, rfl⟩
      rw [call, asked_eq_ok_iff.mpr (Form.latest_eq_ok_iff.mpr hquery)]
      rfl
  | stats => exact ⟨.stats, rfl, rfl⟩
  | detail job hjob =>
      refine ⟨.detail job, ?_, rfl⟩
      rw [call, jobIn_of_names hjob]
      rfl
  | cancel job hjob =>
      refine ⟨.cancel job, ?_, rfl⟩
      rw [call, jobIn_of_names hjob]
      rfl
  | issues job filter page hjob hquery =>
      refine ⟨.issues job filter page, ?_, rfl⟩
      rw [call, jobIn_of_names hjob, asked_eq_ok_iff.mpr (Form.issues_eq_ok_iff.mpr hquery)]
      rfl
  | metrics job filter hjob hquery =>
      refine ⟨.metrics job filter, ?_, rfl⟩
      rw [call, jobIn_of_names hjob, asked_eq_ok_iff.mpr (Form.metrics_eq_ok_iff.mpr hquery)]
      rfl
  | repositoryJobs repository page hrepository hquery =>
      refine ⟨.repositoryJobs repository page, ?_, rfl⟩
      rw [call, repositoryIn_eq_ok_iff.mpr hrepository,
        asked_eq_ok_iff.mpr (Form.page_eq_ok_iff.mpr hquery)]
      rfl

/-- A reader that reads nothing refuses. -/
theorem refuses_of_reads_nothing {α : Type} {reader : Except HttpAnswer α} {status : Nat}
    (hnone : ∀ a, reader ≠ .ok a)
    (hstatus : ∀ answer, reader = .error answer → answer.status = status) :
    ∃ answer, reader = .error answer ∧ answer.status = status := by
  cases reader with
  | error answer => exact ⟨answer, rfl, hstatus answer rfl⟩
  | ok a => exact absurd rfl (hnone a)

theorem asked_refuses {α : Type} {form : Option String → Except Form.Fault α}
    (hnone : ∀ a, form request.query ≠ .ok a) :
    ∃ answer, asked form request = .error answer ∧ answer.status = 400 :=
  refuses_of_reads_nothing (fun a h => hnone a (asked_eq_ok_iff.mp h)) fun _ h => (asked_error h).1

theorem call_of_job_error {raw : String} {answer : HttpAnswer} (hpiece : route.jobPiece? = some raw)
    (h : jobIn raw = .error answer) : call request route access = .error answer := by
  cases route with
  | job | issues | metrics | cancel =>
      cases hpiece
      rw [call, h]
      rfl
  | jobs | latestJobs | stats | repositoryJobs | health => exact nomatch hpiece

/-- What a request is to be turned away for it is turned away for. -/
theorem call_of_turnsAway {status : Nat} (h : TurnsAway request route access status) :
    ∃ answer, call request route access = .error answer ∧ answer.status = status := by
  cases h with
  | body hnone =>
      obtain ⟨answer, hsent, hstatus⟩ := refuses_of_reads_nothing
        (fun wish h => hnone wish (sent_eq_ok_iff.mp h)) fun _ h => sent_error h
      refine ⟨answer, ?_, hstatus⟩
      rw [call, hsent]
      rfl
  | page hnone =>
      obtain ⟨answer, hasked, hstatus⟩ := asked_refuses fun page h =>
        hnone page (Form.page_eq_ok_iff.mp h)
      refine ⟨answer, ?_, hstatus⟩
      rw [call, hasked]
      rfl
  | latest hnone =>
      obtain ⟨answer, hasked, hstatus⟩ := asked_refuses fun limit h =>
        hnone limit (Form.latest_eq_ok_iff.mp h)
      refine ⟨answer, ?_, hstatus⟩
      rw [call, hasked]
      rfl
  | @noText _ _ raw hpiece hnone =>
      have hreads := jobIn_reads raw
      generalize hjob : jobIn raw = result at hreads
      cases hreads with
      | named job hnamed =>
          obtain ⟨text, htext, -⟩ := hnamed
          exact absurd htext (hnone text)
      | noJob text htext => exact absurd htext (hnone text)
      | noText answer _ hstatus => exact ⟨answer, call_of_job_error hpiece hjob, hstatus⟩
  | noJob hpiece htext hread =>
      refine ⟨.ofError .notFound, call_of_job_error hpiece ?_, rfl⟩
      rw [jobIn, decodedPiece_of_spells htext, Except.bind, jobNamed, hread]
  | issues hjob hnone =>
      obtain ⟨job, hjob⟩ := hjob
      obtain ⟨answer, hasked, hstatus⟩ := asked_refuses fun (wanted : IssueFilter × PageRequest) h =>
        hnone wanted.1 wanted.2 (Form.issues_eq_ok_iff.mp h)
      refine ⟨answer, ?_, hstatus⟩
      rw [call, jobIn_of_names hjob, hasked]
      rfl
  | metrics hjob hnone =>
      obtain ⟨job, hjob⟩ := hjob
      obtain ⟨answer, hasked, hstatus⟩ := asked_refuses fun filter h =>
        hnone filter (Form.metrics_eq_ok_iff.mp h)
      refine ⟨answer, ?_, hstatus⟩
      rw [call, jobIn_of_names hjob, hasked]
      rfl
  | @repository _ raw hnone =>
      cases hrepository : repositoryIn raw with
      | error answer =>
          refine ⟨answer, ?_, repositoryIn_error hrepository⟩
          rw [call, hrepository]
          rfl
      | ok repository =>
          have hnone := hnone.resolve_left fun hnone =>
            hnone repository (repositoryIn_eq_ok_iff.mp hrepository)
          obtain ⟨answer, hasked, hstatus⟩ := asked_refuses fun page h =>
            hnone page (Form.page_eq_ok_iff.mp h)
          refine ⟨answer, ?_, hstatus⟩
          rw [call, hrepository, hasked]
          rfl

end Readings

end AnalysisDesk
