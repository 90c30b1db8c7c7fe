/-
Answers and effects.

`MapsRequest` says what a request at a route leads to.  Its four parts exclude each other and leave
nothing out: there is no requester, or there is one, and then the request is turned away or amounts
to a call.

The effects are told among others who do what they like.  An answer that finds fault with the
request comes of a procedure without actions, of a look, or of a submission or a cancellation that
was refused; a status of 422 stands in the table of errors, but none of the calls ends so.
-/
import AnalysisDesk.Proofs.Http.Serving

namespace AnalysisDesk

open HttpService

variable {settings : DeskSettings} {isOpen : Bool} {request : HttpRequest} {user : Int}
  {route : Route} {access : Access}

/-! ### From serving to handling -/

theorem Route.method_of_access {method : String} (h : route.access? method = some access) :
    method = "GET" ∨ method = "HEAD" ∨ method = "POST" := by
  unfold Route.access? at h
  split at h
  next hlook => exact hlook.1.elim Or.inl fun hhead => Or.inr (Or.inl hhead)
  · split at h
    next hact => exact Or.inr (Or.inr hact.1)
    · exact nomatch h

theorem handle_of_route (hroute : Route.ofPath? request.path = some route)
    (haccess : route.access? request.method = some access) :
    handle settings isOpen request =
      (serve settings request route access).map (dressed isOpen request) := by
  have hmethod : ¬ (isOpen ∧ request.method = "OPTIONS") := by
    rintro ⟨-, hoptions⟩
    rcases Route.method_of_access haccess with h | h | h <;>
      exact absurd (h.symm.trans hoptions) (by decide)
  unfold handle
  rw [if_neg hmethod, hroute]
  simp only [haccess]
  rfl

theorem handle_of_stranger (hroute : Route.ofPath? request.path = some route)
    (hapi : route ≠ .health) (haccess : route.access? request.method = some access)
    (huser : ∀ user, ¬ request.NamesUser user) :
    ∃ answer, handle settings isOpen request = .done answer ∧ answer.status = 401 := by
  refine ⟨dressed isOpen request unauthorized, ?_, dressed_status ..⟩
  rw [handle_of_route hroute haccess, serve, if_neg hapi, requester?_eq_none_iff.mpr huser]
  rfl

theorem handle_of_user (hroute : Route.ofPath? request.path = some route)
    (hapi : route ≠ .health) (haccess : route.access? request.method = some access)
    (huser : request.NamesUser user) :
    handle settings isOpen request =
      (match call request route access with
        | .error answer => .done answer
        | .ok asked => perform settings user asked : Flow HttpAnswer).map
          (dressed isOpen request) := by
  rewrite [handle_of_route hroute haccess, serve, if_neg hapi, requester?_eq_some_iff.mpr huser]
  rfl

theorem handle_of_turnsAway (hroute : Route.ofPath? request.path = some route)
    (hapi : route ≠ .health) (haccess : route.access? request.method = some access)
    (huser : request.NamesUser user) {status : Nat} (h : TurnsAway request route access status) :
    ∃ answer, handle settings isOpen request = .done answer ∧ answer.status = status := by
  obtain ⟨answer, hcall, hstatus⟩ := call_of_turnsAway h
  refine ⟨dressed isOpen request answer, ?_, (dressed_status ..).trans hstatus⟩
  rw [handle_of_user hroute hapi haccess huser, hcall]
  rfl

theorem handle_of_asks (hroute : Route.ofPath? request.path = some route)
    (hapi : route ≠ .health) (haccess : route.access? request.method = some access)
    (huser : request.NamesUser user) {c : Commission}
    (h : Asks settings request user route access c) :
    ∃ image : Except DeskError c.Result → HttpAnswer,
      handle settings isOpen request = c.call.map image ∧
        ∀ result, Conveys request c result (image result) := by
  obtain ⟨asked, hcall, hperform⟩ := call_of_asks h
  refine ⟨dressed isOpen request ∘ .ofResult c.success c.encode, ?_, fun result => ?_⟩
  · rw [handle_of_user hroute hapi haccess huser, hcall]
    simp only [hperform, Flow.map_map]
  · obtain ⟨json, htells, hbody⟩ := ofResult_tells c.success c.encode result
    refine ⟨json, ?_, ?_⟩
    · rw [Function.comp_apply, dressed_status]
      exact htells
    · rw [Function.comp_apply, dressed_body, hbody]

/-- What a request at a route leads to. -/
structure MapsRequest (settings : DeskSettings) (isOpen : Bool) (request : HttpRequest)
    (route : Route) (access : Access) : Prop where
  /-- Whoever does not say who they are is told so, whatever else they say. -/
  stranger : (∀ user, ¬ request.NamesUser user) →
    ∃ answer, handle settings isOpen request = .done answer ∧ answer.status = 401
  turnedAway : ∀ user, request.NamesUser user →
    ∀ status, TurnsAway request route access status →
      ∃ answer, handle settings isOpen request = .done answer ∧ answer.status = status
  /-- What is done is what the call does, and the answer tells its result. -/
  carriedOut : ∀ user, request.NamesUser user →
    ∀ c, Asks settings request user route access c →
      ∃ image : Except DeskError c.Result → HttpAnswer,
        handle settings isOpen request = c.call.map image ∧
          ∀ result, Conveys request c result (image result)
  /-- There is nothing else. -/
  either : ∀ user, request.NamesUser user →
    (∃ status, TurnsAway request route access status) ∨ ∃ c, Asks settings request user route access c

theorem mapsRequest (settings : DeskSettings) (isOpen : Bool)
    (hroute : Route.ofPath? request.path = some route) (hapi : route ≠ .health)
    (haccess : route.access? request.method = some access) :
    MapsRequest settings isOpen request route access := by
  refine ⟨handle_of_stranger hroute hapi haccess, ?_, ?_, ?_⟩
  · intro user huser status h
    exact handle_of_turnsAway hroute hapi haccess huser h
  · intro user huser c h
    exact handle_of_asks hroute hapi haccess huser h
  · intro user _
    have hcase := call_cases settings request user access hapi
    generalize call request route access = result at hcase
    cases hcase with
    | turnedAway answer h => exact Or.inl ⟨answer.status, h⟩
    | carriedOut _ c h => exact Or.inr ⟨c, h⟩

/-! ### Answers that find fault with the request -/

/-- A submission that is answered so was refused. -/
theorem refuses_of_submit {wish : SubmitRequest} {past : List Exchange}
    {result : Except DeskError SubmitOutcome} {status : Nat} {json : Json}
    (hends : Desk.SubmitEnds user wish past result)
    (htells : Tells 201 SubmitOutcome.toJson result status json) (hlow : 400 ≤ status)
    (hhigh : status < 500) : (Duty.submit user wish).refuses result = true := by
  cases htells with
  | notFound | conflict => rfl
  | notCancellable | malformed => cases hends
  | done | notDispatched | storage => omega

/-- A cancellation that is answered so was refused. -/
theorem refuses_of_cancel {job : JobId} {past : List Exchange} {result : Except DeskError Job}
    {status : Nat} {json : Json} (hends : Desk.CancelEnds job user past result)
    (htells : Tells 200 Job.toJson result status json) (hlow : 400 ≤ status)
    (hhigh : status < 500) : (Duty.cancel job user).refuses result = true := by
  cases htells with
  | notFound | notCancellable => rfl
  | conflict | malformed => cases hends
  | done | notDispatched | storage => omega

theorem Asks.unnoticed {c : Commission} (h : Asks settings request user route access c)
    {first s : Store} {past : List Flow.Deed} {result : Except DeskError c.Result}
    (hamong : c.call.Among first past s (.done result)) (hfirst : first.Reached) {status : Nat}
    {json : Json} (htells : Tells c.success c.encode result status json) (hlow : 400 ≤ status)
    (hhigh : status < 500) : ∀ d ∈ past, d.what.Unnoticed d.before d.after := by
  have hlook : ∀ {look : Look} {flow' : DeskCall look.Result},
      (look.call user).Among first past s flow' → ∀ d ∈ past, d.what.Unnoticed d.before d.after :=
    fun hlook => hlook.unnoticed_of_look hfirst
  cases h with
  | submit wish =>
      have hduty : ((Duty.submit user wish).flow settings).Among first past s (.done result) := hamong
      have hends := hamong.leads.keeps (Desk.submit_keeps settings user wish)
      exact hduty.unnoticed_of_refused hfirst (refuses_of_submit hends htells hlow hhigh)
  | cancel job =>
      have hduty : ((Duty.cancel job user).flow settings).Among first past s (.done result) := hamong
      have hends := hamong.leads.keeps (Desk.cancel_keeps settings job user)
      exact hduty.unnoticed_of_refused hfirst (refuses_of_cancel hends htells hlow hhigh)
  | jobs page => exact @hlook (.userPage page) _ hamong
  | latestJobs limit => exact @hlook (.latestJobs limit) _ hamong
  | stats => exact @hlook .userStats _ hamong
  | detail job => exact @hlook (.detail job) _ hamong
  | issues job filter page => exact @hlook (.issuePage job filter page) _ hamong
  | metrics job filter => exact @hlook (.metricsView job filter) _ hamong
  | repositoryJobs repository page => exact @hlook (.repositoryPage repository page) _ hamong

/-- A request does nothing, or it does what a call does that it asks for. -/
theorem handle_cases (settings : DeskSettings) (isOpen : Bool) (request : HttpRequest) :
    (∃ answer, handle settings isOpen request = .done answer) ∨
      ∃ user route access c, Asks settings request user route access c ∧
        ∃ image : Except DeskError c.Result → HttpAnswer,
          handle settings isOpen request = c.call.map image ∧
            ∀ result, Conveys request c result (image result) := by
  by_cases hpreflight : isOpen ∧ request.method = "OPTIONS"
  · unfold handle
    rw [if_pos hpreflight]
    exact Or.inl ⟨_, rfl⟩
  cases hroute : Route.ofPath? request.path with
  | none =>
      unfold handle
      rw [if_neg hpreflight, hroute]
      exact Or.inl ⟨_, rfl⟩
  | some route =>
      cases haccess : route.access? request.method with
      | none =>
          unfold handle
          rw [if_neg hpreflight, hroute]
          simp only [haccess]
          exact Or.inl ⟨_, rfl⟩
      | some access =>
          by_cases hapi : route = .health
          · subst hapi
            rw [handle_of_route hroute haccess]
            exact Or.inl ⟨_, rfl⟩
          have hmaps := mapsRequest settings isOpen hroute hapi haccess
          by_cases huser : ∃ user, request.NamesUser user
          · obtain ⟨user, huser⟩ := huser
            rcases hmaps.either user huser with ⟨status, h⟩ | ⟨c, h⟩
            · obtain ⟨answer, hanswer, -⟩ := hmaps.turnedAway user huser status h
              exact Or.inl ⟨answer, hanswer⟩
            · exact Or.inr ⟨user, route, access, c, h, hmaps.carriedOut user huser c h⟩
          · obtain ⟨answer, hanswer, -⟩ := hmaps.stranger fun user h => huser ⟨user, h⟩
            exact Or.inl ⟨answer, hanswer⟩

/-- **The service adds who asks and how it is answered, and nothing else.**  A request at a route
is answered with 401 unless its header names a user, whatever else it holds.  If it does, a request
with a job, a repository, a query or a body that cannot be read is answered with 404 or 400, and any
other does what the call of the desk does that the table of the routes has for it, and is answered
with what the call returns.  No request that is answered with a status between 400 and 499 has
changed anything: whatever others do to the store meanwhile, it has left the store as it was at each
of its steps, and has neither turned to the analyzer nor begun or ended a watch. -/
theorem requests_are_calls (settings : DeskSettings) (isOpen : Bool) (request : HttpRequest) :
    (∀ (route : Route) (access : Access), Route.ofPath? request.path = some route →
      route ≠ .health → route.access? request.method = some access →
        MapsRequest settings isOpen request route access) ∧
    ∀ (first s : Store) (past : List Flow.Deed) (answer : HttpAnswer), first.Reached →
      (handle settings isOpen request).Among first past s (.done answer) →
        400 ≤ answer.status → answer.status < 500 →
          ∀ d ∈ past, d.what.Unnoticed d.before d.after := by
  refine ⟨fun route access hroute hapi haccess => mapsRequest settings isOpen hroute hapi haccess, ?_⟩
  intro first s past answer hfirst hamong hlow hhigh
  rcases handle_cases settings isOpen request with
    ⟨answer', hdone⟩ | ⟨user, route, access, c, hasks, image, hcall, himage⟩
  · rw [hdone] at hamong
    rw [hamong.of_done]
    simp
  · rw [hcall] at hamong
    obtain ⟨rest, hrest, hanswer⟩ := hamong.of_map
    cases rest with
    | collapse | act => exact nomatch hanswer
    | done result =>
        obtain rfl := Flow.done.inj hanswer
        obtain ⟨json, htells, -⟩ := himage result
        exact hasks.unnoticed hrest hfirst htells hlow hhigh

/-! ### Some requests -/

/-- A request without query and body, with a header for the requester. -/
def Small.asking (method path requester : String) : HttpRequest :=
  ⟨method, path, none, [(userHeader, requester)], ""⟩

/-- Somebody asks for the job of another user. -/
def Small.prying : HttpRequest :=
  Small.asking "GET" "/api/analysis/00000000-0000-0000-0000-000000000000" "2"

theorem requests_are_calls_played :
    MapsRequest Small.settings false (Small.asking "GET" "/api/analysis/stats" "1") .stats .look ∧
      ∃ d answer, (handle Small.settings false Small.prying).Among Small.dispatched [d]
          Small.dispatched (.done answer) ∧
        answer.status = 404 ∧ d.what.Unnoticed d.before d.after := by
  refine ⟨(requests_are_calls ..).1 _ _ (by decide +kernel) (by decide) (by decide +kernel), ?_⟩
  have hmaps := (requests_are_calls Small.settings false Small.prying).1
    (.job "00000000-0000-0000-0000-000000000000") .look (by decide +kernel) (by decide)
    (by decide +kernel)
  have huser : Small.prying.NamesUser 2 := requester?_eq_some_iff.mp (by decide +kernel)
  have hjob : NamesJob "00000000-0000-0000-0000-000000000000" default :=
    ⟨"00000000-0000-0000-0000-000000000000", by unfold Spells; decide +kernel, by decide +kernel⟩
  obtain ⟨image, hcall, himage⟩ := hmaps.carriedOut 2 huser _ (.detail default hjob)
  obtain ⟨json, htells, -⟩ := himage (.error .notFound)
  have hstatus : (image (.error .notFound)).status = 404 := by
    generalize (image (.error .notFound)).status = status at htells
    cases htells
    rfl
  have hamong : (handle Small.settings false Small.prying).Among Small.dispatched
      [⟨⟨.query (.jobDetail default 2), .ok none⟩, Small.dispatched, Small.dispatched⟩]
      Small.dispatched (.done (image (.error .notFound))) := by
    rw [hcall]
    exact .own .start ⟨0⟩ _ (.asked _ _ (by rfl))
  refine ⟨_, _, hamong, hstatus, ?_⟩
  exact (requests_are_calls Small.settings false Small.prying).2 _ _ _ _ Small.dispatched_reached hamong
    (by omega) (by omega) _ (List.mem_singleton_self _)

/-- Three requests for which less would be too much to say: a path that names no job since it is no
text, a header that is a number but for white space outside ASCII, and one for the head alone. -/
theorem requests_out_of_line :
    (Route.ofPath? "/api/analysis/%ff" = some (.job "%ff") ∧ (∀ job, ¬ NamesJob "%ff" job) ∧
      ∃ answer, handle Small.settings false (Small.asking "GET" "/api/analysis/%ff" "1")
        = .done answer ∧ answer.status = 400) ∧
    (Text.trim "\u00a01" = "1" ∧
      ∃ answer, handle Small.settings false (Small.asking "GET" "/api/analysis/stats" "\u00a01")
        = .done answer ∧ answer.status = 401) ∧
    ∃ image, handle Small.settings false (Small.asking "HEAD" "/api/analysis/stats" "1")
        = (Desk.userStats 1).map image ∧ ∀ result, (image result).body = .empty := by
  have hnone : ∀ text, ¬ Spells "%ff" text := by
    have hbytes : Text.ofBytes? (Text.percentDecoded (Text.bytes "%ff")) = none := by decide +kernel
    simp [Spells, hbytes]
  have hstats : Route.ofPath? "/api/analysis/stats" = some .stats := by decide +kernel
  have hff : Route.ofPath? "/api/analysis/%ff" = some (.job "%ff") := by decide +kernel
  refine ⟨⟨hff, ?_, ?_⟩, ⟨by decide +kernel, ?_⟩, ?_⟩
  · rintro job ⟨text, htext, -⟩
    exact hnone text htext
  · have huser : (Small.asking "GET" "/api/analysis/%ff" "1").NamesUser 1 :=
      requester?_eq_some_iff.mp (by decide +kernel)
    exact handle_of_turnsAway hff (by decide) (by decide +kernel : _ = some Access.look) huser
      (.noText rfl hnone)
  · have hstranger : ∀ user, ¬ (Small.asking "GET" "/api/analysis/stats" "\u00a01").NamesUser user :=
      requester?_eq_none_iff.mp (by decide +kernel)
    exact handle_of_stranger hstats (by decide) (by decide +kernel : _ = some Access.look) hstranger
  · have huser : (Small.asking "HEAD" "/api/analysis/stats" "1").NamesUser 1 :=
      requester?_eq_some_iff.mp (by decide +kernel)
    obtain ⟨image, hcall, himage⟩ := handle_of_asks hstats (by decide)
      (by decide +kernel : _ = some Access.look) huser Asks.stats
    refine ⟨image, hcall, fun result => ?_⟩
    obtain ⟨json, -, hbody⟩ := himage result
    exact hbody

end AnalysisDesk
