/-
Who watches a job, and when its poller may go.

A submission whose mark was taken asks for the time and starts the poller, one
right after the other, so that no time passes between the two; apart from that
only resuming starts pollers, for jobs that the store has listed.  A poller in turn
leaves only if it was shown that its job is not processing any more, and while it
expires its job it waits for the analyzer only after its own write has ended the
job.

These are manners again, told by all exchanges and not by the milestones alone.
-/
import AnalysisDesk.Proofs.Desk.Shift

namespace AnalysisDesk

theorem Flow.Keeps.and {α : Type} {may may' : List Exchange → Action → Prop}
    {ends ends' : List Exchange → α → Prop} : ∀ {flow : Flow α} {past : List Exchange},
      flow.Keeps may ends past → flow.Keeps may' ends' past →
      flow.Keeps (fun past action => may past action ∧ may' past action)
        (fun past result => ends past result ∧ ends' past result) past := by
  intro flow
  induction flow with
  | done result => exact fun h h' => ⟨h, h'⟩
  | collapse cause => exact fun h _ => h
  | act action next ih => exact fun h h' => ⟨⟨h.1, h'.1⟩, fun answer => ih answer (h.2 answer) (h'.2 answer)⟩

/-! ### Starting to watch -/

/-- The mark of a job that was taken. -/
def Exchange.marked (job : JobId) (handle : String) : Exchange :=
  ⟨.write (.markDispatched job handle), .ok true⟩

/-- The last thing somebody did was to mark a job, or to look at the clock after that. -/
inductive HandingOver (past : List Exchange) (job : JobId) : Prop
  | marked (handle : String) (rest : List Exchange) (h : past = .marked job handle :: rest)
  | timed (handle : String) (t : Instant) (rest : List Exchange)
      (h : past = ⟨.now, t⟩ :: .marked job handle :: rest)

/-- Where the time comes from with which a watch is begun. -/
inductive MayWatch (past : List Exchange) (job : JobId) (handle : String) (t : Instant) : Prop
  | marked (rest : List Exchange) (h : past = ⟨.now, t⟩ :: .marked job handle :: rest)
  | listed (jobs : List Job) (hlisted : (⟨.query .processingJobs, .ok jobs⟩ : Exchange) ∈ past)
      (listed : Job) (hmem : listed ∈ jobs) (hid : listed.id = job)
      (hdispatched : listed.dispatchedAt = some t)

/-- What may be done by somebody who begins watches promptly. -/
structure Prompt (past : List Exchange) (action : Action) : Prop where
  clock : ∀ job handle rest, past = .marked job handle :: rest → action = .now
  watch : ∀ job handle t rest, past = ⟨.now, t⟩ :: .marked job handle :: rest →
    action = .startPoller job handle t
  source : ∀ job handle t, action = .startPoller job handle t → MayWatch past job handle t

/-- No mark has been taken. -/
def Unmarked (past : List Exchange) : Prop := ∀ job handle, Exchange.marked job handle ∉ past

/-- A procedure begins watches promptly, and does not end before it has. -/
abbrev Flow.BeginsPromptly {α : Type} (past : List Exchange) (flow : Flow α) : Prop :=
  flow.Keeps Prompt (fun past _ => ∀ job, ¬ HandingOver past job) past

theorem Unmarked.of_milestones {past ms : List Exchange} (h : milestones past = ms)
    (hms : Unmarked ms) : Unmarked past := by
  intro job handle hmem
  refine hms job handle ?_
  rw [← h]
  exact List.mem_filter.mpr ⟨hmem, rfl⟩

theorem Unmarked.milestones {past : List Exchange} (h : Unmarked past) :
    Unmarked (milestones past) :=
  fun job handle hmem => h job handle (mem_of_mem_milestones hmem)

theorem Unmarked.cons {past : List Exchange} {x : Exchange} (h : Unmarked past)
    (hx : ∀ job handle, x ≠ .marked job handle) : Unmarked (x :: past) := by
  intro job handle hmem
  rcases List.mem_cons.mp hmem with hc | hmem
  · exact hx job handle hc.symm
  · exact h job handle hmem

theorem Unmarked.not_handingOver {past : List Exchange} (h : Unmarked past) (job : JobId) :
    ¬ HandingOver past job := by
  rintro (⟨handle, rest, rfl⟩ | ⟨handle, t, rest, rfl⟩)
  · exact h job handle (List.mem_cons_self ..)
  · exact h job handle (List.mem_cons_of_mem _ (List.mem_cons_self ..))

theorem Unmarked.prompt {past : List Exchange} (h : Unmarked past) {action : Action}
    (hsource : ∀ job handle t, action = .startPoller job handle t → MayWatch past job handle t) :
    Prompt past action := by
  refine ⟨?_, ?_, hsource⟩
  · rintro job handle rest rfl
    exact absurd (List.mem_cons_self ..) (h job handle)
  · rintro job handle t rest rfl
    exact absurd (List.mem_cons_of_mem _ (List.mem_cons_self ..)) (h job handle)

/-- Whoever marks nothing begins watches promptly, if they come from a listing. -/
private theorem beginsPromptly_of_tables {α : Type} {may : List Exchange → Action → Prop}
    {ends : List Exchange → α → Prop}
    (hmark : ∀ past job handle, ¬ may past (.write (.markDispatched job handle)))
    (hsource : ∀ past job handle t, may past (.startPoller job handle t) →
      MayWatch past job handle t) :
    ∀ {flow : Flow α} {past : List Exchange}, flow.Keeps may ends past → Unmarked past →
      flow.BeginsPromptly past := by
  intro flow
  induction flow with
  | done result => exact fun _ hpast job => hpast.not_handingOver job
  | collapse cause => exact fun h _ => h
  | act action next ih =>
      intro past h hpast
      refine ⟨hpast.prompt ?_, fun answer => ih answer (h.2 answer) (hpast.cons ?_)⟩
      · rintro job handle t rfl
        exact hsource past job handle t h.1
      · intro job handle hc
        refine hmark past job handle ?_
        rw [← show action = .write (.markDispatched job handle) from congrArg Sigma.fst hc]
        exact h.1

namespace Desk

/-- No action but the start of a watch needs a source. -/
private theorem prompt_of_unmarked {past : List Exchange} {action : Action} (h : Unmarked past)
    (haction : ∀ job handle t, action ≠ .startPoller job handle t) : Prompt past action :=
  h.prompt fun job handle t hc => absurd hc (haction job handle t)

private theorem unmarked_afterCreation {requester : Int} {request : SubmitRequest}
    {repository : Repository} {id : JobId} {job : Job} :
    Unmarked (afterCreation requester request repository id job) := by
  intro job' handle hmem
  simp only [afterCreation, afterDrawing, afterLookup, List.mem_cons, List.not_mem_nil,
    or_false] at hmem
  rcases hmem with hc | hc | hc <;> cases hc

private theorem dispatched_beginsPromptly {settings : DeskSettings} {id : JobId} {handle : String}
    {past : List Exchange} (hpast : Unmarked past) :
    (dispatched settings id handle).BeginsPromptly past := by
  refine ⟨prompt_of_unmarked hpast fun _ _ _ hc => (nomatch hc), fun answer => ?_⟩
  have hunmarked : ∀ {answer : Except StoreError Bool}, answer ≠ .ok true →
      Unmarked (⟨.write (.markDispatched id handle), answer⟩ :: past) := by
    intro answer hanswer
    refine hpast.cons fun job' handle' hc => hanswer ?_
    cases hc
    rfl
  match answer with
  | .error cause =>
      have hstill : Unmarked (⟨.write (.markDispatched id handle), .error cause⟩ :: past) :=
        hunmarked fun hc => nomatch hc
      exact fun job => hstill.not_handingOver job
  | .ok true =>
      refine ⟨⟨fun _ _ _ _ => rfl, fun _ _ _ _ hc => (nomatch hc), fun _ _ _ hc => (nomatch hc)⟩,
        fun t => ⟨⟨fun _ _ _ hc => (nomatch hc), fun job' handle' t' rest hc => ?_,
          fun job' handle' t' hc => ?_⟩, fun _ job' hc => ?_⟩⟩
      · cases hc
        rfl
      · cases hc
        exact .marked past rfl
      · rcases hc with ⟨_, _, hc⟩ | ⟨_, _, _, hc⟩ <;> exact nomatch hc
  | .ok false =>
      have hstill : Unmarked (⟨.write (.markDispatched id handle), .ok false⟩ :: past) :=
        hunmarked fun hc => nomatch hc
      refine ⟨prompt_of_unmarked hstill fun _ _ _ hc => (nomatch hc), fun answer => ?_⟩
      have hrecorded : Unmarked (⟨.write (.recordHandle id handle), answer⟩ ::
          ⟨.write (.markDispatched id handle), .ok false⟩ :: past) :=
        hstill.cons fun _ _ hc => nomatch hc
      match answer with
      | .error cause => exact fun job => hrecorded.not_handingOver job
      | .ok () =>
          refine abandonFrom_keeps _ ?_ ?_ _ _ _ rfl ?_
          · intro past' h
            exact prompt_of_unmarked (.of_milestones h hrecorded.milestones)
              fun _ _ _ hc => nomatch hc
          · intro past' span h
            exact prompt_of_unmarked (.of_milestones h hrecorded.milestones)
              fun _ _ _ hc => nomatch hc
          · intro past' _ h _
            have hlast : Unmarked past' := .of_milestones h hrecorded.milestones
            refine ⟨prompt_of_unmarked hlast fun _ _ _ hc => (nomatch hc), fun answer => ?_⟩
            have hchecked : Unmarked (⟨.query (.job id), answer⟩ :: past') :=
              hlast.cons fun _ _ hc => nomatch hc
            match answer with
            | .error _ | .ok none | .ok (some _) => exact fun job => hchecked.not_handingOver job

private theorem notDispatched_beginsPromptly {id : JobId} {fault : AnalyzerFault}
    {past : List Exchange} (hpast : Unmarked past) :
    (notDispatched id fault).BeginsPromptly past := by
  refine ⟨prompt_of_unmarked hpast fun _ _ _ hc => (nomatch hc), fun answer => ?_⟩
  have hstill : Unmarked (⟨.write (.failJob id .pending fault.text none), answer⟩ :: past) :=
    hpast.cons fun _ _ hc => nomatch hc
  match answer with
  | .error _ | .ok _ => exact fun job => hstill.not_handingOver job

/-- **A submission starts the poller right after its mark was taken.** -/
theorem submit_beginsPromptly (settings : DeskSettings) (requester : Int)
    (request : SubmitRequest) : (submit settings requester request).BeginsPromptly [] := by
  have hnothing : Unmarked [] := fun _ _ hmem => nomatch hmem
  refine ⟨prompt_of_unmarked hnothing fun _ _ _ hc => (nomatch hc), fun answer => ?_⟩
  have hlooked : Unmarked
      [⟨.query (.ownedRepository request.repositoryId requester), answer⟩] :=
    hnothing.cons fun _ _ hc => nomatch hc
  match answer with
  | .error _ | .ok none => exact fun job => hlooked.not_handingOver job
  | .ok (some repository) =>
      refine ⟨prompt_of_unmarked hlooked fun _ _ _ hc => (nomatch hc), fun id => ?_⟩
      have hdrawn : Unmarked (⟨.freshId, id⟩ ::
          [⟨.query (.ownedRepository request.repositoryId requester), .ok (some repository)⟩]) :=
        hlooked.cons fun _ _ hc => nomatch hc
      refine ⟨prompt_of_unmarked hdrawn fun _ _ _ hc => (nomatch hc), fun answer => ?_⟩
      have htried : Unmarked (⟨.write (.createJob id (request.newJob repository)), answer⟩ ::
          afterDrawing requester request repository id) := hdrawn.cons fun _ _ hc => nomatch hc
      match answer with
      | .error _ | .ok (.active _) => exact fun job => htried.not_handingOver job
      | .ok (.created job) =>
          refine enqueueFrom_keeps (afterCreation requester request repository id job)
            ?_ ?_ ?_ ?_ _ _ _ rfl
          · intro past h
            exact prompt_of_unmarked (.of_milestones h unmarked_afterCreation)
              fun _ _ _ hc => nomatch hc
          · intro past span h
            exact prompt_of_unmarked (.of_milestones h unmarked_afterCreation)
              fun _ _ _ hc => nomatch hc
          · intro past handle h
            exact dispatched_beginsPromptly
              (.of_milestones h (unmarked_afterCreation.cons fun _ _ hc => nomatch hc))
          · intro past fault h
            exact notDispatched_beginsPromptly (.of_milestones h unmarked_afterCreation)

end Desk

/-- **Whoever begins a watch does so promptly.** -/
theorem Duty.beginsPromptly (settings : DeskSettings) (duty : Duty) :
    (duty.flow settings).BeginsPromptly [] := by
  have hnothing : Unmarked [] := fun _ _ hmem => nomatch hmem
  by_cases hsubmit : ∃ requester request, duty = .submit requester request
  · obtain ⟨requester, request, rfl⟩ := hsubmit
    exact Desk.submit_beginsPromptly settings requester request
  · refine beginsPromptly_of_tables ?_ ?_ (duty.keeps settings) hnothing
    · intro past job handle hmay
      obtain ⟨requester, request, _, _, hduty, -⟩ := may_markDispatched hmay
      exact hsubmit ⟨requester, request, hduty⟩
    · intro past job handle t hmay
      rcases may_startPoller hmay with ⟨requester, request, _, _, hduty, -⟩ | rfl
      · exact absurd ⟨requester, request, hduty⟩ hsubmit
      · have hresume : Desk.ResumeMay (milestones past) (.startPoller job handle t) := hmay
        generalize hms : milestones past = ms at hresume
        cases hresume with
        | watch jobs watched listed hmem _ _ _ hdispatched =>
            refine .listed jobs (mem_of_mem_milestones ?_) listed hmem rfl hdispatched
            rw [hms]
            exact List.mem_append_right _ (List.mem_singleton_self _)

/-! ### Ceasing to watch -/

/-- An exchange by which the poller of a job learns that there is nothing to watch any more. -/
inductive Exchange.Dismisses (job : JobId) : Exchange → Prop
  | ended (x : Exchange) (h : x.ended? = some job) : Dismisses job x
  | seen (found : Option Job) (h : ∀ current, found = some current → current.status ≠ .processing) :
      Dismisses job ⟨.query (.job job), .ok found⟩
  | declined (change : StoreWrite) (answer : Except StoreError change.Answer)
      (hjob : change.job = job) (hsource : JobStatus.processing ∈ change.sources)
      (h : Exchange.Declined ⟨.write change, answer⟩) : Dismisses job ⟨.write change, answer⟩

/-- Something that the poller of a job has done has dismissed it, or the store has failed. -/
def Dismissed (job : JobId) (past : List Exchange) : Prop :=
  ∃ x ∈ past, x.Failed ∨ x.Dismisses job

namespace Desk

variable {job : JobId}

private theorem dismissed_of_fail {reason : String} {answer : Except StoreError Bool}
    {past : List Exchange} :
    Dismissed job (⟨.write (.failJob job .processing reason none), answer⟩ :: past) := by
  refine ⟨_, List.mem_cons_self .., ?_⟩
  match answer with
  | .error cause => exact Or.inl ⟨cause, rfl⟩
  | .ok true => exact Or.inr (.ended _ rfl)
  | .ok false => exact Or.inr (.declined _ _ rfl (List.mem_singleton_self _) rfl)

private theorem IngestWrote.dismisses {report : Report} {x : Exchange}
    (h : IngestWrote job report x false) : x.Dismisses job := by
  cases h with
  | malformed => exact .declined _ _ rfl (List.mem_singleton_self _) rfl
  | checked => exact .declined _ _ rfl (List.mem_singleton_self _) rfl

/-- However an ingest ends, the job is not processing afterwards. -/
private theorem IngestEnds.dismissed {base past : List Exchange} {report : Report}
    {result : Except DeskError IngestOutcome} (h : IngestEnds base job report past result) :
    Dismissed job past := by
  have hfirst : ∀ {x : Exchange} {rest : List Exchange}, milestones past = x :: rest →
      x.Dismisses job → Dismissed job past := by
    intro x rest hms hx
    refine ⟨x, mem_of_mem_milestones ?_, Or.inr hx⟩
    rw [hms]
    exact List.mem_cons_self ..
  have hsecond : ∀ {x y : Exchange} {rest : List Exchange}, milestones past = y :: x :: rest →
      x.Dismisses job → Dismissed job past := by
    intro x y rest hms hx
    refine ⟨x, mem_of_mem_milestones ?_, Or.inr hx⟩
    rw [hms]
    exact List.mem_cons_of_mem _ (List.mem_cons_self ..)
  cases h with
  | storage cause x hmem hfailed => exact ⟨x, hmem, Or.inl hfailed⟩
  | gone hms => exact hfirst hms (.seen none fun _ hc => nomatch hc)
  | idle current hms hstatus =>
      refine hfirst hms (.seen (some current) ?_)
      rintro _ ⟨⟩
      exact hstatus
  | malformed _ _ _ hms => exact hfirst hms (.ended _ rfl)
  | applied _ _ _ hms => exact hfirst hms (.ended _ rfl)
  | overtaken _ _ _ hwrote hms => exact hsecond hms hwrote.dismisses
  | lost _ _ hwrote hms => exact hsecond hms hwrote.dismisses

/-- **A check that ends the watch was dismissed.** -/
theorem checkJob_dismissed (job : JobId) (handle : String) :
    (checkJob job handle).Keeps (fun _ _ => True)
      (fun past goesOn => goesOn = false → Dismissed job past) [] := by
  refine ⟨trivial, fun answer => ?_⟩
  match answer with
  | .error _ => exact fun hc => nomatch hc
  | .ok none =>
      exact fun _ => ⟨_, List.mem_cons_self .., Or.inr (.seen none fun _ hc => nomatch hc)⟩
  | .ok (some current) =>
      show (if current.status = .processing then _ else _ : Flow Bool).Keeps _ _ _
      by_cases hstatus : current.status = .processing
      · rw [if_pos hstatus]
        refine ⟨trivial, fun answer => ?_⟩
        match answer with
        | .ok .underway | .error (.unavailable _) | .error (.unexpected _) =>
            exact fun hc => nomatch hc
        | .ok (.malformed _ _) | .error (.rejected _) =>
            exact ⟨trivial, fun _ _ => dismissed_of_fail⟩
        | .ok (.finished report) =>
            refine Flow.Keeps.map _ (Flow.Keeps.mono (fun _ _ _ => trivial) ?_
              (ingest_keeps job report rfl))
            exact fun past result hends _ => hends.dismissed
      · rw [if_neg hstatus]
        refine fun _ => ⟨_, List.mem_cons_self .., Or.inr (.seen (some current) ?_)⟩
        rintro _ ⟨⟩
        exact hstatus

/-- An expiry that waits has ended the job before. -/
def WaitsAfterEnding (job : JobId) (past : List Exchange) (action : Action) : Prop :=
  action.takesTime = true → ∃ x ∈ past, x.ended? = some job

/-- **An expiry waits only for a job that it has ended**, and it was dismissed when it is over. -/
theorem expireJob_dismissed (settings : DeskSettings) (job : JobId) :
    (expireJob settings job).Keeps (WaitsAfterEnding job) (fun past _ => Dismissed job past) [] := by
  refine ⟨fun hc => Bool.noConfusion hc, fun answer => ?_⟩
  match answer with
  | .error _ | .ok false => exact dismissed_of_fail
  | .ok true =>
      refine ⟨fun hc => Bool.noConfusion hc, fun answer => ?_⟩
      have hended : ∀ {past : List Exchange}, milestones past =
          ⟨.query (.job job), answer⟩ :: afterDeadline settings job true →
          ∃ x ∈ past, x.ended? = some job := by
        intro past hms
        refine ⟨⟨.write (.failJob job .processing (timeoutReason settings .processing) none),
          .ok true⟩, mem_of_mem_milestones ?_, rfl⟩
        rw [hms]
        exact List.mem_cons_of_mem _ (List.mem_cons_self ..)
      match answer with
      | .error _ | .ok none =>
          exact ⟨_, List.mem_cons_of_mem _ (List.mem_cons_self ..), Or.inr (.ended _ rfl)⟩
      | .ok (some current) =>
          refine abandonIfKnown_keeps
            (⟨.query (.job job), .ok (some current)⟩ :: afterDeadline settings job true)
            ?_ ?_ rfl ?_
          · exact fun past handle _ hms _ => hended hms
          · exact fun past span hms _ => hended hms
          · intro past _ hms _
            obtain ⟨x, hmem, hx⟩ := hended hms
            exact ⟨x, hmem, Or.inr (.ended x hx)⟩

end Desk

end AnalysisDesk
