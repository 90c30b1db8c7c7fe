/-
The manners of submitting.

A submission looks the repository up, draws an identifier, creates the job, hands
it to the analyzer and marks it as dispatched.  `SubmitMay` says which milestones
it has passed when it begins an action, `SubmitEnds` which ones it has passed when
it ends with a result.  Only a submission creates jobs, marks them or records
their handles, so these two tables are all there is to know about how a job gets
its handle.
-/
import AnalysisDesk.Proofs.Desk.Manners

namespace AnalysisDesk

namespace Desk

/-! ### The milestones of a submission, last one first -/

section Milestones

variable (requester : Int) (request : SubmitRequest) (repository : Repository) (id : JobId)
  (job : Job) (handle : String)

def afterLookup : List Exchange :=
  [⟨.query (.ownedRepository request.repositoryId requester), .ok (some repository)⟩]

def afterDrawing : List Exchange :=
  ⟨.freshId, id⟩ :: afterLookup requester request repository

def afterCreation : List Exchange :=
  ⟨.write (.createJob id (request.newJob repository)), .ok (.created job)⟩ ::
    afterDrawing requester request repository id

def afterHandover : List Exchange :=
  ⟨.enqueue (specOf job), .ok handle⟩ :: afterCreation requester request repository id job

def afterMark (changed : Bool) : List Exchange :=
  ⟨.write (.markDispatched id handle), .ok changed⟩ ::
    afterHandover requester request repository id job handle

def afterRecord : List Exchange :=
  ⟨.write (.recordHandle id handle), .ok ()⟩ ::
    afterMark requester request repository id job handle false

end Milestones

variable (requester : Int) (request : SubmitRequest)

/-- What a submission may do after some milestones. -/
inductive SubmitMay : List Exchange → Action → Prop
  | look : SubmitMay [] (.query (.ownedRepository request.repositoryId requester))
  | draw (repository : Repository) :
      SubmitMay (afterLookup requester request repository) .freshId
  | create (repository : Repository) (id : JobId) :
      SubmitMay (afterDrawing requester request repository id)
        (.write (.createJob id (request.newJob repository)))
  | enqueue (repository : Repository) (id : JobId) (job : Job) :
      SubmitMay (afterCreation requester request repository id job) (.enqueue (specOf job))
  | refuse (repository : Repository) (id : JobId) (job : Job) (fault : AnalyzerFault) :
      SubmitMay (afterCreation requester request repository id job)
        (.write (.failJob id .pending fault.text none))
  | mark (repository : Repository) (id : JobId) (job : Job) (handle : String) :
      SubmitMay (afterHandover requester request repository id job handle)
        (.write (.markDispatched id handle))
  | clock (repository : Repository) (id : JobId) (job : Job) (handle : String) :
      SubmitMay (afterMark requester request repository id job handle true) .now
  | watch (repository : Repository) (id : JobId) (job : Job) (handle : String) (t : Instant) :
      SubmitMay (afterMark requester request repository id job handle true)
        (.startPoller id handle t)
  | record (repository : Repository) (id : JobId) (job : Job) (handle : String) :
      SubmitMay (afterMark requester request repository id job handle false)
        (.write (.recordHandle id handle))
  | abandon (repository : Repository) (id : JobId) (job : Job) (handle : String) :
      SubmitMay (afterRecord requester request repository id job handle) (.abandon id handle)
  | check (repository : Repository) (id : JobId) (job : Job) (handle : String) :
      SubmitMay (afterRecord requester request repository id job handle) (.query (.job id))
  | sleep (ms : List Exchange) (span : Span) : SubmitMay ms (.sleep span)

/-- How a submission may end. -/
inductive SubmitEnds (past : List Exchange) : Except DeskError SubmitOutcome → Prop
  | storage (cause : StoreError) (x : Exchange) (hmem : x ∈ past) (hfailed : x.Failed) :
      SubmitEnds past (.error (.storage cause))
  | notFound
      (h : milestones past =
        [⟨.query (.ownedRepository request.repositoryId requester), .ok none⟩]) :
      SubmitEnds past (.error .notFound)
  | conflict (repository : Repository) (id existing : JobId)
      (h : milestones past =
        ⟨.write (.createJob id (request.newJob repository)), .ok (.active existing)⟩ ::
          afterDrawing requester request repository id) :
      SubmitEnds past (.error (.conflict existing))
  | refused (repository : Repository) (id : JobId) (job : Job) (fault : AnalyzerFault)
      (changed : Bool)
      (h : milestones past =
        ⟨.write (.failJob id .pending fault.text none), .ok changed⟩ ::
          afterCreation requester request repository id job) :
      SubmitEnds past (.error (.notDispatched fault.text))
  | dispatched (repository : Repository) (id : JobId) (job : Job) (handle : String) (t : Instant)
      (h : milestones past =
        ⟨.startPoller id handle t, ()⟩ ::
          afterMark requester request repository id job handle true) :
      SubmitEnds past (.ok ⟨id, some handle, .processing⟩)
  | overtaken (repository : Repository) (id : JobId) (job current : Job) (handle : String)
      (h : milestones past =
        ⟨.query (.job id), .ok (some current)⟩ ::
          afterRecord requester request repository id job handle)
      (htold : ∃ answer, (⟨.abandon id handle, answer⟩ : Exchange) ∈ past) :
      SubmitEnds past (.ok ⟨id, some handle, current.status⟩)
  | lost (repository : Repository) (id : JobId) (job : Job) (handle : String)
      (h : milestones past =
        ⟨.query (.job id), .ok none⟩ :: afterRecord requester request repository id job handle)
      (htold : ∃ answer, (⟨.abandon id handle, answer⟩ : Exchange) ∈ past) :
      SubmitEnds past (.error .notFound)

variable {requester request} {settings : DeskSettings}

private theorem SubmitMay.atMilestones {past ms : List Exchange} {action : Action}
    (hpast : milestones past = ms) (hmay : SubmitMay requester request ms action) :
    SubmitMay requester request (milestones past) action :=
  hpast ▸ hmay

/-- A flow of submission keeps to both tables. -/
abbrev SubmitKeeps (requester : Int) (request : SubmitRequest) (past : List Exchange)
    (flow : DeskCall SubmitOutcome) : Prop :=
  flow.Keeps (fun past action => SubmitMay requester request (milestones past) action)
    (SubmitEnds requester request) past

private theorem dispatched_keeps {repository : Repository} {id : JobId} {job : Job}
    {handle : String} {past : List Exchange}
    (hpast : milestones past = afterHandover requester request repository id job handle) :
    SubmitKeeps requester request past (dispatched settings id handle) := by
  refine ⟨SubmitMay.atMilestones hpast (.mark repository id job handle), fun answer => ?_⟩
  have hmarked : ∀ changed : Bool,
      milestones (⟨.write (.markDispatched id handle), .ok changed⟩ :: past)
        = afterMark requester request repository id job handle changed := by
    intro changed
    rw [milestones_cons_of_milestone rfl, hpast, afterMark]
  match answer with
  | .error cause => exact .storage cause _ (List.mem_cons_self ..) ⟨cause, rfl⟩
  | .ok true =>
      refine ⟨SubmitMay.atMilestones (hmarked true) (.clock repository id job handle), fun t => ?_⟩
      have htimed := hmarked true
      rw [← milestones_cons_now t] at htimed
      refine ⟨SubmitMay.atMilestones htimed (.watch repository id job handle t), fun _ => ?_⟩
      exact .dispatched repository id job handle t
        ((milestones_cons_of_milestone rfl _).trans (congrArg _ htimed))
  | .ok false =>
      refine ⟨SubmitMay.atMilestones (hmarked false) (.record repository id job handle), fun answer => ?_⟩
      match answer with
      | .error cause => exact .storage cause _ (List.mem_cons_self ..) ⟨cause, rfl⟩
      | .ok () =>
          have hrecorded : milestones (⟨.write (.recordHandle id handle), .ok ()⟩ ::
              ⟨.write (.markDispatched id handle), .ok false⟩ :: past)
              = afterRecord requester request repository id job handle := by
            rw [milestones_cons_of_milestone rfl, hmarked, afterRecord]
          refine abandonFrom_keeps (afterRecord requester request repository id job handle)
            ?_ ?_ _ _ _ hrecorded ?_
          · intro past' h
            exact SubmitMay.atMilestones h (.abandon repository id job handle)
          · intro past' span _
            exact SubmitMay.sleep _ span
          · intro past' _ h htold
            refine ⟨SubmitMay.atMilestones h (.check repository id job handle), fun answer => ?_⟩
            have hchecked : milestones (⟨.query (.job id), answer⟩ :: past')
                = ⟨.query (.job id), answer⟩ ::
                  afterRecord requester request repository id job handle := by
              rw [milestones_cons_of_milestone rfl, h]
            obtain ⟨told, htold⟩ := htold
            match answer with
            | .error cause => exact .storage cause _ (List.mem_cons_self ..) ⟨cause, rfl⟩
            | .ok none =>
                exact .lost repository id job handle hchecked
                  ⟨told, List.mem_cons_of_mem _ htold⟩
            | .ok (some current) =>
                exact .overtaken repository id job current handle hchecked
                  ⟨told, List.mem_cons_of_mem _ htold⟩

private theorem notDispatched_keeps {repository : Repository} {id : JobId} {job : Job}
    {fault : AnalyzerFault} {past : List Exchange}
    (hpast : milestones past = afterCreation requester request repository id job) :
    SubmitKeeps requester request past (notDispatched id fault) := by
  refine ⟨SubmitMay.atMilestones hpast (.refuse repository id job fault), fun answer => ?_⟩
  match answer with
  | .error cause => exact .storage cause _ (List.mem_cons_self ..) ⟨cause, rfl⟩
  | .ok changed =>
      refine .refused repository id job fault changed ?_
      rw [milestones_cons_of_milestone rfl, hpast]

/-- **What a submission does**, whatever it is answered. -/
theorem submit_keeps (settings : DeskSettings) (requester : Int) (request : SubmitRequest) :
    SubmitKeeps requester request [] (submit settings requester request) := by
  refine ⟨.look, fun answer => ?_⟩
  match answer with
  | .error cause => exact .storage cause _ (List.mem_cons_self ..) ⟨cause, rfl⟩
  | .ok none => exact .notFound rfl
  | .ok (some repository) =>
      refine ⟨.draw repository, fun id => ⟨.create repository id, fun answer => ?_⟩⟩
      match answer with
      | .error cause => exact .storage cause _ (List.mem_cons_self ..) ⟨cause, rfl⟩
      | .ok (.active existing) => exact .conflict repository id existing rfl
      | .ok (.created job) =>
          refine enqueueFrom_keeps (afterCreation requester request repository id job)
            ?_ ?_ ?_ ?_ _ _ _ rfl
          · intro past h
            exact SubmitMay.atMilestones h (.enqueue repository id job)
          · intro past span _
            exact SubmitMay.sleep _ span
          · intro past handle h
            exact dispatched_keeps h
          · intro past fault h
            exact notDispatched_keeps h

/-! ### After the handover -/

/-- Up to the creation of its job a submission hands nothing over. -/
theorem not_enqueue_of_creation {repository : Repository} {id : JobId} {job : Job}
    {spec : JobSpec} {answer : Except AnalyzerFault String} :
    (⟨.enqueue spec, answer⟩ : Exchange) ∉ afterCreation requester request repository id job := by
  intro h
  simp only [afterCreation, afterDrawing, afterLookup, List.mem_cons, List.not_mem_nil,
    or_false] at h
  rcases h with hc | hc | hc <;> exact nomatch hc

private theorem handed_over {repository : Repository} {id : JobId} {job : Job} {spec : JobSpec}
    {handle handle' : String}
    (h : (⟨.enqueue spec, .ok handle⟩ : Exchange) ∈
      afterHandover requester request repository id job handle') :
    spec = specOf job ∧ handle = handle' := by
  rcases List.mem_cons.mp h with heq | hmem
  · cases heq
    exact ⟨rfl, rfl⟩
  · exact absurd hmem not_enqueue_of_creation

/-- How a submission ends that has handed its job over: it has marked the job, or it was overtaken and
has told the analyzer. -/
theorem SubmitEnds.of_handover {past : List Exchange} {result : Except DeskError SubmitOutcome}
    (h : SubmitEnds requester request past result) {spec : JobSpec} {handle : String}
    (hx : (⟨.enqueue spec, .ok handle⟩ : Exchange) ∈ past) :
    (∃ y ∈ past, y.Failed) ∨ ∃ id job new, spec = specOf job ∧
      (⟨.write (.createJob id new), .ok (.created job)⟩ : Exchange) ∈ past ∧
      ((⟨.write (.markDispatched id handle), .ok true⟩ : Exchange) ∈ past ∨
        ∃ answer, (⟨.abandon id handle, answer⟩ : Exchange) ∈ past) := by
  have hmem : (⟨.enqueue spec, .ok handle⟩ : Exchange) ∈ milestones past :=
    List.mem_filter.mpr ⟨hx, rfl⟩
  have hcreated : ∀ (newer : List Exchange) {repository : Repository} {id : JobId} {job : Job},
      milestones past = newer ++ afterCreation requester request repository id job →
      (⟨.write (.createJob id (request.newJob repository)), .ok (.created job)⟩ : Exchange) ∈
        past := by
    intro newer repository id job hms
    refine mem_of_mem_milestones ?_
    rw [hms]
    exact List.mem_append_right _ (List.mem_cons_self ..)
  cases h with
  | storage cause y hy hfailed => exact Or.inl ⟨y, hy, hfailed⟩
  | notFound hms =>
      rw [hms] at hmem
      exact nomatch List.mem_singleton.mp hmem
  | conflict repository id existing hms =>
      rw [hms] at hmem
      simp only [afterDrawing, afterLookup, List.mem_cons, List.not_mem_nil, or_false] at hmem
      rcases hmem with hc | hc | hc <;> exact nomatch hc
  | refused repository id job fault changed hms =>
      rw [hms] at hmem
      rcases List.mem_cons.mp hmem with hc | hmem
      · exact nomatch hc
      · exact absurd hmem not_enqueue_of_creation
  | dispatched repository id job handle' t hms =>
      rw [hms] at hmem
      rcases List.mem_cons.mp hmem with hc | hmem
      · exact nomatch hc
      rcases List.mem_cons.mp hmem with hc | hmem
      · exact nomatch hc
      obtain ⟨hspec, rfl⟩ := handed_over hmem
      refine Or.inr ⟨id, job, _, hspec, hcreated [_, _, _] hms, Or.inl ?_⟩
      refine mem_of_mem_milestones ?_
      rw [hms]
      exact List.mem_cons_of_mem _ (List.mem_cons_self ..)
  | overtaken repository id job current handle' hms htold =>
      rw [hms] at hmem
      rcases List.mem_cons.mp hmem with hc | hmem
      · exact nomatch hc
      rcases List.mem_cons.mp hmem with hc | hmem
      · exact nomatch hc
      rcases List.mem_cons.mp hmem with hc | hmem
      · exact nomatch hc
      obtain ⟨hspec, rfl⟩ := handed_over hmem
      exact Or.inr ⟨id, job, _, hspec, hcreated [_, _, _, _] hms, Or.inr htold⟩
  | lost repository id job handle' hms htold =>
      rw [hms] at hmem
      rcases List.mem_cons.mp hmem with hc | hmem
      · exact nomatch hc
      rcases List.mem_cons.mp hmem with hc | hmem
      · exact nomatch hc
      rcases List.mem_cons.mp hmem with hc | hmem
      · exact nomatch hc
      obtain ⟨hspec, rfl⟩ := handed_over hmem
      exact Or.inr ⟨id, job, _, hspec, hcreated [_, _, _, _] hms, Or.inr htold⟩

end Desk

end AnalysisDesk
