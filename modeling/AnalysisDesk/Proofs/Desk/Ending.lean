/-
The manners of those who end jobs.

An ingest reads where the job stands, writes, and reads again if its write came
too late.  A cancellation reads, writes, reads again, and tells the analyzer if it
was its own write that ended the job.  A sweep lists the jobs that have waited too
long and goes through the list.  In all three a job is ended by one conditional
write, and the analyzer is told only by those whose write was taken.

A poller ingests, too, after some exchanges of its own, so the tables of an ingest
are told from the milestones on with which it begins.
-/
import AnalysisDesk.Proofs.Desk.Manners

namespace AnalysisDesk

/-- The write that fails a job after it took too long. -/
def Exchange.timedOut (settings : DeskSettings) (now : Instant) (job : Job) (taken : Bool) :
    Exchange :=
  ⟨.write (.failJob job.id job.status (Desk.timeoutReason settings job.status) (some now)),
    .ok taken⟩

/-- Whether a conditional write was taken. -/
def isTaken : Except StoreError Bool → Bool
  | .ok taken => taken
  | .error _ => false

/-- The job that an exchange has ended. -/
def Exchange.ended? : Exchange → Option JobId
  | ⟨.write (.failJob job _ _ _), answer⟩ => if isTaken answer then some job else none
  | ⟨.write (.cancelJob job _), answer⟩ => if isTaken answer then some job else none
  | ⟨.write (.applyReport job _), answer⟩ => if isTaken answer then some job else none
  | _ => none

/-- Whether an exchange has ended a job. -/
def Exchange.ends (x : Exchange) : Bool := x.ended?.isSome

theorem Exchange.isMilestone_of_ends {x : Exchange} (h : x.ends = true) : x.isMilestone = true := by
  obtain ⟨action, answer⟩ := x
  cases action with
  | write change => rfl
  | _ => exact Bool.noConfusion h

theorem mem_milestones_of_ends {past : List Exchange} {x : Exchange} (hmem : x ∈ past)
    (h : x.ends = true) : x ∈ milestones past :=
  List.mem_filter.mpr ⟨hmem, Exchange.isMilestone_of_ends h⟩

theorem mem_milestones_of_ended {past : List Exchange} {x : Exchange} {job : JobId} (hmem : x ∈ past)
    (h : x.ended? = some job) : x ∈ milestones past :=
  mem_milestones_of_ends hmem (by rw [Exchange.ends, h]; rfl)

theorem Exchange.ne_of_ended {x y : Exchange} {job : JobId} (h : x.ended? = some job)
    (hy : y.ended? = none) : x ≠ y := by
  rintro rfl
  rw [hy] at h
  exact nomatch h

theorem countP_ends (past : List Exchange) :
    past.countP Exchange.ends = (milestones past).countP Exchange.ends := by
  rw [milestones, List.countP_filter]
  refine List.countP_congr fun x _ => ?_
  rw [Bool.and_eq_true]
  exact ⟨fun h => ⟨h, Exchange.isMilestone_of_ends h⟩, And.left⟩

/-- The analyzer has been told to drop a job under its handle, if it had one. -/
def Told (past : List Exchange) (job : Job) : Prop :=
  ∀ handle, job.externalHandle = some handle →
    ∃ answer, (⟨.abandon job.id handle, answer⟩ : Exchange) ∈ past

theorem Told.mono {past past' : List Exchange} {job : Job} (h : Told past job)
    (hsub : past ⊆ past') : Told past' job := by
  intro handle hhandle
  obtain ⟨answer, hmem⟩ := h handle hhandle
  exact ⟨answer, hsub hmem⟩

namespace Desk

/-! ### Ingesting -/

section Ingesting

variable (base : List Exchange) (job : JobId) (report : Report)

/-- The milestones of an ingest that has read the job. -/
def afterReading (current : Job) : List Exchange := ⟨.query (.job job), .ok (some current)⟩ :: base

/-- What an ingest writes, and whether that was taken. -/
inductive IngestWrote : Exchange → Bool → Prop
  | malformed (problem : ReportProblem) (hcheck : report.check = .error problem) (taken : Bool) :
      IngestWrote ⟨.write (.failJob job .processing (malformedReason problem.message) none),
        .ok taken⟩ taken
  | checked (checked : CheckedReport) (hcheck : report.check = .ok checked) (taken : Bool) :
      IngestWrote ⟨.write (.applyReport job checked), .ok taken⟩ taken

/-- What an ingest may do after some milestones. -/
inductive IngestMay : List Exchange → Action → Prop
  | look : IngestMay base (.query (.job job))
  | refuse (current : Job) (hstatus : current.status = .processing) (problem : ReportProblem)
      (hcheck : report.check = .error problem) :
      IngestMay (afterReading base job current)
        (.write (.failJob job .processing (malformedReason problem.message) none))
  | apply (current : Job) (hstatus : current.status = .processing) (checked : CheckedReport)
      (hcheck : report.check = .ok checked) :
      IngestMay (afterReading base job current) (.write (.applyReport job checked))
  | lookAgain (current : Job) (x : Exchange) (hwrote : IngestWrote job report x false) :
      IngestMay (x :: afterReading base job current) (.query (.job job))

/-- How an ingest may end. -/
inductive IngestEnds (past : List Exchange) : Except DeskError IngestOutcome → Prop
  | storage (cause : StoreError) (x : Exchange) (hmem : x ∈ past) (hfailed : x.Failed) :
      IngestEnds past (.error (.storage cause))
  | gone (h : milestones past = ⟨.query (.job job), .ok none⟩ :: base) :
      IngestEnds past (.error .notFound)
  | idle (current : Job) (h : milestones past = afterReading base job current)
      (hstatus : current.status ≠ .processing) :
      IngestEnds past (.ok (.ignored current.status))
  | malformed (current : Job) (problem : ReportProblem) (hcheck : report.check = .error problem)
      (h : milestones past =
        ⟨.write (.failJob job .processing (malformedReason problem.message) none), .ok true⟩ ::
          afterReading base job current) :
      IngestEnds past (.error (.malformedResult problem.message))
  | applied (current : Job) (checked : CheckedReport) (hcheck : report.check = .ok checked)
      (h : milestones past =
        ⟨.write (.applyReport job checked), .ok true⟩ :: afterReading base job current) :
      IngestEnds past (.ok (.applied checked.status))
  | overtaken (current later : Job) (x : Exchange) (hwrote : IngestWrote job report x false)
      (h : milestones past =
        ⟨.query (.job job), .ok (some later)⟩ :: x :: afterReading base job current) :
      IngestEnds past (.ok (.ignored later.status))
  | lost (current : Job) (x : Exchange) (hwrote : IngestWrote job report x false)
      (h : milestones past =
        ⟨.query (.job job), .ok none⟩ :: x :: afterReading base job current) :
      IngestEnds past (.error .notFound)

variable {base job report}

theorem IngestMay.atMilestones {past ms : List Exchange} {action : Action}
    (hpast : milestones past = ms) (hmay : IngestMay base job report ms action) :
    IngestMay base job report (milestones past) action :=
  hpast ▸ hmay

/-- A flow of ingesting keeps to both tables. -/
abbrev IngestKeeps (base : List Exchange) (job : JobId) (report : Report) (past : List Exchange)
    (flow : DeskCall IngestOutcome) : Prop :=
  flow.Keeps (fun past action => IngestMay base job report (milestones past) action)
    (IngestEnds base job report) past

/-- A write that came too late. -/
private theorem ignored_keeps {past : List Exchange} {current : Job} {x : Exchange}
    (hwrote : IngestWrote job report x false)
    (hpast : milestones past = x :: afterReading base job current) :
    IngestKeeps base job report past
      (currentStatus job fun status => .done (.ok (.ignored status))) := by
  refine ⟨IngestMay.atMilestones hpast (.lookAgain current x hwrote), fun answer => ?_⟩
  have hlooked : milestones (⟨.query (.job job), answer⟩ :: past)
      = ⟨.query (.job job), answer⟩ :: x :: afterReading base job current := by
    rw [milestones_cons_of_milestone rfl, hpast]
  match answer with
  | .error cause => exact .storage cause _ (List.mem_cons_self ..) ⟨cause, rfl⟩
  | .ok none => exact .lost current x hwrote hlooked
  | .ok (some later) => exact .overtaken current later x hwrote hlooked

/-- **What an ingest does**, whatever it is answered. -/
theorem ingest_keeps (job : JobId) (report : Report) {past : List Exchange}
    (hpast : milestones past = base) :
    IngestKeeps base job report past (ingest job report) := by
  refine ⟨IngestMay.atMilestones hpast .look, fun answer => ?_⟩
  have hlooked : milestones (⟨.query (.job job), answer⟩ :: past)
      = ⟨.query (.job job), answer⟩ :: base := by
    rw [milestones_cons_of_milestone rfl, hpast]
  match answer with
  | .error cause => exact .storage cause _ (List.mem_cons_self ..) ⟨cause, rfl⟩
  | .ok none => exact .gone hlooked
  | .ok (some current) =>
      show IngestKeeps base job report _ (if current.status = .processing then _ else _)
      by_cases hstatus : current.status = .processing
      · rw [if_pos hstatus]
        cases hcheck : report.check with
        | error problem =>
            refine ⟨IngestMay.atMilestones hlooked (.refuse current hstatus problem hcheck),
              fun answer => ?_⟩
            have hwrote := (milestones_cons_of_milestone
              (x := ⟨.write (.failJob job .processing (malformedReason problem.message) none),
                answer⟩) rfl _).trans (congrArg _ hlooked)
            match answer with
            | .error cause => exact .storage cause _ (List.mem_cons_self ..) ⟨cause, rfl⟩
            | .ok true => exact .malformed current problem hcheck hwrote
            | .ok false => exact ignored_keeps (.malformed problem hcheck false) hwrote
        | ok checked =>
            refine ⟨IngestMay.atMilestones hlooked (.apply current hstatus checked hcheck),
              fun answer => ?_⟩
            have hwrote := (milestones_cons_of_milestone
              (x := ⟨.write (.applyReport job checked), answer⟩) rfl _).trans (congrArg _ hlooked)
            match answer with
            | .error cause => exact .storage cause _ (List.mem_cons_self ..) ⟨cause, rfl⟩
            | .ok true => exact .applied current checked hcheck hwrote
            | .ok false => exact ignored_keeps (.checked checked hcheck false) hwrote
      · rw [if_neg hstatus]
        exact .idle current hlooked hstatus

end Ingesting

/-! ### Cancelling -/

section Cancelling

variable (job : JobId) (requester : Int)

/-- The milestones of a cancellation that has written. -/
def afterCancel (found : Job) (taken : Bool) : List Exchange :=
  [⟨.write (.cancelJob job cancelReason), .ok taken⟩,
    ⟨.query (.ownedJob job requester), .ok (some found)⟩]

/-- The milestones of a cancellation that has ended the watch. -/
def afterStop (found current : Job) : List Exchange :=
  ⟨.stopPoller job, ()⟩ :: ⟨.query (.job job), .ok (some current)⟩ ::
    afterCancel job requester found true

/-- What a cancellation may do after some milestones. -/
inductive CancelMay : List Exchange → Action → Prop
  | look : CancelMay [] (.query (.ownedJob job requester))
  | write (found : Job) (hactive : found.status.isActive = true) :
      CancelMay [⟨.query (.ownedJob job requester), .ok (some found)⟩]
        (.write (.cancelJob job cancelReason))
  | lookAgain (found : Job) (taken : Bool) :
      CancelMay (afterCancel job requester found taken) (.query (.job job))
  | stop (found current : Job) :
      CancelMay (⟨.query (.job job), .ok (some current)⟩ :: afterCancel job requester found true)
        (.stopPoller job)
  | abandon (found current : Job) (handle : String) (hhandle : current.externalHandle = some handle) :
      CancelMay (afterStop job requester found current) (.abandon job handle)
  | sleep (ms : List Exchange) (span : Span) : CancelMay ms (.sleep span)

/-- How a cancellation may end. -/
inductive CancelEnds (past : List Exchange) : Except DeskError Job → Prop
  | storage (cause : StoreError) (x : Exchange) (hmem : x ∈ past) (hfailed : x.Failed) :
      CancelEnds past (.error (.storage cause))
  | notFound (h : milestones past = [⟨.query (.ownedJob job requester), .ok none⟩]) :
      CancelEnds past (.error .notFound)
  | idle (found : Job) (h : milestones past = [⟨.query (.ownedJob job requester), .ok (some found)⟩])
      (hover : found.status.isActive = false) :
      CancelEnds past (.error (.notCancellable found.status))
  | gone (found : Job) (taken : Bool)
      (h : milestones past =
        ⟨.query (.job job), .ok none⟩ :: afterCancel job requester found taken) :
      CancelEnds past (.error .notFound)
  | overtaken (found current : Job)
      (h : milestones past =
        ⟨.query (.job job), .ok (some current)⟩ :: afterCancel job requester found false) :
      CancelEnds past (.error (.notCancellable current.status))
  | cancelled (found current : Job) (h : milestones past = afterStop job requester found current)
      (htold : ∀ handle, current.externalHandle = some handle →
        ∃ answer, (⟨.abandon job handle, answer⟩ : Exchange) ∈ past) :
      CancelEnds past (.ok current)

variable {job requester} {settings : DeskSettings}

private theorem CancelMay.atMilestones {past ms : List Exchange} {action : Action}
    (hpast : milestones past = ms) (hmay : CancelMay job requester ms action) :
    CancelMay job requester (milestones past) action :=
  hpast ▸ hmay

/-- **What a cancellation does**, whatever it is answered. -/
theorem cancel_keeps (settings : DeskSettings) (job : JobId) (requester : Int) :
    (cancel settings job requester).Keeps
      (fun past action => CancelMay job requester (milestones past) action)
      (CancelEnds job requester) [] := by
  refine ⟨.look, fun answer => ?_⟩
  match answer with
  | .error cause => exact .storage cause _ (List.mem_cons_self ..) ⟨cause, rfl⟩
  | .ok none => exact .notFound rfl
  | .ok (some found) =>
      show (if found.status.isActive = true then _ else _ : DeskCall Job).Keeps _ _ _
      by_cases hactive : found.status.isActive = true
      · rw [if_pos hactive]
        refine ⟨CancelMay.write found hactive, fun answer => ?_⟩
        match answer with
        | .error cause => exact .storage cause _ (List.mem_cons_self ..) ⟨cause, rfl⟩
        | .ok taken =>
            refine ⟨CancelMay.lookAgain found taken, fun answer => ?_⟩
            match answer, taken with
            | .error cause, _ => exact .storage cause _ (List.mem_cons_self ..) ⟨cause, rfl⟩
            | .ok none, taken => exact .gone found taken rfl
            | .ok (some current), false => exact .overtaken found current rfl
            | .ok (some current), true =>
                refine ⟨CancelMay.stop found current, fun _ => ?_⟩
                refine abandonIfKnown_keeps (afterStop job requester found current)
                  ?_ ?_ rfl ?_
                · intro past handle hhandle h
                  exact CancelMay.atMilestones h (.abandon found current handle hhandle)
                · intro past span _
                  exact CancelMay.sleep _ span
                · intro past _ h htold
                  exact .cancelled found current h htold
      · rw [if_neg hactive]
        exact .idle found rfl (by simpa using hactive)

/-- How a cancellation ends that has ended a job: it was its own job, and the cancellation has told
the analyzer unless the store has lost the job. -/
theorem CancelEnds.of_ended {past : List Exchange} {result : Except DeskError Job}
    (h : CancelEnds job requester past result) {x : Exchange} (hx : x ∈ past) {ended : JobId}
    (hended : x.ended? = some ended) :
    (∃ y ∈ past, y.Failed) ∨
    (ended = job ∧ ((∃ found, milestones past =
        ⟨.query (.job job), .ok none⟩ :: afterCancel job requester found true) ∨
      ∃ found current, result = .ok current ∧
        milestones past = afterStop job requester found current ∧
        ∀ handle, current.externalHandle = some handle →
          ∃ answer, (⟨.abandon job handle, answer⟩ : Exchange) ∈ past)) := by
  have hmem := mem_milestones_of_ended hx hended
  -- of the milestones of a cancellation only its write can have ended a job
  have hcancel : ∀ {found : Job} {taken : Bool} (newer : List Exchange),
      (∀ y ∈ newer, y.ended? = none) → milestones past = newer ++ afterCancel job requester found taken →
      ended = job ∧ taken = true := by
    intro found taken newer hnewer hms
    rw [hms] at hmem
    rcases List.mem_append.mp hmem with hc | hmem
    · exact absurd rfl (Exchange.ne_of_ended hended (hnewer x hc))
    · simp only [afterCancel, List.mem_cons, List.not_mem_nil, or_false] at hmem
      rcases hmem with rfl | hc
      · cases taken
        · exact nomatch hended
        · exact ⟨(Option.some.inj hended).symm, rfl⟩
      · exact absurd hc (Exchange.ne_of_ended hended rfl)
  cases h with
  | storage cause y hy hfailed => exact Or.inl ⟨y, hy, hfailed⟩
  | notFound hms =>
      rw [hms] at hmem
      exact absurd (List.mem_singleton.mp hmem) (Exchange.ne_of_ended hended rfl)
  | idle found hms =>
      rw [hms] at hmem
      exact absurd (List.mem_singleton.mp hmem) (Exchange.ne_of_ended hended rfl)
  | gone found taken hms =>
      obtain ⟨hjob, rfl⟩ := hcancel [_] (by simp [Exchange.ended?]) hms
      exact Or.inr ⟨hjob, Or.inl ⟨found, hms⟩⟩
  | overtaken found current hms =>
      have hc := (hcancel [_] (by simp [Exchange.ended?]) hms).2
      exact absurd hc Bool.false_ne_true
  | cancelled found current hms htold =>
      have hjob := (hcancel [_, _] (by simp [Exchange.ended?]) hms).1
      exact Or.inr ⟨hjob, Or.inr ⟨found, current, rfl, hms, htold⟩⟩

end Cancelling

/-! ### Sweeping -/

section Sweeping

variable (settings : DeskSettings) (now : Instant)

/-- The milestones of a sweep that has gone through part of its list. -/
def afterListing (oldest : Instant) (jobs : List Job) (tried : List Exchange) : List Exchange :=
  tried ++ [⟨.query (.staleJobs oldest), .ok jobs⟩]

/-- What a sweep may do after some milestones. -/
inductive SweepMay : List Exchange → Action → Prop
  | look (oldest : Instant) (hcutoff : cutoff settings now = .ok oldest) :
      SweepMay [] (.query (.staleJobs oldest))
  | fail (oldest : Instant) (jobs : List Job) (tried : List Exchange) (job : Job) (hmem : job ∈ jobs) :
      SweepMay (afterListing oldest jobs tried)
        (.write (.failJob job.id job.status (timeoutReason settings job.status) (some now)))
  | stop (oldest : Instant) (jobs : List Job) (tried : List Exchange) (job : Job) (hmem : job ∈ jobs) :
      SweepMay (.timedOut settings now job true :: afterListing oldest jobs tried)
        (.stopPoller job.id)
  | abandon (oldest : Instant) (jobs : List Job) (tried : List Exchange) (job : Job)
      (hmem : job ∈ jobs) (handle : String) (hhandle : job.externalHandle = some handle) :
      SweepMay (⟨.stopPoller job.id, ()⟩ :: .timedOut settings now job true ::
        afterListing oldest jobs tried) (.abandon job.id handle)
  | sleep (ms : List Exchange) (span : Span) : SweepMay ms (.sleep span)

/-- How a sweep may end. -/
inductive SweepEnds (past : List Exchange) : Except DeskError Nat → Prop
  | storage (cause : StoreError) (x : Exchange) (hmem : x ∈ past) (hfailed : x.Failed) :
      SweepEnds past (.error (.storage cause))
  | outOfRange (cause : StoreError) (hcutoff : cutoff settings now = .error cause)
      (h : milestones past = []) : SweepEnds past (.error (.storage cause))
  | swept (oldest : Instant) (jobs : List Job) (tried : List Exchange)
      (h : milestones past = afterListing oldest jobs tried)
      (htold : ∀ x ∈ past, x.ends = true →
        ∃ job ∈ jobs, x = .timedOut settings now job true ∧ Told past job) :
      SweepEnds past (.ok (past.countP Exchange.ends))

variable {settings now}

private theorem SweepMay.atMilestones {past ms : List Exchange} {action : Action}
    (hpast : milestones past = ms) (hmay : SweepMay settings now ms action) :
    SweepMay settings now (milestones past) action :=
  hpast ▸ hmay

/-- A flow of sweeping keeps to both tables. -/
abbrev SweepKeeps (settings : DeskSettings) (now : Instant) (past : List Exchange)
    (flow : DeskCall Nat) : Prop :=
  flow.Keeps (fun past action => SweepMay settings now (milestones past) action)
    (SweepEnds settings now) past

/-- What a sweep has done in passing: the jobs that it ended were on its list, and it has told the
analyzer about each of them. -/
private def SweptSoFar (settings : DeskSettings) (now : Instant) (jobs : List Job)
    (past : List Exchange) : Prop :=
  ∀ x ∈ past, x.ends = true → ∃ job ∈ jobs, x = .timedOut settings now job true ∧ Told past job

private theorem SweptSoFar.keep {jobs : List Job} {past past' : List Exchange}
    (h : SweptSoFar settings now jobs past) (hsub : past ⊆ past')
    (hends : ∀ x ∈ past', x.ends = true → x ∈ past) : SweptSoFar settings now jobs past' := by
  intro x hx hxends
  obtain ⟨job, hjob, heq, htold⟩ := h x (hends x hx hxends) hxends
  exact ⟨job, hjob, heq, htold.mono hsub⟩

/-- One more job has been ended, its poller stopped, and the analyzer told. -/
private theorem SweptSoFar.stopped {oldest : Instant} {jobs : List Job} {job : Job}
    {tried past past' : List Exchange} (h : SweptSoFar settings now jobs past)
    (hpast : milestones past = afterListing oldest jobs tried)
    (hpast' : milestones past' = ⟨.stopPoller job.id, ()⟩ ::
      .timedOut settings now job true :: afterListing oldest jobs tried)
    (hjob : job ∈ jobs) (hsub : past ⊆ past') (htold : Told past' job) :
    SweptSoFar settings now jobs past' := by
  intro x hx hends
  have hx' := mem_milestones_of_ends hx hends
  rw [hpast'] at hx'
  rcases List.mem_cons.mp hx' with rfl | hx'
  · exact Bool.noConfusion hends
  rcases List.mem_cons.mp hx' with rfl | hx'
  · exact ⟨job, hjob, rfl, htold⟩
  · rw [← hpast] at hx'
    obtain ⟨other, hother, heq, htold'⟩ := h x (mem_of_mem_milestones hx') hends
    exact ⟨other, hother, heq, htold'.mono hsub⟩

private theorem sweepJobs_keeps {oldest : Instant} {jobs : List Job} :
    ∀ (rest : List Job) (tried past : List Exchange) (swept : Nat), (∀ job ∈ rest, job ∈ jobs) →
      milestones past = afterListing oldest jobs tried → SweptSoFar settings now jobs past →
      swept = past.countP Exchange.ends →
      SweepKeeps settings now past (sweepJobs settings now rest swept) := by
  intro rest
  induction rest with
  | nil =>
      intro tried past swept _ hpast hsofar hswept
      rw [hswept]
      exact .swept oldest jobs tried hpast hsofar
  | cons job rest ih =>
      intro tried past swept hrest hpast hsofar hswept
      have hjob : job ∈ jobs := hrest job (List.mem_cons_self ..)
      have hrest' : ∀ other ∈ rest, other ∈ jobs := fun other h =>
        hrest other (List.mem_cons_of_mem _ h)
      refine ⟨SweepMay.atMilestones hpast (.fail oldest jobs tried job hjob), fun answer => ?_⟩
      have hfailed : ∀ taken : Bool, milestones (.timedOut settings now job taken :: past)
          = .timedOut settings now job taken :: afterListing oldest jobs tried := by
        intro taken
        rw [milestones_cons_of_milestone rfl, hpast]
      match answer with
      | .error cause => exact .storage cause _ (List.mem_cons_self ..) ⟨cause, rfl⟩
      | .ok false =>
          refine ih (.timedOut settings now job false :: tried) _ swept hrest' (hfailed false) ?_ ?_
          · refine hsofar.keep (List.subset_cons_self _ _) fun x hx hends => ?_
            rcases List.mem_cons.mp hx with rfl | hx
            · exact Bool.noConfusion hends
            · exact hx
          · rw [hswept]; rfl
      | .ok true =>
          refine ⟨SweepMay.atMilestones (hfailed true) (.stop oldest jobs tried job hjob),
            fun _ => ?_⟩
          have hstopped : milestones (⟨.stopPoller job.id, ()⟩ ::
              .timedOut settings now job true :: past) = ⟨.stopPoller job.id, ()⟩ ::
                .timedOut settings now job true :: afterListing oldest jobs tried := by
            rw [milestones_cons_of_milestone rfl, hfailed]
          refine abandonIfKnown_keeps _ ?_ ?_ hstopped ?_
          · intro past' handle hhandle h
            exact SweepMay.atMilestones h (.abandon oldest jobs tried job hjob handle hhandle)
          · intro past' span _
            exact SweepMay.sleep _ span
          · intro past' hsuffix h htold
            have hsub : past ⊆ past' := fun x hx =>
              hsuffix.subset (List.mem_cons_of_mem _ (List.mem_cons_of_mem _ hx))
            refine ih (⟨.stopPoller job.id, ()⟩ :: .timedOut settings now job true :: tried) past' _
              hrest' h (hsofar.stopped hpast h hjob hsub htold) ?_
            have hstop : ¬ Exchange.ends ⟨.stopPoller job.id, ()⟩ = true := Bool.false_ne_true
            have hended : (Exchange.timedOut settings now job true).ends = true := rfl
            rw [hswept, countP_ends past', h, countP_ends past, hpast,
              List.countP_cons_of_neg hstop, List.countP_cons_of_pos hended]

/-- **What a sweep does**, whatever it is answered. -/
theorem sweepAt_keeps (settings : DeskSettings) (now : Instant) {past : List Exchange}
    (hpast : milestones past = []) : SweepKeeps settings now past (sweepAt settings now) := by
  unfold sweepAt
  cases hcutoff : cutoff settings now with
  | error cause => exact .outOfRange cause hcutoff hpast
  | ok oldest =>
      refine ⟨SweepMay.atMilestones hpast (.look oldest hcutoff), fun answer => ?_⟩
      have hlisted : milestones (⟨.query (.staleJobs oldest), answer⟩ :: past)
          = [⟨.query (.staleJobs oldest), answer⟩] := by
        rw [milestones_cons_of_milestone rfl, hpast]
      match answer with
      | .error cause => exact .storage cause _ (List.mem_cons_self ..) ⟨cause, rfl⟩
      | .ok jobs =>
          have hnone : ∀ x ∈ (⟨.query (.staleJobs oldest), .ok jobs⟩ :: past : List Exchange),
              x.ends = false := by
            intro x hx
            cases hends : x.ends with
            | false => rfl
            | true =>
                have hx' := mem_milestones_of_ends hx hends
                rw [hlisted, List.mem_singleton] at hx'
                rw [hx'] at hends
                exact Bool.noConfusion hends
          refine sweepJobs_keeps jobs [] _ 0 (fun _ h => h) hlisted ?_ ?_
          · intro x hx hends
            rw [hnone x hx] at hends
            exact Bool.noConfusion hends
          · rw [eq_comm, List.countP_eq_zero]
            intro x hx hends
            rw [hnone x hx] at hends
            exact Bool.noConfusion hends

end Sweeping

end Desk

end AnalysisDesk
