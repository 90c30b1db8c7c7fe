/-
Jobs are handed over as they are stored, and only once.

A submission hands over the job that it has just created, and tells the analyzer what the row of
the job says.  It tries again only after a fault, and never more often than its policy allows; once
the analyzer has taken the job it does not ask again.  As a job has one creator, nobody else hands
it over either.

How often a submission tries is not told by its milestones, since a handover that fails leaves none.
`Sparing` counts the attempts instead: it is kept by the loop that tries again, and by everything
else for the simple reason that nothing else hands jobs over.
-/
import AnalysisDesk.Proofs.Desk.Watchers
import AnalysisDesk.Proofs.Desk.OneActive

namespace AnalysisDesk

/-! ### Attempts -/

/-- What an exchange hands to the analyzer, or tries to. -/
def Exchange.handed? : Exchange → Option JobSpec
  | ⟨.enqueue spec, _⟩ => some spec
  | _ => none

theorem Exchange.handed?_eq_some {x : Exchange} {spec : JobSpec} (h : x.handed? = some spec) :
    x.1 = .enqueue spec := by
  obtain ⟨action, answer⟩ := x
  cases action with
  | enqueue other => rw [Option.some.inj (show some other = some spec from h)]
  | _ => exact nomatch h

/-- How many attempts to hand something over there are among some exchanges. -/
def handovers (past : List Exchange) : Nat := past.countP fun x => x.handed?.isSome

/-- What may be done by somebody who tries to hand something over a number of times at most. -/
def Sparing (most : Nat) (past : List Exchange) (action : Action) : Prop :=
  ∀ spec, action = .enqueue spec → handovers past < most

/-- A procedure with a bound on its attempts to hand something over. -/
abbrev Flow.TriesAtMost {α : Type} (most : Nat) (past : List Exchange) (flow : Flow α) : Prop :=
  flow.Keeps (Sparing most) (fun _ _ => True) past

theorem Flow.Leads.handovers_le {α : Type} {flow flow' : Flow α} {past : List Exchange} {most : Nat}
    (h : flow.Leads past flow') (htries : flow.TriesAtMost most []) : handovers past ≤ most := by
  induction h with
  | start => exact Nat.zero_le most
  | @step past action next h answer ih =>
      have hmay := (h.keeps htries).1
      unfold handovers at *
      rw [List.countP_cons]
      by_cases hhands : (Exchange.handed? ⟨action, answer⟩).isSome = true
      · obtain ⟨spec, hspec⟩ := Option.isSome_iff_exists.mp hhands
        have hless := hmay spec (Exchange.handed?_eq_some hspec)
        unfold handovers at hless
        rw [if_pos hhands]
        omega
      · rw [if_neg hhands]
        omega

namespace Desk

variable {settings : DeskSettings} {most : Nat}

/-- The loop that tries again makes as many attempts as are left, and one. -/
private theorem enqueueFrom_triesAtMost {α : Type} {policy : RetryPolicy} {spec : JobSpec}
    {next : Except AnalyzerFault String → Flow α}
    (hnext : ∀ answer past, (next answer).TriesAtMost most past) :
    ∀ (left attempt : Nat) (past : List Exchange), handovers past + left < most →
      (enqueueFrom policy spec next left attempt).TriesAtMost most past := by
  intro left
  induction left with
  | zero => exact fun attempt past hleft => ⟨fun _ _ => hleft, fun answer => hnext answer _⟩
  | succ left ih =>
      intro attempt past hleft
      refine ⟨fun _ _ => by omega, fun answer => ?_⟩
      cases hpause : policy.pause? attempt answer with
      | none =>
          simp only [hpause]
          exact hnext answer _
      | some pause =>
          simp only [hpause]
          refine ⟨fun _ hc => (nomatch hc), fun slept => ih _ _ ?_⟩
          have hone : handovers (⟨.sleep pause, slept⟩ :: ⟨.enqueue spec, answer⟩ :: past)
              = handovers past + 1 := by
            simp [handovers, Exchange.handed?]
          omega

private theorem dispatched_triesAtMost {id : JobId} {handle : String} {past : List Exchange} :
    (dispatched settings id handle).TriesAtMost most past := by
  refine ⟨fun _ hc => (nomatch hc), fun answer => ?_⟩
  match answer with
  | .error cause => trivial
  | .ok true => exact ⟨fun _ hc => (nomatch hc), fun t => ⟨fun _ hc => (nomatch hc), fun _ => trivial⟩⟩
  | .ok false =>
      refine ⟨fun _ hc => (nomatch hc), fun answer => ?_⟩
      match answer with
      | .error cause => trivial
      | .ok () =>
          refine abandonFrom_keeps _ (fun _ _ _ hc => nomatch hc) (fun _ _ _ _ hc => nomatch hc)
            _ _ _ rfl fun past' _ _ _ => ⟨fun _ hc => (nomatch hc), fun answer => ?_⟩
          match answer with
          | .error cause => trivial
          | .ok none => trivial
          | .ok (some current) => trivial

private theorem notDispatched_triesAtMost {id : JobId} {fault : AnalyzerFault}
    {past : List Exchange} : (notDispatched id fault).TriesAtMost most past := by
  refine ⟨fun _ hc => (nomatch hc), fun answer => ?_⟩
  match answer with
  | .error cause => trivial
  | .ok changed => trivial

/-- A submission tries as often as its policy says. -/
theorem submit_triesAtMost (settings : DeskSettings) (requester : Int) (request : SubmitRequest) :
    (submit settings requester request).TriesAtMost (max 1 settings.retry.attempts) [] := by
  refine ⟨fun _ hc => (nomatch hc), fun answer => ?_⟩
  match answer with
  | .error cause => trivial
  | .ok none => trivial
  | .ok (some repository) =>
      refine ⟨fun _ hc => (nomatch hc), fun id => ⟨fun _ hc => (nomatch hc), fun answer => ?_⟩⟩
      match answer with
      | .error cause => trivial
      | .ok (.active existing) => trivial
      | .ok (.created job) =>
          refine enqueueFrom_triesAtMost (fun answer past => ?_) _ _ _ ?_
          · match answer with
            | .ok handle => exact dispatched_triesAtMost
            | .error fault => exact notDispatched_triesAtMost
          · have hnone : handovers [⟨.write (.createJob id (request.newJob repository)),
                .ok (.created job)⟩, ⟨.freshId, id⟩,
                ⟨.query (.ownedRepository request.repositoryId requester), .ok (some repository)⟩]
                = 0 := rfl
            rw [hnone]
            omega

end Desk

/-- **Whoever hands jobs over tries as often as the policy says.** -/
theorem Duty.triesAtMost (settings : DeskSettings) (duty : Duty) :
    (duty.flow settings).TriesAtMost (max 1 settings.retry.attempts) [] := by
  by_cases hsubmit : ∃ requester request, duty = .submit requester request
  · obtain ⟨requester, request, rfl⟩ := hsubmit
    exact Desk.submit_triesAtMost settings requester request
  · refine (duty.keeps settings).mono (fun past action hmay spec haction => ?_) fun _ _ _ => trivial
    rw [haction] at hmay
    obtain ⟨requester, request, _, _, _, hduty, -⟩ := may_enqueue hmay
    exact absurd ⟨requester, request, hduty⟩ hsubmit

/-! ### Requests -/

namespace SubmitRequest

variable {request : SubmitRequest} {repository : Repository}

/-- A text that is not blank stands for itself. -/
private theorem nonBlank?_of_exists {text : String}
    (h : ∃ c ∈ text.toList, Text.isBlankChar c = false) : Text.nonBlank? text = some text := by
  refine Text.nonBlank?_eq_some_iff.mpr ⟨?_, rfl⟩
  obtain ⟨c, hc, hblank⟩ := h
  rw [Text.isBlank, List.all_eq_false]
  exact ⟨c, hc, by rw [hblank]; exact Bool.false_ne_true⟩

private theorem nonBlank?_of_forall {text : String}
    (h : ∀ c ∈ text.toList, Text.isBlankChar c = true) : Text.nonBlank? text = none := by
  rw [Text.nonBlank?, Text.isBlank, if_pos (List.all_eq_true.mpr h)]

/-- What a request says of an optional text, and what is taken of it: the text as it is if it
contains a character that is not white space, and something else otherwise. -/
structure Takes {α : Type} (asked : Option String) (given : String → α) (default taken : α) : Prop where
  verbatim : ∀ text, asked = some text → (∃ c ∈ text.toList, Text.isBlankChar c = false) →
    taken = given text
  blank : (∀ text, asked = some text → ∀ c ∈ text.toList, Text.isBlankChar c = true) →
    taken = default

private theorem takes_bind (asked : Option String) :
    Takes asked some none (asked.bind Text.nonBlank?) := by
  refine ⟨fun text hasked hgiven => ?_, fun hblank => ?_⟩
  · rw [hasked, Option.bind_some, nonBlank?_of_exists hgiven]
  · cases asked with
    | none => rfl
    | some text => exact nonBlank?_of_forall (hblank text rfl)

/-- The branch of a new job is the one that was asked for, or that of the repository. -/
theorem takes_branch (request : SubmitRequest) (repository : Repository) :
    Takes request.branch id repository.defaultBranch (request.newJob repository).branch := by
  have htakes := takes_bind request.branch
  refine ⟨fun text hasked hgiven => ?_, fun hblank => ?_⟩
  · rw [newJob, htakes.verbatim text hasked hgiven]
    rfl
  · rw [newJob, htakes.blank hblank]
    rfl

/-- The commit of a new job is the one that was asked for, or none. -/
theorem takes_commit (request : SubmitRequest) (repository : Repository) :
    Takes request.commitSha some none (request.newJob repository).commitSha :=
  takes_bind request.commitSha

end SubmitRequest

/-! ### What is handed over -/

variable {settings : DeskSettings} {first s : Store} {past : List Event} {e : Event} {job : JobId}

/-- Whether an exchange hands a job to the analyzer, or tries to. -/
def Exchange.hands (job : JobId) (x : Exchange) : Bool := x.handed?.any fun spec => spec.job == job

/-- Whether an exchange hands a job to the analyzer, and the analyzer takes it. -/
def Exchange.handsOver (job : JobId) : Exchange → Bool
  | ⟨.enqueue spec, answer⟩ => spec.job == job && answer.isOk
  | _ => false

theorem Exchange.hands_iff {x : Exchange} :
    x.hands job = true ↔ ∃ spec, x.1 = .enqueue spec ∧ spec.job = job := by
  obtain ⟨action, answer⟩ := x
  cases action with
  | enqueue spec => simp [Exchange.hands, Exchange.handed?]
  | _ => simp [Exchange.hands, Exchange.handed?]

/-- A job that is handed over by the submission that has created it, as its row says. -/
structure HandedAsStored (earlier : List Event) (e : Event) (spec : JobSpec) (requester : Int)
    (request : SubmitRequest) (repository : RepositoryRow) (row : JobRow) : Prop where
  duty : e.duty = .submit requester request
  created : Created earlier spec.job e.doer
  housed : repository ∈ e.before.repositories ∧ repository.id = request.repositoryId
  owned : repository.userId = requester
  stored : e.before.jobRow? spec.job = some row
  only : ∀ other ∈ e.before.jobs, other.id = spec.job.text → other = row
  belongs : row.repositoryId = repository.id
  url : spec.repositoryUrl = row.cloneUrl
  branch : spec.branch = row.branch
  commit : spec.commitSha = row.commitSha
  takesBranch : SubmitRequest.Takes request.branch id repository.defaultBranch row.branch
  takesCommit : SubmitRequest.Takes request.commitSha some none row.commitSha

/-- What a job is about does not change any more. -/
theorem History.origin_of_mem (h : History settings first past s) (hfirst : first.Reached)
    (he : e ∈ past) {row : JobRow} (hrow : e.after.jobRow? job = some row) :
    ∃ row', s.jobRow? job = some row' ∧ row'.origin = row.origin := by
  induction h with
  | start => exact nomatch he
  | event d hpast hhappens _ _ ih =>
      rcases List.mem_cons.mp he with rfl | he
      · exact ⟨row, hrow, rfl⟩
      · obtain ⟨row', hrow', horigin⟩ := ih he
        obtain ⟨row'', hrow'', hgoes⟩ := (hhappens.continues (hpast.reached hfirst)).row hrow'
        exact ⟨row'', hrow'', hgoes.origin.trans horigin⟩

/-- A submission that has found its repository was shown one that its requester owns. -/
theorem History.repository_of_lookup (h : History settings first past s) (hfirst : first.Reached)
    {doer : Nat} {requester : Int} {request : SubmitRequest} {repository : Repository}
    (newer : List Exchange)
    (hms : milestones (own past doer) = newer ++ Desk.afterLookup requester request repository) :
    ∃ row ∈ s.repositories, row.id = request.repositoryId ∧ row.userId = requester ∧
      row.defaultBranch = repository.defaultBranch := by
  obtain ⟨after, d, earlier, rfl, -, hwhat, -⟩ := split_of_milestones newer hms
  have hhappens := h.upTo.happens
  rw [hwhat] at hhappens
  obtain ⟨row, hfound, hread⟩ := Store.readOne_some hhappens.answered.1
  have hkey := List.find?_some hfound
  rw [Bool.and_eq_true, beq_iff_eq, beq_iff_eq] at hkey
  have hmem := List.mem_of_find?_eq_some hfound
  rw [h.upTo.earlier.repositories hfirst, ← h.repositories hfirst] at hmem
  obtain ⟨createdAt, rfl⟩ := RepositoryRow.read_shows hread
  exact ⟨row, hmem, hkey.1, hkey.2, rfl⟩

/-- The job that a submission has created is stored as it was wanted. -/
theorem History.stored_of_creation (h : History settings first past s) (hfirst : first.Reached)
    {doer : Nat} {requester : Int} {request : SubmitRequest} {repository : Repository} {id : JobId}
    {created : Job} (newer : List Exchange)
    (hms : milestones (own past doer)
      = newer ++ Desk.afterCreation requester request repository id created) :
    ∃ createdAt row, created = Store.pendingJob id (request.newJob repository) createdAt ∧
      s.jobRow? id = some row ∧ row.origin.2.1 = request.newJob repository := by
  obtain ⟨after, d, earlier, rfl, -, hwhat, -⟩ := split_of_milestones newer hms
  have hhappens := h.upTo.happens
  rw [hwhat] at hhappens
  obtain ⟨createdAt, hcreated⟩ :=
    Store.pendingJob_of_read (hhappens.created (h.upTo.earlier.wf hfirst))
  obtain ⟨row, hrow, horigin⟩ := h.origin_of_mem hfirst
    (List.mem_append_right _ (List.mem_cons_self ..)) (h.upTo.row_of_creation hfirst hwhat).2
  exact ⟨createdAt, row, hcreated, hrow, by rw [horigin]; rfl⟩

/-- **A job is handed over as it is stored**, by the submission that has created it. -/
theorem History.handedAsStored (h : History settings first (e :: past) s) (hfirst : first.Reached)
    {spec : JobSpec} (hwhat : e.what.1 = .enqueue spec) :
    ∃ requester request repository row,
      HandedAsStored past e spec requester request repository row := by
  have hmay := h.may
  rw [hwhat] at hmay
  obtain ⟨requester, request, shown, id, created, hduty, rfl, hms⟩ := Duty.may_enqueue hmay
  obtain ⟨createdAt, row, rfl, hrow, horigin⟩ := h.earlier.stored_of_creation hfirst [] hms
  obtain ⟨repository, hmem, hid, howner, hbranch⟩ :=
    h.earlier.repository_of_lookup hfirst [_, _] hms
  have hwanted := NewJob.mk.inj horigin
  obtain ⟨hrepository, hurl, hrowBranch, hcommit⟩ := hwanted
  refine ⟨requester, request, repository, row, hduty, History.created_of_milestones [] hms,
    ⟨hmem, hid⟩, howner, hrow, fun other hother hsame => ?_, hrepository.trans hid.symm, hurl.symm,
    hrowBranch.symm, hcommit.symm, ?_, ?_⟩
  · obtain ⟨hrowMem, hrowId⟩ := Store.jobRow?_mem hrow
    exact Store.row_unique (h.earlier.wf hfirst).ids hother hrowMem (hsame.trans hrowId.symm)
  · rw [hbranch, hrowBranch]
    exact SubmitRequest.takes_branch request shown
  · rw [hcommit]
    exact SubmitRequest.takes_commit request shown

/-! ### How often -/

/-- Whoever hands a job over has created it. -/
theorem History.created_of_hands (h : History settings first past s) (hfirst : first.Reached)
    (he : e ∈ past) (hhands : e.what.hands job = true) : Created past job e.doer := by
  obtain ⟨spec, hwhat, rfl⟩ := Exchange.hands_iff.mp hhands
  obtain ⟨after, earlier, rfl⟩ := List.append_of_mem he
  obtain ⟨_, _, _, _, hhanded⟩ := h.upTo.handedAsStored hfirst hwhat
  obtain ⟨d, hd, hdoer, hcreates⟩ := hhanded.created
  exact ⟨d, List.mem_append_right _ (List.mem_cons_of_mem _ hd), hdoer, hcreates⟩

theorem Exchange.eq_of_handsOver {x : Exchange} (h : x.handsOver job = true) :
    ∃ spec handle, x = ⟨.enqueue spec, .ok handle⟩ ∧ spec.job = job := by
  obtain ⟨action, answer⟩ := x
  cases action with
  | enqueue spec =>
      rw [Exchange.handsOver, Bool.and_eq_true, beq_iff_eq] at h
      match answer with
      | .ok handle => exact ⟨spec, handle, rfl, h.1⟩
      | .error fault => exact nomatch h.2
  | _ => exact nomatch h

/-- **Once the analyzer has taken a job, nobody hands it over again.** -/
theorem History.not_hands_again {later earlier : List Event}
    (h : History settings first (later ++ e :: earlier) s) (hfirst : first.Reached)
    (hover : e.what.handsOver job = true) {d : Event} (hd : d ∈ later) :
    d.what.hands job = false := by
  obtain ⟨spec, handle, hwhat, hjob⟩ := Exchange.eq_of_handsOver hover
  by_contra hagain
  rw [Bool.not_eq_false] at hagain
  -- both have created the job, so they are one, who has passed the handover
  have hhands : e.what.hands job = true := Exchange.hands_iff.mpr ⟨spec, by rw [hwhat], hjob⟩
  have hsame := h.creator_unique hfirst
    (h.created_of_hands hfirst (List.mem_append_right _ (List.mem_cons_self ..)) hhands)
    (h.created_of_hands hfirst (List.mem_append_left _ hd) hagain)
  obtain ⟨spec', hwhat', -⟩ := Exchange.hands_iff.mp hagain
  obtain ⟨after, between, rfl⟩ := List.append_of_mem hd
  rw [List.append_assoc, List.cons_append] at h
  have hmay := h.upTo.may
  rw [hwhat'] at hmay
  obtain ⟨requester, request, shown, id, created, -, -, hms⟩ := Duty.may_enqueue hmay
  have hpassed : e.what ∈ milestones (own (between ++ e :: earlier) e.doer) :=
    mem_milestones_own (List.mem_append_right _ (List.mem_cons_self ..)) (by rw [hwhat]; rfl)
  rw [hsame, hms, hwhat] at hpassed
  exact Desk.not_enqueue_of_creation hpassed

/-- Of events none of which comes after another one, there is one at most. -/
private theorem countP_le_one {α : Type} {p q : α → Bool} (hpq : ∀ a, p a = true → q a = true) :
    ∀ {as : List α}, (∀ later a earlier, as = later ++ a :: earlier → p a = true →
      ∀ b ∈ later, q b = false) → as.countP p ≤ 1 := by
  intro as
  induction as with
  | nil => exact fun _ => Nat.zero_le 1
  | cons a rest ih =>
      intro h
      have hrest := ih fun later b earlier hsplit hb c hc =>
        h (a :: later) b earlier (by rw [hsplit, List.cons_append]) hb c (List.mem_cons_of_mem _ hc)
      rw [List.countP_cons]
      by_cases ha : p a = true
      · have hnone : rest.countP p = 0 := by
          rw [List.countP_eq_zero]
          intro b hb hpb
          obtain ⟨later, earlier, rfl⟩ := List.append_of_mem hb
          have hnot := h (a :: later) b earlier rfl hpb a (List.mem_cons_self ..)
          rw [hpq a ha] at hnot
          exact Bool.noConfusion hnot
        rw [hnone, if_pos ha]
      · rw [if_neg ha]
        exact hrest

/-- The attempts to hand a job over are attempts of its creator. -/
theorem History.countP_hands_le (h : History settings first past s) (hfirst : first.Reached)
    {doer : Nat} (hcreated : Created past job doer) :
    past.countP (fun e => e.what.hands job) ≤ handovers (own past doer) := by
  unfold handovers own
  rw [List.countP_map, List.countP_filter]
  refine List.countP_mono_left fun e he hhands => ?_
  have hdoer : e.doer = doer :=
    h.creator_unique hfirst (h.created_of_hands hfirst he hhands) hcreated
  obtain ⟨spec, hwhat, -⟩ := Exchange.hands_iff.mp hhands
  have hhanded : e.what.handed?.isSome = true := by
    generalize e.what = x at hwhat
    obtain ⟨action, answer⟩ := x
    cases hwhat
    rfl
  simp [hhanded, hdoer]

/-- Nobody tries to hand things over more often than the policy says. -/
theorem Office.Sound.handovers_le {o : Office} (h : o.Sound settings first) (doer : Nat) :
    handovers (own o.past doer) ≤ max 1 settings.retry.attempts := by
  cases hagent : o.agents[doer]? with
  | none =>
      rw [h.own_nobody hagent]
      exact Nat.zero_le _
  | some agent => exact (h.leads doer agent hagent).handovers_le (agent.duty.triesAtMost settings)

/-- **A job is handed over as often as the policy says.** -/
theorem Office.Reached.countP_hands_le {o : Office} (ho : o.Reached settings first)
    (hfirst : first.Reached) (job : JobId) :
    o.past.countP (fun e => e.what.hands job) ≤ max 1 settings.retry.attempts := by
  have hlog := ho.sound.history
  by_cases hnone : o.past.countP (fun e => e.what.hands job) = 0
  · omega
  · obtain ⟨e, he, hhands⟩ := List.countP_pos_iff.mp (Nat.pos_of_ne_zero hnone)
    exact (hlog.countP_hands_le hfirst (hlog.created_of_hands hfirst he hhands)).trans
      (ho.sound.handovers_le e.doer)

/-! ### While a job is handed over -/

/-- **A job comes into being only while all others of its repository are over.** -/
theorem History.idle_of_birth (h : History settings first (e :: past) s) (hfirst : first.Reached)
    {row : JobRow} (hbefore : e.before.jobRow? job = none) (hafter : e.after.jobRow? job = some row) :
    e.before.Idle row.repositoryId := by
  have hwf := h.earlier.wf hfirst
  have hwf' : e.after.WF := by
    rw [← h.after_eq]
    exact h.wf hfirst
  have htouched := h.touched hfirst job
  rw [hbefore, hafter] at htouched
  generalize hwhat : e.what = x at htouched
  cases htouched with
  | created new answer =>
      intro other hother hrepository
      by_contra hactive
      rw [Bool.not_eq_false] at hactive
      obtain ⟨id, hid⟩ := hwf.named other hother
      have hfound := (Store.jobRow?_eq_some_iff hwf.ids).mpr ⟨hother, hid⟩
      -- the creation has left the other job alone, so that both would be active now
      have hstays : e.after.jobRow? id = some other := by
        have htouched := h.touched hfirst id
        rw [hwhat, hfound] at htouched
        generalize e.after.jobRow? id = row? at htouched ⊢
        cases htouched with
        | kept => rfl
        | ended _ _ _ _ hending => exact Bool.noConfusion hending
      obtain ⟨hmem, hrowId⟩ := Store.jobRow?_mem hafter
      obtain ⟨hmem', -⟩ := Store.jobRow?_mem hstays
      have hpending : (Store.pendingRow job new e.time).isActive = true :=
        JobRow.isActive_iff.mpr (Or.inl rfl)
      have hsame := (hwf'.theActive hmem hrowId rfl hpending).only other hmem' hrepository hactive
      rw [hsame] at hid
      have hjob : job = id := JobId.text_inj.mp hid
      rw [← hjob, hbefore] at hfound
      exact nomatch hfound

/-- A job that cannot change its status any more. -/
def JobRow.IsTerminal (row : JobRow) : Prop :=
  ∃ status : JobStatus, row.status = status.label ∧ status.isTerminal = true

/-- Of the jobs that were handed over before, those of the same repository are over. -/
theorem History.terminal_of_birth (h : History settings first (e :: past) s) (hfirst : first.Reached)
    {row : JobRow} (hbefore : e.before.jobRow? job = none) (hafter : e.after.jobRow? job = some row)
    {d : Event} (hd : d ∈ past) {other : JobId} (hhands : d.what.hands other = true) :
    ∃ row', e.before.jobRow? other = some row' ∧
      (row'.repositoryId = row.repositoryId → row'.IsTerminal) := by
  have hcreated := h.earlier.created_of_hands hfirst hd hhands
  obtain ⟨row', hrow'⟩ := Option.isSome_iff_exists.mp (h.earlier.isSome_of_created hfirst hcreated)
  refine ⟨row', hrow', fun hrepository => ?_⟩
  obtain ⟨hmem, -⟩ := Store.jobRow?_mem hrow'
  obtain ⟨status, hstatus⟩ := (h.earlier.wf hfirst).status row' hmem
  have hover := h.idle_of_birth hfirst hbefore hafter row' hmem hrepository
  rw [JobRow.isActive_of_status hstatus] at hover
  exact ⟨status, hstatus, by rw [JobStatus.isTerminal, hover]; rfl⟩

/-- **Jobs are handed over as they are stored, and only once.**  However many submissions are at
work and whatever the analyzer answers: every attempt to hand a job over is made by the submission
that has created the job, for a repository that its requester owns, and says what the row of the job
says; the branch and the commit of this row are those that were asked for, unless they were blank.
For one job there are not more attempts than the policy allows, and none after the analyzer has
taken it.  And when a job comes into being, all others of its repository are over, those that were
ever handed over among them. -/
theorem handed_over_once_as_stored (settings : DeskSettings) (first : Store)
    (hfirst : first.Reached) (o : Office) (ho : o.Reached settings first) :
    (∀ later e earlier spec, o.past = later ++ e :: earlier → e.what.1 = .enqueue spec →
      ∃ requester request repository row,
        HandedAsStored earlier e spec requester request repository row) ∧
    (∀ job, o.past.countP (fun e => e.what.hands job) ≤ max 1 settings.retry.attempts) ∧
    (∀ later e earlier job, o.past = later ++ e :: earlier → e.what.handsOver job = true →
      ∀ d ∈ later, d.what.hands job = false) ∧
    (∀ job, o.past.countP (fun e => e.what.handsOver job) ≤ 1) ∧
    ∀ later e earlier job row, o.past = later ++ e :: earlier → e.before.jobRow? job = none →
      e.after.jobRow? job = some row →
        e.before.Idle row.repositoryId ∧
        ∀ d ∈ earlier, ∀ other, d.what.hands other = true →
          ∃ row', e.before.jobRow? other = some row' ∧
            (row'.repositoryId = row.repositoryId → row'.IsTerminal) := by
  have hlog := ho.sound.history
  have hupTo : ∀ {later e earlier}, o.past = later ++ e :: earlier →
      History settings first (e :: earlier) e.after := by
    intro later e earlier hpast
    rw [hpast] at hlog
    exact hlog.upTo
  have honce : ∀ later e earlier job, o.past = later ++ e :: earlier →
      e.what.handsOver job = true → ∀ d ∈ later, d.what.hands job = false := by
    intro later e earlier job hpast hover d hd
    rw [hpast] at hlog
    exact hlog.not_hands_again hfirst hover hd
  refine ⟨fun later e earlier spec hpast hwhat => (hupTo hpast).handedAsStored hfirst hwhat,
    ho.countP_hands_le hfirst, honce, fun job => ?_, ?_⟩
  · refine countP_le_one (fun e hover => ?_) fun later e earlier => honce later e earlier job
    obtain ⟨spec, handle, hwhat, hjob⟩ := Exchange.eq_of_handsOver hover
    exact Exchange.hands_iff.mpr ⟨spec, by rw [hwhat], hjob⟩
  · intro later e earlier job row hpast hbefore hafter
    exact ⟨(hupTo hpast).idle_of_birth hfirst hbefore hafter,
      fun d hd other hhands => (hupTo hpast).terminal_of_birth hfirst hbefore hafter hd hhands⟩

namespace Small

/-- The identifier of a job that is not the first. -/
def nextJob : JobId := ⟨Vector.replicate 32 ⟨2, by decide⟩⟩

/-- A job that is cancelled after the first attempt to hand it over, and that the analyzer takes at
the second one, when the next job of the repository has been created. -/
def persistent : Office :=
  Office.played Small.settings store
    [.begin (.submit 1 ⟨1, some " ", none⟩), .act 0 (calm 1), .act 0 (calm 2), .act 0 (calm 3),
      .act 0 ⟨⟨4⟩, default, .error (.unavailable "busy"), .ok .underway⟩, .act 0 (calm 5),
      .begin (.cancel default 1), .act 1 (calm 6), .act 1 (calm 7),
      .begin (.submit 1 ⟨1, some "dev", none⟩), .act 2 (calm 8),
      .act 2 ⟨⟨9⟩, nextJob, .ok "h-2", .ok .underway⟩, .act 2 (calm 10), .act 0 (calm 11)]

end Small

theorem handed_over_once_as_stored_played :
    Small.persistent.past.countP (fun e => e.what.hands default) = 2 ∧
    Small.persistent.past.countP (fun e => e.what.handsOver default) = 1 ∧
    2 ≤ max 1 Small.settings.retry.attempts ∧
    (∃ e earlier requester request repository row, Small.persistent.past = e :: earlier ∧
      HandedAsStored earlier e ⟨default, "https://git.example.com/site.git", "main", none⟩
        requester request repository row) ∧
    ∃ e ∈ Small.persistent.past, e.before.jobRow? Small.nextJob = none ∧ ∃ row row',
      e.after.jobRow? Small.nextJob = some row ∧ e.before.jobRow? default = some row' ∧
      (row'.repositoryId = row.repositoryId → row'.IsTerminal) := by
  obtain ⟨hstored, hmost, -, -, hbirth⟩ := handed_over_once_as_stored Small.settings Small.store
    Small.store_reached Small.persistent (Office.reached_played ..)
  have hcount : Small.persistent.past.countP (fun e => e.what.hands default) = 2 := by decide +kernel
  have hlast : Small.persistent.past.head?.map (fun e => e.what.1)
      = some (.enqueue ⟨default, "https://git.example.com/site.git", "main", none⟩) := by
    decide +kernel
  have hcreation : Small.persistent.past.tail.head?.map (fun e =>
      (e.before.jobRow? Small.nextJob, (e.after.jobRow? Small.nextJob).isSome))
        = some (none, true) := by decide +kernel
  have hfirst : Small.persistent.past.tail.tail.any (fun d => d.what.hands default) = true := by
    decide +kernel
  refine ⟨hcount, by decide +kernel, hcount ▸ hmost default, ?_⟩
  match hpast : Small.persistent.past with
  | [] => rw [hpast] at hlast; exact nomatch hlast
  | [e] => rw [hpast] at hcreation; exact nomatch hcreation
  | e :: created :: earlier =>
      rw [hpast] at hlast hcreation hfirst
      obtain ⟨requester, request, repository, row, hhanded⟩ :=
        hstored [] e (created :: earlier) _ hpast (Option.some.inj hlast)
      refine ⟨⟨e, _, requester, request, repository, row, rfl, hhanded⟩, ?_⟩
      obtain ⟨hbefore, hafter⟩ := Prod.mk.inj (Option.some.inj hcreation)
      obtain ⟨d, hd, hhands⟩ := List.any_eq_true.mp hfirst
      obtain ⟨row, hrow⟩ := Option.isSome_iff_exists.mp hafter
      obtain ⟨row', hrow', hterminal⟩ := (hbirth [e] created earlier Small.nextJob row hpast hbefore
        hrow).2 d hd default hhands
      exact ⟨created, by simp, hbefore, row, row', hrow, hrow', hterminal⟩

end AnalysisDesk
