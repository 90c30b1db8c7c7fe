/-
One winner for every job.

Many want to end a job that is processing: reports that come in, its owner, sweeps
and its poller.  Whoever has the one write that is taken reports so, and everybody
else reports what the winner has left.  An ingest and a cancellation that have lost
may not have written at all, or their write was declined and they have looked once
more; in both cases they have seen the last word on the job.  A sweep counts what it
has ended and says no more.
-/
import AnalysisDesk.Proofs.Desk.Play
import AnalysisDesk.Proofs.Desk.Verdict

namespace AnalysisDesk

variable {settings : DeskSettings} {first s : Store} {past : List Event} {e : Event} {job : JobId}
  {row : JobRow} {doer : Nat}

/-- Somebody has ended a job. -/
def Won (past : List Event) (job : JobId) (doer : Nat) : Prop :=
  ∃ e ∈ past, e.doer = doer ∧ e.what.ended? = some job

/-- Somebody has ended a job by this write. -/
def WonBy (past : List Event) (job : JobId) (doer : Nat) (change : StoreWrite) : Prop :=
  ∃ e ∈ past, e.doer = doer ∧ e.what.1 = .write change ∧ e.what.ended? = some job

/-- A job is over in the store, with this status. -/
def FinalStatus (s : Store) (job : JobId) (status : JobStatus) : Prop :=
  ∃ final, s.jobRow? job = some final ∧ final.status = status.label ∧ final.isActive = false

/-- How an ingest reports on its job. -/
inductive IngestReports (past : List Event) (s : Store) (job : JobId) (report : Report) (doer : Nat) :
    Except DeskError IngestOutcome → Prop
  | applied (checked : CheckedReport) (hcheck : report.check = .ok checked)
      (hwon : WonBy past job doer (.applyReport job checked)) :
      IngestReports past s job report doer (.ok (.applied checked.status))
  | malformed (problem : ReportProblem) (hcheck : report.check = .error problem)
      (hwon : WonBy past job doer
        (.failJob job .processing (Desk.malformedReason problem.message) none)) :
      IngestReports past s job report doer (.error (.malformedResult problem.message))
  | ignored (status : JobStatus) (hlost : ¬ Won past job doer) (hfinal : FinalStatus s job status) :
      IngestReports past s job report doer (.ok (.ignored status))

/-- How a cancellation by the owner reports on its job. -/
inductive CancelReports (past : List Event) (s : Store) (job : JobId) (doer : Nat) :
    Except DeskError Job → Prop
  | cancelled (current : Job) (final : JobRow)
      (hwon : WonBy past job doer (.cancelJob job Desk.cancelReason))
      (hfinal : s.jobRow? job = some final) (hread : final.read = .ok current) :
      CancelReports past s job doer (.ok current)
  | tooLate (status : JobStatus) (hlost : ¬ Won past job doer) (hfinal : FinalStatus s job status) :
      CancelReports past s job doer (.error (.notCancellable status))

/-- How many other jobs somebody has ended. -/
def othersEnded (past : List Event) (job : JobId) (doer : Nat) : Nat :=
  (own past doer).countP fun x => x.ends && x.ended? != some job

/-- How a sweep reports on a job. -/
inductive SweepReports (settings : DeskSettings) (now : Instant) (past : List Event) (job : JobId)
    (doer : Nat) : Except DeskError Nat → Prop
  | outOfRange (cause : StoreError) (hcutoff : Desk.cutoff settings now = .error cause)
      (hlost : ¬ Won past job doer) :
      SweepReports settings now past job doer (.error (.storage cause))
  | counted
      (hwon : WonBy past job doer
        (.failJob job .processing (Desk.timeoutReason settings .processing) (some now))) :
      SweepReports settings now past job doer (.ok (othersEnded past job doer + 1))
  | notCounted (hlost : ¬ Won past job doer) :
      SweepReports settings now past job doer (.ok (othersEnded past job doer))

theorem wonBy_of_milestones {change : StoreWrite} (answer : Except StoreError change.Answer)
    (hmem : (⟨.write change, answer⟩ : Exchange) ∈ milestones (own past doer))
    (hended : Exchange.ended? ⟨.write change, answer⟩ = some job) : WonBy past job doer change := by
  obtain ⟨e, he, hdoer, hwhat⟩ := mem_of_milestones hmem
  refine ⟨e, he, hdoer, ?_, ?_⟩
  · rw [hwhat]
  · rw [hwhat]
    exact hended

theorem not_won_of_milestones (h : ∀ x ∈ milestones (own past doer), x.ended? ≠ some job) :
    ¬ Won past job doer := by
  rintro ⟨e, he, rfl, hended⟩
  exact h e.what (mem_milestones_of_ended (mem_own.mpr ⟨e, he, rfl, rfl⟩) hended) hended

/-- Two who have ended the job are one. -/
theorem Verdict.winner_unique (h : Verdict past job row s) {doer doer' : Nat}
    (hwon : Won past job doer) (hwon' : Won past job doer') : doer = doer' := by
  obtain ⟨e, he, rfl, hended⟩ := hwon
  obtain ⟨e', he', rfl, hended'⟩ := hwon'
  have hmem := mem_endings.mpr ⟨he, hended⟩
  have hmem' := mem_endings.mpr ⟨he', hended'⟩
  cases h with
  | waiting hnobody =>
      rw [hnobody] at hmem
      exact nomatch hmem
  | spoken winner change hwinner =>
      rw [hwinner, List.mem_singleton] at hmem hmem'
      rw [hmem, hmem']

namespace History

/-! ### The last look -/

/-- A job that is not processing where it is found is over, and this is the last word. -/
theorem final_of_found (h : History settings first past s) (hfirst : first.Reached)
    (hunfailing : Unfailing past) (hunderway : Underway first job row) (he : e ∈ past)
    {r : JobRow} {current : Job} (hrow : e.before.jobRow? job = some r) (hshows : r.Shows current)
    (hstatus : current.status ≠ .processing) : FinalStatus s job current.status := by
  obtain ⟨r', hrow', hcases, -, -⟩ := h.before_of_underway hfirst hunfailing hunderway he
  rw [hrow, Option.some.injEq] at hrow'
  subst hrow'
  rcases hcases with rfl | hover
  · exact absurd (JobStatus.label_injective (hshows.status.symm.trans hunderway.status)) hstatus
  · exact ⟨r, h.last_of_over hfirst hunfailing hunderway he hrow hover, hshows.status, hover⟩

/-- Whoever looks after a write that has ended the job, or was declined, sees the last word. -/
theorem last_of_look (h : History settings first past s) (hfirst : first.Reached)
    (hunfailing : Unfailing past) (hunderway : Underway first job row)
    (newer : List Exchange) {older : List Exchange} {x : Exchange} {found : Option Job}
    (hms : milestones (own past doer) = newer ++ ⟨.query (.job job), .ok found⟩ :: x :: older)
    (hx : x.ended? = some job ∨ x.Declined ∧
      ∃ change, x.1 = .write change ∧ change.job = job ∧ .processing ∈ change.sources) :
    ∃ current final, found = some current ∧ s.jobRow? job = some final ∧ final.isActive = false ∧
      final.read = .ok current ∧ final.Shows current := by
  obtain ⟨after, look, earlier, rfl, -, hlook, hms'⟩ := split_of_milestones _ hms
  obtain ⟨after', write, earlier', rfl, -, hwrite, -⟩ := split_of_milestones [] hms'
  have hlog := h.upTo
  have hmem : write ∈ after' ++ write :: earlier' :=
    List.mem_append_right _ (List.mem_cons_self ..)
  have hlater : look ∈ after ++ look :: (after' ++ write :: earlier') :=
    List.mem_append_right _ (List.mem_cons_self ..)
  have hunfailing' : Unfailing (after' ++ write :: earlier') := fun d hd =>
    hunfailing d (List.mem_append_right _ (List.mem_cons_of_mem _ hd))
  have hover : ∃ r, look.before.jobRow? job = some r ∧ r.isActive = false := by
    rcases hx with hended | ⟨hdeclined, change, hchange, hjob, hsource⟩
    · rw [← hwrite] at hended
      obtain ⟨change, old, hevent⟩ := hlog.earlier.upTo.ended hfirst hended
      obtain ⟨r, hr, hgrown⟩ := hlog.earlier.later_of_mem hfirst hmem hevent.after
      exact ⟨r, hr, hgrown.isActive_of_over hevent.inactive⟩
    · rw [← hwrite] at hdeclined hchange
      obtain ⟨r, hr, hover⟩ := hlog.earlier.over_of_declined hfirst hunfailing' hunderway hmem
        hchange hjob hsource hdeclined
      exact ⟨r, hlog.earlier.last_of_over hfirst hunfailing' hunderway hmem hr hover, hover⟩
  obtain ⟨r, hr, hover⟩ := hover
  obtain ⟨current, r', hfound, hr', hread, hshows⟩ :=
    h.found_of_underway hfirst hunfailing hunderway hlater hlook
  rw [hr, Option.some.injEq] at hr'
  subst hr'
  exact ⟨current, r, hfound, h.last_of_over hfirst hunfailing hunderway hlater hr hover, hover,
    hread, hshows⟩

/-! ### Reports -/

/-- A write of an ingest that was not taken. -/
private theorem settled_of_wrote {report : Report} {x : Exchange}
    (h : Desk.IngestWrote job report x false) :
    x.ended? = none ∧ x.Declined ∧
      ∃ change, x.1 = .write change ∧ change.job = job ∧ .processing ∈ change.sources := by
  cases h with
  | malformed | checked => exact ⟨rfl, rfl, _, rfl, rfl, List.mem_singleton_self _⟩

/-- **How an ingest reports.** -/
theorem ingest_reports (h : History settings first past s) (hfirst : first.Reached)
    (hunfailing : Unfailing past) (hunderway : Underway first job row) {report : Report}
    {result : Except DeskError IngestOutcome}
    (hends : Desk.IngestEnds [] job report (own past doer) result) :
    IngestReports past s job report doer result := by
  have hlook : ∀ {older : List Exchange} {found : Option Job},
      milestones (own past doer) = ⟨.query (.job job), .ok found⟩ :: older →
      ∃ look ∈ past, ∃ current r, found = some current ∧ look.before.jobRow? job = some r ∧
        r.Shows current := by
    intro older found hms
    obtain ⟨look, hmem, -, hwhat⟩ := mem_of_milestones (hms ▸ List.mem_cons_self ..)
    obtain ⟨current, r, hfound, hrow, -, hshows⟩ :=
      h.found_of_underway hfirst hunfailing hunderway hmem hwhat
    exact ⟨look, hmem, current, r, hfound, hrow, hshows⟩
  cases hends with
  | storage cause x hx hfailed => exact (hunfailing.not_failed hx hfailed).elim
  | gone hms =>
      obtain ⟨_, _, _, _, hc, -⟩ := hlook hms
      exact nomatch hc
  | idle current hms hstatus =>
      obtain ⟨look, hmem, current', r, hfound, hrow, hshows⟩ := hlook hms
      obtain rfl := Option.some.inj hfound
      refine .ignored _ (not_won_of_milestones fun x hx hended => ?_)
        (h.final_of_found hfirst hunfailing hunderway hmem hrow hshows hstatus)
      rw [hms] at hx
      rw [List.mem_singleton.mp hx] at hended
      exact nomatch hended
  | malformed current problem hcheck hms =>
      refine .malformed problem hcheck (wonBy_of_milestones (.ok true) ?_ rfl)
      rw [hms]
      exact List.mem_cons_self ..
  | applied current checked hcheck hms =>
      refine .applied checked hcheck (wonBy_of_milestones (.ok true) ?_ rfl)
      rw [hms]
      exact List.mem_cons_self ..
  | overtaken current later x hwrote hms =>
      obtain ⟨hnone, hdeclined⟩ := settled_of_wrote hwrote
      obtain ⟨current', final, hfound, hfinal, hover, -, hshows⟩ :=
        h.last_of_look hfirst hunfailing hunderway [] hms (Or.inr hdeclined)
      obtain rfl := Option.some.inj hfound
      refine .ignored _ (not_won_of_milestones fun y hy hended => ?_)
        ⟨final, hfinal, hshows.status, hover⟩
      rw [hms] at hy
      simp only [Desk.afterReading, List.mem_cons, List.not_mem_nil, or_false] at hy
      rcases hy with rfl | rfl | rfl
      · exact nomatch hended
      · rw [hnone] at hended
        exact nomatch hended
      · exact nomatch hended
  | lost current x hwrote hms =>
      obtain ⟨_, _, _, _, hc, -⟩ := hlook hms
      exact nomatch hc

/-- **How a cancellation by the owner reports.** -/
theorem cancel_reports (h : History settings first past s) (hfirst : first.Reached)
    (hunfailing : Unfailing past) (hunderway : Underway first job row) {requester : Int}
    (howns : first.owns requester row = true) {result : Except DeskError Job}
    (hends : Desk.CancelEnds job requester (own past doer) result) :
    CancelReports past s job doer result := by
  have hlook : ∀ {older : List Exchange} {found : Option Job},
      milestones (own past doer) = ⟨.query (.ownedJob job requester), .ok found⟩ :: older →
      ∃ look ∈ past, ∃ current r, found = some current ∧ look.before.jobRow? job = some r ∧
        r.Shows current := by
    intro older found hms
    obtain ⟨look, hmem, -, hwhat⟩ := mem_of_milestones (hms ▸ List.mem_cons_self ..)
    exact ⟨look, hmem, h.found_of_owner hfirst hunfailing hunderway howns hmem hwhat⟩
  have hwrote : ∀ taken : Bool,
      Exchange.ended? ⟨.write (.cancelJob job Desk.cancelReason), .ok taken⟩ = some job ∨
      Exchange.Declined ⟨.write (.cancelJob job Desk.cancelReason), .ok taken⟩ ∧
        ∃ change, Action.write (.cancelJob job Desk.cancelReason) = .write change ∧
          change.job = job ∧ .processing ∈ change.sources := by
    intro taken
    cases taken with
    | true => exact Or.inl rfl
    | false => exact Or.inr ⟨rfl, _, rfl, rfl, List.mem_cons_of_mem _ (List.mem_singleton_self _)⟩
  cases hends with
  | storage cause x hx hfailed => exact (hunfailing.not_failed hx hfailed).elim
  | notFound hms =>
      obtain ⟨_, _, _, _, hc, -⟩ := hlook hms
      exact nomatch hc
  | idle found hms hover =>
      obtain ⟨look, hmem, current, r, hfound, hrow, hshows⟩ := hlook hms
      obtain rfl := Option.some.inj hfound
      refine .tooLate _ (not_won_of_milestones fun x hx hended => ?_)
        (h.final_of_found hfirst hunfailing hunderway hmem hrow hshows fun hc => ?_)
      · rw [hms] at hx
        rw [List.mem_singleton.mp hx] at hended
        exact nomatch hended
      · rw [hc] at hover
        exact Bool.noConfusion hover
  | gone found taken hms =>
      obtain ⟨_, _, hc, -⟩ :=
        h.last_of_look hfirst hunfailing hunderway [] hms (hwrote taken)
      exact nomatch hc
  | overtaken found current hms =>
      obtain ⟨current', final, hfound, hfinal, hover, -, hshows⟩ :=
        h.last_of_look hfirst hunfailing hunderway [] hms (hwrote false)
      obtain rfl := Option.some.inj hfound
      refine .tooLate _ (not_won_of_milestones fun x hx hended => ?_)
        ⟨final, hfinal, hshows.status, hover⟩
      rw [hms] at hx
      simp only [Desk.afterCancel, List.mem_cons, List.not_mem_nil, or_false] at hx
      rcases hx with rfl | rfl | rfl <;> cases hended
  | cancelled found current hms htold =>
      obtain ⟨current', final, hfound, hfinal, -, hread, -⟩ :=
        h.last_of_look hfirst hunfailing hunderway [_] hms (hwrote true)
      obtain rfl := Option.some.inj hfound
      refine .cancelled current final (wonBy_of_milestones (.ok true) ?_ rfl) hfinal hread
      rw [hms]
      exact List.mem_cons_of_mem _ (List.mem_cons_of_mem _ (List.mem_cons_self ..))

/-- A sweep has ended a job that was processing by the write for such jobs. -/
private theorem wonBy_of_timedOut (h : History settings first past s) (hfirst : first.Reached)
    (hunfailing : Unfailing past) (hunderway : Underway first job row) (he : e ∈ past)
    {now : Instant} {listed : Job} (hwhat : e.what = .timedOut settings now listed true)
    (hjob : listed.id = job) :
    WonBy past job e.doer
      (.failJob job .processing (Desk.timeoutReason settings .processing) (some now)) := by
  have hended : e.what.ended? = some job := by
    rw [hwhat, ← hjob]
    rfl
  obtain ⟨r, hrow, hcases, -, -⟩ := h.before_of_underway hfirst hunfailing hunderway he
  obtain ⟨after, earlier, rfl⟩ := List.append_of_mem he
  obtain ⟨change, r', hevent⟩ := h.upTo.ended hfirst hended
  rw [hevent.before, Option.some.injEq] at hrow
  subst hrow
  obtain ⟨source, hsource, hstatus⟩ := hevent.source
  have hchange := hevent.what
  rw [hwhat] at hchange
  cases hchange
  rw [List.mem_singleton.mp hsource] at hstatus
  rcases hcases with rfl | hover
  · have hprocessing := JobStatus.label_injective (hstatus.symm.trans hunderway.status)
    refine ⟨e, he, rfl, ?_, hended⟩
    rw [hwhat, ← hjob, ← hprocessing]
    rfl
  · rw [hevent.active] at hover
    exact Bool.noConfusion hover

end History

/-! ### Counting -/

private theorem countP_ends_eq (job : JobId) (xs : List Exchange) :
    xs.countP Exchange.ends = xs.countP (fun x => x.ends && x.ended? != some job)
      + xs.countP fun x => x.ended? == some job := by
  induction xs with
  | nil => rfl
  | cons x xs ih =>
      rw [List.countP_cons, List.countP_cons, List.countP_cons, ih]
      by_cases h : x.ended? = some job
      · have hends : x.ends = true := by rw [Exchange.ends, h]; rfl
        simp only [hends, h, bne_self_eq_false, beq_self_eq_true, Bool.and_false, if_true,
          Bool.false_eq_true, if_false]
        omega
      · have hne : (x.ended? == some job) = false := by simpa using h
        simp only [bne, hne, Bool.not_false, Bool.and_true, Bool.false_eq_true, if_false]
        omega

/-- How often somebody has ended a job: once, if at all. -/
private theorem Verdict.countP_own (h : Verdict past job row s) (doer : Nat) :
    (Won past job doer ∧ (own past doer).countP (fun x => x.ended? == some job) = 1) ∨
      (¬ Won past job doer ∧ (own past doer).countP (fun x => x.ended? == some job) = 0) := by
  have hcount : (own past doer).countP (fun x => x.ended? == some job)
      = (endings past job).countP fun e => e.doer == doer := by
    rw [own, List.countP_map, List.countP_filter, endings, List.countP_filter]
    refine List.countP_congr fun e _ => ?_
    simp only [Function.comp_apply, Bool.and_eq_true, beq_iff_eq, decide_eq_true_eq]
    exact and_comm
  rw [hcount]
  cases h with
  | waiting hnobody =>
      refine Or.inr ⟨?_, by rw [hnobody]; rfl⟩
      rintro ⟨e, he, -, hended⟩
      have hmem := mem_endings.mpr ⟨he, hended⟩
      rw [hnobody] at hmem
      exact List.not_mem_nil hmem
  | spoken winner change hwinner =>
      have hwinner' : winner ∈ past ∧ winner.what.ended? = some job := by
        rw [← mem_endings, hwinner]
        exact List.mem_singleton_self _
      rw [hwinner, List.countP_singleton]
      by_cases hdoer : winner.doer = doer
      · exact Or.inl ⟨⟨winner, hwinner'.1, hdoer, hwinner'.2⟩, if_pos (by simpa using hdoer)⟩
      · refine Or.inr ⟨?_, if_neg (by simpa using hdoer)⟩
        rintro ⟨e, he, rfl, hended⟩
        have hmem := mem_endings.mpr ⟨he, hended⟩
        rw [hwinner, List.mem_singleton] at hmem
        rw [hmem] at hdoer
        exact hdoer rfl

namespace History

/-- **How a sweep reports.** -/
theorem sweep_reports (h : History settings first past s) (hfirst : first.Reached)
    (hunfailing : Unfailing past) (hunderway : Underway first job row) {now : Instant}
    {result : Except DeskError Nat}
    (hends : Desk.SweepEnds settings now (own past doer) result) :
    SweepReports settings now past job doer result := by
  cases hends with
  | storage cause x hx hfailed => exact (hunfailing.not_failed hx hfailed).elim
  | outOfRange cause hcutoff hms =>
      refine .outOfRange cause hcutoff (not_won_of_milestones fun x hx => ?_)
      rw [hms] at hx
      exact nomatch hx
  | swept oldest jobs tried hms htold =>
      rw [countP_ends_eq job]
      rcases (h.verdict hfirst hunfailing hunderway).countP_own doer with ⟨hwon, hone⟩ | ⟨hlost, hnone⟩
      · rw [hone]
        refine .counted ?_
        obtain ⟨e, he, rfl, hended⟩ := hwon
        obtain ⟨listed, -, hwhat, -⟩ := htold e.what (mem_own.mpr ⟨e, he, rfl, rfl⟩)
          (by rw [Exchange.ends, hended]; rfl)
        have hjob : listed.id = job := by
          rw [hwhat] at hended
          exact Option.some.inj hended
        exact h.wonBy_of_timedOut hfirst hunfailing hunderway he hwhat hjob
      · rw [hnone]
        exact .notCounted hlost

/-! ### Those who have not ended anything -/

/-- Whoever is not submitting a job changes nothing but by ending a job. -/
theorem eq_of_not_ended (h : History settings first (e :: past) s) (hfirst : first.Reached)
    (hok : ¬ e.what.Failed) (hduty : ∀ requester request, e.duty ≠ .submit requester request)
    (hnot : e.what.ended? = none) : e.after = e.before := by
  rcases h.happens.wrote_or_eq (h.earlier.wf hfirst) hok with hsame | ⟨change, a, hwhat, hran⟩
  · exact hsame
  · have hmay := h.may
    rw [hwhat] at hmay hnot
    generalize (Except.ok a : Except StoreError change.Answer) = answer at hran hnot
    generalize e.after = s' at hran ⊢
    cases hran with
    | broken | occupied | notRecorded | declined => rfl
    | created =>
        obtain ⟨requester, request, _, hsubmit, -⟩ := Duty.may_createJob hmay
        exact absurd hsubmit (hduty requester request)
    | dispatched =>
        obtain ⟨requester, request, _, _, hsubmit, -⟩ := Duty.may_markDispatched hmay
        exact absurd hsubmit (hduty requester request)
    | recorded =>
        obtain ⟨requester, request, _, _, hsubmit, -⟩ := Duty.may_recordHandle hmay
        exact absurd hsubmit (hduty requester request)
    | ended _ _ _ hended =>
        rw [hnot] at hended
        exact nomatch hended

end History

/-- What is settled about a job that was processing when the office opened. -/
structure OneWinner (settings : DeskSettings) (first : Store) (o : Office) (job : JobId)
    (row : JobRow) : Prop where
  /-- Nobody has ended the job, or one has, and the store holds what the winner wrote. -/
  verdict : Verdict o.past job row o.store
  unique : ∀ doer doer', Won o.past job doer → Won o.past job doer' → doer = doer'
  /-- Findings come from a report that has won. -/
  reported : o.store.findingsOf job ≠ ([], []) →
    ∃ winner checked report, endings o.past job = [winner] ∧
      winner.what.1 = .write (.applyReport job checked) ∧ Report.check report = .ok checked ∧
      (winner.duty = .ingest job report ∨ ∃ handle, winner.duty = .check job handle)
  /-- Whoever has not ended the job has left it alone. -/
  alone : ∀ e ∈ o.past, e.what.ended? ≠ some job →
    e.after.jobRow? job = e.before.jobRow? job ∧ e.after.findingsOf job = e.before.findingsOf job
  /-- Whoever is not submitting changes nothing at all but by ending a job. -/
  silent : ∀ e ∈ o.past, (∀ requester request, e.duty ≠ .submit requester request) →
    e.what.ended? = none → e.after = e.before
  ingests : ∀ doer report (result : Except DeskError IngestOutcome) stopped,
    o.agents[doer]? = some ⟨.ingest job report, .done result, stopped⟩ →
      IngestReports o.past o.store job report doer result
  cancels : ∀ doer requester (result : Except DeskError Job) stopped,
    first.owns requester row = true →
      o.agents[doer]? = some ⟨.cancel job requester, .done result, stopped⟩ →
        CancelReports o.past o.store job doer result
  sweepsAt : ∀ doer now (result : Except DeskError Nat) stopped,
    o.agents[doer]? = some ⟨.sweepAt now, .done result, stopped⟩ →
      SweepReports settings now o.past job doer result
  sweeps : ∀ doer (result : Except DeskError Nat) stopped,
    o.agents[doer]? = some ⟨.sweep, .done result, stopped⟩ →
      ∃ now, SweepReports settings now o.past job doer result

namespace History

private theorem alone_of_underway (h : History settings first past s) (hfirst : first.Reached)
    (hunfailing : Unfailing past) (hunderway : Underway first job row) (he : e ∈ past)
    (hnot : e.what.ended? ≠ some job) :
    e.after.jobRow? job = e.before.jobRow? job ∧
      e.after.findingsOf job = e.before.findingsOf job := by
  obtain ⟨r, hrow, hcases, hhandle, -⟩ := h.before_of_underway hfirst hunfailing hunderway he
  have hok := hunfailing e he
  obtain ⟨after, earlier, rfl⟩ := List.append_of_mem he
  refine ⟨?_, h.upTo.findings_of_not_ended hfirst hok hnot⟩
  rw [hrow]
  exact h.upTo.row_of_not_ended hfirst hok hnot hrow (hunderway.not_pending hcases)
    (hhandle ▸ hunderway.handle hfirst)

private theorem reported_of_underway (h : History settings first past s) (hfirst : first.Reached)
    (hunfailing : Unfailing past) (hunderway : Underway first job row)
    (hsome : s.findingsOf job ≠ ([], [])) :
    ∃ winner checked report, endings past job = [winner] ∧
      winner.what.1 = .write (.applyReport job checked) ∧ Report.check report = .ok checked ∧
      (winner.duty = .ingest job report ∨ ∃ handle, winner.duty = .check job handle) := by
  cases h.verdict hfirst hunfailing hunderway with
  | waiting _ _ hnone => exact absurd hnone hsome
  | spoken winner change hwinner hchange _ _ _ hfindings =>
      rw [hfindings] at hsome
      have hmem : winner ∈ past ∧ winner.what.ended? = some job := by
        rw [← mem_endings, hwinner]
        exact List.mem_singleton_self _
      obtain ⟨change', hchange', hjob, -⟩ := Exchange.write_of_ended hmem.2
      rw [hchange] at hchange'
      cases hchange'
      cases change with
      | applyReport id checked =>
          subst hjob
          obtain ⟨after, earlier, rfl⟩ := List.append_of_mem hmem.1
          have hmay := h.upTo.may
          rw [hchange] at hmay
          obtain ⟨report, hcheck, hduty⟩ := Duty.may_applyReport hmay
          exact ⟨winner, checked, report, hwinner, hchange, hcheck, hduty⟩
      | createJob | markDispatched | recordHandle | failJob | cancelJob => exact absurd rfl hsome

end History

/-- **Exactly one ending wins.**  A job is processing, and any number of ingests, cancellations, sweeps
and pollers are at work on it and on anything else, in any order, with a store that does not fail.
One write at most ends the job, and the row and the findings in the store are what it has written.
Whoever has not ended the job has left it alone, and reports where the winner has left it. -/
theorem one_winner {settings : DeskSettings} {first : Store} {o : Office} (hfirst : first.Reached)
    (ho : o.Reached settings first) (hunfailing : Unfailing o.past) {job : JobId} {row : JobRow}
    (hunderway : Underway first job row) : OneWinner settings first o job row := by
  have hsound := ho.sound
  have hlog := hsound.history
  have hverdict := hlog.verdict hfirst hunfailing hunderway
  refine ⟨hverdict, fun _ _ => hverdict.winner_unique,
    hlog.reported_of_underway hfirst hunfailing hunderway,
    fun e he => hlog.alone_of_underway hfirst hunfailing hunderway he, ?_, ?_, ?_, ?_, ?_⟩
  · intro e he hduty hnot
    obtain ⟨after, earlier, hpast⟩ := List.append_of_mem he
    rw [hpast] at hlog
    exact hlog.upTo.eq_of_not_ended hfirst (hunfailing e he) hduty hnot
  · intro doer report result stopped hagent
    exact hlog.ingest_reports hfirst hunfailing hunderway (hsound.ends hagent)
  · intro doer requester result stopped howns hagent
    exact hlog.cancel_reports hfirst hunfailing hunderway howns (hsound.ends hagent)
  · intro doer now result stopped hagent
    exact hlog.sweep_reports hfirst hunfailing hunderway (hsound.ends hagent)
  · intro doer result stopped hagent
    obtain ⟨now, hends⟩ := hsound.ends hagent
    exact ⟨now, hlog.sweep_reports hfirst hunfailing hunderway hends⟩

theorem one_winner_played :
    ∃ row, Underway Small.dispatched default row ∧ (endings Small.contest.past default).length = 1 ∧
      (Small.contest.Returned 0 ∧ Small.contest.Returned 1 ∧ Small.contest.Returned 2) ∧
      OneWinner Small.settings Small.dispatched Small.contest default row := by
  have hfound : ∃ row ∈ Small.dispatched.jobRow? default,
      row.status = JobStatus.processing.label := by decide +kernel
  obtain ⟨row, hrow, hstatus⟩ := hfound
  refine ⟨row, ⟨hrow, hstatus⟩, by decide +kernel, by decide +kernel, ?_⟩
  exact one_winner Small.dispatched_reached (Office.reached_played ..) (by decide +kernel)
    ⟨hrow, hstatus⟩

end AnalysisDesk
