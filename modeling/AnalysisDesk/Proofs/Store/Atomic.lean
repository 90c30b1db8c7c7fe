/-
Writes are all or nothing.

A write that fails, that declines, or that finds an active job in its way leaves the store as it
was: the rows of all five tables, and the ids that the next inserts will get.  A report that was
written was written as a whole: the row of its job, and a row for each of its findings, in their
order and with ids that ascend.

Two things could go wrong.  The findings of a report are inserted one after the other, and an
insert may fail at any place behind others that did not; `Reported` says that nothing is left of
these.  And a new user, repository or job is read back after it was inserted, so that a failure
could come too late.  What is read back is the row that was inserted, as its key is new, and this
row can be read if the time that it was given has room in a timestamp.
-/
import AnalysisDesk.Proofs.Store.Delivery
import AnalysisDesk.Proofs.Store.Tables

namespace AnalysisDesk

namespace Store

variable {s : Store} {now : Instant}

/-! ### Rows that are read back -/

/-- A new row is found under its id if no row before has this id. -/
theorem find?_append_new {α : Type} (id : α → Int) (row : α) {rows : List α}
    (hnew : ∀ old ∈ rows, id old ≠ id row) :
    ((rows ++ [row]).find? fun other => id other == id row) = some row := by
  have hnone : (rows.find? fun other => id other == id row) = none := by
    rw [List.find?_eq_none]
    intro old hold
    simpa using hnew old hold
  simp [List.find?_append, hnone]

/-- A user who cannot be added leaves no trace. -/
theorem Numbered.createUser_of_error (h : s.Numbered) (hyear : now.HasPlainYear) {username : String}
    {e : StoreError} (herror : (s.createUser username now).1 = .error e) :
    (s.createUser username now).2 = s := by
  unfold createUser at herror ⊢
  by_cases htaken : (s.users.any fun row => row.username == username) = true
  · rw [if_pos htaken]
  · rw [if_neg htaken] at herror
    have hfound := find?_append_new UserRow.id ⟨s.lastUser + 1, username, now.stored⟩
      h.users.succ_new
    have hread : (⟨s.lastUser + 1, username, now.stored⟩ : UserRow).read
        = .ok ⟨s.lastUser + 1, username, now.cut⟩ := by
      rw [UserRow.read, readTimestamp_eq_ok_iff.mpr ⟨hyear, rfl⟩]
      rfl
    simp only [user?, userRow?, hfound, readOne, hread] at herror
    cases herror

/-- A repository that cannot be added leaves no trace. -/
theorem Numbered.createRepository_of_error (h : s.Numbered) (hyear : now.HasPlainYear) {user : Int}
    {name cloneUrl defaultBranch : String} {e : StoreError}
    (herror : (s.createRepository user name cloneUrl defaultBranch now).1 = .error e) :
    (s.createRepository user name cloneUrl defaultBranch now).2 = s := by
  unfold createRepository at herror ⊢
  by_cases hnobody : (s.userRow? user).isNone = true
  · rw [if_pos hnobody]
  · rw [if_neg hnobody] at herror
    have hfound := find?_append_new RepositoryRow.id
      ⟨s.lastRepository + 1, user, name, cloneUrl, defaultBranch, now.stored⟩
      h.repositories.succ_new
    have hread : (⟨s.lastRepository + 1, user, name, cloneUrl, defaultBranch, now.stored⟩ :
        RepositoryRow).read
        = .ok ⟨s.lastRepository + 1, user, name, cloneUrl, defaultBranch, now.cut⟩ := by
      rw [RepositoryRow.read, readTimestamp_eq_ok_iff.mpr ⟨hyear, rfl⟩]
      rfl
    simp only [repository?, repositoryRow?, hfound, readOne, hread] at herror
    cases herror

/-- A job that is not created leaves no trace. -/
theorem WF.createJob_of_refused (h : s.WF) (hyear : now.HasPlainYear) {id : JobId} {job : NewJob}
    (hnot : ∀ created, (s.createJob id job now).1 ≠ .ok (.created created)) :
    (s.createJob id job now).2 = s := by
  have hcreate := createJob_outcome h.named id job now
  generalize s.createJob id job now = outcome at hcreate hnot ⊢
  cases hcreate with
  | active => rfl
  | refused => rfl
  | created =>
      rw [pendingRow_read, readTimestamp_eq_ok_iff.mpr ⟨hyear, rfl⟩] at hnot
      exact absurd rfl (hnot (pendingJob id job now.cut))

/-! ### Conditional writes -/

/-- A conditional step that is refused or declined leaves no trace. -/
theorem Stepped.eq_of_refused {id : JobId} {sources : List JobStatus} {target : JobStatus}
    {change : JobRow → JobRow} {outcome : Outcome Bool} (h : Stepped s id sources target change outcome)
    (hnot : outcome.1 ≠ .ok true) : outcome.2 = s := by
  cases h with
  | illegal => rfl
  | unchanged => rfl
  | changed => exact absurd rfl hnot

/-- A report that is refused or ignored leaves no trace. -/
theorem Reported.eq_of_refused {id : JobId} {report : CheckedReport} {outcome : Outcome Bool}
    (h : Reported s id report now outcome) (hnot : outcome.1 ≠ .ok true) : outcome.2 = s := by
  cases h with
  | refused => rfl
  | ignored => rfl
  | applied => exact absurd rfl hnot

/-! ### Answers -/

/-- What an operation answers. -/
inductive Answer where
  | user (user : User)
  | repository (repository : Repository)
  | creation (creation : Creation)
  | changed (changed : Bool)
  | done

/-- An outcome whose answer is one of several. -/
def Outcome.answered {α : Type} (outcome : Outcome α) (answer : α → Answer) : Outcome Answer :=
  (outcome.1.map answer, outcome.2)

/-- The answer of an operation, and the store after it. -/
def Operation.run (now : Instant) (s : Store) : Operation → Outcome Answer
  | .createUser username => Outcome.answered (s.createUser username now) .user
  | .createRepository user name cloneUrl defaultBranch =>
    Outcome.answered (s.createRepository user name cloneUrl defaultBranch now) .repository
  | .createJob id job => Outcome.answered (s.createJob id job now) .creation
  | .markDispatched id handle => Outcome.answered (s.markDispatched id handle now) .changed
  | .recordHandle id handle => Outcome.answered (s.recordHandle id handle) fun _ => .done
  | .failJob id source reason => Outcome.answered (s.failJob id source reason now) .changed
  | .cancelJob id reason => Outcome.answered (s.cancelJob id reason now) .changed
  | .applyReport refused id report =>
    Outcome.answered (s.applyReport refused id report now) .changed

/-- An answer to say that nothing was written. -/
inductive Refuses : Except StoreError Answer → Prop
  | failed (e : StoreError) : Refuses (.error e)
  | declined : Refuses (.ok (.changed false))
  | active (existing : JobId) : Refuses (.ok (.creation (.active existing)))

/-- A failure is that of the call. -/
theorem error_of_answered {α : Type} {outcome : Outcome α} {answer : α → Answer}
    (h : Refuses (outcome.answered answer).1) (hyes : ∀ a, ¬ Refuses (.ok (answer a))) :
    ∃ e, outcome.1 = .error e := by
  obtain ⟨answered, s'⟩ := outcome
  cases answered with
  | error e => exact ⟨e, rfl⟩
  | ok a => exact absurd h (hyes a)

theorem not_true_of_answered {outcome : Outcome Bool}
    (h : Refuses (outcome.answered .changed).1) : outcome.1 ≠ .ok true := by
  intro htrue
  rw [Outcome.answered, htrue] at h
  exact nomatch h

/-- **An operation that refuses leaves no trace.** -/
theorem Reached.eq_of_refuses (hs : s.Reached) (hyear : now.HasPlainYear) (op : Operation)
    (hrefuses : Refuses (op.run now s).1) : (op.run now s).2 = s := by
  cases op with
  | createUser username =>
      obtain ⟨e, herror⟩ := error_of_answered hrefuses fun _ h => nomatch h
      exact hs.numbered.createUser_of_error hyear herror
  | createRepository user name cloneUrl defaultBranch =>
      obtain ⟨e, herror⟩ := error_of_answered hrefuses fun _ h => nomatch h
      exact hs.numbered.createRepository_of_error hyear herror
  | createJob id job =>
      refine hs.wf.createJob_of_refused hyear fun created hcreated => ?_
      rw [Operation.run, Outcome.answered, hcreated] at hrefuses
      exact nomatch hrefuses
  | recordHandle id handle =>
      rw [Operation.run, Outcome.answered, recordHandle] at hrefuses
      exact nomatch hrefuses
  | markDispatched id handle =>
      exact (step_stepped hs.wf.ids id _ _ _).eq_of_refused (not_true_of_answered hrefuses)
  | failJob id source reason =>
      exact (step_stepped hs.wf.ids id _ _ _).eq_of_refused (not_true_of_answered hrefuses)
  | cancelJob id reason =>
      exact (step_stepped hs.wf.ids id _ _ _).eq_of_refused (not_true_of_answered hrefuses)
  | applyReport refused id report =>
      exact (applyReport_reported hs.wf.ids refused id report now).eq_of_refused
        (not_true_of_answered hrefuses)

/-! ### Reports that were written -/

/-- Findings that have become rows at the end of their table: one row for each of them, in their
order, and with ids that ascend and are greater than those given out before. -/
structure Entries {α β : Type} (row : Int → α → β) (id : β → Int) (found : List α) (last : Int)
    (before after : List β) : Prop where
  rows : ∃ added, after = before ++ added ∧
    List.Forall₂ (fun entry finding => entry = row (id entry) finding) added found ∧
    (added.map id).Pairwise (· < ·) ∧ ∀ entry ∈ added, last < id entry

/-- A report that was written: the row of its job and all its findings, and nothing else. -/
structure HasReport (s : Store) (job : JobId) (report : CheckedReport) (now : Instant)
    (s' : Store) : Prop where
  row : ∃ row, s.jobRow? job = some row ∧ row.status = JobStatus.processing.label ∧
    s'.jobRow? job = some (rowWithReport report now row)
  issues : Entries (issueRow job) (·.id) report.issues s.lastIssue s.issues s'.issues
  metrics : Entries (metricRow job) (·.id) report.metrics s.lastMetric s.metrics s'.metrics
  rest : OnlyChanged job s s'

/-- Rows that are made of findings one after the other, each with the id after the last one. -/
theorem entries_append {α β : Type} {row : Int → α → β} {id : β → Int} {rows : Int → List α → List β}
    (hid : ∀ i a, id (row i a) = i) (hnil : ∀ last, rows last [] = [])
    (hcons : ∀ last a rest, rows last (a :: rest) = row (last + 1) a :: rows (last + 1) rest)
    (before : List β) (found : List α) (last : Int) :
    Entries row id found last before (before ++ rows last found) := by
  refine ⟨rows last found, rfl, ?_⟩
  induction found generalizing last with
  | nil =>
      rw [hnil]
      exact ⟨.nil, .nil, fun _ h => nomatch h⟩
  | cons a rest ih =>
      obtain ⟨hrows, hsorted, hgreater⟩ := ih (last + 1)
      have hfirst := hid (last + 1) a
      rw [hcons, List.map_cons, List.pairwise_cons, List.forall_mem_map, List.forall_mem_cons, hfirst]
      exact ⟨.cons (by rw [hfirst]) hrows, ⟨hgreater, hsorted⟩, by omega,
        fun entry hentry => (Int.lt_succ last).trans (hgreater entry hentry)⟩

/-- When every part of a report can be written: its job is processing and may take the status of
the report, no insert fails, and no metric is a NaN. -/
structure Takes (s : Store) (refused : FindingSite → Bool) (job : JobId) (report : CheckedReport) :
    Prop where
  row : ∃ row, s.jobRow? job = some row ∧ row.status = JobStatus.processing.label
  legal : JobStatus.processing.canBecome report.status = true
  issues : ∀ place < report.issues.length, refused (.issue place) = false
  metrics : ∀ place < report.metrics.length, refused (.metric place) = false
  numbers : ∀ metric ∈ report.metrics, metric.value.isNaN = false

variable {job : JobId} {report : CheckedReport} {refused : FindingSite → Bool}

/-- **A report is written exactly if every part of it can be.** -/
theorem WF.applyReport_true_iff (h : s.WF) (refused : FindingSite → Bool) (job : JobId)
    (report : CheckedReport) (now : Instant) :
    (s.applyReport refused job report now).1 = .ok true ↔ s.Takes refused job report := by
  constructor
  · intro htrue
    have hreported := applyReport_reported h.ids refused job report now
    generalize houtcome : s.applyReport refused job report now = outcome at hreported htrue
    cases hreported with
    | refused => exact nomatch htrue
    | ignored => exact nomatch htrue
    | applied row hrow hlegal hstatus =>
        unfold applyReport at houtcome
        rw [step_of_status h hrow hstatus hlegal] at houtcome
        dsimp only at houtcome
        split at houtcome
        · exact nomatch houtcome
        · rename_i withIssues hissues
          have hissues' := (exists_insertIssues_iff report.issues 0 _).mp ⟨withIssues, hissues⟩
          split at houtcome
          · exact nomatch houtcome
          · rename_i complete hmetrics
            have hmetrics' := (exists_insertMetrics_iff report.metrics 0 _).mp ⟨complete, hmetrics⟩
            simp only [Nat.zero_add] at hissues' hmetrics'
            exact ⟨⟨row, hrow, hstatus⟩, hlegal, hissues', hmetrics'.1, hmetrics'.2⟩
  · rintro ⟨⟨row, hrow, hstatus⟩, hlegal, hissues, hmetrics, hnumbers⟩
    rw [applyReport_of_inserts h hrow hstatus hlegal hissues hmetrics hnumbers now]

/-- **A report that was written was written as a whole.** -/
theorem WF.hasReport_of_true (h : s.WF) (htrue : (s.applyReport refused job report now).1 = .ok true) :
    s.HasReport job report now (s.applyReport refused job report now).2 := by
  have hreported := applyReport_reported h.ids refused job report now
  generalize s.applyReport refused job report now = outcome at hreported htrue ⊢
  cases hreported with
  | refused => exact nomatch htrue
  | ignored => exact nomatch htrue
  | applied row hrow hlegal hstatus =>
      have hid : (rowWithReport report now row).id = job.text := (jobRow?_mem hrow).2
      have hput : OnlyChanged job s (s.putRow job (rowWithReport report now row)) :=
        OnlyChanged.putRow hrow rfl
      exact ⟨⟨row, hrow, hstatus, jobRow?_putRow_self hrow hid⟩,
        entries_append (fun _ _ => rfl) (fun _ => rfl) (fun _ _ _ => rfl) _ _ _,
        entries_append (fun _ _ => rfl) (fun _ => rfl) (fun _ _ _ => rfl) _ _ _,
        hput.withFindings report⟩

/-- **Writes are all or nothing.**  In every reachable store, an operation at an instant that has
room in a timestamp leaves the store as it was if it fails, declines, or finds an active job.  A
report is written exactly if its job takes it and no insert fails, and then all of it is written,
in the order of the report and with ascending ids. -/
theorem writes_all_or_nothing (s : Store) (hs : s.Reached) (now : Instant)
    (hyear : now.HasPlainYear) :
    (∀ op : Operation, Refuses (op.run now s).1 → (op.run now s).2 = s) ∧
    ∀ refused job report,
      ((s.applyReport refused job report now).1 = .ok true ↔ s.Takes refused job report) ∧
      ((s.applyReport refused job report now).1 = .ok true →
        s.HasReport job report now (s.applyReport refused job report now).2) :=
  ⟨fun op => hs.eq_of_refuses hyear op, fun refused job report =>
    ⟨hs.wf.applyReport_true_iff refused job report now, hs.wf.hasReport_of_true⟩⟩

/-- A report of three findings, which is written as a whole, but not at all if its last insert
fails. -/
theorem writes_all_or_nothing_played :
    let s := Store.empty.afterAll
      [(.createUser "ada", ⟨0⟩), (.createRepository 1 "site" "https://git.example.com/site.git" "main", ⟨1⟩),
        (.createJob default ⟨1, "https://git.example.com/site.git", "main", none⟩, ⟨2⟩),
        (.markDispatched default "h-1", ⟨3⟩)]
    let report : CheckedReport :=
      { status := .completed, qualityScore := none, maintainabilityIndex := none,
        complexityScore := none, securityRating := none, issuesFound := 2, filesAnalyzed := none,
        issues := [⟨.high, "style", "long line", none, none, "a.c", some 4⟩,
          ⟨.critical, "safety", "overflow", none, none, "b.c", none⟩],
        metrics := [⟨"lines", .zero, none⟩], error := none }
    (s.applyReport (fun site => site == .metric 0) default report ⟨4⟩).2 = s ∧
      s.HasReport default report ⟨4⟩ (s.applyReport noneRefused default report ⟨4⟩).2 := by
  intro s report
  have hs : s.Reached := (Store.leads_afterAll .empty _).reached .empty
  have hwrites := writes_all_or_nothing s hs ⟨4⟩ (by decide +kernel)
  refine ⟨hwrites.1 (.applyReport (fun site => site == .metric 0) default report) ?_,
    (hwrites.2 noneRefused default report).2 (by decide +kernel)⟩
  have hfails : (s.applyReport (fun site => site == .metric 0) default report ⟨4⟩).1
      = .error .metricNotInserted := by decide +kernel
  rw [Operation.run, Outcome.answered, hfails]
  exact .failed _

end Store

end AnalysisDesk
