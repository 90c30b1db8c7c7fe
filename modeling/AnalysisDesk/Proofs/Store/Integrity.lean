/-
What the tables promise each other.

Keys belong to one row, references lead to a row, and a finding has been brought by the
report of its job.  Nothing of this depends on the arguments that operations are called
with: an operation that would break it, be it with the name of another user, with an
identifier that is taken or for a repository that does not exist, leaves the store as it
was.  `Moves` says so for each operation, and the invariants here are read off it.

Where a finding comes from is a statement about the run and not about the store.  Only one
operation adds findings, `Operation.findings_cases`, and it adds them to a job that is
processing at that moment and over ever after.  So the run can be taken apart at the
operation that brought the finding.
-/
import AnalysisDesk.Proofs.Store.Stamps
import AnalysisDesk.Proofs.Store.Tables
import AnalysisDesk.Proofs.Store.Written
import Mathlib.Data.List.Induction

namespace AnalysisDesk

/-- Ids as a table gives them out. -/
structure GivenOut (ids : List Int) : Prop where
  positive : ∀ id ∈ ids, 0 < id
  ascending : ids.Pairwise (· < ·)

theorem Ascends.givenOut {ids : List Int} {last : Int} (h : Ascends (0 :: ids) last) :
    GivenOut ids := ⟨h.positive, h.tail.sorted⟩

namespace Store

variable {s s' : Store} {id job : JobId} {report : CheckedReport}

/-! ### Users and owners -/

/-- A store whose users have different names and whose repositories all have an owner. -/
structure Peopled (s : Store) : Prop where
  usernames : (s.users.map (·.username)).Nodup
  owners : ∀ row ∈ s.repositories, ∃ user ∈ s.users, user.id = row.userId

theorem Moves.peopled {now : Instant} (hmoves : s.Moves now s') (h : s.Peopled) : s'.Peopled := by
  cases hmoves with
  | stay | job | row | report => exact ⟨h.usernames, h.owners⟩
  | user username hnew =>
      refine ⟨?_, fun row hrow => ?_⟩
      · show ((s.users ++ _).map (·.username)).Nodup
        rw [List.map_append, List.map_singleton, ← List.concat_eq_append]
        refine h.usernames.concat fun hc => ?_
        obtain ⟨old, hold, hname⟩ := List.mem_map.mp hc
        exact hnew old hold hname
      · obtain ⟨user, hmem, hid⟩ := h.owners row hrow
        exact ⟨user, List.mem_append_left _ hmem, hid⟩
  | repository user name cloneUrl defaultBranch huser =>
      refine ⟨h.usernames, fun row hrow => ?_⟩
      rcases List.mem_append.mp hrow with hold | hnew
      · exact h.owners row hold
      · obtain ⟨owner, hfound⟩ := Option.isSome_iff_exists.mp huser
        rw [List.mem_singleton.mp hnew]
        exact ⟨owner, List.mem_of_find?_eq_some hfound,
          eq_of_beq (List.find?_some (p := fun row : UserRow => row.id == user) hfound)⟩

theorem Reached.peopled (h : s.Reached) : s.Peopled := by
  induction h with
  | empty => exact ⟨List.nodup_nil, fun _ h => nomatch h⟩
  | after op now hs ih => exact (op.moves hs.wf.ids hs.wf.named now).peopled ih

/-! ### Keys and references -/

/-- A store whose keys are unique, whose references lead to rows, and whose issues are ranked by
their severity. -/
structure Coherent (s : Store) : Prop where
  usernames : (s.users.map (·.username)).Nodup
  jobIds : (s.jobs.map (·.id)).Nodup
  owners : ∀ row ∈ s.repositories, ∃ user ∈ s.users, user.id = row.userId
  repositories : ∀ row ∈ s.jobs, ∃ repository ∈ s.repositories, repository.id = row.repositoryId
  issueJobs : ∀ row ∈ s.issues, ∃ job ∈ s.jobs, job.id = row.jobId
  metricJobs : ∀ row ∈ s.metrics, ∃ job ∈ s.jobs, job.id = row.jobId
  userIds : GivenOut (s.users.map (·.id))
  repositoryIds : GivenOut (s.repositories.map (·.id))
  issueIds : GivenOut (s.issues.map (·.id))
  metricIds : GivenOut (s.metrics.map (·.id))
  ranks : ∀ row ∈ s.issues, ∃ severity : Severity,
    Severity.ofLabel? row.severity = some severity ∧ row.severityRank = .value severity.rank

theorem Reached.coherent (h : s.Reached) : s.Coherent where
  usernames := h.peopled.usernames
  jobIds := h.wf.ids
  owners := h.peopled.owners
  repositories := h.written.housed
  issueJobs row hrow := (h.wf.issues row hrow).imp fun _ hjob => ⟨hjob.1, hjob.2.1⟩
  metricJobs row hrow := (h.wf.metrics row hrow).imp fun _ hjob => ⟨hjob.1, hjob.2.1⟩
  userIds := h.counted.users.givenOut
  repositoryIds := h.counted.repositories.givenOut
  issueIds := h.counted.issues.givenOut
  metricIds := h.counted.metrics.givenOut
  ranks row hrow := by
    obtain ⟨job, issue, heq⟩ := h.entered.issues row hrow
    rw [heq]
    exact ⟨issue.severity, Severity.ofLabel?_label _, rfl⟩

/-! ### Where findings come from -/

theorem Stepped.findings {sources : List JobStatus} {target : JobStatus} {change : JobRow → JobRow}
    {outcome : Outcome Bool} (h : Stepped s id sources target change outcome) :
    outcome.2.issues = s.issues ∧ outcome.2.metrics = s.metrics := by
  cases h <;> exact ⟨rfl, rfl⟩

/-- **An operation adds no findings, unless it writes the report of a job that is processing.** -/
theorem Operation.findings_cases (hs : s.WF) (op : Operation) (now : Instant) :
    ((op.after now s).issues = s.issues ∧ (op.after now s).metrics = s.metrics) ∨
      ∃ refused id report row, op = .applyReport refused id report ∧ s.jobRow? id = some row ∧
        row.status = JobStatus.processing.label ∧
        JobStatus.processing.canBecome report.status = true ∧
        s.applyReport refused id report now
          = (.ok true, (s.putRow id (rowWithReport report now row)).withFindings id report) := by
  cases op with
  | createUser username =>
      left
      show (s.createUser username now).2.issues = _ ∧ (s.createUser username now).2.metrics = _
      unfold Store.createUser
      split
      · exact ⟨rfl, rfl⟩
      · dsimp only
        split <;> exact ⟨rfl, rfl⟩
  | createRepository user name cloneUrl defaultBranch =>
      left
      show (s.createRepository user name cloneUrl defaultBranch now).2.issues = _ ∧
        (s.createRepository user name cloneUrl defaultBranch now).2.metrics = _
      unfold Store.createRepository
      split
      · exact ⟨rfl, rfl⟩
      · dsimp only
        split <;> exact ⟨rfl, rfl⟩
  | createJob id job =>
      left
      show (s.createJob id job now).2.issues = _ ∧ (s.createJob id job now).2.metrics = _
      have hcreate := createJob_outcome hs.named id job now
      generalize s.createJob id job now = outcome at hcreate ⊢
      cases hcreate <;> exact ⟨rfl, rfl⟩
  | markDispatched id handle => exact Or.inl (step_stepped hs.ids id _ _ _).findings
  | recordHandle id handle => exact Or.inl ⟨rfl, rfl⟩
  | failJob id source reason => exact Or.inl (step_stepped hs.ids id _ _ _).findings
  | cancelJob id reason => exact Or.inl (step_stepped hs.ids id _ _ _).findings
  | applyReport refused id report =>
      show ((s.applyReport refused id report now).2.issues = _ ∧
        (s.applyReport refused id report now).2.metrics = _) ∨ _
      have hreport := applyReport_reported hs.ids refused id report now
      generalize houtcome : s.applyReport refused id report now = outcome at hreport ⊢
      cases hreport with
      | refused | ignored => exact Or.inl ⟨rfl, rfl⟩
      | applied row hrow hlegal hstatus =>
          exact Or.inr ⟨refused, id, report, row, rfl, hrow, hstatus, hlegal, houtcome⟩

theorem afterAll_append (s : Store) (ops more : List (Operation × Instant)) :
    s.afterAll (ops ++ more) = (s.afterAll ops).afterAll more := List.foldl_append

/-- The report of a job in a run: an operation wrote it to the store as it was `before`, where the
job was processing, and the job has been over ever since, with the status of the report. -/
structure Brought (ops : List (Operation × Instant)) (job : JobId) (before : Store)
    (report : CheckedReport) : Prop where
  written : ∃ earlier refused now later,
    ops = earlier ++ (.applyReport refused job report, now) :: later ∧
      before = Store.empty.afterAll earlier ∧
      (before.applyReport refused job report now).1 = .ok true
  processing : ∃ row, before.jobRow? job = some row ∧ row.status = JobStatus.processing.label
  ended : ∃ row, (Store.empty.afterAll ops).jobRow? job = some row ∧
    row.status = report.status.label ∧ row.isActive = false

/-- Every finding is among the rows that the report of its job was written with. -/
structure FindingsBrought (ops : List (Operation × Instant)) : Prop where
  issues : ∀ row ∈ (Store.empty.afterAll ops).issues, ∃ job before report,
    row.jobId = job.text ∧ Brought ops job before report ∧ row ∈ (before.newFindings job report).1
  metrics : ∀ row ∈ (Store.empty.afterAll ops).metrics, ∃ job before report,
    row.jobId = job.text ∧ Brought ops job before report ∧ row ∈ (before.newFindings job report).2

theorem reached_afterAll (ops : List (Operation × Instant)) : (Store.empty.afterAll ops).Reached :=
  (leads_afterAll .empty ops).reached .empty

variable {ops : List (Operation × Instant)} {before : Store}

/-- A job whose report was written keeps the status of the report. -/
theorem Brought.push (h : Brought ops job before report) (op : Operation × Instant) :
    Brought (ops ++ [op]) job before report := by
  refine ⟨?_, h.processing, ?_⟩
  · obtain ⟨earlier, refused, now, later, hops, hwritten⟩ := h.written
    exact ⟨earlier, refused, now, later ++ [op], by rw [hops]; simp, hwritten⟩
  · obtain ⟨row, hrow, hstatus, hover⟩ := h.ended
    obtain ⟨row', hrow', hgoes⟩ := ((reached_afterAll ops).continues op.1 op.2).row hrow
    have hsettled := hgoes.settled hover
    refine ⟨row', ?_, ?_, hsettled.isActive.trans hover⟩
    · rw [afterAll_append]
      exact hrow'
    · rcases hsettled with rfl | ⟨-, handle, rfl⟩ <;> exact hstatus

/-- The operation that writes a report. -/
theorem brought_of_applied {refused : FindingSite → Bool} {now : Instant} {row : JobRow}
    (hrow : (Store.empty.afterAll ops).jobRow? job = some row)
    (hstatus : row.status = JobStatus.processing.label)
    (hlegal : JobStatus.processing.canBecome report.status = true)
    (happlied : (Store.empty.afterAll ops).applyReport refused job report now
      = (.ok true, ((Store.empty.afterAll ops).putRow job
          (rowWithReport report now row)).withFindings job report)) :
    Brought (ops ++ [(.applyReport refused job report, now)]) job (Store.empty.afterAll ops)
      report := by
  refine ⟨⟨ops, refused, now, [], rfl, rfl, congrArg Prod.fst happlied⟩, ⟨row, hrow, hstatus⟩,
    rowWithReport report now row, ?_, rfl, rowWithReport_over hlegal⟩
  rw [afterAll_append]
  show ((Store.empty.afterAll ops).applyReport refused job report now).2.jobRow? job = _
  rw [happlied]
  exact jobRow?_putRow_self hrow (jobRow?_mem hrow).2

/-- Rows that came with the reports of their jobs. -/
private theorem brought_rows_push {α : Type} {jobId : α → String}
    {added : Store → JobId → CheckedReport → List α} {rows : List α}
    (h : ∀ row ∈ rows, ∃ job before report,
      jobId row = job.text ∧ Brought ops job before report ∧ row ∈ added before job report)
    (op : Operation × Instant) : ∀ row ∈ rows, ∃ job before report,
      jobId row = job.text ∧ Brought (ops ++ [op]) job before report ∧
        row ∈ added before job report := by
  intro row hrow
  obtain ⟨job, before, report, hjob, hbrought, hnew⟩ := h row hrow
  exact ⟨job, before, report, hjob, hbrought.push op, hnew⟩

theorem FindingsBrought.push (h : FindingsBrought ops) (op : Operation × Instant) :
    FindingsBrought (ops ++ [op]) := by
  have hstore : Store.empty.afterAll (ops ++ [op]) = op.1.after op.2 (Store.empty.afterAll ops) :=
    afterAll_append ..
  have hissuesOld := brought_rows_push h.issues op
  have hmetricsOld := brought_rows_push h.metrics op
  obtain ⟨op, now⟩ := op
  rcases op.findings_cases (reached_afterAll ops).wf now with ⟨hissues, hmetrics⟩ |
    ⟨refused, job, report, row, rfl, hrow, hstatus, hlegal, happlied⟩
  · refine ⟨fun row hrow => ?_, fun row hrow => ?_⟩
    · rw [hstore, hissues] at hrow
      exact hissuesOld row hrow
    · rw [hstore, hmetrics] at hrow
      exact hmetricsOld row hrow
  · have hnow := brought_of_applied hrow hstatus hlegal happlied
    have hafter : Store.empty.afterAll (ops ++ [(.applyReport refused job report, now)])
        = ((Store.empty.afterAll ops).putRow job (rowWithReport report now _)).withFindings job
            report :=
      hstore.trans (congrArg Prod.snd happlied)
    refine ⟨fun finding hfinding => ?_, fun finding hfinding => ?_⟩
    · rw [hafter] at hfinding
      rcases List.mem_append.mp hfinding with hold | hnew
      · exact hissuesOld finding hold
      · exact ⟨job, _, report, issueRows_jobId _ _ hnew, hnow, hnew⟩
    · rw [hafter] at hfinding
      rcases List.mem_append.mp hfinding with hold | hnew
      · exact hmetricsOld finding hold
      · exact ⟨job, _, report, metricRows_jobId _ _ hnew, hnow, hnew⟩

/-- **In every run each finding was brought by the report of its job.** -/
theorem findingsBrought (ops : List (Operation × Instant)) : FindingsBrought ops := by
  induction ops using List.reverseRecOn with
  | nil => exact ⟨fun _ h => (nomatch h), fun _ h => nomatch h⟩
  | append_singleton ops op ih => exact ih.push op

/-- A store whose numbered tables are those of another one with further rows behind them. -/
structure Prolongs (s s' : Store) : Prop where
  users : s.users <+: s'.users
  repositories : s.repositories <+: s'.repositories
  issues : s.issues <+: s'.issues
  metrics : s.metrics <+: s'.metrics

/-- **Keys, references and the origin of findings.**  After any operations with any arguments, the
names of users and the identifiers of jobs are unique, every reference leads to a row, ids are
positive and ascend in the order of the tables, and issues have the rank of their severity.  Each
finding was written with the report that ended the processing of its job.  The order of the tables
is that of insertion, as further operations add rows only behind those that are there. -/
theorem tables_are_coherent (ops : List (Operation × Instant)) :
    (Store.empty.afterAll ops).Coherent ∧ FindingsBrought ops ∧
      ∀ more, (Store.empty.afterAll ops).Prolongs (Store.empty.afterAll (ops ++ more)) := by
  refine ⟨(reached_afterAll ops).coherent, findingsBrought ops, fun more => ?_⟩
  rw [afterAll_append]
  have h := (leads_afterAll (Store.empty.afterAll ops) more).continues (reached_afterAll ops)
  exact ⟨h.users, h.repositories, h.issues, h.metrics⟩

end Store

end AnalysisDesk
