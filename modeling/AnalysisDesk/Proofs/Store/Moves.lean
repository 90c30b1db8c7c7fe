/-
What one operation can do to a store.

The store has eight operations, and each of them, whatever its arguments are,
makes one of six moves: it changes nothing, adds a user, a repository or a
pending job, moves the row of one job, or writes a report with its findings.
`Operation.moves` is the only proof that looks into the operations one by one;
what holds of every store that operations can reach is proved move by move.
-/
import AnalysisDesk.Proofs.Store.Findings

namespace AnalysisDesk

/-! ### The moves of a row -/

/-- The row of a job that the analyzer has taken. -/
def JobRow.dispatched (row : JobRow) (handle : String) (now : Instant) : JobRow :=
  { row with
    status := JobStatus.processing.label
    externalHandle := some handle
    dispatchedAt := some now.stored }

/-- The row of a job that has ended without a report. -/
def JobRow.ended (row : JobRow) (target : JobStatus) (reason : String) (now : Instant) : JobRow :=
  { row with
    status := target.label
    error := some reason
    completedAt := some now.stored }

/-- The row of a job whose handle has been kept. -/
def JobRow.withHandle (row : JobRow) (handle : String) : JobRow :=
  { row with externalHandle := some handle }

/-- What may become of a row at an instant when no report is written. -/
inductive JobRow.Moves (row : JobRow) (now : Instant) : JobRow → Prop
  | dispatch (handle : String) (h : row.status = JobStatus.pending.label) :
      row.Moves now (row.dispatched handle now)
  | record (handle : String) (h : row.externalHandle = none) :
      row.Moves now (row.withHandle handle)
  | finish (source target : JobStatus) (reason : String)
      (hlegal : source.canBecome target = true) (hend : target = .failed ∨ target = .cancelled)
      (h : row.status = source.label) : row.Moves now (row.ended target reason now)

theorem JobRow.Moves.id_eq {row row' : JobRow} {now : Instant} (h : row.Moves now row') : row'.id = row.id := by
  cases h <;> rfl

theorem JobRow.Moves.repositoryId_eq {row row' : JobRow} {now : Instant}
    (h : row.Moves now row') : row'.repositoryId = row.repositoryId := by
  cases h <;> rfl

namespace JobStatus

theorem isActive_of_canBecome {source target : JobStatus} (h : source.canBecome target = true) :
    source.isActive = true := by
  cases hsource : source.isActive with
  | true => rfl
  | false =>
      rw [canBecome_of_terminal (by rw [isTerminal, hsource]; rfl) target] at h
      exact Bool.noConfusion h

theorem isTerminal_of_processing_canBecome {target : JobStatus}
    (h : processing.canBecome target = true) : target.isTerminal = true := by
  cases target <;> first | rfl | exact Bool.noConfusion h

end JobStatus

/-! ### The operations -/

namespace Store

/-- An operation of the store with its arguments. -/
inductive Operation where
  | createUser (username : String)
  | createRepository (user : Int) (name cloneUrl defaultBranch : String)
  | createJob (id : JobId) (job : NewJob)
  | markDispatched (id : JobId) (handle : String)
  | recordHandle (id : JobId) (handle : String)
  | failJob (id : JobId) (source : JobStatus) (reason : String)
  | cancelJob (id : JobId) (reason : String)
  | applyReport (refused : FindingSite → Bool) (id : JobId) (report : CheckedReport)

/-- The store after an operation. -/
def Operation.after (now : Instant) (s : Store) : Operation → Store
  | .createUser username => (s.createUser username now).2
  | .createRepository user name cloneUrl defaultBranch =>
    (s.createRepository user name cloneUrl defaultBranch now).2
  | .createJob id job => (s.createJob id job now).2
  | .markDispatched id handle => (s.markDispatched id handle now).2
  | .recordHandle id handle => (s.recordHandle id handle).2
  | .failJob id source reason => (s.failJob id source reason now).2
  | .cancelJob id reason => (s.cancelJob id reason now).2
  | .applyReport refused id report => (s.applyReport refused id report now).2

/-- The stores that operations reach from the empty one. -/
inductive Reached : Store → Prop
  | empty : Reached .empty
  | after {s : Store} (op : Operation) (now : Instant) (h : Reached s) : Reached (op.after now s)

/-! ### The moves of a store -/

/-- What one operation may make of a store at an instant. -/
inductive Moves (s : Store) (now : Instant) : Store → Prop
  | stay : s.Moves now s
  | user (username : String) (hnew : ∀ row ∈ s.users, row.username ≠ username) :
      s.Moves now { s with
        users := s.users ++ [⟨s.lastUser + 1, username, now.stored⟩], lastUser := s.lastUser + 1 }
  | repository (user : Int) (name cloneUrl defaultBranch : String)
      (huser : (s.userRow? user).isSome = true) :
      s.Moves now { s with
        repositories := s.repositories ++
          [⟨s.lastRepository + 1, user, name, cloneUrl, defaultBranch, now.stored⟩]
        lastRepository := s.lastRepository + 1 }
  | job (id : JobId) (job : NewJob)
      (hidle : ∀ row ∈ s.jobs, row.repositoryId = job.repositoryId → row.isActive = false)
      (hnew : s.jobRow? id = none) (hrepository : (s.repositoryRow? job.repositoryId).isSome = true) :
      s.Moves now { s with jobs := s.jobs ++ [pendingRow id job now] }
  | row (id : JobId) (row row' : JobRow) (hrow : s.jobRow? id = some row)
      (h : row.Moves now row') : s.Moves now (s.putRow id row')
  | report (id : JobId) (row : JobRow) (report : CheckedReport)
      (hrow : s.jobRow? id = some row)
      (hlegal : JobStatus.processing.canBecome report.status = true)
      (hstatus : row.status = JobStatus.processing.label)
      (hnumbers : ∀ metric ∈ report.metrics, metric.value.isNaN = false) :
      s.Moves now ((s.putRow id (rowWithReport report now row)).withFindings id report)

/-- What can come of the attempt to create a job. -/
inductive CreationOutcome (s : Store) (id : JobId) (job : NewJob) (now : Instant) :
    Outcome Creation → Prop
  | active (row : JobRow) (hmem : row ∈ s.jobs) (hrepository : row.repositoryId = job.repositoryId)
      (hactive : row.isActive = true) (existing : JobId) (hid : existing.text = row.id) :
      CreationOutcome s id job now (.ok (.active existing), s)
  | refused
      (hidle : ∀ row ∈ s.jobs, row.repositoryId = job.repositoryId → row.isActive = false)
      (h : s.jobRow? id ≠ none ∨ s.repositoryRow? job.repositoryId = none) :
      CreationOutcome s id job now (.error (.jobRefused job.repositoryId), s)
  | created
      (hidle : ∀ row ∈ s.jobs, row.repositoryId = job.repositoryId → row.isActive = false)
      (hnew : s.jobRow? id = none) (hrepository : (s.repositoryRow? job.repositoryId).isSome = true) :
      CreationOutcome s id job now
        ((pendingRow id job now).read.map .created,
          { s with jobs := s.jobs ++ [pendingRow id job now] })

variable {s : Store} {id : JobId} {row : JobRow}

theorem readJobId_text (id : JobId) : readJobId id.text = .ok id := by
  rw [readJobId, JobId.read?_text]

theorem activeRow?_eq_none_iff {repository : Int} :
    s.activeRow? repository = none ↔
      ∀ row ∈ s.jobs, row.repositoryId = repository → row.isActive = false := by
  simp [activeRow?]

theorem activeRow?_mem {repository : Int} (h : s.activeRow? repository = some row) :
    row ∈ s.jobs ∧ row.repositoryId = repository ∧ row.isActive = true := by
  have hfound := List.find?_some h
  rw [Bool.and_eq_true, beq_iff_eq] at hfound
  exact ⟨List.mem_of_find?_eq_some h, hfound⟩

theorem jobRow?_append_pending (job : NewJob) (now : Instant) (hnew : s.jobRow? id = none) :
    ({ s with jobs := s.jobs ++ [pendingRow id job now] } : Store).jobRow? id
      = some (pendingRow id job now) := by
  have hnone : (s.jobs.find? fun row => row.id == id.text) = none := hnew
  simp [jobRow?, List.find?_append, hnone, pendingRow]

/-- **A job is created exactly if its repository is idle**, provided the identifier is free and the
repository exists. -/
theorem createJob_outcome (hnamed : ∀ row ∈ s.jobs, ∃ id : JobId, row.id = id.text) (id : JobId)
    (job : NewJob) (now : Instant) : CreationOutcome s id job now (s.createJob id job now) := by
  unfold createJob
  cases hactive : s.activeRow? job.repositoryId with
  | some row =>
      obtain ⟨hmem, hrepository, hrow⟩ := activeRow?_mem hactive
      obtain ⟨existing, hid⟩ := hnamed row hmem
      have hlookup : s.activeJob? job.repositoryId = .ok (some existing) := by
        rw [activeJob?, hactive]
        simp only [hid, readJobId_text]
        rfl
      simp only [hlookup]
      exact .active row hmem hrepository hrow existing hid.symm
  | none =>
      have hlookup : s.activeJob? job.repositoryId = .ok none := by rw [activeJob?, hactive]
      have hidle := activeRow?_eq_none_iff.mp hactive
      simp only [hlookup]
      by_cases hbad : ((s.jobRow? id).isSome || (s.repositoryRow? job.repositoryId).isNone) = true
      · rw [if_pos hbad]
        refine .refused hidle ?_
        simpa [Option.isSome_iff_ne_none] using hbad
      · rw [if_neg hbad]
        simp only [Bool.or_eq_true, not_or, Bool.not_eq_true, Option.isSome_eq_false_iff,
          Option.isNone_iff_eq_none, ← Option.isSome_iff_ne_none] at hbad
        have hread := jobRow?_append_pending job now hbad.1
        have hcreated : CreationOutcome s id job now _ := .created hidle hbad.1 hbad.2
        simp only [job?, hread, readOne]
        cases hrow : (pendingRow id job now).read with
        | error e => rw [hrow] at hcreated; exact hcreated
        | ok created => rw [hrow] at hcreated; exact hcreated

/-- **Every operation makes one of the moves**, whatever its arguments are. -/
theorem Operation.moves (hids : (s.jobs.map (·.id)).Nodup)
    (hnamed : ∀ row ∈ s.jobs, ∃ id : JobId, row.id = id.text) (op : Operation) (now : Instant) :
    s.Moves now (op.after now s) := by
  cases op with
  | createUser username =>
      show s.Moves now (s.createUser username now).2
      unfold Store.createUser
      by_cases htaken : (s.users.any fun row => row.username == username) = true
      · rw [if_pos htaken]; exact .stay
      · rw [if_neg htaken]
        have hmove : s.Moves now _ := .user username (by simpa using htaken)
        dsimp only
        split <;> exact hmove
  | createRepository user name cloneUrl defaultBranch =>
      show s.Moves now (s.createRepository user name cloneUrl defaultBranch now).2
      unfold Store.createRepository
      by_cases hnobody : (s.userRow? user).isNone = true
      · rw [if_pos hnobody]; exact .stay
      · rw [if_neg hnobody]
        have hmove : s.Moves now _ :=
          .repository user name cloneUrl defaultBranch
            (by simpa [Option.isSome_iff_ne_none] using hnobody)
        dsimp only
        split <;> exact hmove
  | createJob id job =>
      show s.Moves now (s.createJob id job now).2
      have hcreate := createJob_outcome hnamed id job now
      generalize s.createJob id job now = outcome at hcreate ⊢
      cases hcreate with
      | active => exact .stay
      | refused => exact .stay
      | created hidle hnew hrepository => exact .job id job hidle hnew hrepository
  | markDispatched id handle =>
      show s.Moves now (s.step id _ _ _).2
      have hstep := step_stepped hids id [.pending] .processing fun row : JobRow =>
        { row with externalHandle := some handle, dispatchedAt := some now.stored }
      generalize s.step id _ _ _ = outcome at hstep ⊢
      cases hstep with
      | illegal => exact .stay
      | unchanged => exact .stay
      | changed row hrow source hmem hlegal hstatus =>
          rw [List.mem_singleton] at hmem
          subst hmem
          exact .row id row _ hrow (.dispatch handle hstatus)
  | recordHandle id handle =>
      show s.Moves now (s.recordHandle id handle).2
      rcases recordHandle_eq hids id handle with ⟨row, hrow, hnone, heq⟩ | ⟨-, heq⟩
      · rw [heq]; exact .row id row _ hrow (.record handle hnone)
      · rw [heq]; exact .stay
  | failJob id source reason =>
      show s.Moves now (s.step id _ _ _).2
      have hstep := step_stepped hids id [source] .failed fun row : JobRow =>
        { row with error := some reason, completedAt := some now.stored }
      generalize s.step id _ _ _ = outcome at hstep ⊢
      cases hstep with
      | illegal => exact .stay
      | unchanged => exact .stay
      | changed row hrow from' hmem hlegal hstatus =>
          exact .row id row _ hrow (.finish from' .failed reason hlegal (Or.inl rfl) hstatus)
  | cancelJob id reason =>
      show s.Moves now (s.step id _ _ _).2
      have hstep := step_stepped hids id [.pending, .processing] .cancelled
        fun row : JobRow => { row with error := some reason, completedAt := some now.stored }
      generalize s.step id _ _ _ = outcome at hstep ⊢
      cases hstep with
      | illegal => exact .stay
      | unchanged => exact .stay
      | changed row hrow source hmem hlegal hstatus =>
          exact .row id row _ hrow (.finish source .cancelled reason hlegal (Or.inr rfl) hstatus)
  | applyReport refused id report =>
      show s.Moves now (s.applyReport refused id report now).2
      have hreport := applyReport_reported hids refused id report now
      generalize s.applyReport refused id report now = outcome at hreport ⊢
      cases hreport with
      | refused => exact .stay
      | ignored => exact .stay
      | applied row hrow hlegal hstatus hnumbers =>
          exact .report id row report hrow hlegal hstatus hnumbers

end Store

end AnalysisDesk
