/-
What a store keeps while it goes on.

Operations add rows at the ends of the tables, and change nothing that was there
before but the row of a job.  How far the row of a job may go is said by
`JobRow.Goes`: what the job is about stays, the status follows the allowed steps,
the two times are written once, and a row that is over may be given a handle if it
has none, and that is all.

`Goes` and `Continues` take the relation on statuses as an argument.  For one
operation it is a single step or none, for a run any number of steps; all the rest
is the same law in both, and it is transitive, so a run needs no argument of its
own.
-/
import AnalysisDesk.Proofs.Store.Standing
import Mathlib.Logic.Relation

namespace AnalysisDesk

namespace JobStatus

/-- The allowed steps as a relation. -/
def Step (a b : JobStatus) : Prop := a.canBecome b = true

end JobStatus

/-! ### Rows -/

namespace JobRow

/-- What a job is about: its identifier, what was asked for, and when. -/
def origin (row : JobRow) : String × NewJob × String :=
  (row.id, ⟨row.repositoryId, row.cloneUrl, row.branch, row.commitSha⟩, row.createdAt)

/-- What may become of a row that is over: a handle may be added where there was none. -/
def Settled (row row' : JobRow) : Prop :=
  row' = row ∨ (row.externalHandle = none ∧ ∃ handle, row' = row.withHandle handle)

/-- What may become of a row, if its status may go as it is said. -/
structure Goes (may : JobStatus → JobStatus → Prop) (row row' : JobRow) : Prop where
  origin : row'.origin = row.origin
  status : ∃ a b : JobStatus, row.status = a.label ∧ row'.status = b.label ∧ may a b
  settled : row.isActive = false → row.Settled row'
  dispatchedOnce : row.dispatchedAt ≠ none → row'.dispatchedAt = row.dispatchedAt
  completedOnce : row.completedAt ≠ none → row'.completedAt = row.completedAt

variable {may may' : JobStatus → JobStatus → Prop} {row row' row'' : JobRow}

theorem Settled.isActive (h : row.Settled row') : row'.isActive = row.isActive := by
  rcases h with rfl | ⟨-, handle, rfl⟩ <;> rfl

theorem Settled.trans (h : row.Settled row') (h' : row'.Settled row'') : row.Settled row'' := by
  rcases h with rfl | ⟨hnone, handle, rfl⟩
  · exact h'
  · rcases h' with rfl | ⟨hc, -⟩
    · exact Or.inr ⟨hnone, handle, rfl⟩
    · exact absurd hc (Option.some_ne_none handle)

namespace Goes

theorem stay (hstatus : ∃ status : JobStatus, row.status = status.label)
    (hmay : ∀ status, may status status) : row.Goes may row := by
  obtain ⟨status, hstatus⟩ := hstatus
  exact ⟨rfl, ⟨status, status, hstatus, hstatus, hmay status⟩, fun _ => Or.inl rfl, fun _ => rfl,
    fun _ => rfl⟩

theorem mono (hmay : ∀ a b, may a b → may' a b) (h : row.Goes may row') : row.Goes may' row' := by
  obtain ⟨a, b, ha, hb, hab⟩ := h.status
  exact ⟨h.origin, ⟨a, b, ha, hb, hmay a b hab⟩, h.settled, h.dispatchedOnce, h.completedOnce⟩

theorem trans (hmay : ∀ a b c, may a b → may b c → may a c) (h : row.Goes may row')
    (h' : row'.Goes may row'') : row.Goes may row'' := by
  refine ⟨h'.origin.trans h.origin, ?_, fun hover => ?_, fun hset => ?_, fun hset => ?_⟩
  · obtain ⟨a, b, ha, hb, hab⟩ := h.status
    obtain ⟨b', c, hb', hc, hbc⟩ := h'.status
    have hsame : b' = b := JobStatus.label_injective (hb'.symm.trans hb)
    subst hsame
    exact ⟨a, c, ha, hc, hmay a b' c hab hbc⟩
  · have hsettled := h.settled hover
    exact hsettled.trans (h'.settled (hsettled.isActive.trans hover))
  · have hfirst := h.dispatchedOnce hset
    exact (h'.dispatchedOnce (hfirst ▸ hset)).trans hfirst
  · have hfirst := h.completedOnce hset
    exact (h'.completedOnce (hfirst ▸ hset)).trans hfirst

end Goes

/-- A row that has not ended and takes an allowed step: no time that was written is written again. -/
private theorem goes_of_step {source target : JobStatus} (hlegal : source.canBecome target = true)
    (hsource : row.status = source.label) (htarget : row'.status = target.label)
    (horigin : row'.origin = row.origin) (hstanding : row.Standing)
    (hdispatched : row.dispatchedAt ≠ none → row'.dispatchedAt = row.dispatchedAt) :
    row.Goes (Relation.ReflGen JobStatus.Step) row' := by
  have hactive : row.isActive = true := by
    rw [isActive_of_status hsource]
    exact JobStatus.isActive_of_canBecome hlegal
  refine ⟨horigin, ⟨source, target, hsource, htarget, .single hlegal⟩, fun hover => ?_,
    hdispatched, fun hset => absurd (hstanding.unended hactive).completedAt hset⟩
  rw [hactive] at hover
  exact Bool.noConfusion hover

theorem Moves.goes {now : Instant} (hmove : row.Moves now row') (hstanding : row.Standing)
    (hstatus : ∃ status : JobStatus, row.status = status.label) :
    row.Goes (Relation.ReflGen JobStatus.Step) row' := by
  cases hmove with
  | dispatch handle hpending =>
      have hlegal : JobStatus.pending.canBecome .processing = true := rfl
      exact goes_of_step hlegal hpending rfl rfl hstanding
        fun hset => absurd (hstanding.undispatched hpending) hset
  | record handle hnone =>
      obtain ⟨status, hstatus⟩ := hstatus
      exact ⟨rfl, ⟨status, status, hstatus, hstatus, .refl⟩, fun _ => Or.inr ⟨hnone, handle, rfl⟩,
        fun _ => rfl, fun _ => rfl⟩
  | finish source target reason hlegal hend hsource =>
      exact goes_of_step hlegal hsource rfl rfl hstanding fun _ => rfl

theorem goes_rowWithReport {report : CheckedReport} {now : Instant}
    (hlegal : JobStatus.processing.canBecome report.status = true)
    (hstatus : row.status = JobStatus.processing.label) (hstanding : row.Standing) :
    row.Goes (Relation.ReflGen JobStatus.Step) (Store.rowWithReport report now row) :=
  goes_of_step hlegal hstatus rfl rfl hstanding fun _ => rfl

end JobRow

namespace Store

/-! ### Tables -/

/-- What may become of a store, if the statuses of its jobs may go as it is said. -/
structure Continues (may : JobStatus → JobStatus → Prop) (s s' : Store) : Prop where
  users : s.users <+: s'.users
  repositories : s.repositories <+: s'.repositories
  issues : s.issues <+: s'.issues
  metrics : s.metrics <+: s'.metrics
  ids : s.jobs.map (·.id) <+: s'.jobs.map (·.id)
  jobs : ∀ row ∈ s.jobs, ∃ id row', s.jobRow? id = some row ∧ s'.jobRow? id = some row' ∧
    row.Goes may row' ∧ (row.isActive = false → s'.findingsOf id = s.findingsOf id)

variable {may may' : JobStatus → JobStatus → Prop} {s s' s'' : Store} {id : JobId}
  {row row' : JobRow}

namespace Continues

theorem stay (hs : s.WF) (hmay : ∀ status, may status status) : Continues may s s := by
  refine ⟨List.prefix_refl _, List.prefix_refl _, List.prefix_refl _, List.prefix_refl _,
    List.prefix_refl _, fun row hrow => ?_⟩
  obtain ⟨id, hid⟩ := hs.named row hrow
  have hfound : s.jobRow? id = some row := (jobRow?_eq_some_iff hs.ids).mpr ⟨hrow, hid⟩
  exact ⟨id, row, hfound, hfound, .stay (hs.status row hrow) hmay, fun _ => rfl⟩

theorem mono (hmay : ∀ a b, may a b → may' a b) (h : Continues may s s') :
    Continues may' s s' := by
  refine ⟨h.users, h.repositories, h.issues, h.metrics, h.ids, fun row hrow => ?_⟩
  obtain ⟨id, row', hfound, hfound', hgoes, hfindings⟩ := h.jobs row hrow
  exact ⟨id, row', hfound, hfound', hgoes.mono hmay, hfindings⟩

theorem trans (hmay : ∀ a b c, may a b → may b c → may a c) (h : Continues may s s')
    (h' : Continues may s' s'') : Continues may s s'' := by
  refine ⟨h.users.trans h'.users, h.repositories.trans h'.repositories, h.issues.trans h'.issues,
    h.metrics.trans h'.metrics, h.ids.trans h'.ids, fun row hrow => ?_⟩
  obtain ⟨id, row', hfound, hfound', hgoes, hfindings⟩ := h.jobs row hrow
  obtain ⟨id', row'', hagain, hfound'', hgoes', hfindings'⟩ := h'.jobs row' (jobRow?_mem hfound').1
  have hsame : id' = id :=
    JobId.text_inj.mp ((jobRow?_mem hagain).2.symm.trans (jobRow?_mem hfound').2)
  subst hsame
  refine ⟨id', row'', hfound, hfound'', hgoes.trans hmay hgoes', fun hover => ?_⟩
  exact (hfindings' ((hgoes.settled hover).isActive.trans hover)).trans (hfindings hover)

end Continues

/-! ### One operation -/

/-- A store goes on if one row does, and the findings of jobs that are over stay. -/
private theorem continues_putRow (hs : s.WF) (hmay : ∀ status, may status status)
    (hrow : s.jobRow? id = some row) (hgoes : row.Goes may row') :
    Continues may s (s.putRow id row') := by
  have hid : row'.id = row.id := congrArg Prod.fst hgoes.origin
  have hid' : row'.id = id.text := hid.trans (jobRow?_mem hrow).2
  refine ⟨List.prefix_refl _, List.prefix_refl _, List.prefix_refl _, List.prefix_refl _, ?_,
    fun old hold => ?_⟩
  · simpa only [putRow_ids hid'] using List.prefix_refl (s.jobs.map (·.id))
  · obtain ⟨other, hother⟩ := hs.named old hold
    have hfound : s.jobRow? other = some old := (jobRow?_eq_some_iff hs.ids).mpr ⟨hold, hother⟩
    by_cases heq : other = id
    · subst heq
      rw [hrow, Option.some.injEq] at hfound
      subst hfound
      exact ⟨other, row', hrow, jobRow?_putRow_self hrow hid', hgoes, fun _ => rfl⟩
    · refine ⟨other, old, hfound, ?_, .stay (hs.status old hold) hmay, fun _ => rfl⟩
      rw [jobRow?_putRow hrow hid', if_neg heq, hfound]

/-- Findings come to a job that was active. -/
private theorem continues_withFindings {report : CheckedReport}
    (h : Continues may s s') (hrow : s.jobRow? id = some row) (hactive : row.isActive = true) :
    Continues may s (s'.withFindings id report) := by
  refine ⟨h.users, h.repositories, h.issues.trans (List.prefix_append _ _),
    h.metrics.trans (List.prefix_append _ _), h.ids, fun old hold => ?_⟩
  obtain ⟨other, row', hfound, hfound', hgoes, hfindings⟩ := h.jobs old hold
  refine ⟨other, row', hfound, hfound', hgoes, fun hover => ?_⟩
  have hne : other ≠ id := by
    rintro rfl
    rw [hrow, Option.some.injEq] at hfound
    rw [← hfound, hactive] at hover
    exact Bool.noConfusion hover
  rw [findingsOf_withFindings_of_ne _ _ hne]
  exact hfindings hover

theorem Moves.continues {now : Instant} (hmoves : s.Moves now s') (hs : s.WF) (hstep : s.InStep) :
    Continues (Relation.ReflGen JobStatus.Step) s s' := by
  have hstay : Continues (Relation.ReflGen JobStatus.Step) s s := .stay hs fun _ => .refl
  cases hmoves with
  | stay => exact hstay
  | user => exact { hstay with users := List.prefix_append _ _ }
  | repository => exact { hstay with repositories := List.prefix_append _ _ }
  | job id job _ hnew =>
      refine { hstay with ids := ?_, jobs := fun row hrow => ?_ }
      · rw [List.map_append]
        exact List.prefix_append _ _
      · obtain ⟨other, row', hfound, hfound', hgoes, hfindings⟩ := hstay.jobs row hrow
        refine ⟨other, row', hfound, ?_, hgoes, hfindings⟩
        show (s.jobs ++ [pendingRow id job now]).find? (fun r => r.id == other.text) = some row'
        rw [List.find?_append]
        exact (congrArg (Option.or · _) hfound').trans (Option.some_or ..)
  | row id row row' hrow hmove =>
      obtain ⟨hmem, -⟩ := jobRow?_mem hrow
      exact continues_putRow hs (fun _ => .refl) hrow
        (hmove.goes (hstep row hmem) (hs.status row hmem))
  | report id row report hrow hlegal hstatus =>
      have hgoes : row.Goes (Relation.ReflGen JobStatus.Step) (rowWithReport report now row) :=
        JobRow.goes_rowWithReport hlegal hstatus (hstep row (jobRow?_mem hrow).1)
      exact continues_withFindings (continues_putRow hs (fun _ => .refl) hrow hgoes) hrow
        (JobRow.isActive_of_processing hstatus)

/-! ### The other jobs -/

/-- The job that an operation names. -/
def Operation.job? : Operation → Option JobId
  | .createUser _ | .createRepository _ _ _ _ => none
  | .createJob id _ | .markDispatched id _ | .recordHandle id _ => some id
  | .failJob id _ _ | .cancelJob id _ | .applyReport _ id _ => some id

/-- The row and the findings of a job are the same in two stores. -/
def SameJob (s s' : Store) (id : JobId) : Prop :=
  s'.jobRow? id = s.jobRow? id ∧ s'.findingsOf id = s.findingsOf id

private theorem sameJob_putRow {other : JobId} (hrow : s.jobRow? id = some row)
    (hid : row'.id = row.id) (hne : other ≠ id) : SameJob s (s.putRow id row') other :=
  ⟨by rw [jobRow?_putRow hrow (hid.trans (jobRow?_mem hrow).2), if_neg hne], rfl⟩

private theorem Stepped.sameJob {sources : List JobStatus} {target : JobStatus}
    {change : JobRow → JobRow} {outcome : Outcome Bool} {other : JobId}
    (h : Stepped s id sources target change outcome) (hid : ∀ row, (change row).id = row.id)
    (hne : other ≠ id) : SameJob s outcome.2 other := by
  cases h with
  | illegal | unchanged => exact ⟨rfl, rfl⟩
  | changed row hrow => exact sameJob_putRow hrow (hid _) hne

/-- **An operation leaves every job alone that it does not name.** -/
theorem Operation.sameJob (hs : s.WF) (op : Operation) (now : Instant) {other : JobId}
    (hne : op.job? ≠ some other) : SameJob s (op.after now s) other := by
  have hother : ∀ {id : JobId}, op.job? = some id → other ≠ id := fun hop hc =>
    hne (hop.trans (congrArg some hc.symm))
  cases op with
  | createUser username =>
      show SameJob s (s.createUser username now).2 other
      unfold Store.createUser
      split
      · exact ⟨rfl, rfl⟩
      · dsimp only
        split <;> exact ⟨rfl, rfl⟩
  | createRepository user name cloneUrl defaultBranch =>
      show SameJob s (s.createRepository user name cloneUrl defaultBranch now).2 other
      unfold Store.createRepository
      split
      · exact ⟨rfl, rfl⟩
      · dsimp only
        split <;> exact ⟨rfl, rfl⟩
  | createJob id job =>
      show SameJob s (s.createJob id job now).2 other
      have hcreate := createJob_outcome hs.named id job now
      generalize s.createJob id job now = outcome at hcreate ⊢
      cases hcreate with
      | active | refused => exact ⟨rfl, rfl⟩
      | created =>
          have hkey : ((pendingRow id job now).id == other.text) = false := by
            simpa [pendingRow] using (hother rfl).symm
          refine ⟨?_, rfl⟩
          show (s.jobs ++ [pendingRow id job now]).find? _ = s.jobRow? other
          rw [List.find?_append, List.find?_singleton, hkey]
          exact Option.or_none
  | markDispatched id handle =>
      exact (step_stepped hs.ids id _ _ _).sameJob (fun _ => rfl) (hother rfl)
  | recordHandle id handle =>
      show SameJob s (s.recordHandle id handle).2 other
      rcases recordHandle_eq hs.ids id handle with ⟨row, hrow, -, heq⟩ | ⟨-, heq⟩
      · rw [heq]
        exact sameJob_putRow hrow rfl (hother rfl)
      · rw [heq]
        exact ⟨rfl, rfl⟩
  | failJob id source reason =>
      exact (step_stepped hs.ids id _ _ _).sameJob (fun _ => rfl) (hother rfl)
  | cancelJob id reason =>
      exact (step_stepped hs.ids id _ _ _).sameJob (fun _ => rfl) (hother rfl)
  | applyReport refused id report =>
      show SameJob s (s.applyReport refused id report now).2 other
      have hreport := applyReport_reported hs.ids refused id report now
      generalize s.applyReport refused id report now = outcome at hreport ⊢
      cases hreport with
      | refused | ignored => exact ⟨rfl, rfl⟩
      | applied row hrow =>
          have hput : SameJob s (s.putRow id (rowWithReport report now row)) other :=
            sameJob_putRow hrow rfl (hother rfl)
          exact ⟨hput.1, (findingsOf_withFindings_of_ne _ _ (hother rfl)).trans hput.2⟩

/-! ### Runs -/

/-- A store comes to another one by operations. -/
inductive Leads (s : Store) : Store → Prop
  | start : s.Leads s
  | after {s' : Store} (op : Operation) (now : Instant) (h : s.Leads s') : s.Leads (op.after now s')

/-- The store after some operations. -/
def afterAll (s : Store) (ops : List (Operation × Instant)) : Store :=
  ops.foldl (fun s op => op.1.after op.2 s) s

theorem leads_afterAll (s : Store) (ops : List (Operation × Instant)) : s.Leads (s.afterAll ops) := by
  have hgeneral : ∀ (ops : List (Operation × Instant)) (s' : Store), s.Leads s' →
      s.Leads (s'.afterAll ops) := by
    intro ops
    induction ops with
    | nil => exact fun s' h => h
    | cons op rest ih => exact fun s' h => ih _ (h.after op.1 op.2)
  exact hgeneral ops s .start

theorem Leads.reached (h : s.Leads s') (hs : s.Reached) : s'.Reached := by
  induction h with
  | start => exact hs
  | after op now _ ih => exact ih.after op now

/-- **A store that can be reached goes on as it should** under a further operation. -/
theorem Reached.continues (h : s.Reached) (op : Operation) (now : Instant) :
    Continues (Relation.ReflGen JobStatus.Step) s (op.after now s) :=
  (op.moves h.wf.ids h.wf.named now).continues h.wf h.inStep

theorem Leads.continues (h : s.Leads s') (hs : s.Reached) :
    Continues (Relation.ReflTransGen JobStatus.Step) s s' := by
  induction h with
  | start => exact .stay hs.wf fun _ => .refl
  | after op now hleads ih =>
      refine ih.trans (fun _ _ _ => Relation.ReflTransGen.trans) ?_
      exact ((hleads.reached hs).continues op now).mono fun _ _ => Relation.ReflGen.to_reflTransGen

end Store

/-- **The life of a job, and what is written once.**  Whatever operation a reachable store undergoes,
with whatever arguments, it loses nothing.  Every job remains the job it was, its status stays or
takes an allowed step, its times of dispatch and of completion are written once, and once it is
over nothing changes but that an absent handle may be added; and of all jobs only the one that the
operation names is touched.  The same holds between any two stores of a run, where the status takes
any number of allowed steps. -/
theorem history_written_once :
    (∀ s : Store, s.Reached → ∀ (op : Store.Operation) (now : Instant),
      Store.Continues (Relation.ReflGen JobStatus.Step) s (op.after now s) ∧
        ∀ other, op.job? ≠ some other → Store.SameJob s (op.after now s) other) ∧
    ∀ s s' : Store, s.Reached → s.Leads s' →
      Store.Continues (Relation.ReflTransGen JobStatus.Step) s s' :=
  ⟨fun _ hs op now => ⟨hs.continues op now, fun _ => op.sameJob hs.wf now⟩,
    fun _ _ hs hleads => hleads.continues hs⟩

/-- A job that is cancelled before the analyzer has taken it, and the handle that is recorded on it
afterwards. -/
theorem history_written_once_played :
    let s := Store.empty.afterAll
      [(.createUser "ada", ⟨0⟩), (.createRepository 1 "site" "https://git.example.com/site.git" "main", ⟨1⟩),
        (.createJob default ⟨1, "https://git.example.com/site.git", "main", none⟩, ⟨2⟩),
        (.cancelJob default "enough", ⟨3⟩)]
    let s' := Store.Operation.after ⟨4⟩ s (.recordHandle default "h-1")
    (∃ row, s.jobRow? default = some row ∧ row.isActive = false ∧ row.externalHandle = none) ∧
      (∃ row', s'.jobRow? default = some row' ∧ row'.externalHandle = some "h-1") ∧
      Store.Continues (Relation.ReflGen JobStatus.Step) s s' ∧
      Store.Continues (Relation.ReflTransGen JobStatus.Step) s s' := by
  intro s s'
  have hs : s.Reached := (Store.leads_afterAll .empty _).reached .empty
  refine ⟨⟨_, rfl, ?_, ?_⟩, ⟨_, rfl, ?_⟩, (history_written_once.1 s hs _ ⟨4⟩).1,
    history_written_once.2 s s' hs (.after _ ⟨4⟩ .start)⟩
  · decide +kernel
  · decide +kernel
  · decide +kernel

end AnalysisDesk
