/-
The shape of a job's record.

What may stand in the columns of a job, and whether it may have findings, is said
by its status.  Some of it holds however the store is used, `Store.InStep`; the
rest holds because of the manners of those who use it.  A handle is recorded
afterwards only on a job that is over, so a pending job has none; a job is
cancelled with one reason alone; and what is written as a report has been checked.

The induction is over the log.  An event changes the record of one job at most,
and `Ran` says how.
-/
import AnalysisDesk.Proofs.Desk.Play
import AnalysisDesk.Proofs.Report.Checks
import AnalysisDesk.Proofs.Store.Standing

namespace AnalysisDesk

/-- A column that holds a number, and a number with a property. -/
def Slot.Holds {α : Type} (slot : Slot α) (p : α → Prop) : Prop := ∃ a, slot = .value a ∧ p a

namespace JobRow

/-- What a status says about the columns and the findings of a job. -/
def Shape (row : JobRow) (findings : List IssueRow × List MetricRow) : JobStatus → Prop
  | .pending =>
    row.externalHandle = none ∧ row.dispatchedAt = none ∧ row.Unended ∧ findings = ([], [])
  | .processing =>
    row.externalHandle ≠ none ∧ row.dispatchedAt ≠ none ∧ row.Unended ∧ findings = ([], [])
  | .completed =>
    row.externalHandle ≠ none ∧ row.dispatchedAt ≠ none ∧ row.completedAt ≠ none ∧
      row.qualityScore.Holds (fun score => score.isFinite = true) ∧
      row.issuesFound.Holds (fun count => 0 ≤ count) ∧
      (row.filesAnalyzed ≠ .empty → row.filesAnalyzed.Holds fun count => 0 ≤ count)
  | .cancelled =>
    row.completedAt ≠ none ∧ row.error = some Desk.cancelReason ∧ row.Unscored ∧
      findings = ([], [])
  | .failed =>
    row.completedAt ≠ none ∧
      (¬ (row.Unscored ∧ findings = ([], [])) →
        row.dispatchedAt ≠ none ∧ row.externalHandle ≠ none)

/-- A job whose record has the shape that its status wants. -/
def InShape (row : JobRow) (findings : List IssueRow × List MetricRow) : Prop :=
  ∃ status : JobStatus, row.status = status.label ∧ row.Shape findings status

variable {row : JobRow} {findings : List IssueRow × List MetricRow}

theorem InShape.shape (h : row.InShape findings) {status : JobStatus}
    (hstatus : row.status = status.label) : row.Shape findings status := by
  obtain ⟨status', hstatus', hshape⟩ := h
  obtain rfl := JobStatus.label_injective (hstatus.symm.trans hstatus')
  exact hshape

/-- A job that is active has no findings, and nothing in it that the end of a job writes. -/
theorem InShape.unended (h : row.InShape findings) (hactive : row.isActive = true) :
    row.Unended ∧ findings = ([], []) := by
  rcases isActive_iff.mp hactive with hstatus | hstatus
  · exact (h.shape hstatus).2.2
  · exact (h.shape hstatus).2.2

theorem InShape.dispatched (h : row.InShape findings)
    (hstatus : row.status = JobStatus.pending.label) (handle : String) (now : Instant) :
    (row.dispatched handle now).InShape findings := by
  obtain ⟨-, -, ⟨⟨hscores, hcounters⟩, herror, hcompleted⟩, hfindings⟩ := h.shape hstatus
  exact ⟨.processing, rfl, Option.some_ne_none _, Option.some_ne_none _,
    ⟨⟨hscores, hcounters⟩, herror, hcompleted⟩, hfindings⟩

/-- A handle on a job that is over. -/
theorem InShape.withHandle (h : row.InShape findings) (hover : row.isActive = false)
    (handle : String) : (row.withHandle handle).InShape findings := by
  obtain ⟨status, hstatus, hshape⟩ := h
  refine ⟨status, hstatus, ?_⟩
  cases status with
  | pending | processing =>
      rw [isActive_of_status hstatus] at hover
      exact Bool.noConfusion hover
  | completed => exact ⟨Option.some_ne_none _, hshape.2⟩
  | cancelled =>
      obtain ⟨hcompleted, herror, ⟨hscores, hcounters⟩, hfindings⟩ := hshape
      exact ⟨hcompleted, herror, ⟨hscores, hcounters⟩, hfindings⟩
  | failed =>
      refine ⟨hshape.1, fun hbrought => ⟨(hshape.2 fun hc => hbrought ?_).1,
        Option.some_ne_none _⟩⟩
      exact ⟨⟨hc.1.scores, hc.1.counters⟩, hc.2⟩

/-- A job that has ended without a report. -/
theorem InShape.failed (h : row.InShape findings) (hactive : row.isActive = true)
    (reason : String) (now : Instant) : (row.ended .failed reason now).InShape findings := by
  obtain ⟨⟨⟨hscores, hcounters⟩, -, -⟩, hfindings⟩ := h.unended hactive
  exact ⟨.failed, rfl, Option.some_ne_none _,
    fun hbrought => absurd ⟨⟨hscores, hcounters⟩, hfindings⟩ hbrought⟩

theorem InShape.cancelled (h : row.InShape findings) (hactive : row.isActive = true)
    (now : Instant) : (row.ended .cancelled Desk.cancelReason now).InShape findings := by
  obtain ⟨⟨⟨hscores, hcounters⟩, -, -⟩, hfindings⟩ := h.unended hactive
  exact ⟨.cancelled, rfl, Option.some_ne_none _, rfl, ⟨hscores, hcounters⟩, hfindings⟩

end JobRow

/-- A finite number is kept as a finite number. -/
theorem Double.kept_holds {d : Double} (h : d.isFinite = true) :
    d.kept.Holds fun score => score.isFinite = true := by
  unfold kept
  rw [if_neg (by rw [d.not_isNaN_of_isFinite h]; exact Bool.false_ne_true)]
  by_cases hzero : d.isZero = true
  · rw [if_pos hzero]
    exact ⟨.zero, rfl, rfl⟩
  · rw [if_neg hzero]
    exact ⟨d, rfl, h⟩

/-- A job that was processing, and has ended with a report that was checked. -/
theorem JobRow.InShape.reported {row : JobRow} {findings : List IssueRow × List MetricRow}
    (h : row.InShape findings) (hstatus : row.status = JobStatus.processing.label)
    {report : CheckedReport} (hreport : report.Sound) (now : Instant)
    (findings' : List IssueRow × List MetricRow) :
    (Store.rowWithReport report now row).InShape findings' := by
  obtain ⟨hhandle, hdispatched, -, -⟩ := h.shape hstatus
  refine ⟨report.status, rfl, ?_⟩
  rcases hreport.status with hstatus' | hstatus'
  · rw [hstatus']
    refine ⟨hhandle, hdispatched, Option.some_ne_none _, ?_, ⟨report.issuesFound, rfl,
      hreport.issuesFound⟩, fun _ => ?_⟩
    · obtain ⟨score, hscore⟩ := Option.ne_none_iff_exists'.mp (hreport.scored hstatus')
      have hkept : (Store.rowWithReport report now row).qualityScore = score.kept :=
        congrArg keptOption hscore
      rw [hkept]
      exact Double.kept_holds (hreport.finite _ (List.mem_cons_self ..) score hscore)
    · rename_i hfiles
      have hslot : (Store.rowWithReport report now row).filesAnalyzed
          = .ofOption report.filesAnalyzed := rfl
      rw [hslot] at hfiles ⊢
      cases hcount : report.filesAnalyzed with
      | none => rw [hcount] at hfiles; exact absurd rfl hfiles
      | some count => exact ⟨count, rfl, hreport.filesAnalyzed count hcount⟩
  · rw [hstatus']
    exact ⟨Option.some_ne_none _, fun _ => ⟨hdispatched, hhandle⟩⟩

/-! ### Who writes what -/

/-- Jobs are cancelled with one reason. -/
theorem Duty.may_cancelJob {settings : DeskSettings} {duty : Duty} {ms : List Exchange}
    {job : JobId} {reason : String}
    (h : duty.May settings ms (.write (.cancelJob job reason))) : reason = Desk.cancelReason := by
  cases duty with
  | cancel job' requester =>
      cases h with
      | write => rfl
  | sweep => rcases h with h | ⟨_, h⟩ <;> cases h
  | check => cases h with | ingest _ _ _ _ h => cases h
  | submit | ingest | sweepAt | resume | shutdown | expire => cases h

/-- An exchange changes the store as one write does, heard of or not, or not at all. -/
theorem Happens.ran_or_eq {now : Instant} {s s' : Store} {x : Exchange} (h : Happens now s x s')
    (hs : s.WF) : s' = s ∨ ∃ change answer, x.1 = .write change ∧ Ran now s change answer s' := by
  cases h with
  | asked | unanswered | unwritten | elsewhere => exact Or.inl rfl
  | written change answer _ hrun | unheard change _ answer _ hrun =>
      have hran := change.ran hs now
      rw [hrun] at hran
      exact Or.inr ⟨change, answer, rfl, hran⟩

/-! ### Logs -/

namespace Store

/-- The record of every job has the shape that its status wants. -/
def Shaped (s : Store) : Prop :=
  ∀ id row, s.jobRow? id = some row → row.InShape (s.findingsOf id)

/-- The row that is found where one was put is that one. -/
theorem eq_of_putRow {s : Store} {id : JobId} {old new row : JobRow}
    (hold : s.jobRow? id = some old) (hrow : (s.putRow id new).jobRow? id = some row)
    (hid : new.id = old.id) : row = new :=
  Option.some.inj (hrow.symm.trans (jobRow?_putRow_self hold (hid.trans (jobRow?_mem hold).2)))

/-- A job that does not exist has no findings. -/
theorem WF.findingsOf_of_none {s : Store} (h : s.WF) {id : JobId} (hnone : s.jobRow? id = none) :
    s.findingsOf id = ([], []) := by
  have hnobody := jobRow?_eq_none_iff.mp hnone
  unfold findingsOf
  rw [Prod.mk.injEq, List.filter_eq_nil_iff, List.filter_eq_nil_iff]
  refine ⟨fun issue hissue => ?_, fun metric hmetric => ?_⟩
  · obtain ⟨row, hrow, hid, -⟩ := h.issues issue hissue
    simpa [← hid] using hnobody row hrow
  · obtain ⟨row, hrow, hid, -⟩ := h.metrics metric hmetric
    simpa [← hid] using hnobody row hrow

end Store

section Logs

variable {settings : DeskSettings} {first s : Store} {past : List Event} {e : Event}

/-- The end of a job by somebody at the desk leaves a record of the right shape. -/
private theorem inShape_of_end (h : History settings first (e :: past) s) {change : StoreWrite}
    (hwhat : e.what.1 = .write change) {row : JobRow} {before : List IssueRow × List MetricRow}
    (hshape : row.InShape before) {source : JobStatus} (hsource : source ∈ change.sources)
    (hstatus : row.status = source.label) (hactive : row.isActive = true)
    (hending : change.isEnding = true) :
    (change.endedRow e.time row).InShape
      (before.1 ++ (change.findings e.before).1, before.2 ++ (change.findings e.before).2) := by
  have hmay := h.may
  rw [hwhat] at hmay
  cases change with
  | failJob id source' reason date =>
      rw [show StoreWrite.findings _ e.before = ([], []) from rfl, List.append_nil, List.append_nil]
      exact hshape.failed hactive reason _
  | cancelJob id reason =>
      rw [show StoreWrite.findings _ e.before = ([], []) from rfl, List.append_nil, List.append_nil]
      obtain rfl := Duty.may_cancelJob hmay
      exact hshape.cancelled hactive e.time
  | applyReport id checked =>
      obtain ⟨report, hcheck, -⟩ := Duty.may_applyReport hmay
      rw [List.mem_singleton.mp hsource] at hstatus
      exact hshape.reported hstatus (Report.check_sound hcheck) e.time _
  | createJob | markDispatched | recordHandle => exact Bool.noConfusion hending

/-- One event keeps the record of every job in shape. -/
theorem History.shaped_step (h : History settings first (e :: past) s) (hfirst : first.Reached)
    (hbefore : e.before.Shaped) : e.after.Shaped := by
  have hs : e.before.WF := h.earlier.wf hfirst
  intro job row hrow
  rcases h.happens.ran_or_eq hs with heq | ⟨change, answer, hwhat, hran⟩
  · rw [heq] at hrow ⊢
    exact hbefore job row hrow
  · by_cases hjob : change.job = job
    · subst hjob
      generalize hafter : e.after = s' at hran hrow ⊢
      cases hran with
      | broken | occupied | notRecorded | declined => exact hbefore _ row hrow
      | created id new _ _ hnew =>
          have hput : Store.jobRow? { e.before with
              jobs := e.before.jobs ++ [Store.pendingRow id new e.time] } id
                = some (Store.pendingRow id new e.time) :=
            Store.jobRow?_append_pending new e.time hnew
          obtain rfl := Option.some.inj (hput.symm.trans hrow)
          exact ⟨.pending, rfl, rfl, rfl, Store.pendingRow_unended id new e.time,
            hs.findingsOf_of_none hnew⟩
      | dispatched id handle old hold hstatus =>
          obtain rfl := Store.eq_of_putRow hold hrow rfl
          exact (hbefore id old hold).dispatched hstatus handle e.time
      | recorded id handle old hold hnone =>
          obtain rfl := Store.eq_of_putRow hold hrow rfl
          exact (hbefore id old hold).withHandle (h.over_of_record hfirst hwhat hold) handle
      | ended _ _ old hended hold source hsource hstatus hactive =>
          obtain ⟨_, hchange, -, hending⟩ := Exchange.write_of_ended hended
          cases hchange
          rw [change.furnish_jobRow?] at hrow
          obtain rfl := Store.eq_of_putRow hold hrow (change.endedRow_id e.time old)
          rw [change.furnish_findingsOf]
          exact inShape_of_end h hwhat (hbefore _ old hold) hsource hstatus hactive hending
    · rw [hran.row_of_ne hjob] at hrow
      rw [hran.findings fun hc => ?_]
      · exact hbefore job row hrow
      · obtain ⟨_, hchange, hjob', -⟩ := Exchange.write_of_ended hc
        cases hchange
        exact hjob hjob'

/-- **A log that begins without jobs keeps every record in shape.** -/
theorem History.shaped (h : History settings first past s) (hfirst : first.Reached)
    (hempty : first.jobs = []) : s.Shaped := by
  induction h with
  | start =>
      intro job row hrow
      have hmem := (Store.jobRow?_mem hrow).1
      rw [hempty] at hmem
      exact nomatch hmem
  | event e hpast hhappens hmay hduty ih =>
      exact History.shaped_step (.event e hpast hhappens hmay hduty) hfirst ih

end Logs

/-- **What a status says about a record.**  In an office that began with users and repositories
alone, every job has a status, and the columns and the findings of the job are as that status wants
them, whatever its duties do and whatever its store fails to do. -/
theorem record_shape_by_status (settings : DeskSettings) (first : Store) (o : Office)
    (hfirst : first.Reached) (hempty : first.jobs = []) (ho : o.Reached settings first) :
    ∀ row ∈ o.store.jobs, ∃ (id : JobId) (status : JobStatus), row.id = id.text ∧
      row.status = status.label ∧ row.Shape (o.store.findingsOf id) status := by
  intro row hrow
  have hhistory := ho.sound.history
  have hs := hhistory.wf hfirst
  obtain ⟨id, hid⟩ := hs.named row hrow
  obtain ⟨status, hstatus, hshape⟩ := hhistory.shaped hfirst hempty id row
    ((Store.jobRow?_eq_some_iff hs.ids).mpr ⟨hrow, hid⟩)
  exact ⟨id, status, hid, hstatus, hshape⟩

/-- A job that was completed by a report with one issue, and after it a job that was cancelled while
the analyzer was being asked, so that its handle was recorded afterwards. -/
def Small.completedAndCancelled : Office :=
  let report : Report :=
    ⟨.completed, some .zero, none, none, none, none, some 7,
      [⟨"a.c", none, "high", "style", "long line", none, none⟩], [], none⟩
  let second (nanos : Int) : Surroundings :=
    ⟨⟨nanos⟩, JobId.numbered 1, .ok "h-2", .ok .underway⟩
  Office.played settings store
    [.begin (.submit 1 ⟨1, none, none⟩), .act 0 (calm 1), .act 0 (calm 2), .act 0 (calm 3),
      .act 0 (calm 4), .act 0 (calm 5), .begin (.ingest default report), .act 1 (calm 6),
      .act 1 (calm 7), .begin (.submit 1 ⟨1, none, none⟩), .act 2 (second 8), .act 2 (second 9),
      .act 2 (second 10), .begin (.cancel (.numbered 1) 1), .act 3 (second 11),
      .act 3 (second 12), .act 2 (second 13), .act 2 (second 14), .act 2 (second 15)]

theorem record_shape_by_status_played :
    Small.store.jobs = [] ∧
      Small.completedAndCancelled.store.jobs.map (fun row => (row.status, row.externalHandle))
        = [(JobStatus.completed.label, some "h-1"), (JobStatus.cancelled.label, some "h-2")] ∧
      ∀ row ∈ Small.completedAndCancelled.store.jobs, ∃ (id : JobId) (status : JobStatus),
        row.id = id.text ∧ row.status = status.label ∧
          row.Shape (Small.completedAndCancelled.store.findingsOf id) status :=
  ⟨by decide +kernel, by decide +kernel,
    record_shape_by_status Small.settings Small.store _ Small.store_reached (by decide +kernel)
      (Office.reached_played ..)⟩

end AnalysisDesk
