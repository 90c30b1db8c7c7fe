/-
Which rows can be read.

What operations write into the row of a job has the form in which it is read:
numbers stand in the columns of numbers, and times are the stored forms of instants.
So the only thing that can go wrong when a row is read is a time whose year has no
room in a timestamp, and that is the first such time of the row.  A row all of whose
times have room shows its job, column by column.
-/
import AnalysisDesk.Proofs.Store.Reading
import AnalysisDesk.Proofs.Store.Standing
import AnalysisDesk.Proofs.Time.StoredText

namespace AnalysisDesk

/-! ### Columns -/

/-- The number in a column. -/
def Slot.value? {α : Type} : Slot α → Option α
  | .value a => some a
  | .empty | .foreign _ => none

/-- A column in which no content of another kind stands. -/
def Slot.IsNative {α : Type} (slot : Slot α) : Prop := ∀ content, slot ≠ .foreign content

theorem Slot.IsNative.read {α : Type} {slot : Slot α} (h : slot.IsNative) (table : String)
    (index : Nat) (column : String) : slot.read table index column = .ok slot.value? := by
  cases slot with
  | empty => rfl
  | value a => rfl
  | foreign content => exact absurd rfl (h content)

theorem Slot.isNative_empty {α : Type} : (Slot.empty : Slot α).IsNative := fun _ h => nomatch h

theorem Slot.isNative_value {α : Type} (a : α) : (Slot.value a).IsNative := fun _ h => nomatch h

theorem Slot.isNative_ofOption {α : Type} (a? : Option α) : (Slot.ofOption a?).IsNative := by
  cases a? with
  | none => exact isNative_empty
  | some a => exact isNative_value a

@[simp] theorem Slot.value?_ofOption {α : Type} (a? : Option α) : (Slot.ofOption a?).value? = a? := by
  cases a? <;> rfl

theorem isNative_keptOption (d? : Option Double) : (keptOption d?).IsNative := by
  cases d? with
  | none => exact Slot.isNative_empty
  | some d =>
      show (d.kept).IsNative
      unfold Double.kept
      split
      · exact Slot.isNative_empty
      · split
        · exact Slot.isNative_value _
        · exact Slot.isNative_value _

/-! ### Times -/

/-- What is read of a stored instant. -/
theorem readTimestamp_of_stored (t : Instant) :
    readTimestamp t.stored
      = if t.HasPlainYear then .ok t.cut else .error (.badTimestamp t.stored .invalid) := by
  unfold readTimestamp
  rw [Timestamp.read_stored]
  by_cases hyear : t.HasPlainYear
  · rw [if_pos hyear, if_pos hyear]
  · rw [if_neg hyear, if_neg hyear]

/-- The stored form of an instant can be read if its year has room in a timestamp, to the
millisecond. -/
theorem readTimestamp_eq_ok_iff {t read : Instant} :
    readTimestamp t.stored = .ok read ↔ t.HasPlainYear ∧ read = t.cut := by
  rw [readTimestamp_of_stored]
  by_cases hyear : t.HasPlainYear
  · rw [if_pos hyear, Except.ok.injEq]
    exact ⟨fun h => ⟨hyear, h.symm⟩, fun h => h.2.symm⟩
  · rw [if_neg hyear]
    exact ⟨fun h => (nomatch h), fun h => absurd h.1 hyear⟩

/-- A stored instant whose year has room is read to the millisecond. -/
theorem readTimestamp_stored_eq {t : Instant} (h : t.HasPlainYear) :
    readTimestamp t.stored = .ok t.cut := readTimestamp_eq_ok_iff.mpr ⟨h, rfl⟩

theorem readTimestamp?_stored_eq {t? : Option Instant} (h : ∀ t, t? = some t → t.HasPlainYear) :
    readTimestamp? (t?.map Instant.stored) = .ok (t?.map Instant.cut) := by
  cases t? with
  | none => rfl
  | some t =>
      show (readTimestamp t.stored).map some = _
      rw [readTimestamp_stored_eq (h t rfl)]
      rfl

/-- Reading a time that may be absent. -/
theorem readTimestamp?_cases {text? : Option String}
    (h : ∀ text, text? = some text → ∃ t : Instant, text = t.stored) :
    (∃ t : Instant, ¬ t.HasPlainYear ∧ text? = some t.stored ∧
        readTimestamp? text? = .error (.badTimestamp t.stored .invalid)) ∨
      ((∀ t : Instant, text? = some t.stored → t.HasPlainYear) ∧
        ∃ read, readTimestamp? text? = .ok read) := by
  cases text? with
  | none => exact Or.inr ⟨fun _ hc => (nomatch hc), none, rfl⟩
  | some text =>
      obtain ⟨t, rfl⟩ := h text rfl
      have hread := readTimestamp_of_stored t
      by_cases hyear : t.HasPlainYear
      · rw [if_pos hyear] at hread
        refine Or.inr ⟨fun t' heq => ?_, some t.cut, ?_⟩
        · by_contra hnot
          have hread' := readTimestamp_of_stored t'
          rw [if_neg hnot, ← Option.some.inj heq, hread] at hread'
          exact nomatch hread'
        · rw [readTimestamp?, hread]
          rfl
      · rw [if_neg hyear] at hread
        refine Or.inl ⟨t, hyear, rfl, ?_⟩
        rw [readTimestamp?, hread]
        rfl

namespace JobRow

/-! ### Rows -/

/-- The times of a row, as texts. -/
def IsTime (row : JobRow) (text : String) : Prop :=
  row.createdAt = text ∨ row.dispatchedAt = some text ∨ row.completedAt = some text

/-- A row as operations leave it. -/
structure Written (row : JobRow) : Prop where
  times : ∀ text, row.IsTime text → ∃ t : Instant, text = t.stored
  scores : ∀ score ∈ row.scores, score.IsNative
  counters : ∀ counter ∈ row.counters, counter.IsNative

/-- A row all of whose times have room in timestamps. -/
def Legible (row : JobRow) : Prop := ∀ t : Instant, row.IsTime t.stored → t.HasPlainYear

/-- The job that a row shows, given what is read of its texts. -/
def shown (row : JobRow) (id : JobId) (status : JobStatus) (createdAt : Instant)
    (dispatchedAt completedAt : Option Instant) : Job where
  id := id
  repositoryId := row.repositoryId
  cloneUrl := row.cloneUrl
  branch := row.branch
  commitSha := row.commitSha
  status := status
  qualityScore := row.qualityScore.value?
  maintainabilityIndex := row.maintainabilityIndex.value?
  complexityScore := row.complexityScore.value?
  securityRating := row.securityRating.value?
  issuesFound := row.issuesFound.value?
  filesAnalyzed := row.filesAnalyzed.value?
  externalHandle := row.externalHandle
  error := row.error
  createdAt := createdAt
  dispatchedAt := dispatchedAt
  completedAt := completedAt

variable {row row' : JobRow} {id : JobId} {status : JobStatus}

/-- Reading a row comes down to reading its times. -/
theorem Written.read_eq (h : row.Written) (hid : row.id = id.text)
    (hstatus : row.status = status.label) :
    row.read = (do
      let createdAt ← readTimestamp row.createdAt
      let dispatchedAt ← readTimestamp? row.dispatchedAt
      let completedAt ← readTimestamp? row.completedAt
      return row.shown id status createdAt dispatchedAt completedAt) := by
  have hscore : ∀ score ∈ row.scores, ∀ (index : Nat) (column : String),
      score.read "analysis" index column = .ok score.value? :=
    fun score hmem => (h.scores score hmem).read "analysis"
  have hcounter : ∀ counter ∈ row.counters, ∀ (index : Nat) (column : String),
      counter.read "analysis" index column = .ok counter.value? :=
    fun counter hmem => (h.counters counter hmem).read "analysis"
  unfold JobRow.read
  rw [hscore row.qualityScore (by simp [JobRow.scores]),
    hscore row.maintainabilityIndex (by simp [JobRow.scores]),
    hscore row.complexityScore (by simp [JobRow.scores]),
    hscore row.securityRating (by simp [JobRow.scores]),
    hcounter row.issuesFound (by simp [JobRow.counters]),
    hcounter row.filesAnalyzed (by simp [JobRow.counters]), hstatus, readStatus,
    JobStatus.ofLabel?_label, hid, Store.readJobId_text]
  rfl

/-- **A row can be read unless one of its times has no room in a timestamp.** -/
theorem Written.read_cases (h : row.Written) (hid : row.id = id.text)
    (hstatus : row.status = status.label) :
    (∃ t : Instant, row.IsTime t.stored ∧ ¬ t.HasPlainYear ∧
        row.read = .error (.badTimestamp t.stored .invalid)) ∨
      (row.Legible ∧ ∃ createdAt dispatchedAt completedAt,
        readTimestamp row.createdAt = .ok createdAt ∧
        readTimestamp? row.dispatchedAt = .ok dispatchedAt ∧
        readTimestamp? row.completedAt = .ok completedAt ∧
        row.read = .ok (row.shown id status createdAt dispatchedAt completedAt)) := by
  rw [h.read_eq hid hstatus]
  have hcreated : readTimestamp? (some row.createdAt) = (readTimestamp row.createdAt).map some := rfl
  have hstored : ∀ text, some row.createdAt = some text → ∃ t : Instant, text = t.stored :=
    fun text htext => h.times text (Or.inl (Option.some.inj htext))
  rcases readTimestamp?_cases hstored with
    ⟨t, hyear, htext, hread⟩ | ⟨hplain, read, hread⟩
  · refine Or.inl ⟨t, Or.inl (Option.some.inj htext), hyear, ?_⟩
    rw [hcreated] at hread
    cases hcreatedAt : readTimestamp row.createdAt with
    | ok createdAt => rw [hcreatedAt] at hread; exact nomatch hread
    | error cause =>
        rw [hcreatedAt] at hread
        exact congrArg Except.error (Except.error.inj hread)
  rw [hcreated] at hread
  cases hcreatedAt : readTimestamp row.createdAt with
  | error cause => rw [hcreatedAt] at hread; exact nomatch hread
  | ok createdAt =>
    rcases readTimestamp?_cases fun text htext => h.times text (Or.inr (Or.inl htext)) with
      ⟨t, hyear, htext, hread'⟩ | ⟨hplain', dispatchedAt, hread'⟩
    · refine Or.inl ⟨t, Or.inr (Or.inl htext), hyear, ?_⟩
      rw [hread']
      rfl
    · rcases readTimestamp?_cases fun text htext => h.times text (Or.inr (Or.inr htext)) with
        ⟨t, hyear, htext, hread''⟩ | ⟨hplain'', completedAt, hread''⟩
      · refine Or.inl ⟨t, Or.inr (Or.inr htext), hyear, ?_⟩
        rw [hread', hread'']
        rfl
      · refine Or.inr ⟨?_, createdAt, dispatchedAt, completedAt, rfl, hread', hread'', ?_⟩
        · rintro t (htext | htext | htext)
          · exact hplain t (congrArg some htext)
          · exact hplain' t htext
          · exact hplain'' t htext
        · rw [hread', hread'']
          rfl

/-! ### Moves -/

theorem Moves.written {now : Instant} (hmove : row.Moves now row') (h : row.Written) :
    row'.Written := by
  cases hmove with
  | dispatch handle =>
      refine ⟨?_, h.scores, h.counters⟩
      rintro text (htext | htext | htext)
      · exact h.times text (Or.inl htext)
      · exact ⟨now, (Option.some.inj htext).symm⟩
      · exact h.times text (Or.inr (Or.inr htext))
  | record handle => exact ⟨h.times, h.scores, h.counters⟩
  | finish source target reason =>
      refine ⟨?_, h.scores, h.counters⟩
      rintro text (htext | htext | htext)
      · exact h.times text (Or.inl htext)
      · exact h.times text (Or.inr (Or.inl htext))
      · exact ⟨now, (Option.some.inj htext).symm⟩

end JobRow

namespace Store

/-- A store whose jobs are as operations leave them, each in a repository that exists. -/
structure Written (s : Store) : Prop where
  rows : ∀ row ∈ s.jobs, row.Written
  housed : ∀ row ∈ s.jobs, ∃ repository ∈ s.repositories, repository.id = row.repositoryId

variable {s s' : Store}

theorem pendingRow_written (id : JobId) (job : NewJob) (now : Instant) :
    (pendingRow id job now).Written := by
  refine ⟨?_, ?_, ?_⟩
  · rintro text (htext | htext | htext)
    · exact ⟨now, htext.symm⟩
    · exact nomatch htext
    · exact nomatch htext
  · intro score hscore
    rw [(pendingRow_unended id job now).unscored.scores score hscore]
    exact Slot.isNative_empty
  · intro counter hcounter
    rw [(pendingRow_unended id job now).unscored.counters counter hcounter]
    exact Slot.isNative_empty

theorem rowWithReport_written {row : JobRow} (h : row.Written) (report : CheckedReport)
    (now : Instant) : (rowWithReport report now row).Written := by
  refine ⟨?_, ?_, ?_⟩
  · rintro text (htext | htext | htext)
    · exact h.times text (Or.inl htext)
    · exact h.times text (Or.inr (Or.inl htext))
    · exact ⟨now, (Option.some.inj htext).symm⟩
  · intro score hscore
    simp only [JobRow.scores, rowWithReport, List.mem_cons, List.not_mem_nil,
      or_false] at hscore
    rcases hscore with rfl | rfl | rfl | rfl <;> exact isNative_keptOption _
  · intro counter hcounter
    simp only [JobRow.counters, rowWithReport, List.mem_cons, List.not_mem_nil,
      or_false] at hcounter
    rcases hcounter with rfl | rfl
    · exact Slot.isNative_value _
    · exact Slot.isNative_ofOption _

theorem Written.putRow (h : s.Written) {id : JobId} {row row' : JobRow}
    (hrow : s.jobRow? id = some row) (hwritten : row'.Written)
    (hrepository : row'.repositoryId = row.repositoryId) : (s.putRow id row').Written := by
  constructor
  · intro other hother
    rcases mem_putRow hother with rfl | ⟨hold, -⟩
    · exact hwritten
    · exact h.rows other hold
  · intro other hother
    rcases mem_putRow hother with rfl | ⟨hold, -⟩
    · rw [hrepository]
      exact h.housed row (jobRow?_mem hrow).1
    · exact h.housed other hold

theorem Moves.written {now : Instant} (hmoves : s.Moves now s') (h : s.Written) : s'.Written := by
  cases hmoves with
  | stay | user => exact ⟨h.rows, h.housed⟩
  | repository =>
      refine ⟨h.rows, fun row hrow => ?_⟩
      obtain ⟨repository, hmem, hid⟩ := h.housed row hrow
      exact ⟨repository, List.mem_append_left _ hmem, hid⟩
  | job id job _ _ hrepository =>
      constructor
      · intro row hrow
        rcases List.mem_append.mp hrow with hold | hnew
        · exact h.rows row hold
        · rw [List.mem_singleton.mp hnew]
          exact pendingRow_written id job now
      · intro row hrow
        rcases List.mem_append.mp hrow with hold | hnew
        · exact h.housed row hold
        · obtain ⟨repository, hfound⟩ := Option.isSome_iff_exists.mp hrepository
          rw [List.mem_singleton.mp hnew]
          exact ⟨repository, List.mem_of_find?_eq_some hfound,
            eq_of_beq (List.find?_some (p := fun row : RepositoryRow => row.id == _) hfound)⟩
  | row id row row' hrow hmove =>
      exact h.putRow hrow (hmove.written (h.rows row (jobRow?_mem hrow).1)) hmove.repositoryId_eq
  | report id row report hrow =>
      have hwritten := rowWithReport_written (h.rows row (jobRow?_mem hrow).1) report now
      have hput : (s.putRow id (rowWithReport report now row)).Written :=
        h.putRow hrow hwritten rfl
      exact ⟨hput.rows, hput.housed⟩

/-- **In every reachable store the rows of jobs are as operations leave them.** -/
theorem Reached.written (h : s.Reached) : s.Written := by
  induction h with
  | empty => exact ⟨fun row hrow => (nomatch hrow), fun row hrow => nomatch hrow⟩
  | after op now hs ih => exact (op.moves hs.wf.ids hs.wf.named now).written ih

/-- The times of a row that can be read have room in timestamps. -/
theorem Reached.legible_of_read (hs : s.Reached) {row : JobRow} (hrow : row ∈ s.jobs)
    (hread : row.read.isOk = true) : row.Legible := by
  obtain ⟨id, hid⟩ := hs.wf.named row hrow
  obtain ⟨status, hstatus⟩ := hs.wf.status row hrow
  rcases (hs.written.rows row hrow).read_cases hid hstatus with ⟨_, -, -, hfailed⟩ | ⟨hlegible, -⟩
  · rw [hfailed] at hread
    exact Bool.noConfusion hread
  · exact hlegible

/-- The repository of every job has an owner. -/
theorem Written.owner (h : s.Written) {row : JobRow} (hrow : row ∈ s.jobs) :
    ∃ owner, s.owns owner row = true := by
  obtain ⟨repository, hmem, hid⟩ := h.housed row hrow
  refine ⟨repository.userId, List.any_eq_true.mpr ⟨repository, hmem, ?_⟩⟩
  rw [hid, beq_self_eq_true, beq_self_eq_true]
  rfl

end Store

end AnalysisDesk
