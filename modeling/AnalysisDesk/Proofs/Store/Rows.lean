/-
The table of jobs, seen as a map from identifiers to rows.

Every write to the table goes through `changeJob`, which changes all rows that
stand where the writer thinks they do.  As identifiers are unique this is one row
at most, so a write either puts a new row in the place of the old one, `putRow`,
or does nothing.  `step_stepped` says so once for all conditional steps, answer
included, and everything that follows about single writes is read off it.
-/
import AnalysisDesk.Proofs.Job.IdText
import AnalysisDesk.Store.Write
import Mathlib.Data.List.Nodup

namespace AnalysisDesk

/-! ### Labels -/

theorem JobStatus.label_injective : Function.Injective JobStatus.label := by
  intro a b h
  have hread : some a = some b := by rw [← ofLabel?_label a, h, ofLabel?_label b]
  exact Option.some.inj hread

@[simp] theorem JobStatus.label_inj {a b : JobStatus} : a.label = b.label ↔ a = b :=
  JobStatus.label_injective.eq_iff

theorem JobRow.isActive_iff {row : JobRow} :
    row.isActive = true ↔
      row.status = JobStatus.pending.label ∨ row.status = JobStatus.processing.label := by
  simp [JobRow.isActive]

theorem JobRow.isActive_of_status {row : JobRow} {status : JobStatus}
    (h : row.status = status.label) : row.isActive = status.isActive := by
  cases status <;> simp [JobRow.isActive, h, JobStatus.isActive]

namespace Store

variable {s : Store} {id other : JobId} {row row' : JobRow}

/-! ### The row of a job -/

theorem jobRow?_mem (h : s.jobRow? id = some row) : row ∈ s.jobs ∧ row.id = id.text :=
  ⟨List.mem_of_find?_eq_some h, by simpa using List.find?_some h⟩

theorem jobRow?_eq_none_iff : s.jobRow? id = none ↔ ∀ row ∈ s.jobs, row.id ≠ id.text := by
  simp [jobRow?]

/-- Rows with one identifier are one row. -/
theorem row_unique (hids : (s.jobs.map (·.id)).Nodup) {a b : JobRow} (ha : a ∈ s.jobs)
    (hb : b ∈ s.jobs) (h : a.id = b.id) : a = b :=
  List.inj_on_of_nodup_map hids ha hb h

theorem jobRow?_eq_some_iff (hids : (s.jobs.map (·.id)).Nodup) :
    s.jobRow? id = some row ↔ row ∈ s.jobs ∧ row.id = id.text := by
  refine ⟨jobRow?_mem, ?_⟩
  rintro ⟨hmem, hid⟩
  cases hfound : s.jobRow? id with
  | none => exact absurd hid (jobRow?_eq_none_iff.mp hfound row hmem)
  | some found =>
      obtain ⟨hfmem, hfid⟩ := jobRow?_mem hfound
      rw [row_unique hids hfmem hmem (hfid.trans hid.symm)]

/-! ### Putting a row -/

/-- Puts a row in the place of the one with an identifier. -/
def putRow (s : Store) (id : JobId) (row : JobRow) : Store :=
  { s with jobs := s.jobs.map fun old => if old.id = id.text then row else old }

theorem putRow_ids (hid : row.id = id.text) :
    (s.putRow id row).jobs.map (·.id) = s.jobs.map (·.id) := by
  simp only [putRow, List.map_map]
  refine List.map_congr_left fun old _ => ?_
  by_cases h : old.id = id.text
  · simp [h, hid]
  · simp [h]

theorem mem_putRow (h : row' ∈ (s.putRow id row).jobs) :
    row' = row ∨ (row' ∈ s.jobs ∧ row'.id ≠ id.text) := by
  obtain ⟨old, hmem, hold⟩ := List.mem_map.mp h
  by_cases hid : old.id = id.text
  · rw [if_pos hid] at hold
    exact Or.inl hold.symm
  · rw [if_neg hid] at hold
    subst hold
    exact Or.inr ⟨hmem, hid⟩

theorem mem_putRow_self (h : s.jobRow? id = some row') : row ∈ (s.putRow id row).jobs := by
  obtain ⟨hmem, hid⟩ := jobRow?_mem h
  exact List.mem_map.mpr ⟨row', hmem, if_pos hid⟩

theorem mem_putRow_of_ne (hmem : row' ∈ s.jobs) (hne : row'.id ≠ id.text) :
    row' ∈ (s.putRow id row).jobs :=
  List.mem_map.mpr ⟨row', hmem, if_neg hne⟩

private theorem find?_put (rows : List JobRow) (hid : row.id = id.text) :
    (rows.map fun old => if old.id = id.text then row else old).find? (fun r => r.id == other.text)
      = (rows.find? fun r => r.id == other.text).map fun old =>
          if old.id = id.text then row else old := by
  induction rows with
  | nil => rfl
  | cons old rest ih =>
      have hkey : ((if old.id = id.text then row else old).id == other.text)
          = (old.id == other.text) := by
        by_cases h : old.id = id.text
        · rw [if_pos h, hid, h]
        · rw [if_neg h]
      rw [List.map_cons, List.find?_cons, List.find?_cons, ih, hkey]
      cases old.id == other.text <;> rfl

/-- The row that was put is found, and no other row has changed. -/
theorem jobRow?_putRow (h : s.jobRow? id = some row') (hid : row.id = id.text) :
    (s.putRow id row).jobRow? other = if other = id then some row else s.jobRow? other := by
  show ((s.jobs.map fun old => if old.id = id.text then row else old).find?
    fun r => r.id == other.text) = _
  rw [find?_put s.jobs hid]
  by_cases heq : other = id
  · subst heq
    rw [if_pos rfl]
    show (s.jobRow? other).map _ = some row
    rw [h, Option.map_some, if_pos (jobRow?_mem h).2]
  · rw [if_neg heq]
    show (s.jobRow? other).map _ = s.jobRow? other
    cases hfound : s.jobRow? other with
    | none => rfl
    | some found =>
        have hne : found.id ≠ id.text := by
          rw [(jobRow?_mem hfound).2]
          simpa using heq
        rw [Option.map_some, if_neg hne]

@[simp] theorem jobRow?_putRow_self (h : s.jobRow? id = some row') (hid : row.id = id.text) :
    (s.putRow id row).jobRow? id = some row := by
  rw [jobRow?_putRow h hid, if_pos rfl]

/-! ### Conditional steps -/

theorem standsIn_iff {sources : List JobStatus} :
    standsIn id sources row = true ↔
      row.id = id.text ∧ ∃ source ∈ sources, row.status = source.label := by
  simp [standsIn]

theorem illegalStep?_eq_none_iff {sources : List JobStatus} {target : JobStatus} :
    illegalStep? sources target = none ↔ ∀ source ∈ sources, source.canBecome target = true := by
  simp [illegalStep?]

/-- What can come of a conditional step. -/
inductive Stepped (s : Store) (id : JobId) (sources : List JobStatus) (target : JobStatus)
    (change : JobRow → JobRow) : Outcome Bool → Prop
  | illegal (source : JobStatus) (hmem : source ∈ sources) (h : source.canBecome target = false) :
      Stepped s id sources target change (.error (.illegalStep source target), s)
  | changed (row : JobRow) (hrow : s.jobRow? id = some row) (source : JobStatus)
      (hmem : source ∈ sources) (hlegal : source.canBecome target = true)
      (hstatus : row.status = source.label) :
      Stepped s id sources target change
        (.ok true, s.putRow id (change { row with status := target.label }))
  | unchanged (h : ∀ row, s.jobRow? id = some row → ∀ source ∈ sources, row.status ≠ source.label) :
      Stepped s id sources target change (.ok false, s)

/-- A conditional step is refused, puts one row, or changes nothing. -/
theorem step_stepped (hids : (s.jobs.map (·.id)).Nodup) (id : JobId) (sources : List JobStatus)
    (target : JobStatus) (change : JobRow → JobRow) :
    Stepped s id sources target change (s.step id sources target change) := by
  unfold step
  cases hill : illegalStep? sources target with
  | some e =>
      obtain ⟨source, hfind, rfl⟩ := Option.map_eq_some_iff.mp hill
      exact .illegal source (List.mem_of_find?_eq_some hfind) (by simpa using List.find?_some hfind)
  | none =>
      have hlegal := illegalStep?_eq_none_iff.mp hill
      by_cases hany : s.jobs.any (standsIn id sources) = true
      · obtain ⟨row, hmem, hstands⟩ := List.any_eq_true.mp hany
        obtain ⟨hid, source, hsource, hstatus⟩ := standsIn_iff.mp hstands
        have hrow : s.jobRow? id = some row := (jobRow?_eq_some_iff hids).mpr ⟨hmem, hid⟩
        have hput : (s.jobs.map fun old =>
              if standsIn id sources old then change { old with status := target.label } else old)
            = s.jobs.map fun old =>
              if old.id = id.text then change { row with status := target.label } else old := by
          refine List.map_congr_left fun old hold => ?_
          by_cases h : old.id = id.text
          · rw [row_unique hids hold hmem (h.trans hid.symm), if_pos hstands, if_pos hid]
          · rw [if_neg fun hc => h (standsIn_iff.mp hc).1, if_neg h]
        simp only [changeJob, hany, if_true]
        rw [hput]
        exact .changed row hrow source hsource (hlegal source hsource) hstatus
      · simp only [changeJob, if_neg hany]
        refine .unchanged fun row hrow source hsource hstatus => hany ?_
        obtain ⟨hmem, hid⟩ := jobRow?_mem hrow
        exact List.any_eq_true.mpr ⟨row, hmem, standsIn_iff.mpr ⟨hid, source, hsource, hstatus⟩⟩

/-- A handle is kept if the job is there and has none. -/
theorem recordHandle_eq (hids : (s.jobs.map (·.id)).Nodup) (id : JobId) (handle : String) :
    (∃ row, s.jobRow? id = some row ∧ row.externalHandle = none ∧
      s.recordHandle id handle = (.ok (), s.putRow id { row with externalHandle := some handle })) ∨
    ((∀ row, s.jobRow? id = some row → row.externalHandle ≠ none) ∧
      s.recordHandle id handle = (.ok (), s)) := by
  by_cases h : ∃ row, s.jobRow? id = some row ∧ row.externalHandle = none
  · obtain ⟨row, hrow, hnone⟩ := h
    obtain ⟨hmem, hid⟩ := jobRow?_mem hrow
    refine Or.inl ⟨row, hrow, hnone, ?_⟩
    unfold recordHandle putRow
    congr 2
    refine List.map_congr_left fun old hold => ?_
    by_cases hold' : old.id = id.text
    · rw [row_unique hids hold hmem (hold'.trans hid.symm)]
      simp [hid, hnone]
    · simp [hold']
  · refine Or.inr ⟨fun row hrow hnone => h ⟨row, hrow, hnone⟩, ?_⟩
    have hsame : ∀ old ∈ s.jobs, (if old.id == id.text && old.externalHandle.isNone then
        { old with externalHandle := some handle } else old) = old := by
      intro old hold
      refine if_neg fun hc => h ⟨old, ?_⟩
      simp only [Bool.and_eq_true, beq_iff_eq, Option.isNone_iff_eq_none] at hc
      exact ⟨(jobRow?_eq_some_iff hids).mpr ⟨hold, hc.1⟩, hc.2⟩
    unfold recordHandle
    rw [List.map_congr_left hsame, List.map_id']

end Store

end AnalysisDesk
