/-
What a user's figures are read of.

All rows of a user's jobs are read before anything is computed.  So the figures are given
exactly if the user and these rows can be read, and the only reason why they cannot is a
time that has no room in a timestamp (`Reached.userStats_cases`).  The figures are then
those of jobs that have from their rows whatever counts: the status, the score, the number
of issues and the time of completion.  Whether there are any is then a matter of the total
of the issues alone (`Reached.userStats_legible`).
-/
import AnalysisDesk.Proofs.Desk.Shapes
import AnalysisDesk.Proofs.Views.Statistics

namespace AnalysisDesk

/-- A job that was read of a row, with what figures take from it. -/
structure JobRow.Tells (row : JobRow) (job : Job) : Prop extends row.ReadAs job where
  qualityScore : job.qualityScore = row.qualityScore.value?
  completedAt : readTimestamp? row.completedAt = .ok job.completedAt

theorem Reads.mono {γ : Type} {times times' : Instant → Prop} {outcome : Except StoreError γ}
    (h : Reads times outcome) (htimes : ∀ t, times t → times' t) : Reads times' outcome :=
  h.imp_right fun ⟨t, htime, hfailed⟩ => ⟨t, htimes t htime, hfailed⟩

namespace Store

variable {s : Store} {user : Int}

theorem Reached.tells_of_read (hs : s.Reached) {row : JobRow} (hrow : row ∈ s.jobs) {job : Job}
    (hread : row.read = .ok job) : row.Tells job := by
  obtain ⟨id, hid⟩ := hs.wf.named row hrow
  obtain ⟨status, hstatus⟩ := hs.wf.status row hrow
  rcases (hs.written.rows row hrow).read_cases hid hstatus with
    ⟨t, -, -, hfailed⟩ | ⟨-, _, _, completedAt, -, -, hcompleted, hshown⟩
  · rw [hread] at hfailed
    exact nomatch hfailed
  · obtain rfl := Except.ok.inj (hread.symm.trans hshown)
    exact ⟨⟨hread, hid, hstatus, rfl, rfl⟩, rfl, hcompleted⟩

/-! ### Whether there are figures -/

/-- The instants that are read for the figures of a user. -/
def IsStatsTime (s : Store) (user : Int) (t : Instant) : Prop :=
  (∃ row, s.userRow? user = some row ∧ row.createdAt = t.stored) ∨
    ∃ row ∈ s.userJobRows user, row.IsTime t.stored

/-- Whether all these instants have room in timestamps. -/
def StatsLegible (s : Store) (user : Int) : Prop := ∀ t, s.IsStatsTime user t → t.HasPlainYear

/-- The times of a user's rows have room if the user and the rows can be read. -/
theorem Reached.statsLegible_of_reads (hs : s.Reached) (huser : (s.user? user).isOk = true)
    (hjobs : ∀ row ∈ s.userJobRows user, row.read.isOk = true) : s.StatsLegible user := by
  rintro t (⟨row, hrow, htime⟩ | ⟨row, hrow, htime⟩)
  · have hread : s.user? user = row.read.map some := congrArg (readOne UserRow.read) hrow
    have hcreated := readTimestamp_of_stored t
    by_contra hyear
    rw [if_neg hyear, ← htime] at hcreated
    rw [hread, UserRow.read, hcreated] at huser
    exact Bool.noConfusion huser
  · exact hs.legible_of_read (List.mem_filter.mp hrow).1 (hjobs row hrow) t htime

/-- Figures can be computed unless one of these instants has no room. -/
theorem Reached.userStats_reads (hs : s.Reached) (user : Int) :
    Reads (s.IsStatsTime user) (s.userStats user) := by
  have huser : Reads (s.IsStatsTime user) (s.user? user) := by
    refine readOne_reads fun row hrow => ?_
    have hread : Reads (s.IsStatsTime user) (readTimestamp row.createdAt) :=
      readTimestamp_reads (hs.entered.users row (List.mem_of_find?_eq_some hrow))
        fun t ht => Or.inl ⟨row, hrow, ht⟩
    exact hread.bind fun _ => Or.inl ⟨_, rfl⟩
  have hjobs : Reads (s.IsStatsTime user) (s.jobsOf user) := by
    have hrows : ∀ row ∈ oldestFirst (s.userJobRows user), row ∈ s.userJobRows user :=
      fun row hrow => (oldestFirst_perm _).subset hrow
    have hread := readAll_reads fun row hrow =>
      hs.job_reads (List.mem_filter.mp (hrows row hrow)).1
    exact hread.mono fun t ⟨row, hrow, htime⟩ => Or.inr ⟨row, hrows row hrow, htime⟩
  obtain ⟨counts, hcounts, -⟩ := hs.severityCounts_eq user
  rcases huser with ⟨_ | found, hfound⟩ | ⟨t, htime, hyear, hfailed⟩
  · exact Or.inl ⟨none, by rw [userStats, hfound]; rfl⟩
  · rcases hjobs with ⟨jobs, hjobs⟩ | ⟨t, htime, hyear, hfailed⟩
    · exact Or.inl ⟨some (UserStats.ofJobs jobs counts), by rw [userStats, hfound, hjobs, hcounts]; rfl⟩
    · exact Or.inr ⟨t, htime, hyear, by rw [userStats, hfound, hfailed]; rfl⟩
  · exact Or.inr ⟨t, htime, hyear, by rw [userStats, hfailed]; rfl⟩

/-- Figures are those of the jobs that the rows tell, all of which can be read. -/
theorem Reached.figures_of_userStats (hs : s.Reached) {figures : Except Overflow UserStats}
    (h : s.userStats user = .ok (some figures)) :
    s.StatsLegible user ∧ ∃ (shown : JobRow → Job) (counts : List (Severity × Nat)),
      (∀ row ∈ s.userJobRows user, row.Tells (shown row)) ∧
        figures = UserStats.ofJobs ((oldestFirst (s.userJobRows user)).map shown) counts := by
  obtain ⟨⟨found, hfound⟩, jobs, counts, hjobs, rfl⟩ := userStats_ok h
  have hread := readAll_eq_ok_iff.mp hjobs
  have htells : ∀ row ∈ s.userJobRows user, ∃ job, row.Tells job := by
    intro row hrow
    have hin : row ∈ oldestFirst (s.userJobRows user) := (oldestFirst_perm _).mem_iff.mpr hrow
    obtain ⟨i, hi, hget⟩ := List.getElem_of_mem hin
    have hitem := hread.get hi (hread.length_eq ▸ hi)
    rw [List.get_eq_getElem, hget] at hitem
    exact ⟨_, hs.tells_of_read (List.mem_filter.mp hrow).1 hitem⟩
  choose! shown hshown using htells
  refine ⟨?_, shown, counts, hshown, ?_⟩
  · refine hs.statsLegible_of_reads (by rw [hfound]; rfl) fun row hrow => ?_
    rw [(hshown row hrow).read]
    rfl
  · have hsame : readAll JobRow.read ((oldestFirst (s.userJobRows user)).map fun row => row)
        = .ok ((oldestFirst (s.userJobRows user)).map shown) :=
      readAll_map fun row hrow => (hshown row ((oldestFirst_perm _).subset hrow)).read
    rw [List.map_id'] at hsame
    rw [Except.ok.inj (hjobs.symm.trans hsame)]

/-- **For who exists figures are computed, unless a time that is read for them has no room in a
timestamp.** -/
theorem Reached.userStats_cases (hs : s.Reached) (hexists : (s.userRow? user).isSome = true) :
    (s.StatsLegible user → ∃ (shown : JobRow → Job) (counts : List (Severity × Nat)),
      (∀ row ∈ s.userJobRows user, row.Tells (shown row)) ∧ s.userStats user
        = .ok (some (UserStats.ofJobs ((oldestFirst (s.userJobRows user)).map shown) counts))) ∧
    (¬ s.StatsLegible user → ∃ t, s.IsStatsTime user t ∧ ¬ t.HasPlainYear ∧
      s.userStats user = .error (.badTimestamp t.stored .invalid)) := by
  rcases hs.userStats_reads user with ⟨_ | figures, hfigures⟩ | ⟨t, htime, hyear, hfailed⟩
  · exact absurd (guarded_eq_none hfigures) (user?_ne_none hexists)
  · obtain ⟨hlegible, shown, counts, hshown, rfl⟩ := hs.figures_of_userStats hfigures
    exact ⟨fun _ => ⟨shown, counts, hshown, hfigures⟩, fun hnot => absurd hlegible hnot⟩
  · exact ⟨fun hlegible => absurd (hlegible t htime) hyear, fun _ => ⟨t, htime, hyear, hfailed⟩⟩

/-- **Figures that can be computed are given unless the total of the issues has no room**, if no job
has found less than nothing. -/
theorem Reached.userStats_legible (hs : s.Reached) (hexists : (s.userRow? user).isSome = true)
    (hlegible : s.StatsLegible user) (hcounts : ∀ count ∈ s.issueCounts user, 0 ≤ count) :
    ((s.issueCounts user).sum ≤ Limit.greatest64 →
      ∃ (shown : JobRow → Job) (counts : List (Severity × Nat)),
        (∀ row ∈ s.userJobRows user, row.Tells (shown row)) ∧ s.userStats user
          = .ok (some (.ok (UserStats.withTotal ((oldestFirst (s.userJobRows user)).map shown) counts
              (s.issueCounts user).sum)))) ∧
    (Limit.greatest64 < (s.issueCounts user).sum →
      s.userStats user = .ok (some (.error .number))) := by
  obtain ⟨shown, counts, hshown, hfigures⟩ := (hs.userStats_cases hexists).1 hlegible
  rcases ofJobs_cases (fun row hrow => (hshown row hrow).toReadAs)
    ((oldestFirst_perm (s.userJobRows user)).map shown) counts with
    ⟨hgiven, hsum⟩ | ⟨hfallen, hroom⟩
  · rw [hgiven] at hfigures
    exact ⟨fun _ => ⟨shown, counts, hshown, hfigures⟩, fun hlt => absurd hsum (Int.not_le.mpr hlt)⟩
  · rw [hfallen] at hfigures
    exact ⟨fun hsum => absurd ((totalHasRoom_iff hcounts).mpr hsum) hroom, fun _ => hfigures⟩

/-! ### Completed jobs -/

/-- What the records of completed jobs hold, if all have the shape that their status wants. -/
theorem Shaped.completed (h : s.Shaped) (hs : s.WF) {row : JobRow}
    (hrow : row ∈ s.completedRows user) :
    row.completedAt ≠ none ∧ row.qualityScore.Holds (fun score => score.isFinite = true) ∧
      row.issuesFound.Holds (fun count => 0 ≤ count) := by
  obtain ⟨hmem, hstatus⟩ := List.mem_filter.mp hrow
  have hin : row ∈ s.jobs := (List.mem_filter.mp hmem).1
  obtain ⟨id, hid⟩ := hs.named row hin
  have hshape := (h id row ((jobRow?_eq_some_iff hs.ids).mpr ⟨hin, hid⟩)).shape (eq_of_beq hstatus)
  exact ⟨hshape.2.2.1, hshape.2.2.2.1, hshape.2.2.2.2.1⟩

/-- Completed jobs have a number of issues each, which is not negative. -/
theorem Shaped.issueCounts (h : s.Shaped) (hs : s.WF) (user : Int) :
    (s.completedRows user).map (·.issuesFound) = (s.issueCounts user).map .value ∧
      ∀ count ∈ s.issueCounts user, 0 ≤ count := by
  have hheld : ∀ row ∈ s.completedRows user, row.issuesFound.Holds fun count => 0 ≤ count :=
    fun row hrow => (h.completed hs hrow).2.2
  unfold Store.issueCounts
  generalize s.completedRows user = rows at hheld
  induction rows with
  | nil => exact ⟨rfl, nofun⟩
  | cons row rest ih =>
      obtain ⟨⟨count, hcount, hnonneg⟩, hrest⟩ := List.forall_mem_cons.mp hheld
      obtain ⟨hslots, hcounts⟩ := ih hrest
      have hhead : row.issuesFound.value? = some count := congrArg Slot.value? hcount
      rw [List.filterMap_cons_some (f := fun row : JobRow => row.issuesFound.value?) hhead,
        List.map_cons, List.map_cons, hslots, hcount]
      exact ⟨rfl, List.forall_mem_cons.mpr ⟨hnonneg, hcounts⟩⟩

end Store

end AnalysisDesk
