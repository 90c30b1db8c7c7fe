/-
Statistics agree with the listings.

The figures of a user come out of queries of their own, some of which read rows while
others only count them.  All the same each figure can be told from what the user may
look up otherwise: the listing of all jobs, the listings of the single repositories, and
the details of the jobs.  Every job of the user is in exactly one of the repositories,
and every issue that counts belongs to exactly one completed job, so the figures are
sums over these (`countP_userJobRows`, `countP_completedIssueRows`).  That a repository
has one active job at most makes the active jobs as many as the repositories that have
one.

The times of all rows have to have room in timestamps, or the listings would have gaps.  And
the numbers of the issues have to have room where they are added up, or there are no figures.
-/
import AnalysisDesk.Proofs.Views.Filtering

namespace AnalysisDesk

/-! ### Counts of statuses -/

namespace StatusCounts

theorem sum_ofStatuses (statuses : List JobStatus) :
    (ofStatuses statuses).pending + (ofStatuses statuses).processing
        + (ofStatuses statuses).completed + (ofStatuses statuses).failed
        + (ofStatuses statuses).cancelled = statuses.length := by
  unfold ofStatuses
  dsimp only
  induction statuses with
  | nil => rfl
  | cons status rest ih =>
      simp only [List.count_cons, List.length_cons, ← ih]
      cases status <;> simp <;> omega

theorem active_ofStatuses (statuses : List JobStatus) :
    (ofStatuses statuses).active = statuses.countP JobStatus.isActive := by
  unfold active ofStatuses
  dsimp only
  induction statuses with
  | nil => rfl
  | cons status rest ih =>
      rw [List.count_cons, List.count_cons, List.countP_cons, ← ih]
      cases status <;> simp [JobStatus.isActive] <;> omega

end StatusCounts

/-- A job is completed if its row says so. -/
theorem JobRow.ReadAs.completed_iff {row : JobRow} {job : Job} (h : row.ReadAs job) :
    (job.status == .completed) = (row.status == JobStatus.completed.label) := by
  rw [h.status, Bool.eq_iff_iff, beq_iff_eq, beq_iff_eq, JobStatus.label_inj]

namespace Store

variable {s : Store} {user : Int}

/-! ### Rows of jobs and of issues -/

/-- A user's jobs are those in the repositories of the user. -/
theorem owns_eq (s : Store) (user : Int) (row : JobRow) :
    s.owns user row = (s.userRepositoryRows user).any fun repository =>
      repository.id == row.repositoryId := by
  unfold owns userRepositoryRows
  rw [List.any_filter]
  congr 1
  funext repository
  exact Bool.and_comm _ _

theorem mem_userJobRows {row : JobRow} :
    row ∈ s.userJobRows user ↔
      row ∈ s.jobs ∧ row.repositoryId ∈ (s.userRepositoryRows user).map (·.id) := by
  unfold userJobRows
  rw [List.mem_filter, owns_eq, List.any_eq_true, List.mem_map]
  simp only [beq_iff_eq]

theorem Numbered.userRepositoryRows_nodup (h : s.Numbered) (user : Int) :
    ((s.userRepositoryRows user).map (·.id)).Nodup :=
  h.repositories.nodup.sublist (List.filter_sublist.map _)

/-- **A user's jobs are counted repository by repository.** -/
theorem Numbered.countP_userJobRows (h : s.Numbered) (user : Int) (p : JobRow → Bool) :
    (s.userJobRows user).countP p
      = ((s.userRepositoryRows user).map fun repository =>
          (s.repositoryJobRows repository.id).countP p).sum := by
  have hkeys := countP_any_key p JobRow.repositoryId RepositoryRow.id s.jobs
    (h.userRepositoryRows_nodup user)
  have howned : (s.userJobRows user).countP p = s.jobs.countP fun row =>
      p row && (s.userRepositoryRows user).any fun repository =>
        repository.id == row.repositoryId := by
    unfold userJobRows
    rw [List.countP_filter]
    exact List.countP_congr fun row _ => by rw [owns_eq]
  rw [howned, hkeys]
  congr 1
  refine List.map_congr_left fun repository _ => ?_
  unfold repositoryJobRows
  rw [List.countP_filter]
  exact List.countP_congr fun row _ => by rw [Bool.beq_comm]

/-- The rows of a user's completed jobs. -/
def completedRows (s : Store) (user : Int) : List JobRow :=
  (s.userJobRows user).filter fun row => row.status == JobStatus.completed.label

/-- How many issues were found by the completed jobs of a user, job by job. -/
def issueCounts (s : Store) (user : Int) : List Int :=
  (s.completedRows user).filterMap fun row => row.issuesFound.value?

/-- Whether these numbers can be added up in whatever order. -/
def TotalHasRoom (s : Store) (user : Int) : Prop :=
  ∀ counts, counts.Perm (s.issueCounts user) → Limit.HasRoom counts

/-- If no job has found less than nothing, it is the sum that must have room. -/
theorem totalHasRoom_iff (h : ∀ count ∈ s.issueCounts user, 0 ≤ count) :
    s.TotalHasRoom user ↔ (s.issueCounts user).sum ≤ Limit.greatest64 := by
  refine ⟨fun hroom => (Limit.hasRoom_iff h).mp (hroom _ (List.Perm.refl _)),
    fun hsum counts hperm => ?_⟩
  rw [Limit.hasRoom_iff fun count hcount => h count (hperm.subset hcount), hperm.sum_eq]
  exact hsum

/-- **The issues that count for a user are counted job by job.** -/
theorem WF.countP_completedIssueRows (h : s.WF) (user : Int) (p : IssueRow → Bool) :
    (s.completedIssueRows user).countP p
      = ((s.completedRows user).map fun row =>
          s.issues.countP fun issue => p issue && row.id == issue.jobId).sum := by
  have hids : ((s.completedRows user).map (·.id)).Nodup :=
    h.ids.sublist ((List.filter_sublist.trans List.filter_sublist).map _)
  rw [← countP_any_key p IssueRow.jobId JobRow.id s.issues hids]
  unfold completedIssueRows completedRows userJobRows
  rw [List.countP_filter]
  refine List.countP_congr fun issue _ => ?_
  rw [List.any_filter, List.any_filter]
  congr! 4 with row
  cases s.owns user row <;> cases row.status == JobStatus.completed.label <;> simp

/-- The labels of severities that were counted are read as these. -/
private theorem readAll_severities : ∀ {entries : List (String × Nat)},
    (∀ entry ∈ entries, ∃ severity : Severity, entry.1 = severity.label) →
      ∃ counts, readAll (fun entry => (readSeverity entry.1).map fun severity =>
          (severity, entry.2)) entries = .ok counts ∧
        ∀ severity : Severity,
          countOf (· == severity) counts = countOf (· == severity.label) entries := by
  intro entries
  induction entries with
  | nil => exact fun _ => ⟨[], rfl, fun _ => rfl⟩
  | cons entry rest ih =>
      intro h
      obtain ⟨⟨found, hfound⟩, hrest⟩ := List.forall_mem_cons.mp h
      obtain ⟨counts, hcounts, hsums⟩ := ih hrest
      have hread : readSeverity entry.1 = .ok found := by
        rw [hfound, readSeverity, Severity.ofLabel?_label]
      refine ⟨(found, entry.2) :: counts, ?_, fun severity => ?_⟩
      · rw [readAll, hread, hcounts]
        rfl
      · rw [countOf_cons, countOf_cons, hsums, hfound]
        simp only [beq_iff_eq, Severity.label_inj]

/-- The issues that count for a user are those of the tally of their severities. -/
theorem Reached.severityCounts_eq (hs : s.Reached) (user : Int) :
    ∃ counts, s.severityCounts user = .ok counts ∧ ∀ severity,
      (SeverityTable.ofCounts counts).get severity
        = (s.completedIssueRows user).countP fun issue => issue.severity == severity.label := by
  have hlabels : ∀ entry ∈ tallied ((s.completedIssueRows user).map (·.severity)),
      ∃ severity : Severity, entry.1 = severity.label := by
    intro entry hentry
    obtain ⟨row, hrow, hlabel⟩ :=
      List.mem_map.mp (mem_keys_tallied.mp (List.mem_map_of_mem (f := (·.1)) hentry))
    obtain ⟨job, issue, heq⟩ := hs.entered.issues row (List.mem_filter.mp hrow).1
    rw [heq] at hlabel
    exact ⟨issue.severity, hlabel.symm⟩
  obtain ⟨counts, hcounts, hsums⟩ := readAll_severities hlabels
  refine ⟨counts, hcounts, fun severity => ?_⟩
  rw [SeverityTable.get_ofCounts, hsums, countOf_tallied, List.countP_map]
  rfl

/-! ### The listings of a user -/

/-- What a user is shown: the repositories, all the jobs, and the jobs of each repository. -/
structure UserListings (s : Store) (user : Int) (repositories : List Repository) (jobs : List Job)
    (jobsIn : Repository → List Job) : Prop where
  owned : s.repositoriesOf user = .ok repositories
  all : GivesOut (fun request => s.userPage request user) PageRequest.jobItems jobs
  inEach : ∀ repository ∈ repositories,
    GivesOut (fun request => s.repositoryPage repository.id request user) PageRequest.jobItems
      (jobsIn repository)

/-- The same, in terms of the rows that the listings are read of. -/
structure UserRows (s : Store) (user : Int) (shown : JobRow → Job) (repositories : List Repository)
    (jobs : List Job) (jobsIn : Repository → List Job) : Prop where
  ids : (repositories.map (·.id)).Perm ((s.userRepositoryRows user).map (·.id))
  all : jobs.Perm ((s.userJobRows user).map shown)
  inEach : ∀ repository ∈ repositories,
    (jobsIn repository).Perm ((s.repositoryJobRows repository.id).map shown)

private theorem map_id_of_readAll {rows : List RepositoryRow} {repositories : List Repository}
    (h : readAll RepositoryRow.read rows = .ok repositories) :
    repositories.map (·.id) = rows.map (·.id) := by
  have hread := readAll_eq_ok_iff.mp h
  clear h
  induction hread with
  | nil => rfl
  | cons hrow _ ih =>
      obtain ⟨createdAt, rfl⟩ := RepositoryRow.read_shows hrow
      rw [List.map_cons, List.map_cons, ih]

/-- The repositories of a user are listed, each once. -/
theorem Reached.repositories_listed (hs : s.Reached) (hdated : s.Dated) (user : Int) :
    ∃ repositories, s.repositoriesOf user = .ok repositories ∧
      (repositories.map (·.id)).Perm ((s.userRepositoryRows user).map (·.id)) ∧
      ∀ repository ∈ repositories, s.OwnsRepository user repository.id := by
  have hperm := List.mergeSort_perm (s.userRepositoryRows user) fun a b => a.id ≤ b.id
  have hreads : ∀ row ∈ (s.userRepositoryRows user).mergeSort fun a b => a.id ≤ b.id,
      Reads (fun t => row.createdAt = t.stored) row.read := by
    intro row hrow
    have hmem : row ∈ s.repositories := (List.mem_filter.mp (hperm.subset hrow)).1
    have hread : Reads (fun t => row.createdAt = t.stored) (readTimestamp row.createdAt) :=
      readTimestamp_reads (hs.entered.repositories row hmem) fun _ ht => ht
    exact hread.bind fun _ => Or.inl ⟨_, rfl⟩
  obtain ⟨repositories, hlisted⟩ := (readAll_reads hreads).ok fun t ⟨row, hrow, htime⟩ =>
    hdated.repositories row (List.mem_filter.mp (hperm.subset hrow)).1 t htime
  refine ⟨repositories, hlisted, map_id_of_readAll hlisted ▸ hperm.map _,
    fun repository hmem => ?_⟩
  obtain ⟨row, hrow, hread⟩ := readAll_mem hlisted hmem
  obtain ⟨createdAt, rfl⟩ := RepositoryRow.read_shows hread
  obtain ⟨hin, huser⟩ := List.mem_filter.mp (hperm.subset hrow)
  exact ⟨row, hin, rfl, eq_of_beq huser⟩

/-- A user is shown all the rows there are. -/
theorem Reached.userListings (hs : s.Reached) (hdated : s.Dated)
    (hexists : (s.userRow? user).isSome = true) {shown : JobRow → Job}
    (hshown : ∀ row ∈ s.jobs, row.ReadAs (shown row)) :
    ∃ repositories jobs jobsIn, s.UserListings user repositories jobs jobsIn ∧
      s.UserRows user shown repositories jobs jobsIn := by
  have hread : ∀ {rows : List JobRow}, rows.Sublist s.jobs →
      ∀ row ∈ rows, row.read = .ok (shown row) :=
    fun hrows row hrow => (hshown row (hrows.subset hrow)).read
  obtain ⟨repositories, hrepositories, hids, howned⟩ := hs.repositories_listed hdated user
  obtain ⟨jobs, hjobs, hpages⟩ := (hs.userPages hexists).gives fun t htime => by
    rcases htime with ⟨row, hrow, -, htime⟩ | ⟨row, hrow, htime⟩
    · exact hdated.users row hrow t htime
    · exact hdated.jobs row (List.mem_filter.mp hrow).1 t htime
  have heach : ∀ repository ∈ repositories, ∃ listing,
      Lists JobRow.read (s.repositoryJobRows repository.id) s.Newer listing ∧
        GivesOut (fun request => s.repositoryPage repository.id request user)
          PageRequest.jobItems listing := by
    intro repository hmem
    refine (hs.repositoryPages (howned repository hmem)).gives fun t htime => ?_
    rcases htime with ⟨row, hrow, -, htime⟩ | ⟨row, hrow, htime⟩
    · exact hdated.repositories row hrow t htime
    · exact hdated.jobs row (List.mem_filter.mp hrow).1 t htime
  choose! jobsIn hlisted hpagesIn using heach
  exact ⟨repositories, jobs, jobsIn, ⟨hrepositories, hpages, hpagesIn⟩, hids,
    hjobs.perm_map (hread List.filter_sublist), fun repository hmem =>
      (hlisted repository hmem).perm_map (hread List.filter_sublist)⟩

/-! ### The figures -/

/-- A user's figures that agree with what the user is shown. -/
structure StatsAgree (s : Store) (user : Int) (stats : UserStats) (repositories : List Repository)
    (jobs : List Job) (jobsIn : Repository → List Job) : Prop where
  /-- The number of the jobs is the sum over their statuses, the total of their listing, and the
  sum of the totals of the repositories. -/
  statuses : stats.totalAnalyses = stats.byStatus.pending + stats.byStatus.processing
    + stats.byStatus.completed + stats.byStatus.failed + stats.byStatus.cancelled
  listed : Totals (fun request => s.userPage request user) stats.totalAnalyses
  inRepositories : ∃ total : Repository → Nat,
    (∀ repository ∈ repositories,
      Totals (fun request => s.repositoryPage repository.id request user) (total repository)) ∧
    stats.totalAnalyses = (repositories.map total).sum
  /-- As many jobs are active as there are repositories with an active job. -/
  active : stats.active = repositories.countP fun repository =>
    (jobsIn repository).any fun job => job.status.isActive
  active_le : stats.active ≤ repositories.length
  /-- Issues are counted under each severity, and as the details of the completed jobs do. -/
  severities : stats.issuesBySeverity.toList
    = [.critical, .high, .medium, .low].map fun severity =>
        (severity, stats.issuesBySeverity.get severity)
  issues : ∃ detail : Job → JobDetail,
    (∀ job ∈ jobs, s.jobDetail job.id user = .ok (some (detail job))) ∧
    ∀ severity : Severity, stats.issuesBySeverity.get severity
      = ((jobs.filter fun job => job.status == .completed).map fun job =>
          (detail job).summary.bySeverity.get severity).sum
  /-- Repositories with a completed job count as analyzed. -/
  analyzed : stats.repositoriesAnalyzed = repositories.countP fun repository =>
    (jobsIn repository).any fun job => job.status == .completed

section Figures

variable {shown : JobRow → Job} {repositories : List Repository} {jobs oldest : List Job}
  {jobsIn : Repository → List Job}

/-- **A user's jobs are those of the repositories**, however they are counted. -/
theorem UserRows.countP_eq (h : s.UserRows user shown repositories jobs jobsIn) (hs : s.Numbered)
    (holdest : oldest.Perm ((s.userJobRows user).map shown)) (p : Job → Bool) :
    oldest.countP p
      = (repositories.map fun repository => (jobsIn repository).countP p).sum := by
  have hrows : ((s.userRepositoryRows user).map fun row =>
        (s.repositoryJobRows row.id).countP (p ∘ shown)).sum
      = (repositories.map fun repository =>
          (s.repositoryJobRows repository.id).countP (p ∘ shown)).sum := by
    have hsum := (h.ids.map fun id => (s.repositoryJobRows id).countP (p ∘ shown)).sum_eq.symm
    rwa [List.map_map, List.map_map] at hsum
  rw [holdest.countP_eq, List.countP_map, hs.countP_userJobRows, hrows]
  congr 1
  refine List.map_congr_left fun repository hmem => ?_
  rw [(h.inEach repository hmem).countP_eq, List.countP_map]

/-- A repository has one active job at most. -/
theorem UserRows.active_le_one (h : s.UserRows user shown repositories jobs jobsIn) (hs : s.WF)
    (hshown : ∀ row ∈ s.jobs, row.ReadAs (shown row)) {repository : Repository}
    (hmem : repository ∈ repositories) :
    ((jobsIn repository).countP fun job => job.status.isActive) ≤ 1 := by
  have hone := hs.oneActive repository.id
  have hsame : ((jobsIn repository).countP fun job => job.status.isActive)
      = s.activeCount repository.id := by
    rw [(h.inEach repository hmem).countP_eq, List.countP_map]
    unfold repositoryJobRows activeCount
    rw [List.countP_filter]
    refine List.countP_congr fun row hrow => ?_
    rw [JobRow.isActive_of_status (hshown row hrow).status, Bool.and_comm]
    rfl
  rw [hsame]
  exact hone

theorem completed_perm (hshown : ∀ row ∈ s.userJobRows user, row.ReadAs (shown row))
    (hjobs : jobs.Perm ((s.userJobRows user).map shown)) :
    (jobs.filter fun job => job.status == .completed).Perm ((s.completedRows user).map shown) := by
  have hfilter := hjobs.filter fun job => job.status == .completed
  rw [List.filter_map] at hfilter
  have hsame : (s.userJobRows user).filter ((fun job => job.status == .completed) ∘ shown)
      = s.completedRows user :=
    List.filter_congr fun row hrow => (hshown row hrow).completed_iff
  rwa [hsame] at hfilter

/-- The jobs whose scores and issues count are those of the rows that are completed. -/
theorem completedInOrder_perm (hshown : ∀ row ∈ s.userJobRows user, row.ReadAs (shown row))
    (holdest : oldest.Perm ((s.userJobRows user).map shown)) :
    (UserStats.completedInOrder oldest).Perm ((s.completedRows user).map shown) :=
  (List.mergeSort_perm _ _).trans (completed_perm hshown holdest)

/-- The issues of a job and of a severity, as they are counted for the user. -/
theorem length_issueRowsOf (s : Store) (job : JobId) (severity : Severity) :
    (s.issueRowsOf job ⟨some severity, none⟩).length
      = s.issues.countP fun issue =>
          issue.severity == severity.label && job.text == issue.jobId := by
  unfold issueRowsOf
  rw [← List.countP_eq_length_filter]
  refine List.countP_congr fun issue _ => ?_
  simp only [IssueFilter.admits, meets, Option.map_some, Bool.and_true, Bool.and_eq_true,
    beq_iff_eq]
  exact ⟨fun h => ⟨h.2, h.1.symm⟩, fun h => ⟨h.2.symm, h.1⟩⟩

/-- Each job of a user has a detail, which counts the rows of its issues. -/
theorem Reached.detail_of_shown (hs : s.Reached) (hshown : ∀ row ∈ s.jobs, row.ReadAs (shown row))
    {row : JobRow} (hrow : row ∈ s.userJobRows user) :
    ∃ detail, s.jobDetail (shown row).id user = .ok (some detail) ∧
      ∀ severity, detail.summary.bySeverity.get severity
        = (s.issueRowsOf (shown row).id ⟨some severity, none⟩).length := by
  obtain ⟨hmem, howns⟩ := List.mem_filter.mp hrow
  have hfound : s.jobRow? (shown row).id = some row :=
    (jobRow?_eq_some_iff hs.wf.ids).mpr ⟨hmem, (hshown row hmem).id⟩
  have howned := ownedJob?_of_row hs.wf hfound howns
  rw [(hshown row hmem).read] at howned
  obtain ⟨issues, metrics, hlists⟩ := hs.listsFindings (shown row).id
  refine ⟨_, hlists.jobDetail howned, fun severity => ?_⟩
  rw [get_ofFindings, hlists.length_issues]

/-- **The issues that count are those of the details of the completed jobs.** -/
theorem Reached.issues_of_details (hs : s.Reached)
    (hshown : ∀ row ∈ s.jobs, row.ReadAs (shown row))
    (hjobs : jobs.Perm ((s.userJobRows user).map shown)) :
    ∃ detail : Job → JobDetail,
      (∀ job ∈ jobs, s.jobDetail job.id user = .ok (some (detail job))) ∧
      ∀ severity : Severity,
        ((s.completedIssueRows user).countP fun issue => issue.severity == severity.label)
          = ((jobs.filter fun job => job.status == .completed).map fun job =>
              (detail job).summary.bySeverity.get severity).sum := by
  have hdetails : ∀ job ∈ jobs, ∃ detail, s.jobDetail job.id user = .ok (some detail) ∧
      ∀ severity, detail.summary.bySeverity.get severity
        = (s.issueRowsOf job.id ⟨some severity, none⟩).length := by
    intro job hjob
    obtain ⟨row, hrow, rfl⟩ := List.mem_map.mp (hjobs.subset hjob)
    exact hs.detail_of_shown hshown hrow
  choose! detail hdetail hcounts using hdetails
  have hshown' : ∀ row ∈ s.userJobRows user, row.ReadAs (shown row) := fun row hrow =>
    hshown row (List.mem_filter.mp hrow).1
  refine ⟨detail, hdetail, fun severity => ?_⟩
  have hlisted : ((jobs.filter fun job => job.status == .completed).map fun job =>
        (detail job).summary.bySeverity.get severity)
      = (jobs.filter fun job => job.status == .completed).map fun job =>
          (s.issueRowsOf job.id ⟨some severity, none⟩).length :=
    List.map_congr_left fun job hjob => hcounts job (List.mem_filter.mp hjob).1 severity
  rw [hlisted, hs.wf.countP_completedIssueRows,
    ((completed_perm hshown' hjobs).map _).sum_eq, List.map_map]
  congr 1
  refine List.map_congr_left fun row hrow => ?_
  have hmem : row ∈ s.jobs := (List.mem_filter.mp (List.mem_filter.mp hrow).1).1
  rw [Function.comp_apply, length_issueRowsOf, (hshown row hmem).id]

/-- A repository of the user has a completed job if a row says so. -/
theorem UserRows.any_completed_iff (h : s.UserRows user shown repositories jobs jobsIn)
    (hshown : ∀ row ∈ s.jobs, row.ReadAs (shown row)) {repository : Repository}
    (hlisted : repository ∈ repositories) :
    ((jobsIn repository).any fun job => job.status == .completed) = true ↔
      ∃ row ∈ s.completedRows user, row.repositoryId = repository.id := by
  rw [List.any_eq_true]
  constructor
  · rintro ⟨job, hjob, hstatus⟩
    obtain ⟨row, hrow, rfl⟩ := List.mem_map.mp ((h.inEach repository hlisted).mem_iff.mp hjob)
    obtain ⟨hmem, hin⟩ := List.mem_filter.mp hrow
    rw [beq_iff_eq] at hin
    rw [(hshown row hmem).completed_iff] at hstatus
    refine ⟨row, List.mem_filter.mpr ⟨mem_userJobRows.mpr ⟨hmem, ?_⟩, hstatus⟩, hin⟩
    rw [hin]
    exact h.ids.mem_iff.mp (List.mem_map_of_mem hlisted)
  · rintro ⟨row, hrow, hin⟩
    obtain ⟨hrow, hstatus⟩ := List.mem_filter.mp hrow
    have hmem := (mem_userJobRows.mp hrow).1
    rw [← (hshown row hmem).completed_iff] at hstatus
    exact ⟨shown row, (h.inEach repository hlisted).mem_iff.mpr
      (List.mem_map_of_mem (List.mem_filter.mpr ⟨hmem, beq_iff_eq.mpr hin⟩)), hstatus⟩

/-- **The repositories that count as analyzed are those with a completed job.** -/
theorem UserRows.analyzed_eq (h : s.UserRows user shown repositories jobs jobsIn) (hs : s.Numbered)
    (hshown : ∀ row ∈ s.jobs, row.ReadAs (shown row))
    (holdest : oldest.Perm ((s.userJobRows user).map shown)) :
    ((UserStats.completedInOrder oldest).map (·.repositoryId)).eraseDups.length
      = repositories.countP fun repository =>
          (jobsIn repository).any fun job => job.status == .completed := by
  have hcompleted :=
    completedInOrder_perm (fun row hrow => hshown row (List.mem_filter.mp hrow).1) holdest
  have hnodup : (repositories.map (·.id)).Nodup :=
    h.ids.nodup_iff.mpr (hs.userRepositoryRows_nodup user)
  rw [List.countP_eq_length_filter, ← List.length_map fun repository : Repository => repository.id]
  -- both lists have no repetitions, so it is enough that the same ids are in them
  refine List.Perm.length_eq ((List.perm_ext_iff_of_nodup (nodup_eraseDups _)
    (hnodup.sublist (List.filter_sublist.map _))).mpr fun id => ?_)
  rw [List.mem_eraseDups, (hcompleted.map _).mem_iff, List.map_map, List.mem_map, List.mem_map]
  constructor
  · rintro ⟨row, hrow, rfl⟩
    obtain ⟨hmem, hrepository⟩ := mem_userJobRows.mp (List.mem_filter.mp hrow).1
    obtain ⟨repository, hlisted, hid⟩ := List.mem_map.mp (h.ids.mem_iff.mpr hrepository)
    exact ⟨repository, List.mem_filter.mpr ⟨hlisted,
      (h.any_completed_iff hshown hlisted).mpr ⟨row, hrow, hid.symm⟩⟩,
      hid.trans (hshown row hmem).repositoryId⟩
  · rintro ⟨repository, hlisted, rfl⟩
    obtain ⟨hlisted, hany⟩ := List.mem_filter.mp hlisted
    obtain ⟨row, hrow, hin⟩ := (h.any_completed_iff hshown hlisted).mp hany
    have hmem := (mem_userJobRows.mp (List.mem_filter.mp hrow).1).1
    exact ⟨row, hrow, (hshown row hmem).repositoryId.symm.trans hin⟩

/-- The numbers that are added up are those of the rows that are completed. -/
theorem issueCounts_perm (hshown : ∀ row ∈ s.userJobRows user, row.ReadAs (shown row))
    (holdest : oldest.Perm ((s.userJobRows user).map shown)) :
    ((UserStats.completedInOrder oldest).filterMap (·.issuesFound)).Perm (s.issueCounts user) := by
  refine ((completedInOrder_perm hshown holdest).filterMap _).trans (List.Perm.of_eq ?_)
  rw [List.filterMap_map]
  exact List.filterMap_congr fun row hrow => (hshown row (List.mem_filter.mp hrow).1).issuesFound

/-- **Figures are given if the numbers of the issues have room**, and then the total is their sum. -/
theorem ofJobs_cases (hshown : ∀ row ∈ s.userJobRows user, row.ReadAs (shown row))
    (holdest : oldest.Perm ((s.userJobRows user).map shown)) (counts : List (Severity × Nat)) :
    (UserStats.ofJobs oldest counts
        = .ok (UserStats.withTotal oldest counts (s.issueCounts user).sum) ∧
      (s.issueCounts user).sum ≤ Limit.greatest64) ∨
    (UserStats.ofJobs oldest counts = .error .number ∧ ¬ s.TotalHasRoom user) := by
  have hperm := issueCounts_perm hshown holdest
  rcases UserStats.ofJobs_cases oldest counts with ⟨hgiven, hroom⟩ | ⟨hfallen, hroom⟩
  · have hlast := hroom.sum_le
    rw [hperm.sum_eq] at hgiven hlast
    exact Or.inl ⟨hgiven, hlast⟩
  · exact Or.inr ⟨hfallen, fun htotal => hroom (htotal _ hperm)⟩

/-- The jobs of which the figures are computed are those of the user, from the oldest on. -/
theorem jobsOf_shown (hshown : ∀ row ∈ s.jobs, row.ReadAs (shown row)) (user : Int) :
    ∃ oldest, s.jobsOf user = .ok oldest ∧ oldest.Perm ((s.userJobRows user).map shown) := by
  have hsorted := oldestFirst_perm (s.userJobRows user)
  have hread : readAll JobRow.read ((oldestFirst (s.userJobRows user)).map id)
      = .ok ((oldestFirst (s.userJobRows user)).map shown) :=
    readAll_map fun row hrow => (hshown row (List.mem_filter.mp (hsorted.subset hrow)).1).read
  rw [List.map_id] at hread
  exact ⟨_, hread, hsorted.map shown⟩

/-- Figures of a user's jobs agree with what the user is shown, whatever their total is. -/
private theorem Reached.statsAgree (hs : s.Reached) (hshown : ∀ row ∈ s.jobs, row.ReadAs (shown row))
    (hlistings : s.UserListings user repositories jobs jobsIn)
    (hrows : s.UserRows user shown repositories jobs jobsIn)
    (holdest : oldest.Perm ((s.userJobRows user).map shown)) {counts : List (Severity × Nat)}
    (hseverities : ∀ severity, (SeverityTable.ofCounts counts).get severity
      = (s.completedIssueRows user).countP fun issue => issue.severity == severity.label)
    (total : Int) :
    s.StatsAgree user (UserStats.withTotal oldest counts total) repositories jobs jobsIn := by
  have hactive : (UserStats.withTotal oldest counts total).active
      = repositories.countP fun repository =>
          (jobsIn repository).any fun job => job.status.isActive := by
    show (StatusCounts.ofStatuses (oldest.map (·.status))).active = _
    rw [StatusCounts.active_ofStatuses, List.countP_map, hrows.countP_eq hs.numbered holdest]
    exact sum_eq_countP fun repository hmem =>
      countP_eq_ite_any (hrows.active_le_one hs.wf hshown hmem)
  obtain ⟨detail, hdetail, hissues⟩ := hs.issues_of_details hshown hrows.all
  refine ⟨?_, ?_, ?_, hactive, ?_, rfl, ⟨detail, hdetail, fun severity => ?_⟩, ?_⟩
  · have hsum := StatusCounts.sum_ofStatuses (oldest.map (·.status))
    rw [List.length_map] at hsum
    exact hsum.symm
  · have hlength : oldest.length = jobs.length := (holdest.trans hrows.all.symm).length_eq
    show Totals _ oldest.length
    rw [hlength]
    exact hlistings.all.totals
  · refine ⟨fun repository => (jobsIn repository).length,
      fun repository hmem => (hlistings.inEach repository hmem).totals, ?_⟩
    show oldest.length = _
    have hsum := hrows.countP_eq hs.numbered holdest fun _ => true
    simpa only [List.countP_true] using hsum
  · rw [hactive]
    exact List.countP_le_length
  · exact (hseverities severity).trans (hissues severity)
  · exact hrows.analyzed_eq hs.numbered hshown holdest

/-- The figures of a user are computed of all that the user's jobs and issues are read as. -/
theorem Reached.userStats_shown (hs : s.Reached) (hdated : s.Dated)
    (hexists : (s.userRow? user).isSome = true) (hshown : ∀ row ∈ s.jobs, row.ReadAs (shown row)) :
    ∃ oldest counts, oldest.Perm ((s.userJobRows user).map shown) ∧
      (∀ severity, (SeverityTable.ofCounts counts).get severity
        = (s.completedIssueRows user).countP fun issue => issue.severity == severity.label) ∧
      s.userStats user = .ok (some (UserStats.ofJobs oldest counts)) := by
  obtain ⟨oldest, holdest, hperm⟩ := jobsOf_shown hshown user
  obtain ⟨counts, hcounts, hseverities⟩ := hs.severityCounts_eq user
  obtain ⟨_ | found, hfound⟩ := (hs.entered.user?_reads user).ok
    fun t ⟨row, hrow, _, htime⟩ => hdated.users row hrow t htime
  · exact absurd hfound (user?_ne_none hexists)
  refine ⟨oldest, counts, hperm, hseverities, ?_⟩
  unfold userStats
  rw [hfound, holdest, hcounts]
  rfl

/-- There are no figures if the sum of the numbers of the issues has no room. -/
theorem ReachedInYears.userStats_fallen (hs : s.ReachedInYears)
    (hexists : (s.userRow? user).isSome = true)
    (hsum : Limit.greatest64 < (s.issueCounts user).sum) :
    s.userStats user = .ok (some (.error .number)) := by
  obtain ⟨shown, hshown⟩ := hs.reached.exists_shown hs.dated
  obtain ⟨oldest, counts, hperm, -, hfigures⟩ :=
    hs.reached.userStats_shown hs.dated hexists hshown
  rcases ofJobs_cases (fun row hrow => hshown row (List.mem_filter.mp hrow).1) hperm counts with
    ⟨-, hlast⟩ | ⟨hfallen, -⟩
  · exact absurd hlast (Int.not_le.mpr hsum)
  · rw [hfigures, hfallen]

end Figures

/-- **Statistics agree with the listings.**  In a store that was reached in years that have room in
timestamps, the figures of a user who exists agree with the repositories and the jobs that the user
is shown.  They are given if the numbers of the issues that were found have room where they are added
up. -/
theorem statistics_agree_with_listings (s : Store) (hs : s.ReachedInYears) (user : Int)
    (hexists : (s.userRow? user).isSome = true) :
    ∃ figures repositories jobs jobsIn, s.userStats user = .ok (some figures) ∧
      s.UserListings user repositories jobs jobsIn ∧
      (∀ stats, figures = .ok stats → s.StatsAgree user stats repositories jobs jobsIn) ∧
      (s.TotalHasRoom user → ∃ stats, figures = .ok stats) := by
  have hreached := hs.reached
  obtain ⟨shown, hshown⟩ := hreached.exists_shown hs.dated
  obtain ⟨repositories, jobs, jobsIn, hlistings, hrows⟩ :=
    hreached.userListings hs.dated hexists hshown
  obtain ⟨oldest, counts, hperm, hseverities, hfigures⟩ :=
    hreached.userStats_shown hs.dated hexists hshown
  refine ⟨_, repositories, jobs, jobsIn, hfigures, hlistings, ?_⟩
  rcases ofJobs_cases (fun row hrow => hshown row (List.mem_filter.mp hrow).1) hperm counts with
    ⟨hgiven, -⟩ | ⟨hfallen, hroom⟩
  · rw [hgiven]
    refine ⟨fun stats hstats => ?_, fun _ => ⟨_, rfl⟩⟩
    obtain rfl := Except.ok.inj hstats
    exact hreached.statsAgree hshown hlistings hrows hperm hseverities _
  · rw [hfallen]
    exact ⟨fun _ hc => (nomatch hc), fun htotal => absurd htotal hroom⟩

theorem statistics_agree_with_listings_played :
    (Small.reported.userJobRows 1).length = 2 ∧ (Small.reported.completedIssueRows 1).length = 3 ∧
      ∃ stats repositories jobs jobsIn, Small.reported.userStats 1 = .ok (some (.ok stats)) ∧
        Small.reported.UserListings 1 repositories jobs jobsIn ∧
        Small.reported.StatsAgree 1 stats repositories jobs jobsIn := by
  have hcounts : Small.reported.issueCounts 1 = [3] := by decide +kernel
  have hroom : Small.reported.TotalHasRoom 1 := by
    rw [totalHasRoom_iff (by rw [hcounts]; decide), hcounts]
    decide
  obtain ⟨figures, repositories, jobs, jobsIn, hfigures, hlistings, hagree, hgiven⟩ :=
    statistics_agree_with_listings Small.reported Small.reported_reachedInYears 1 (by decide +kernel)
  obtain ⟨stats, rfl⟩ := hgiven hroom
  exact ⟨by decide +kernel, by decide +kernel, stats, repositories, jobs, jobsIn, hfigures, hlistings,
    hagree stats rfl⟩

end Store

/-- A store in which each of two jobs has found as many issues as there is room for. -/
def Small.overfull : Store :=
  let report : CheckedReport :=
    { status := .completed, qualityScore := none, maintainabilityIndex := none,
      complexityScore := none, securityRating := none, issuesFound := 9223372036854775807,
      filesAnalyzed := none, issues := [], metrics := [], error := none }
  Store.empty.afterAll
    [(.createUser "ada", ⟨0⟩),
      (.createRepository 1 "site" "https://git.example.com/site.git" "main", ⟨1⟩),
      (.createJob default ⟨1, "https://git.example.com/site.git", "main", none⟩, ⟨2⟩),
      (.markDispatched default "h-1", ⟨3⟩),
      (.applyReport Store.noneRefused default report, ⟨4⟩),
      (.createJob otherJob ⟨1, "https://git.example.com/site.git", "main", none⟩, ⟨5⟩),
      (.markDispatched otherJob "h-2", ⟨6⟩),
      (.applyReport Store.noneRefused otherJob report, ⟨7⟩)]

/-- A user who is shown two completed jobs and gets no figures of them. -/
theorem Store.statistics_of_overfull :
    Small.overfull.ReachedInYears ∧ (Small.overfull.userRow? 1).isSome = true ∧
      Small.overfull.issueCounts 1 = [9223372036854775807, 9223372036854775807] ∧
      Small.overfull.userStats 1 = .ok (some (.error .number)) ∧
      ¬ ∃ stats, Small.overfull.userStats 1 = .ok (some (.ok stats)) := by
  have hs : Small.overfull.ReachedInYears := .afterAll (by decide +kernel) .empty
  have hexists : (Small.overfull.userRow? 1).isSome = true := by decide +kernel
  have hcounts : Small.overfull.issueCounts 1 = [9223372036854775807, 9223372036854775807] := by
    decide +kernel
  have hfallen : Small.overfull.userStats 1 = .ok (some (.error .number)) :=
    hs.userStats_fallen hexists (by rw [hcounts]; decide)
  refine ⟨hs, hexists, hcounts, hfallen, ?_⟩
  rintro ⟨stats, hstats⟩
  rw [hfallen] at hstats
  cases hstats

end AnalysisDesk
