/-
What others have makes no difference to what a user sees.

Every view begins with a question to which only the user's own rows can be the answer:
is there such a user, or a job or a repository with this id that belongs to the user?
What is picked afterwards lies within the findings and the jobs of the user too, because
a job belongs to whoever owns its repository and a finding to whoever owns its job.  So
each query can be written over the user's own rows alone, and two stores in which these
are the same cannot be told apart.

Where the figures of a user cannot be added up, nothing is answered, and that is so in both
stores or in neither.

A job or a repository of somebody else is none of the user's rows.  That a repository
does not belong to two users is where the stores have to be reachable ones: ids are
given out once.
-/
import AnalysisDesk.Proofs.Desk.Looking
import AnalysisDesk.Proofs.Store.Reading
import AnalysisDesk.Proofs.Store.Tables
import AnalysisDesk.Proofs.Views.Counting

namespace AnalysisDesk

namespace Store

/-! ### The rows of a user -/

/-- Whether a finding with this job belongs to a user. -/
def holds (s : Store) (user : Int) (job : String) : Bool :=
  s.jobs.any fun row => row.id == job && s.owns user row

def userRepositoryRows (s : Store) (user : Int) : List RepositoryRow :=
  s.repositories.filter fun row => row.userId == user

def userIssueRows (s : Store) (user : Int) : List IssueRow :=
  s.issues.filter fun row => s.holds user row.jobId

def userMetricRows (s : Store) (user : Int) : List MetricRow :=
  s.metrics.filter fun row => s.holds user row.jobId

/-- Two stores that hold the same of a user, in the same order.  Nothing is said of the others. -/
structure AgreeFor (user : Int) (s s' : Store) : Prop where
  row : s.userRow? user = s'.userRow? user
  repositories : s.userRepositoryRows user = s'.userRepositoryRows user
  jobs : s.userJobRows user = s'.userJobRows user
  issues : s.userIssueRows user = s'.userIssueRows user
  metrics : s.userMetricRows user = s'.userMetricRows user

variable {s s' : Store} {user : Int}

/-! ### Queries over the rows of a user -/

theorem ownedRepository?_eq (repository : Int) :
    s.ownedRepository? repository user = readOne RepositoryRow.read
      ((s.userRepositoryRows user).find? fun row => row.id == repository) := by
  unfold ownedRepository? userRepositoryRows
  rw [List.find?_filter]
  congr 2
  funext row
  rw [Bool.decide_and, Bool.decide_eq_true, Bool.decide_eq_true]
  exact Bool.and_comm _ _

theorem ownedJob?_eq (job : JobId) :
    s.ownedJob? job user
      = readOne JobRow.read ((s.userJobRows user).find? fun row => row.id == job.text) := by
  unfold ownedJob? userJobRows
  rw [List.find?_filter]
  congr 2
  funext row
  rw [Bool.decide_and, Bool.decide_eq_true, Bool.decide_eq_true]
  exact Bool.and_comm _ _

/-- Rows that all pass a check are picked from those that pass it. -/
private theorem filter_filter_of_imp {α : Type} {p q : α → Bool} (as : List α)
    (h : ∀ a ∈ as, p a = true → q a = true) : (as.filter q).filter p = as.filter p := by
  rw [List.filter_filter]
  refine List.filter_congr fun a ha => ?_
  cases hp : p a with
  | false => exact Bool.false_and _
  | true => rw [h a ha hp, Bool.true_and]

/-- The jobs of a user's repository are jobs of the user. -/
theorem repositoryJobRows_eq {repository : Int} {found : Repository}
    (howned : s.ownedRepository? repository user = .ok (some found)) :
    s.repositoryJobRows repository
      = (s.userJobRows user).filter fun row => row.repositoryId == repository := by
  obtain ⟨row, hrow, -⟩ := readOne_some howned
  have hkey := List.find?_some hrow
  rw [Bool.and_eq_true, beq_iff_eq, beq_iff_eq] at hkey
  refine (filter_filter_of_imp s.jobs fun job _ hjob => ?_).symm
  rw [beq_iff_eq] at hjob
  refine List.any_eq_true.mpr ⟨row, List.mem_of_find?_eq_some hrow, ?_⟩
  rw [hkey.1, hkey.2, hjob, beq_self_eq_true, beq_self_eq_true]
  rfl

/-- The findings of a user's job belong to the user. -/
theorem holds_of_owned {job : JobId} {found : Job}
    (howned : s.ownedJob? job user = .ok (some found)) : s.holds user job.text = true := by
  obtain ⟨row, hrow, -⟩ := readOne_some howned
  have hkey := List.find?_some hrow
  exact List.any_eq_true.mpr ⟨row, List.mem_of_find?_eq_some hrow, hkey⟩

theorem issueRowsOf_eq {job : JobId} {found : Job}
    (howned : s.ownedJob? job user = .ok (some found)) (filter : IssueFilter) :
    s.issueRowsOf job filter
      = (s.userIssueRows user).filter fun row => row.jobId == job.text && filter.admits row := by
  refine (filter_filter_of_imp s.issues fun row _ hrow => ?_).symm
  rw [Bool.and_eq_true, beq_iff_eq] at hrow
  rw [hrow.1]
  exact holds_of_owned howned

theorem metricRowsOf_eq {job : JobId} {found : Job}
    (howned : s.ownedJob? job user = .ok (some found)) (filter : MetricFilter) :
    (s.metrics.filter fun row => row.jobId == job.text && filter.admits row)
      = (s.userMetricRows user).filter fun row => row.jobId == job.text && filter.admits row := by
  refine (filter_filter_of_imp s.metrics fun row _ hrow => ?_).symm
  rw [Bool.and_eq_true, beq_iff_eq] at hrow
  rw [hrow.1]
  exact holds_of_owned howned

/-- What counts among a user's findings is decided by the jobs of the user. -/
theorem completedIssueRows_eq :
    s.completedIssueRows user = (s.userIssueRows user).filter fun issue =>
      (s.userJobRows user).any fun row =>
        row.id == issue.jobId && row.status == JobStatus.completed.label := by
  have hsame : ∀ issue : IssueRow,
      (s.jobs.any fun row =>
        row.id == issue.jobId && row.status == JobStatus.completed.label && s.owns user row)
      = (s.userJobRows user).any fun row =>
          row.id == issue.jobId && row.status == JobStatus.completed.label := by
    intro issue
    unfold userJobRows
    rw [List.any_filter]
    congr 1
    funext row
    exact Bool.and_comm _ _
  unfold completedIssueRows userIssueRows
  simp only [hsame]
  refine (filter_filter_of_imp s.issues fun issue _ hissue => ?_).symm
  obtain ⟨row, hrow, hkey⟩ := List.any_eq_true.mp hissue
  rw [Bool.and_eq_true] at hkey
  obtain ⟨hmem, howns⟩ := List.mem_filter.mp hrow
  refine List.any_eq_true.mpr ⟨row, hmem, ?_⟩
  rw [hkey.1, howns]
  rfl

/-! ### Guarded views -/

section Guarded

variable {α β : Type} {owned owned' : Except StoreError (Option α)}
  {view view' : Except StoreError β}

/-- Who is told that there is nothing may not look. -/
theorem guarded_eq_none (h : guarded owned view = .ok none) : owned = .ok none := by
  unfold guarded at h
  split at h
  · exact nomatch h
  · rfl
  · cases view <;> exact nomatch h

/-- Who is given something may look, and it is what there is to be seen. -/
theorem guarded_eq_some {b : β} (h : guarded owned view = .ok (some b)) :
    (∃ a, owned = .ok (some a)) ∧ view = .ok b := by
  unfold guarded at h
  split at h
  · exact nomatch h
  · exact nomatch h
  · rename_i a
    cases view with
    | error e => exact nomatch h
    | ok found => exact ⟨⟨a, rfl⟩, congrArg Except.ok (Option.some.inj (Except.ok.inj h))⟩

/-- Guarded views are the same if the guards are and, should they let pass, what they guard. -/
private theorem guarded_congr (howned : owned = owned')
    (hview : ∀ found, owned = .ok (some found) → view = view') :
    guarded owned view = guarded owned' view' := by
  subst howned
  cases owned with
  | error cause => rfl
  | ok found? =>
      cases found? with
      | none => rfl
      | some found => rw [hview found rfl]

end Guarded

/-- Figures that are given, or cannot be added up, are those of the user's jobs. -/
theorem userStats_ok {figures : Except Overflow UserStats}
    (h : s.userStats user = .ok (some figures)) :
    (∃ found, s.user? user = .ok (some found)) ∧
      ∃ jobs counts, s.jobsOf user = .ok jobs ∧ figures = UserStats.ofJobs jobs counts := by
  obtain ⟨hfound, hfigures⟩ := guarded_eq_some h
  obtain ⟨jobs, hjobs, hfigures⟩ := bind_ok hfigures
  obtain ⟨counts, -, hfigures⟩ := bind_ok hfigures
  exact ⟨hfound, jobs, counts, hjobs, (Except.ok.inj hfigures).symm⟩

/-- Whoever looks at figures may fall over a total, and over nothing else. -/
theorem fallen_of_view {look : Look} {cause : Overflow} (h : look.view s user = .error cause) :
    look = .userStats ∧ cause = .number := by
  cases look with
  | detail | repositoryPage | userPage | latestJobs | issuePage | metricsView => cases h
  | userStats =>
      refine ⟨rfl, ?_⟩
      have hcomputed : Look.computed (s.userStats user) = .error cause := h
      generalize hstats : s.userStats user = answer at hcomputed
      rcases answer with _ | _ | fallen | stats
      · cases hcomputed
      · cases hcomputed
      · obtain rfl := Except.error.inj hcomputed
        obtain ⟨-, jobs, counts, -, hfigures⟩ := userStats_ok hstats
        rcases UserStats.ofJobs_cases jobs counts with ⟨hgiven, -⟩ | ⟨hfallen, -⟩
        · cases hfigures.trans hgiven
        · exact Except.error.inj (hfigures.trans hfallen)
      · cases hcomputed

/-! ### Two stores -/

namespace AgreeFor

theorem ownedRepository? (h : AgreeFor user s s') (repository : Int) :
    s.ownedRepository? repository user = s'.ownedRepository? repository user := by
  rw [ownedRepository?_eq, ownedRepository?_eq, h.repositories]

theorem ownedJob? (h : AgreeFor user s s') (job : JobId) :
    s.ownedJob? job user = s'.ownedJob? job user := by
  rw [ownedJob?_eq, ownedJob?_eq, h.jobs]

theorem user? (h : AgreeFor user s s') : s.user? user = s'.user? user := by
  unfold Store.user?
  rw [h.row]

theorem issuesOf (h : AgreeFor user s s') {job : JobId} {found : Job}
    (howned : s.ownedJob? job user = .ok (some found)) (filter : IssueFilter) (w : Option Window) :
    s.issuesOf job filter w = s'.issuesOf job filter w := by
  unfold Store.issuesOf
  rw [issueRowsOf_eq howned, issueRowsOf_eq ((h.ownedJob? job).symm.trans howned), h.issues]

theorem metricsOf (h : AgreeFor user s s') {job : JobId} {found : Job}
    (howned : s.ownedJob? job user = .ok (some found)) (filter : MetricFilter) :
    s.metricsOf job filter = s'.metricsOf job filter := by
  unfold Store.metricsOf
  rw [metricRowsOf_eq howned, metricRowsOf_eq ((h.ownedJob? job).symm.trans howned), h.metrics]

theorem severityCounts (h : AgreeFor user s s') :
    s.severityCounts user = s'.severityCounts user := by
  unfold Store.severityCounts
  rw [completedIssueRows_eq, completedIssueRows_eq, h.issues, h.jobs]

end AgreeFor

theorem AgreeFor.userPage (h : AgreeFor user s s') (request : PageRequest) :
    s.userPage request user = s'.userPage request user := by
  refine guarded_congr h.user? fun _ _ => ?_
  unfold recentJobsOf
  rw [h.jobs]

theorem AgreeFor.jobDetail (h : AgreeFor user s s') (job : JobId) :
    s.jobDetail job user = s'.jobDetail job user := by
  unfold Store.jobDetail
  rw [← h.ownedJob?]
  cases howned : s.ownedJob? job user with
  | error cause => rfl
  | ok found? =>
      cases found? with
      | none => rfl
      | some found =>
          dsimp only
          rw [h.issuesOf howned, h.metricsOf howned]

theorem AgreeFor.repositoryPage (h : AgreeFor user s s') (repository : Int)
    (request : PageRequest) :
    s.repositoryPage repository request user = s'.repositoryPage repository request user := by
  refine guarded_congr (h.ownedRepository? repository) fun found howned => ?_
  unfold jobsOfRepository
  rw [repositoryJobRows_eq howned,
    repositoryJobRows_eq ((h.ownedRepository? repository).symm.trans howned), h.jobs]

theorem AgreeFor.userStats (h : AgreeFor user s s') : s.userStats user = s'.userStats user := by
  refine guarded_congr h.user? fun _ _ => ?_
  unfold jobsOf
  rw [h.jobs, h.severityCounts]

/-- **A look shows the same in two stores that hold the same of the user.** -/
theorem AgreeFor.view (h : AgreeFor user s s') (look : Look) :
    look.view s user = look.view s' user := by
  cases look with
  | detail job => exact congrArg Except.ok (h.jobDetail job)
  | repositoryPage repository request =>
      exact congrArg Except.ok (h.repositoryPage repository request)
  | userPage request => exact congrArg Except.ok (h.userPage request)
  | latestJobs limit =>
      refine congrArg Except.ok ?_
      unfold latestJobs
      rw [h.userPage]
  | issuePage job filter request =>
      refine congrArg Except.ok (guarded_congr (h.ownedJob? job) fun found howned => ?_)
      rw [h.issuesOf howned]
  | metricsView job filter =>
      refine congrArg Except.ok (guarded_congr (h.ownedJob? job) fun found howned => ?_)
      rw [h.metricsOf howned]
  | userStats => exact congrArg Look.computed h.userStats

/-! ### What belongs to somebody else -/

/-- Whether a job does not exist or belongs to somebody else. -/
def JobElsewhere (s : Store) (user : Int) (job : JobId) : Prop :=
  s.jobRow? job = none ∨
    ∃ row owner, s.jobRow? job = some row ∧ s.owns owner row = true ∧ owner ≠ user

/-- Whether a repository does not exist or belongs to somebody else. -/
def RepositoryElsewhere (s : Store) (user repository : Int) : Prop :=
  s.repositoryRow? repository = none ∨
    ∃ row, s.repositoryRow? repository = some row ∧ row.userId ≠ user

/-- A repository has one owner. -/
theorem Numbered.owner_unique (h : s.Numbered) {owner owner' : Int} {row : JobRow}
    (howner : s.owns owner row = true) (howner' : s.owns owner' row = true) : owner = owner' := by
  obtain ⟨repository, hmem, hkey⟩ := List.any_eq_true.mp howner
  obtain ⟨repository', hmem', hkey'⟩ := List.any_eq_true.mp howner'
  rw [Bool.and_eq_true, beq_iff_eq, beq_iff_eq] at hkey hkey'
  rw [← hkey.2, ← hkey'.2, h.repository_unique hmem hmem' (hkey.1.trans hkey'.1.symm)]

theorem Reached.ownedJob?_elsewhere (hs : s.Reached) {job : JobId} (h : s.JobElsewhere user job) :
    s.ownedJob? job user = .ok none := by
  have hnone : (s.jobs.find? fun row => row.id == job.text && s.owns user row) = none := by
    rw [List.find?_eq_none]
    intro row hmem hkey
    rw [Bool.and_eq_true, beq_iff_eq] at hkey
    have hrow : s.jobRow? job = some row := (jobRow?_eq_some_iff hs.wf.ids).mpr ⟨hmem, hkey.1⟩
    rcases h with hnone | ⟨other, owner, hother, howner, hne⟩
    · rw [hnone] at hrow
      exact nomatch hrow
    · rw [hrow, Option.some.injEq] at hother
      rw [← hother] at howner
      exact hne (hs.numbered.owner_unique howner hkey.2)
  unfold ownedJob?
  rw [hnone]
  rfl

theorem Reached.ownedRepository?_elsewhere (hs : s.Reached) {repository : Int}
    (h : s.RepositoryElsewhere user repository) :
    s.ownedRepository? repository user = .ok none := by
  have hnone :
      (s.repositories.find? fun row => row.id == repository && row.userId == user) = none := by
    rw [List.find?_eq_none]
    intro row hmem hkey
    rw [Bool.and_eq_true, beq_iff_eq, beq_iff_eq] at hkey
    rcases h with hnone | ⟨other, hother, hne⟩
    · have hnot := List.find?_eq_none.mp hnone row hmem
      rw [hkey.1, beq_self_eq_true] at hnot
      exact hnot rfl
    · have hid := List.find?_some hother
      rw [beq_iff_eq] at hid
      have hsame := hs.numbered.repository_unique hmem (List.mem_of_find?_eq_some hother)
        (hkey.1.trans hid.symm)
      rw [← hsame] at hne
      exact hne hkey.2
  unfold ownedRepository?
  rw [hnone]
  rfl

/-- A look at a job of somebody else shows what a look at no job shows. -/
theorem Reached.view_of_job (hs : s.Reached) {look : Look} {job : JobId}
    (hlook : look.job? = some job) (h : s.JobElsewhere user job) :
    look.view s user = .ok (.ok none) := by
  have hnone := hs.ownedJob?_elsewhere h
  cases look with
  | detail other =>
      obtain rfl := Option.some.inj hlook
      refine congrArg Except.ok ?_
      rw [jobDetail, hnone]
      rfl
  | issuePage other filter request =>
      obtain rfl := Option.some.inj hlook
      refine congrArg Except.ok ?_
      rw [issuePage, hnone]
      rfl
  | metricsView other filter =>
      obtain rfl := Option.some.inj hlook
      refine congrArg Except.ok ?_
      rw [metricsView, hnone]
      rfl
  | repositoryPage | userPage | latestJobs | userStats => exact nomatch hlook

theorem Reached.view_of_repository (hs : s.Reached) {look : Look} {repository : Int}
    (hlook : look.repository? = some repository) (h : s.RepositoryElsewhere user repository) :
    look.view s user = .ok (.ok none) := by
  have hnone := hs.ownedRepository?_elsewhere h
  cases look with
  | repositoryPage other request =>
      obtain rfl := Option.some.inj hlook
      refine congrArg Except.ok ?_
      rw [repositoryPage, hnone]
      rfl
  | detail | userPage | latestJobs | issuePage | metricsView | userStats => exact nomatch hlook

end Store

/-- **Owners are isolated.**  A view answers a user alike in two scenes whose stores hold the same
of the user, whatever they hold of others and whatever else is going on, and it leaves both as they
are.  If a user's figures cannot be added up, the call collapses in both.  A job or a repository of
somebody else gets the answer that one gets that does not exist. -/
theorem owner_isolation (user : Int) (s s' : Scene) (hs : s.store.Reached)
    (hagree : s.store.AgreeFor user s'.store) (look : Look) :
    (∃ ending : DeskCall look.Result, s.run (look.call user) = (.ready ending, s) ∧
      s'.run (look.call user) = (.ready ending, s') ∧
      ((∃ result, ending = .done result) ∨ look = .userStats ∧ ending = .collapse .number)) ∧
    (∀ job, look.job? = some job → s.store.JobElsewhere user job →
      s.run (look.call user) = (.ready (.done (.error .notFound)), s)) ∧
    ∀ repository, look.repository? = some repository → s.store.RepositoryElsewhere user repository →
      s.run (look.call user) = (.ready (.done (.error .notFound)), s) := by
  refine ⟨⟨_, look.run_call s user, ?_, ?_⟩, ?_, ?_⟩
  · rw [hagree.view look]
    exact look.run_call s' user
  · cases hview : look.view s.store user with
    | error cause =>
        obtain ⟨rfl, rfl⟩ := Store.fallen_of_view hview
        exact Or.inr ⟨rfl, rfl⟩
    | ok view => exact Or.inl (Look.ending_ok view)
  · intro job hlook helsewhere
    rw [Look.run_call, hs.view_of_job hlook helsewhere]
    rfl
  · intro repository hlook helsewhere
    rw [Look.run_call, hs.view_of_repository hlook helsewhere]
    rfl

namespace Small

/-- A job of somebody else. -/
def otherJob : JobId := ⟨Vector.replicate 32 ⟨1, by decide⟩⟩

/-- A store in which there is one more user, with a repository and a job. -/
def crowded : Store :=
  Store.Operation.after ⟨5⟩
    (Store.Operation.after ⟨4⟩
      (Store.Operation.after ⟨3⟩ dispatched (.createUser "bob"))
      (.createRepository 2 "shop" "https://git.example.com/shop.git" "main"))
    (.createJob otherJob ⟨2, "https://git.example.com/shop.git", "main", none⟩)

theorem crowded_reached : crowded.Reached := ((dispatched_reached.after _ _).after _ _).after _ _

end Small

theorem owner_isolation_played :
    (∃ result : Except DeskError UserStats,
      (Small.scene Small.crowded).run (Look.userStats.call 1)
        = (.ready (.done result), Small.scene Small.crowded) ∧
      (Small.scene Small.dispatched).run (Look.userStats.call 1)
        = (.ready (.done result), Small.scene Small.dispatched)) ∧
    (Small.scene Small.crowded).run ((Look.detail Small.otherJob).call 1)
      = (.ready (.done (.error .notFound)), Small.scene Small.crowded) ∧
    (Small.scene Small.crowded).run ((Look.repositoryPage 2 ⟨none, none⟩).call 1)
      = (.ready (.done (.error .notFound)), Small.scene Small.crowded) := by
  have hagree : Small.crowded.AgreeFor 1 Small.dispatched := by
    refine ⟨?_, ?_, ?_, ?_, ?_⟩ <;> decide +kernel
  have hjob : Small.crowded.JobElsewhere 1 Small.otherJob := by
    obtain ⟨row, hrow⟩ : ∃ row, Small.crowded.jobRow? Small.otherJob = some row :=
      Option.isSome_iff_exists.mp (by decide +kernel)
    have hall : ∀ row ∈ Small.crowded.jobs, row.id = Small.otherJob.text →
        Small.crowded.owns 2 row = true := by decide +kernel
    obtain ⟨hmem, hid⟩ := Store.jobRow?_mem hrow
    exact Or.inr ⟨row, 2, hrow, hall row hmem hid, by decide⟩
  have hrepository : Small.crowded.RepositoryElsewhere 1 2 := Or.inr ⟨_, rfl, by decide⟩
  have hlook := fun look => owner_isolation 1 (Small.scene Small.crowded)
    (Small.scene Small.dispatched) Small.crowded_reached hagree look
  have hseen : (Look.userStats.view (Small.scene Small.crowded).store 1).isOk = true := by
    decide +kernel
  refine ⟨?_, (hlook (.detail Small.otherJob)).2.1 Small.otherJob rfl hjob,
    (hlook (.repositoryPage 2 ⟨none, none⟩)).2.2 2 rfl hrepository⟩
  obtain ⟨ending, hcrowded, hdispatched, ⟨result, rfl⟩ | ⟨-, rfl⟩⟩ := (hlook .userStats).1
  · exact ⟨result, hcrowded, hdispatched⟩
  · have hrun := Look.userStats.run_call (Small.scene Small.crowded) 1
    cases hview : Look.userStats.view (Small.scene Small.crowded).store 1 with
    | error cause =>
        rw [hview] at hseen
        exact Bool.noConfusion hseen
    | ok view =>
        obtain ⟨result, hresult⟩ := Look.ending_ok view
        rw [hview, hresult] at hrun
        cases congrArg Prod.fst (hcrowded.symm.trans hrun)

end AnalysisDesk
