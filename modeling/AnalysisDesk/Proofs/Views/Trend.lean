/-
The trend compares the two latest completions.

The store gives out a user's jobs from the oldest on, and those that are completed are then
sorted by the times of their completion.  Both sorts are stable, so where one time does not
decide the next one does: the time of completion, then that of creation, then the place in
the table (`Reached.latestFirst`).  It is of no account in which repository a job is, and jobs
that failed or were cancelled have no part in it.

A completed job has a score, since no report without one is taken for it.  So no job is left
out when the scores are collected, and the last two scores are those of the last two jobs.
-/
import AnalysisDesk.Proofs.Text.Numerals
import AnalysisDesk.Proofs.Views.Figures

namespace AnalysisDesk

/-! ### Scores -/

namespace UserStats

/-- The trend and the mean that the scores of some jobs give, of which the one that was completed
last comes first. -/
structure ScoredBy (stats : UserStats) (latestFirst : List Job) : Prop where
  unscored : latestFirst = [] → stats.averageQualityScore = none ∧ stats.qualityTrend = none
  single : ∀ job, latestFirst = [job] → stats.qualityTrend = none
  trend : ∀ latest previous rest, latestFirst = latest :: previous :: rest →
    ∃ score score', latest.qualityScore = some score ∧ previous.qualityScore = some score' ∧
      stats.qualityTrend = some (score.sub score')
  /-- The mean is that of all the scores, from the oldest completion on. -/
  average : ∃ scores : List Double, latestFirst.map (·.qualityScore) = scores.map some ∧
    stats.averageQualityScore = UserStats.average scores.reverse

/-- If all jobs that are completed have scores, these are what counts. -/
theorem scoredBy_withTotal {jobs : List Job} (counts : List (Severity × Nat)) (total : Int)
    (h : ∀ job ∈ completedInOrder jobs, job.qualityScore.isSome = true) :
    (withTotal jobs counts total).ScoredBy (completedInOrder jobs).reverse := by
  have hscores : (completedInOrder jobs).map (·.qualityScore)
      = ((completedInOrder jobs).filterMap (·.qualityScore)).map some := by
    rw [List.map_filterMap_some_eq_filter_map_isSome, eq_comm, List.filter_eq_self]
    exact List.forall_mem_map.mpr h
  have haverage : (withTotal jobs counts total).averageQualityScore
      = average ((completedInOrder jobs).filterMap (·.qualityScore)) := rfl
  have htrend : (withTotal jobs counts total).qualityTrend
      = trend ((completedInOrder jobs).filterMap (·.qualityScore)) := rfl
  generalize completedInOrder jobs = completed at hscores haverage htrend ⊢
  generalize hcollected : completed.filterMap (·.qualityScore) = scores
    at hscores haverage htrend
  have hlatest : completed.reverse.map (·.qualityScore) = scores.reverse.map some := by
    rw [List.map_reverse, hscores, List.map_reverse]
  unfold trend at htrend
  refine ⟨fun hnil => ?_, fun job hone => ?_, fun latest previous rest htwo => ?_,
    scores.reverse, hlatest, ?_⟩
  · rw [hnil, eq_comm, List.map_nil, List.map_eq_nil_iff] at hlatest
    rw [hlatest] at htrend
    rw [List.reverse_eq_nil_iff.mp hlatest] at haverage
    exact ⟨haverage, htrend⟩
  · rw [hone, eq_comm, List.map_singleton, List.map_eq_singleton_iff] at hlatest
    obtain ⟨score, hsingle, -⟩ := hlatest
    rw [hsingle] at htrend
    exact htrend
  · rw [htwo, eq_comm, List.map_cons, List.map_cons] at hlatest
    obtain ⟨score, others, hcons, hscore, hothers⟩ := List.map_eq_cons_iff.mp hlatest
    obtain ⟨score', others', hcons', hscore', -⟩ := List.map_eq_cons_iff.mp hothers
    rw [hcons, hcons'] at htrend
    exact ⟨score, score', hscore.symm, hscore'.symm, htrend⟩
  · rw [List.reverse_reverse]
    exact haverage

end UserStats

/-! ### The order of completion -/

theorem JobRow.Tells.ended_of_row {row : JobRow} {job : Job} (h : row.Tells job)
    (hended : row.completedAt ≠ none) : ∃ ended, job.completedAt = some ended := by
  obtain ⟨text, htext⟩ := Option.ne_none_iff_exists'.mp hended
  have hread := h.completedAt
  rw [htext, readTimestamp?, map_eq_ok_iff] at hread
  obtain ⟨ended, -, heq⟩ := hread
  exact ⟨ended, heq.symm⟩

namespace Store

variable {s : Store} {user : Int}

/-- Whether a job was completed after another one, or at the same time and is the newer one. -/
def EndedLater (s : Store) (a b : Job) : Prop :=
  ∃ ended ended', a.completedAt = some ended ∧ b.completedAt = some ended' ∧
    (ended'.nanos < ended.nanos ∨ ended' = ended ∧ s.Newer a b)

theorem WF.endedLater_strict (h : s.WF) (a b : Job) (hab : s.EndedLater a b) :
    ¬ s.EndedLater b a := by
  obtain ⟨ended, ended', ha, hb, hab⟩ := hab
  rintro ⟨_, _, hb', ha', hba⟩
  obtain rfl := Option.some.inj (hb.symm.trans hb')
  obtain rfl := Option.some.inj (ha.symm.trans ha')
  rcases hab with hab | ⟨heq, hab⟩
  · rcases hba with hba | ⟨heq, -⟩
    · exact Int.lt_asymm hab hba
    · rw [heq] at hab
      exact Int.lt_irrefl _ hab
  · rcases hba with hba | ⟨-, hba⟩
    · rw [heq] at hba
      exact Int.lt_irrefl _ hba
    · exact h.newer_strict a b hab hba

/-- The rows of completed jobs in the order of their completion. -/
def rowsInOrder (s : Store) (user : Int) (shown : JobRow → Job) : List JobRow :=
  ((oldestFirst (s.userJobRows user)).filter fun row =>
    row.status == JobStatus.completed.label).mergeSort fun a b =>
      decide (((shown a).completedAt.getD (shown a).createdAt).nanos
        ≤ ((shown b).completedAt.getD (shown b).createdAt).nanos)

theorem rowsInOrder_perm (s : Store) (user : Int) (shown : JobRow → Job) :
    (s.rowsInOrder user shown).Perm (s.completedRows user) :=
  (List.mergeSort_perm _ _).trans ((oldestFirst_perm _).filter _)

variable {shown : JobRow → Job}

/-- What is completed is told by the rows. -/
theorem oldestFirst_completed (hshown : ∀ row ∈ s.userJobRows user, row.Tells (shown row)) :
    ((oldestFirst (s.userJobRows user)).map shown).filter (fun job => job.status == .completed)
      = ((oldestFirst (s.userJobRows user)).filter fun row =>
          row.status == JobStatus.completed.label).map shown := by
  rw [List.filter_map]
  congr 1
  exact List.filter_congr fun row hrow =>
    (hshown row ((oldestFirst_perm _).subset hrow)).toReadAs.completed_iff

theorem completedInOrder_eq (hshown : ∀ row ∈ s.userJobRows user, row.Tells (shown row)) :
    UserStats.completedInOrder ((oldestFirst (s.userJobRows user)).map shown)
      = (s.rowsInOrder user shown).map shown := by
  unfold UserStats.completedInOrder rowsInOrder
  rw [oldestFirst_completed hshown]
  exact (List.map_mergeSort (f := shown) fun _ _ _ _ => rfl).symm

/-- Of two completed jobs the one that is sorted behind the other was completed later. -/
theorem Reached.endedLater_of_sublist (hs : s.Reached)
    (hshown : ∀ row ∈ s.userJobRows user, row.Tells (shown row))
    (hended : ∀ row ∈ s.completedRows user, row.completedAt ≠ none) {a b : JobRow}
    (h : [a, b].Sublist (s.rowsInOrder user shown)) : s.EndedLater (shown b) (shown a) := by
  have hcompleted : ∀ row ∈ [a, b], row ∈ s.completedRows user := fun row hrow =>
    (s.rowsInOrder_perm user shown).subset (h.subset hrow)
  have hmem : ∀ row ∈ [a, b], row ∈ s.userJobRows user := fun row hrow =>
    (List.mem_filter.mp (hcompleted row hrow)).1
  have ha : a ∈ [a, b] := by simp
  have hb : b ∈ [a, b] := by simp
  obtain ⟨ended, hendedb⟩ := (hshown b (hmem b hb)).ended_of_row (hended b (hcompleted b hb))
  obtain ⟨ended', hendeda⟩ := (hshown a (hmem a ha)).ended_of_row (hended a (hcompleted a ha))
  obtain ⟨hforth, hback⟩ := sublist_of_mergeSort_decide
    (fun x y => ((shown x).completedAt.getD (shown x).createdAt).nanos
      ≤ ((shown y).completedAt.getD (shown y).createdAt).nanos)
    (fun _ _ _ hxy hyz => Int.le_trans hxy hyz) (fun _ _ => Int.le_total ..) h
  rw [hendeda, hendedb, Option.getD_some, Option.getD_some] at hforth hback
  refine ⟨ended, ended', hendedb, hendeda, ?_⟩
  rcases Int.lt_or_eq_of_le hforth with hlt | heq
  · exact Or.inl hlt
  · -- both were completed at one time, so they stand as they did when they came from the store
    have hstood := (hback (Int.le_of_eq heq.symm)).trans List.filter_sublist
    obtain ⟨hcreated, hplace⟩ := sublist_of_oldestFirst hstood
    exact Or.inr ⟨congrArg Instant.mk heq, hs.newer_of_sorted (List.filter_sublist)
      (List.mem_filter.mp (hmem a ha)).1 (List.mem_filter.mp (hmem b hb)).1 hcreated hplace
      (hshown a (hmem a ha)).read (hshown b (hmem b hb)).read⟩

/-- **The jobs whose scores count are the completed ones, in the order of their completion.** -/
theorem Reached.latestFirst (hs : s.Reached)
    (hshown : ∀ row ∈ s.userJobRows user, row.Tells (shown row))
    (hended : ∀ row ∈ s.completedRows user, row.completedAt ≠ none) :
    Lists JobRow.read (s.completedRows user) s.EndedLater
      (UserStats.completedInOrder ((oldestFirst (s.userJobRows user)).map shown)).reverse := by
  have hperm : (s.rowsInOrder user shown).reverse.Perm (s.completedRows user) :=
    (List.reverse_perm _).trans (s.rowsInOrder_perm user shown)
  rw [completedInOrder_eq hshown, ← List.map_reverse]
  refine ⟨?_, ⟨_, hperm, ?_⟩, ?_, hs.wf.endedLater_strict⟩
  · rw [List.length_map]
    exact hperm.length_eq
  · rw [List.forall₂_map_right_iff, List.forall₂_same]
    exact fun row hrow => (hshown row (List.mem_filter.mp (hperm.subset hrow)).1).read
  · rw [List.pairwise_map, List.pairwise_reverse, List.pairwise_iff_forall_sublist]
    exact fun hsub => hs.endedLater_of_sublist hshown hended hsub

end Store

/-- **The trend compares the two latest completions.**  In an office that began with users and
repositories alone, the trend and the mean of the scores that a user is given are those of the
user's completed jobs, whichever of the user's repositories they are in, from the one that was
completed last on: the trend is the score of the first less that of the second, and there is none if
there is no second.  Figures are given if the total of the issues has room, unless a time of the user
or of one of the user's jobs has no room in a timestamp. -/
theorem trend_compares_latest_completions (settings : DeskSettings) (first : Store) (o : Office)
    (hfirst : first.Reached) (hempty : first.jobs = []) (ho : o.Reached settings first) (user : Int)
    (hexists : (o.store.userRow? user).isSome = true) :
    (o.store.StatsLegible user → (o.store.issueCounts user).sum ≤ Limit.greatest64 →
      ∃ stats latestFirst, o.store.userStats user = .ok (some (.ok stats)) ∧
        Lists JobRow.read (o.store.completedRows user) o.store.EndedLater latestFirst ∧
        stats.ScoredBy latestFirst) ∧
    (¬ o.store.StatsLegible user → ∃ t, o.store.IsStatsTime user t ∧ ¬ t.HasPlainYear ∧
      o.store.userStats user = .error (.badTimestamp t.stored .invalid)) := by
  have hhistory := ho.sound.history
  have hs := hhistory.reached hfirst
  have hshaped := hhistory.shaped hfirst hempty
  refine ⟨fun hlegible hsum => ?_, (hs.userStats_cases hexists).2⟩
  obtain ⟨shown, counts, hshown, hstats⟩ :=
    (hs.userStats_legible hexists hlegible (hshaped.issueCounts hs.wf user).2).1 hsum
  refine ⟨_, _, hstats, hs.latestFirst hshown fun row hrow => (hshaped.completed hs.wf hrow).1,
    UserStats.scoredBy_withTotal counts _ fun job hjob => ?_⟩
  have hcompleted := Store.completedInOrder_perm (fun row hrow => (hshown row hrow).toReadAs)
    ((Store.oldestFirst_perm (o.store.userJobRows user)).map shown)
  obtain ⟨row, hrow, rfl⟩ := List.mem_map.mp (hcompleted.subset hjob)
  obtain ⟨score, hscore, -⟩ := (hshaped.completed hs.wf hrow).2.1
  rw [(hshown row (List.mem_filter.mp hrow).1).qualityScore, hscore]
  rfl

namespace Small

/-- A store with one user, who has two repositories. -/
def twoSites : Store :=
  Store.Operation.after ⟨0⟩ store
    (.createRepository 1 "docs" "https://git.example.com/docs.git" "main")

theorem twoSites_reached : twoSites.Reached := store_reached.after _ _

/-- Two jobs in two repositories, of which the one that was created first was completed last, and a
third one that failed with a score. -/
def crossed : Office :=
  let report (status : ReportStatus) (score : Nat) : Report :=
    ⟨status, some (.ofNat score), none, none, none, none, none, [], [], none⟩
  let second (nanos : Int) : Surroundings :=
    ⟨⟨nanos⟩, JobId.numbered 1, .ok "h-2", .ok .underway⟩
  let third (nanos : Int) : Surroundings :=
    ⟨⟨nanos⟩, JobId.numbered 2, .ok "h-3", .ok .underway⟩
  Office.played settings twoSites
    [.begin (.submit 1 ⟨1, none, none⟩), .act 0 (calm 1000000), .act 0 (calm 1000000),
      .act 0 (calm 1000000), .act 0 (calm 2000000), .act 0 (calm 2000000),
      .begin (.submit 1 ⟨2, none, none⟩), .act 1 (second 3000000), .act 1 (second 3000000),
      .act 1 (second 3000000), .act 1 (second 4000000), .act 1 (second 4000000),
      .begin (.ingest (.numbered 1) (report .completed 6)), .act 2 (calm 5000000),
      .act 2 (calm 5000000), .begin (.ingest default (report .completed 8)), .act 3 (calm 6000000),
      .act 3 (calm 6000000), .begin (.submit 1 ⟨1, none, none⟩), .act 4 (third 7000000),
      .act 4 (third 7000000), .act 4 (third 7000000), .act 4 (third 8000000),
      .act 4 (third 8000000), .begin (.ingest (.numbered 2) (report .failed 1)),
      .act 5 (third 9000000), .act 5 (third 9000000)]

end Small

theorem trend_compares_latest_completions_crossed :
    Small.twoSites.jobs = [] ∧
      Small.crossed.store.jobs.map (fun row => (row.status, row.createdAt, row.completedAt))
        = [("completed", "1970-01-01T00:00:00.001Z", some "1970-01-01T00:00:00.006Z"),
          ("completed", "1970-01-01T00:00:00.003Z", some "1970-01-01T00:00:00.005Z"),
          ("failed", "1970-01-01T00:00:00.007Z", some "1970-01-01T00:00:00.009Z")] ∧
      ∃ stats, Small.crossed.store.userStats 1 = .ok (some (.ok stats)) ∧
        stats.qualityTrend = some ((Double.ofNat 8).sub (.ofNat 6)) := by
  let told (job : Job) := (job.completedAt.map Instant.nanos, job.qualityScore)
  let read (row : JobRow) := row.read.toOption.getD default
  have hempty : Small.twoSites.jobs = [] := by decide +kernel
  have hplayed : Small.crossed.Reached Small.settings Small.twoSites := Office.reached_played ..
  have hs := hplayed.sound.history.reached Small.twoSites_reached
  obtain ⟨hrows, hexists, hcounts, huser, hjobs, htold⟩ :
      Small.crossed.store.jobs.map (fun row => (row.status, row.createdAt, row.completedAt))
          = [("completed", "1970-01-01T00:00:00.001Z", some "1970-01-01T00:00:00.006Z"),
            ("completed", "1970-01-01T00:00:00.003Z", some "1970-01-01T00:00:00.005Z"),
            ("failed", "1970-01-01T00:00:00.007Z", some "1970-01-01T00:00:00.009Z")] ∧
        (Small.crossed.store.userRow? 1).isSome = true ∧
        Small.crossed.store.issueCounts 1 = [0, 0] ∧
        (Small.crossed.store.user? 1).isOk = true ∧
        (∀ row ∈ Small.crossed.store.userJobRows 1, row.read.isOk = true) ∧
        (Small.crossed.store.completedRows 1).map (told ∘ read)
          = [(some 6000000, some (.ofNat 8)), (some 5000000, some (.ofNat 6))] := by
    decide +kernel
  obtain ⟨stats, latestFirst, hstats, hlists, hscored⟩ :=
    (trend_compares_latest_completions Small.settings Small.twoSites _ Small.twoSites_reached hempty
      hplayed 1 hexists).1 (hs.statsLegible_of_reads huser hjobs) (by rw [hcounts]; decide)
  have hread : ∀ row ∈ Small.crossed.store.completedRows 1, row.read = .ok (read row) := by
    intro row hrow
    have hok := hjobs row (List.mem_filter.mp hrow).1
    cases hjob : row.read with
    | error e => rw [hjob] at hok; exact Bool.noConfusion hok
    | ok job => simp only [read, hjob, Except.toOption, Option.getD_some]
  -- what is told of the jobs in this order can be in no other one
  have horder : latestFirst.map told
      = [(some 6000000, some (.ofNat 8)), (some 5000000, some (.ofNat 6))] := by
    have hperm := (hlists.perm_map hread).map told
    rw [List.map_map, htold] at hperm
    have hsorted : (latestFirst.map told).Pairwise fun a b => b.1.getD 0 ≤ a.1.getD 0 := by
      refine List.pairwise_map.mpr (hlists.sorted.imp ?_)
      rintro a b ⟨ended, ended', ha, hb, hlater⟩
      simp only [told, ha, hb, Option.map_some, Option.getD_some]
      rcases hlater with hlt | ⟨rfl, -⟩
      · exact Int.le_of_lt hlt
      · exact Int.le_refl _
    refine hperm.eq_of_pairwise (fun a b ha hb hab hba => ?_) hsorted (by decide)
    rw [hperm.mem_iff, List.mem_pair] at ha
    rw [List.mem_pair] at hb
    rcases ha with rfl | rfl <;> rcases hb with rfl | rfl
    · rfl
    · exact absurd hba (by decide)
    · exact absurd hab (by decide)
    · rfl
  obtain ⟨latest, others, rfl, hlatest, hothers⟩ := List.map_eq_cons_iff.mp horder
  obtain ⟨previous, rest, rfl, hprevious, -⟩ := List.map_eq_cons_iff.mp hothers
  obtain ⟨score, score', hscore, hscore', htrend⟩ := hscored.trend latest previous rest rfl
  have h8 : latest.qualityScore = some (.ofNat 8) := congrArg Prod.snd hlatest
  have h6 : previous.qualityScore = some (.ofNat 6) := congrArg Prod.snd hprevious
  refine ⟨hempty, hrows, stats, hstats, ?_⟩
  rw [htrend, Option.some.inj (hscore.symm.trans h8), Option.some.inj (hscore'.symm.trans h6)]

namespace Small

/-- A job that a sweep has failed as of an instant in the year 10000. -/
def sweptLate : Office :=
  Office.played settings store
    [.begin (.submit 1 ⟨1, none, none⟩), .act 0 (calm 1), .act 0 (calm 2), .act 0 (calm 3),
      .act 0 (calm 4), .act 0 (calm 5), .begin (.sweepAt ⟨253402300800000000000⟩),
      .act 1 (calm 6), .act 1 (calm 7), .act 1 (calm 8)]

end Small

/-- A user with no completed job who gets no figures, so that there is no trend to be none: a time
of a job that failed cannot be read. -/
theorem trend_of_sweptLate :
    Small.store.Reached ∧ Small.store.jobs = [] ∧
      Small.sweptLate.Reached Small.settings Small.store ∧
      (Small.sweptLate.store.userRow? 1).isSome = true ∧
      Small.sweptLate.store.completedRows 1 = [] ∧
      ¬ ∃ stats, Small.sweptLate.store.userStats 1 = .ok (some (.ok stats)) ∧
        stats.averageQualityScore = none ∧ stats.qualityTrend = none := by
  have hplayed : Small.sweptLate.Reached Small.settings Small.store := Office.reached_played ..
  have hs := hplayed.sound.history.reached Small.store_reached
  obtain ⟨hexists, hcompleted, hundated⟩ :
      (Small.sweptLate.store.userRow? 1).isSome = true ∧
        Small.sweptLate.store.completedRows 1 = [] ∧
        (Small.sweptLate.store.userJobRows 1).map (·.completedAt)
          = [some "+10000-01-01T00:00:00.000Z"] := by
    decide +kernel
  refine ⟨Small.store_reached, by decide +kernel, hplayed, hexists, hcompleted, ?_⟩
  rintro ⟨stats, hstats, -⟩
  obtain ⟨row, hrow, htime⟩ : ∃ row ∈ Small.sweptLate.store.userJobRows 1,
      row.completedAt = some "+10000-01-01T00:00:00.000Z" :=
    List.mem_map.mp (by rw [hundated]; exact List.mem_singleton_self _)
  have hstored : (⟨253402300800000000000⟩ : Instant).stored = "+10000-01-01T00:00:00.000Z" := by
    decide +kernel
  have hyear : ¬ (⟨253402300800000000000⟩ : Instant).HasPlainYear := by decide +kernel
  refine hyear ((hs.figures_of_userStats hstats).1 _ (Or.inr ⟨row, hrow, Or.inr (Or.inr ?_)⟩))
  rw [htime, hstored]

end AnalysisDesk
