/-
The total of a user's issues.

A report says how many issues were found, which is checked to be no less than zero, and for
the figures of a user the numbers of all completed jobs are added up in sixty-four bits with
sign.  A total that is given is the sum of the numbers.  But nothing keeps the sum within
sixty-four bits, and if it goes beyond, then no figures are given and whoever asks for them
collapses.  As no number is less than zero, it does not matter in which order they are added
up.  Two reports are enough to go too far.
-/
import AnalysisDesk.Proofs.Views.Figures

namespace AnalysisDesk

/-- Whoever asks for figures whose total has no room collapses, and leaves everything as it is. -/
theorem Desk.run_userStats_of_fallen {s : Scene} {user : Int} {cause : Overflow}
    (h : s.store.userStats user = .ok (some (.error cause))) :
    s.run (Desk.userStats user) = (.ready (.collapse cause), s) := by
  have hrun := Look.run_call s user .userStats
  rw [Look.view, h] at hrun
  exact hrun

/-- **The total of a user's issues is their sum, and there are no figures if the sum has no room in
sixty-four bits.**  In an office that began with users and repositories alone, every completed job
has a number of issues that is not negative.  If their sum is no greater than the greatest number,
the user's figures are given and their total is the sum; if it is greater, the call for the figures
collapses.  All this goes for a user whose times, and those of whose jobs, have room in
timestamps. -/
theorem issue_total_exact_or_missing (settings : DeskSettings) (first : Store) (o : Office)
    (hfirst : first.Reached) (hempty : first.jobs = []) (ho : o.Reached settings first) (user : Int)
    (hexists : (o.store.userRow? user).isSome = true) :
    (o.store.completedRows user).map (·.issuesFound) = (o.store.issueCounts user).map .value ∧
    (∀ count ∈ o.store.issueCounts user, 0 ≤ count) ∧
    (o.store.StatsLegible user → (o.store.issueCounts user).sum ≤ Limit.greatest64 →
      ∃ stats, o.store.userStats user = .ok (some (.ok stats)) ∧
        stats.totalIssuesFound = (o.store.issueCounts user).sum) ∧
    (o.store.StatsLegible user → Limit.greatest64 < (o.store.issueCounts user).sum →
      o.store.userStats user = .ok (some (.error .number)) ∧
        ∀ s : Scene, s.store = o.store →
          s.run (Desk.userStats user) = (.ready (.collapse .number), s)) ∧
    (¬ o.store.StatsLegible user → ∃ t, o.store.IsStatsTime user t ∧ ¬ t.HasPlainYear ∧
      o.store.userStats user = .error (.badTimestamp t.stored .invalid)) := by
  have hhistory := ho.sound.history
  have hs := hhistory.reached hfirst
  obtain ⟨hslots, hcounts⟩ := (hhistory.shaped hfirst hempty).issueCounts hs.wf user
  refine ⟨hslots, hcounts, fun hlegible hsum => ?_, fun hlegible hsum => ?_,
    (hs.userStats_cases hexists).2⟩
  · obtain ⟨shown, counts, -, hfigures⟩ :=
      (hs.userStats_legible hexists hlegible hcounts).1 hsum
    exact ⟨_, hfigures, rfl⟩
  · have hfallen := (hs.userStats_legible hexists hlegible hcounts).2 hsum
    exact ⟨hfallen, fun s hstore => Desk.run_userStats_of_fallen (hstore ▸ hfallen)⟩

/-- Two jobs of one repository, completed one after the other by reports that give these numbers of
issues. -/
def Small.foundTwice (one other : Int) : Office :=
  let report (found : Int) : Report :=
    ⟨.completed, some .zero, none, none, none, some found, none, [], [], none⟩
  let second (nanos : Int) : Surroundings :=
    ⟨⟨nanos⟩, JobId.numbered 1, .ok "h-2", .ok .underway⟩
  Office.played settings store
    [.begin (.submit 1 ⟨1, none, none⟩), .act 0 (calm 1), .act 0 (calm 2), .act 0 (calm 3),
      .act 0 (calm 4), .act 0 (calm 5), .begin (.ingest default (report one)), .act 1 (calm 6),
      .act 1 (calm 7), .begin (.submit 1 ⟨1, none, none⟩), .act 2 (second 8), .act 2 (second 9),
      .act 2 (second 10), .act 2 (second 11), .act 2 (second 12),
      .begin (.ingest (.numbered 1) (report other)), .act 3 (second 13), .act 3 (second 14)]

/-- What was found in two jobs is added up. -/
theorem issue_total_exact_or_missing_twice :
    Small.store.jobs = [] ∧ (Small.foundTwice 3 4).store.issueCounts 1 = [3, 4] ∧
      ∃ stats, (Small.foundTwice 3 4).store.userStats 1 = .ok (some (.ok stats)) ∧
        stats.totalIssuesFound = 7 := by
  have hempty : Small.store.jobs = [] := by decide +kernel
  have hplayed : (Small.foundTwice 3 4).Reached Small.settings Small.store :=
    Office.reached_played ..
  have hs := hplayed.sound.history.reached Small.store_reached
  obtain ⟨hexists, hcounts, huser, hjobs⟩ :
      ((Small.foundTwice 3 4).store.userRow? 1).isSome = true ∧
        (Small.foundTwice 3 4).store.issueCounts 1 = [3, 4] ∧
        ((Small.foundTwice 3 4).store.user? 1).isOk = true ∧
        ∀ row ∈ (Small.foundTwice 3 4).store.userJobRows 1, row.read.isOk = true := by
    decide +kernel
  have hgiven := (issue_total_exact_or_missing Small.settings Small.store _ Small.store_reached
    hempty hplayed 1 hexists).2.2.1 (hs.statsLegible_of_reads huser hjobs)
  rw [hcounts] at hgiven
  obtain ⟨stats, hstats, htotal⟩ := hgiven (by decide)
  exact ⟨hempty, hcounts, stats, hstats, htotal⟩

/-- Two numbers that each have room, and a user who gets no figures. -/
theorem issue_total_of_overflowing :
    Small.store.Reached ∧ Small.store.jobs = [] ∧
      (Small.foundTwice 9223372036854775807 9223372036854775807).Reached Small.settings
        Small.store ∧
      (Small.foundTwice 9223372036854775807 9223372036854775807).store.issueCounts 1
        = [9223372036854775807, 9223372036854775807] ∧
      (Small.foundTwice 9223372036854775807 9223372036854775807).store.userStats 1
        = .ok (some (.error .number)) := by
  generalize hoffice : Small.foundTwice 9223372036854775807 9223372036854775807 = o
  have hplayed : o.Reached Small.settings Small.store := hoffice ▸ Office.reached_played ..
  have hhistory := hplayed.sound.history
  have hs := hhistory.reached Small.store_reached
  have hempty : Small.store.jobs = [] := by decide +kernel
  obtain ⟨hexists, hcounts, huser, hjobs⟩ :
      (o.store.userRow? 1).isSome = true ∧
        o.store.issueCounts 1 = [9223372036854775807, 9223372036854775807] ∧
        (o.store.user? 1).isOk = true ∧ ∀ row ∈ o.store.userJobRows 1, row.read.isOk = true := by
    subst hoffice
    decide +kernel
  refine ⟨Small.store_reached, hempty, hplayed, hcounts,
    (hs.userStats_legible hexists (hs.statsLegible_of_reads huser hjobs) ?_).2 ?_⟩
  · exact ((hhistory.shaped Small.store_reached hempty).issueCounts hs.wf 1).2
  · rw [hcounts]
    decide

end AnalysisDesk
