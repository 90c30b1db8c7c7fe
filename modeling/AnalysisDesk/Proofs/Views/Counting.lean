/-
Counting.

The same things are counted in several ways: texts are tallied in a list of pairs,
severities in a table, and rows by going through those they belong to.  What makes the
ways agree is that each can be summed over any part of its keys.  For a tally the sum
over the keys that pass a check is the number of texts that do (`countOf_tallied`), and
rows that belong to one of several others are as many as belong to each of these,
added up (`countP_any_key`), as long as no two of the others have the same key.

Numbers that are added up one after the other give their sum if every total on the way
has room (`Limit.addAll_cases`).  If none of them is negative, the last total is the
greatest one.
-/
import AnalysisDesk.Views.Stats
import Mathlib.Algebra.BigOperators.Group.List.Basic
import Mathlib.Algebra.GroupWithZero.Nat
import Mathlib.Algebra.Order.BigOperators.Group.List
import Mathlib.Algebra.Ring.Int.Defs
import Mathlib.Data.List.Induction

namespace AnalysisDesk

/-! ### Rows by the key of another row -/

/-- Rows that belong to one of several others are counted for each of these. -/
theorem countP_any_key {α β κ : Type} [DecidableEq κ] (p : α → Bool) (owner : α → κ) (key : β → κ)
    (as : List α) : ∀ {bs : List β}, (bs.map key).Nodup →
      as.countP (fun a => p a && bs.any fun b => key b == owner a)
        = (bs.map fun b => as.countP fun a => p a && key b == owner a).sum := by
  intro bs
  induction bs with
  | nil => simp
  | cons b rest ih =>
      intro hkeys
      obtain ⟨hb, hrest⟩ := List.nodup_cons.mp hkeys
      rw [List.map_cons, List.sum_cons, ← ih hrest,
        List.countP_eq_countP_filter_add as _ fun a => key b == owner a, List.countP_filter,
        List.countP_filter]
      -- what belongs to `b` belongs to no row behind it
      have hnone : ∀ a, key b = owner a → (rest.any fun b => key b == owner a) = false := by
        intro a ha
        rw [List.any_eq_false]
        intro c hc
        rw [beq_iff_eq, ← ha]
        exact fun hsame => hb (List.mem_map.mpr ⟨c, hc, hsame⟩)
      congr 1
      · refine List.countP_congr fun a _ => ?_
        by_cases ha : key b = owner a <;> simp [ha]
      · refine List.countP_congr fun a _ => ?_
        by_cases ha : key b = owner a
        · simp [ha, hnone a ha]
        · simp [ha]

/-- A sum of ones and zeros counts the ones. -/
theorem sum_eq_countP {α : Type} {f : α → Nat} {p : α → Bool} : ∀ {as : List α},
    (∀ a ∈ as, f a = if p a then 1 else 0) → (as.map f).sum = as.countP p := by
  intro as
  induction as with
  | nil => exact fun _ => rfl
  | cons a rest ih =>
      intro h
      obtain ⟨ha, hrest⟩ := List.forall_mem_cons.mp h
      rw [List.map_cons, List.sum_cons, ha, ih hrest, List.countP_cons]
      exact Nat.add_comm _ _

/-- Of what is there once at most it matters whether it is there. -/
theorem countP_eq_ite_any {α : Type} {p : α → Bool} {as : List α} (h : as.countP p ≤ 1) :
    as.countP p = if as.any p then 1 else 0 := by
  by_cases hany : as.any p = true
  · have hpos := List.countP_pos_iff.mpr (List.any_eq_true.mp hany)
    rw [if_pos hany]
    omega
  · rw [if_neg hany, List.countP_eq_zero]
    exact fun a ha hp => hany (List.any_eq_true.mpr ⟨a, ha, hp⟩)

/-- What is left of a list without its repetitions. -/
theorem nodup_eraseDups {α : Type} [BEq α] [LawfulBEq α] : ∀ as : List α, as.eraseDups.Nodup
  | [] => List.nodup_nil
  | a :: rest => by
      have : (rest.filter fun b => !b == a).length < rest.length + 1 :=
        Nat.lt_succ_of_le (List.length_filter_le _ _)
      rw [List.eraseDups_cons, List.nodup_cons]
      refine ⟨fun hmem => ?_, nodup_eraseDups _⟩
      simpa using (List.mem_filter.mp (List.mem_eraseDups.mp hmem)).2
termination_by as => as.length

/-! ### Totals -/

namespace Limit

/-- Whether numbers can be added up in this order: every total on the way has room. -/
def HasRoom (numbers : List Int) : Prop := ∀ k, holds64 (numbers.take k).sum = true

/-- Adding up goes on to the end, or to the first total that has no room. -/
theorem addAll_cases_from : ∀ (numbers : List Int) {total : Int}, holds64 total = true →
    (addAll total numbers = .ok (total + numbers.sum) ∧
        ∀ k, holds64 (total + (numbers.take k).sum) = true) ∨
      (addAll total numbers = .error .number ∧
        ∃ k, holds64 (total + (numbers.take k).sum) = false) := by
  intro numbers
  induction numbers with
  | nil =>
      intro total htotal
      rw [List.sum_nil, Int.add_zero]
      exact Or.inl ⟨rfl, fun k => by rwa [List.take_nil, List.sum_nil, Int.add_zero]⟩
  | cons number rest ih =>
      intro total htotal
      rw [addAll, List.sum_cons, ← Int.add_assoc]
      have hnext : ∀ k, total + ((number :: rest).take (k + 1)).sum
          = total + number + (rest.take k).sum := by
        intro k
        rw [List.take_succ_cons, List.sum_cons, Int.add_assoc]
      cases hnumber : holds64 (total + number) with
      | false => exact Or.inr ⟨rfl, 1, by rwa [hnext, List.take_zero, List.sum_nil, Int.add_zero]⟩
      | true =>
          rw [if_pos rfl]
          refine (ih hnumber).imp (And.imp_right fun hrest => ?_) (And.imp_right ?_)
          · rintro (_ | k)
            · rwa [List.take_zero, List.sum_nil, Int.add_zero]
            · rw [hnext]
              exact hrest k
          · rintro ⟨k, hk⟩
            exact ⟨k + 1, by rwa [hnext]⟩

/-- **Numbers that are added up give their sum, exactly if every total on the way has room.** -/
theorem addAll_cases (numbers : List Int) :
    (addAll 0 numbers = .ok numbers.sum ∧ HasRoom numbers) ∨
      (addAll 0 numbers = .error .number ∧ ¬ HasRoom numbers) := by
  have hzero : holds64 0 = true := by decide
  have hcases := addAll_cases_from numbers hzero
  simp only [Int.zero_add] at hcases
  refine hcases.imp_right (And.imp_right ?_)
  rintro ⟨k, hk⟩ hroom
  rw [hroom k] at hk
  exact Bool.noConfusion hk

theorem HasRoom.sum_le {numbers : List Int} (h : HasRoom numbers) : numbers.sum ≤ greatest64 := by
  have hlast := h numbers.length
  rw [List.take_length, holds64_iff] at hlast
  exact hlast.2

/-- If no number is negative, it is only the last total that matters. -/
theorem hasRoom_iff {numbers : List Int} (h : ∀ number ∈ numbers, 0 ≤ number) :
    HasRoom numbers ↔ numbers.sum ≤ greatest64 := by
  refine ⟨HasRoom.sum_le, fun hsum k => holds64_iff.mpr ⟨?_, ?_⟩⟩
  · have hleast : least64 ≤ 0 := by decide
    exact Int.le_trans hleast (List.sum_nonneg fun number hmem => h number (List.mem_of_mem_take hmem))
  · have hsplit : (numbers.take k).sum + (numbers.drop k).sum = numbers.sum := by
      rw [← List.sum_append, List.take_append_drop]
    have hdropped : 0 ≤ (numbers.drop k).sum :=
      List.sum_nonneg fun number hmem => h number (List.mem_of_mem_drop hmem)
    omega

end Limit

/-- There are figures exactly if the numbers of the issues can be added up. -/
theorem UserStats.ofJobs_cases (jobs : List Job) (counts : List (Severity × Nat)) :
    (ofJobs jobs counts = .ok (withTotal jobs counts
          ((completedInOrder jobs).filterMap (·.issuesFound)).sum) ∧
        Limit.HasRoom ((completedInOrder jobs).filterMap (·.issuesFound))) ∨
      (ofJobs jobs counts = .error .number ∧
        ¬ Limit.HasRoom ((completedInOrder jobs).filterMap (·.issuesFound))) := by
  unfold ofJobs issueTotal
  refine (Limit.addAll_cases _).imp (And.imp_left fun hsum => ?_) (And.imp_left fun hsum => ?_)
  · rw [hsum]
    rfl
  · rw [hsum]
    rfl

/-! ### Lists of counts -/

/-- The counts of the keys that pass a check, added up. -/
def countOf {κ : Type} (p : κ → Bool) (counts : List (κ × Nat)) : Nat :=
  ((counts.filter fun entry => p entry.1).map (·.2)).sum

section CountOf

variable {κ : Type} (p : κ → Bool)

@[simp] theorem countOf_nil : countOf p [] = 0 := rfl

@[simp] theorem countOf_cons (entry : κ × Nat) (rest : List (κ × Nat)) :
    countOf p (entry :: rest) = (if p entry.1 then entry.2 else 0) + countOf p rest := by
  unfold countOf
  rw [List.filter_cons]
  split <;> simp

theorem countOf_append (counts counts' : List (κ × Nat)) :
    countOf p (counts ++ counts') = countOf p counts + countOf p counts' := by
  unfold countOf
  rw [List.filter_append, List.map_append, List.sum_append]

theorem countOf_true (counts : List (κ × Nat)) :
    countOf (fun _ => true) counts = (counts.map (·.2)).sum := by
  unfold countOf
  rw [List.filter_true]

/-- If each key has one count, the count of a key is what is looked up. -/
theorem lookup_eq_countOf [BEq κ] [LawfulBEq κ] (key : κ) : ∀ {counts : List (κ × Nat)},
    (counts.map (·.1)).Nodup → (counts.lookup key).getD 0 = countOf (· == key) counts := by
  intro counts
  induction counts with
  | nil => exact fun _ => rfl
  | cons entry rest ih =>
      intro hkeys
      obtain ⟨hentry, hrest⟩ := List.nodup_cons.mp hkeys
      rw [countOf_cons, List.lookup_cons]
      by_cases heq : entry.1 = key
      · have hnone : countOf (· == key) rest = 0 := by
          unfold countOf
          rw [List.filter_eq_nil_iff.mpr, List.map_nil, List.sum_nil]
          intro other hother
          rw [beq_iff_eq]
          exact fun hc => hentry (List.mem_map.mpr ⟨other, hother, hc.trans heq.symm⟩)
        simp [heq, hnone]
      · have hne : (key == entry.1) = false := by simpa using fun hc => heq hc.symm
        simp [heq, hne, ih hrest]

end CountOf

/-! ### Tallies -/

namespace Store

/-- To tally a text adds one to its count. -/
theorem countOf_tally (p : String → Bool) (text : String) : ∀ counts : List (String × Nat),
    countOf p (tally text counts) = countOf p counts + if p text then 1 else 0 := by
  intro counts
  induction counts with
  | nil => simp [tally]
  | cons entry rest ih =>
      rw [tally]
      split
      · rename_i heq
        subst heq
        simp only [countOf_cons]
        split <;> omega
      · split
        · simp only [countOf_cons]
          omega
        · simp only [countOf_cons, ih]
          omega

theorem tallied_concat (texts : List String) (text : String) :
    tallied (texts ++ [text]) = tally text (tallied texts) := by
  rw [tallied, List.foldl_append]
  rfl

/-- **The counts of a tally are those of the texts.** -/
theorem countOf_tallied (p : String → Bool) (texts : List String) :
    countOf p (tallied texts) = texts.countP p := by
  induction texts using List.reverseRecOn with
  | nil => rfl
  | append_singleton texts text ih =>
      rw [tallied_concat, countOf_tally, ih, List.countP_append, List.countP_singleton]

theorem mem_tally {key text : String} : ∀ {counts : List (String × Nat)},
    key ∈ (tally text counts).map (·.1) ↔ key = text ∨ key ∈ counts.map (·.1) := by
  intro counts
  induction counts with
  | nil => simp [tally]
  | cons entry rest ih =>
      rw [tally]
      split
      · rename_i heq
        simp [heq]
      · split
        · simp
        · rw [List.map_cons, List.mem_cons, ih, List.map_cons, List.mem_cons]
          exact or_left_comm

/-- A tally stays in ascending order. -/
theorem ascending_tally (text : String) : ∀ {counts : List (String × Nat)},
    (counts.map (·.1)).Pairwise (· < ·) → ((tally text counts).map (·.1)).Pairwise (· < ·) := by
  intro counts
  induction counts with
  | nil => exact fun _ => List.pairwise_singleton _ _
  | cons entry rest ih =>
      intro h
      obtain ⟨hentry, hrest⟩ := List.pairwise_cons.mp h
      rw [tally]
      split
      · exact h
      · rename_i hne
        split
        · rename_i hlt
          refine List.pairwise_cons.mpr ⟨fun key hkey => ?_, h⟩
          rcases List.mem_cons.mp hkey with rfl | hkey
          · exact hlt
          · exact String.lt_trans hlt (hentry key hkey)
        · rename_i hnot
          refine List.pairwise_cons.mpr ⟨fun key hkey => ?_, ih hrest⟩
          rcases mem_tally.mp hkey with rfl | hkey
          · exact Std.lt_of_le_of_ne (String.not_lt.mp hnot) fun hc => hne hc.symm
          · exact hentry key hkey

theorem ascending_tallied (texts : List String) :
    ((tallied texts).map (·.1)).Pairwise (· < ·) := by
  induction texts using List.reverseRecOn with
  | nil => exact .nil
  | append_singleton texts text ih =>
      rw [tallied_concat]
      exact ascending_tally text ih

/-- A tally has one entry for each text that occurs. -/
theorem nodup_tallied (texts : List String) : ((tallied texts).map (·.1)).Nodup := by
  refine (ascending_tallied texts).imp fun {a b} hlt => ?_
  rintro rfl
  exact String.lt_irrefl a hlt

theorem lookup_tallied (texts : List String) (text : String) :
    ((tallied texts).lookup text).getD 0 = texts.count text := by
  rw [lookup_eq_countOf text (nodup_tallied texts), countOf_tallied, List.count]

theorem sum_tallied (texts : List String) : ((tallied texts).map (·.2)).sum = texts.length := by
  rw [← countOf_true, countOf_tallied, List.countP_true]

/-- What is tallied occurs. -/
theorem mem_keys_tallied {texts : List String} {key : String} :
    key ∈ (tallied texts).map (·.1) ↔ key ∈ texts := by
  induction texts using List.reverseRecOn with
  | nil => exact Iff.rfl
  | append_singleton texts text ih =>
      rw [tallied_concat, mem_tally, ih, List.mem_append, List.mem_singleton, or_comm]

end Store

/-! ### Tables of severities -/

namespace SeverityTable

theorem ofCounts_concat (counts : List (Severity × Nat)) (entry : Severity × Nat) :
    ofCounts (counts ++ [entry]) = (ofCounts counts).add entry.1 entry.2 := by
  rw [ofCounts, List.foldl_append]
  rfl

/-- A table in which counts were added up has their sum for each severity. -/
theorem get_ofCounts (counts : List (Severity × Nat)) (severity : Severity) :
    (ofCounts counts).get severity = countOf (· == severity) counts := by
  induction counts using List.reverseRecOn with
  | nil => cases severity <;> rfl
  | append_singleton counts entry ih =>
      rw [ofCounts_concat, get_add, ih, countOf_append, countOf_cons, countOf_nil]
      simp only [beq_iff_eq, Nat.add_zero]

/-- A table in which severities were counted one by one. -/
theorem get_ofCounts_ones {α : Type} (severity : α → Severity) (as : List α) (wanted : Severity) :
    (ofCounts (as.map fun a => (severity a, 1))).get wanted
      = as.countP fun a => severity a == wanted := by
  rw [get_ofCounts]
  induction as with
  | nil => rfl
  | cons a rest ih =>
      rw [List.map_cons, countOf_cons, ih, List.countP_cons]
      exact Nat.add_comm _ _

/-- The numbers of a table add up to the sum of what was counted. -/
theorem sum_ofCounts (counts : List (Severity × Nat)) :
    ((ofCounts counts).toList.map (·.2)).sum = (counts.map (·.2)).sum := by
  induction counts using List.reverseRecOn with
  | nil => rfl
  | append_singleton counts entry ih =>
      have hadd : ∀ (table : SeverityTable) (severity : Severity) (count : Nat),
          ((table.add severity count).toList.map (·.2)).sum
            = (table.toList.map (·.2)).sum + count := by
        intro table severity count
        simp only [toList, Severity.all, List.map_cons, List.map_nil, List.sum_cons, List.sum_nil,
          get_add]
        cases severity <;> simp <;> omega
      rw [ofCounts_concat, hadd, ih, List.map_append, List.sum_append]
      rfl

theorem sum_ofCounts_ones {α : Type} (severity : α → Severity) (as : List α) :
    ((ofCounts (as.map fun a => (severity a, 1))).toList.map (·.2)).sum = as.length := by
  rw [sum_ofCounts, List.map_map]
  show (as.map fun _ => 1).sum = as.length
  simp

end SeverityTable

end AnalysisDesk
