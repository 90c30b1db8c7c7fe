/-
How often a call is made, and when.

Only one thing has a call made again: a fault that may pass, while there are attempts left.  So
which attempt is the last one is settled by the answers alone, and `EndsWith` says which it is: the
first one with any other answer, or the last one there may be.

The loop also counts the attempts that may follow.  That count never decides anything, since the
policy refuses another attempt before it runs out; `runFrom_of_enough` says so, and with it that
the loop ends by itself.
-/
import AnalysisDesk.Proofs.Analyzer.Pauses
import Mathlib.Algebra.BigOperators.Group.Finset.Basic
import Mathlib.Algebra.Order.BigOperators.Group.Finset

namespace AnalysisDesk.RetryPolicy

variable {α : Type} {p : RetryPolicy} {answer : Nat → Except AnalyzerFault α} {took : Nat → Span}

/-! ### Going on -/

/-- The fault of an answer may pass. -/
def Passing (answer : Except AnalyzerFault α) : Prop :=
  ∃ message, answer = .error (.unavailable message)

theorem pause?_eq_some {attempt : Nat} {answer : Except AnalyzerFault α} (hpassing : Passing answer)
    (hleft : attempt < p.attempts) : p.pause? attempt answer = some (p.pause attempt) := by
  obtain ⟨message, rfl⟩ := hpassing
  exact if_pos ⟨rfl, hleft⟩

theorem pause?_eq_none {attempt : Nat} {answer : Except AnalyzerFault α}
    (h : attempt < p.attempts → ¬ Passing answer) : p.pause? attempt answer = none := by
  cases answer with
  | ok value => rfl
  | error fault =>
      refine if_neg fun hc => h hc.2 ?_
      cases fault with
      | unavailable message => exact ⟨message, rfl⟩
      | rejected message => exact nomatch hc.1
      | unexpected message => exact nomatch hc.1

theorem pause?_cases (p : RetryPolicy) (attempt : Nat) (answer : Except AnalyzerFault α) :
    (Passing answer ∧ attempt < p.attempts ∧ p.pause? attempt answer = some (p.pause attempt)) ∨
      ((attempt < p.attempts → ¬ Passing answer) ∧ p.pause? attempt answer = none) := by
  by_cases h : Passing answer ∧ attempt < p.attempts
  · exact Or.inl ⟨h.1, h.2, pause?_eq_some h.1 h.2⟩
  · have hnot : attempt < p.attempts → ¬ Passing answer := fun hleft hpassing => h ⟨hpassing, hleft⟩
    exact Or.inr ⟨hnot, pause?_eq_none hnot⟩

/-! ### The last attempt -/

/-- Attempt number `k` is the last one of those from number `first` on. -/
structure EndsFrom (p : RetryPolicy) (answer : Nat → Except AnalyzerFault α) (first k : Nat) :
    Prop where
  le : first ≤ k
  most : k ≤ max first p.attempts
  /-- All attempts before it failed with a fault that may pass. -/
  before : ∀ i, first ≤ i → i < k → Passing (answer i)
  /-- It did not, or no attempt is left. -/
  last : k < p.attempts → ¬ Passing (answer k)

/-- Attempt number `k` is the first one whose answer is anything but a fault that may pass; if there
is none among as many as the policy allows, and one in any case, it is the last of these. -/
abbrev EndsWith (p : RetryPolicy) (answer : Nat → Except AnalyzerFault α) (k : Nat) : Prop :=
  p.EndsFrom answer 1 k

namespace EndsFrom

variable {first k : Nat}

theorem eq_of_last (h : p.EndsFrom answer first k)
    (hlast : first < p.attempts → ¬ Passing (answer first)) : k = first := by
  by_contra hne
  have hless : first < k := Nat.lt_of_le_of_ne h.le (Ne.symm hne)
  have hmost := h.most
  exact hlast (by omega) (h.before first (Nat.le_refl _) hless)

theorem next (h : p.EndsFrom answer first k) (hpassing : Passing (answer first))
    (hleft : first < p.attempts) : p.EndsFrom answer (first + 1) k := by
  have hless : first < k := by
    refine Nat.lt_of_le_of_ne h.le fun heq => ?_
    subst heq
    exact h.last hleft hpassing
  have hmost := h.most
  exact ⟨hless, by omega, fun i hi hik => h.before i (by omega) hik, h.last⟩

theorem unique {k' : Nat} (h : p.EndsFrom answer first k) (h' : p.EndsFrom answer first k') :
    k = k' := by
  have hmost := h.most
  have hmost' := h'.most
  rcases Nat.lt_trichotomy k k' with hless | heq | hless
  · have hlast : k < p.attempts := by have hle := h.le; omega
    exact absurd (h'.before k h.le hless) (h.last hlast)
  · exact heq
  · have hlast : k' < p.attempts := by have hle := h'.le; omega
    exact absurd (h.before k' h'.le hless) (h'.last hlast)

end EndsFrom

/-- There is a last attempt, whatever the answers are. -/
theorem exists_endsFrom (p : RetryPolicy) (answer : Nat → Except AnalyzerFault α) :
    ∀ left first : Nat, p.attempts ≤ first + left → ∃ k, p.EndsFrom answer first k := by
  intro left
  induction left with
  | zero =>
      intro first henough
      exact ⟨first, Nat.le_refl _, Nat.le_max_left _ _, fun i hi hik => by omega,
        fun hc => by omega⟩
  | succ left ih =>
      intro first henough
      by_cases h : Passing (answer first) ∧ first < p.attempts
      · obtain ⟨k, hk⟩ := ih (first + 1) (by omega)
        have hle := hk.le
        have hmost := hk.most
        refine ⟨k, by omega, by omega, ?_, hk.last⟩
        intro i hi hik
        rcases Nat.eq_or_lt_of_le hi with rfl | hi
        · exact h.1
        · exact hk.before i hi hik
      · exact ⟨first, Nat.le_refl _, Nat.le_max_left _ _, fun i hi hik => by omega,
          fun hleft hpassing => h ⟨hpassing, hleft⟩⟩

/-- Exactly one attempt is the last one. -/
theorem existsUnique_endsWith (p : RetryPolicy) (answer : Nat → Except AnalyzerFault α) :
    ∃! k, p.EndsWith answer k := by
  obtain ⟨k, hends⟩ := exists_endsFrom p answer (p.attempts - 1) 1 (by omega)
  exact ⟨k, hends, fun k' hends' => hends'.unique hends⟩

/-! ### Times -/

/-- What passes between the start of attempt number `first` and that of the one `count` attempts
after it. -/
def elapsed (p : RetryPolicy) (took : Nat → Span) (first count : Nat) : Nat :=
  ∑ j ∈ Finset.range count, ((took (first + j)).nanos + (p.pause (first + j)).nanos)

theorem elapsed_succ (p : RetryPolicy) (took : Nat → Span) (first count : Nat) :
    p.elapsed took first (count + 1)
      = p.elapsed took first count + (took (first + count)).nanos
        + (p.pause (first + count)).nanos := by
  unfold elapsed
  rw [Finset.sum_range_succ, Nat.add_assoc]

theorem elapsed_succ' (p : RetryPolicy) (took : Nat → Span) (first count : Nat) :
    p.elapsed took first (count + 1)
      = (took first).nanos + (p.pause first).nanos + p.elapsed took (first + 1) count := by
  unfold elapsed
  rw [Finset.sum_range_succ', Nat.add_comm]
  refine congrArg₂ _ rfl (Finset.sum_congr rfl fun j _ => ?_)
  rw [show first + (j + 1) = first + 1 + j by omega]

/-- The starts and ends of the attempts from number `first`, which begins at `start`, to number
`first + more`. -/
structure Timetable (p : RetryPolicy) (answer : Nat → Except AnalyzerFault α) (took : Nat → Span)
    (first more : Nat) (start : Span) (run : Attempts α) : Prop where
  result : run.result = answer (first + more)
  starts : run.starts
    = (List.range (more + 1)).map fun j => ⟨start.nanos + p.elapsed took first j⟩
  ends : run.ends = (List.range (more + 1)).map fun j =>
    ⟨start.nanos + p.elapsed took first j + (took (first + j)).nanos⟩
  finish : run.finish
    = ⟨start.nanos + p.elapsed took first more + (took (first + more)).nanos⟩

theorem Timetable.unique {first more : Nat} {start : Span} {run run' : Attempts α}
    (h : p.Timetable answer took first more start run)
    (h' : p.Timetable answer took first more start run') : run = run' := by
  obtain ⟨result, starts, ends, finish⟩ := run
  obtain ⟨result', starts', ends', finish'⟩ := run'
  congr 1
  · exact h.result.trans h'.result.symm
  · exact h.starts.trans h'.starts.symm
  · exact h.ends.trans h'.ends.symm
  · exact h.finish.trans h'.finish.symm

/-- An attempt that is the last one. -/
theorem timetable_last {first : Nat} {start : Span} :
    p.Timetable answer took first 0 start ⟨answer first, [start],
      [⟨start.nanos + (took first).nanos⟩], ⟨start.nanos + (took first).nanos⟩⟩ :=
  ⟨rfl, rfl, rfl, rfl⟩

/-- An attempt, a pause, and the attempts after it. -/
theorem Timetable.before {first more : Nat} {start : Span} {run : Attempts α}
    (h : p.Timetable answer took (first + 1) more
      ⟨start.nanos + (took first).nanos + (p.pause first).nanos⟩ run) :
    p.Timetable answer took first (more + 1) start
      { run with
        starts := start :: run.starts
        ends := ⟨start.nanos + (took first).nanos⟩ :: run.ends } := by
  have hindex : ∀ j, first + 1 + j = first + (j + 1) := fun j => by omega
  have htime : ∀ j, start.nanos + (took first).nanos + (p.pause first).nanos
      + p.elapsed took (first + 1) j = start.nanos + p.elapsed took first (j + 1) := by
    intro j
    rw [elapsed_succ']
    omega
  refine ⟨?_, ?_, ?_, ?_⟩
  · show run.result = _
    rw [h.result, hindex]
  · show start :: run.starts = _
    rw [h.starts, List.range_succ_eq_map (n := more + 1), List.map_cons, List.map_map]
    refine congrArg₂ _ rfl (List.map_congr_left fun j _ => ?_)
    exact congrArg Span.mk (htime j)
  · show _ :: run.ends = _
    rw [h.ends, List.range_succ_eq_map (n := more + 1), List.map_cons, List.map_map]
    refine congrArg₂ _ rfl (List.map_congr_left fun j _ => ?_)
    show Span.mk _ = Span.mk _
    rw [htime, hindex]
  · show run.finish = _
    rw [h.finish, htime, hindex]

/-! ### The loop -/

/-- The loop goes by the timetable, if it is allowed as many attempts as the policy allows. -/
theorem runFrom_timetable :
    ∀ (left first k : Nat) (start : Span), p.attempts ≤ first + left →
      p.EndsFrom answer first k →
      p.Timetable answer took first (k - first) start (p.runFrom answer took left first start) := by
  intro left
  induction left with
  | zero =>
      intro first k start henough hends
      obtain rfl := hends.eq_of_last fun hc => by omega
      rw [Nat.sub_self]
      exact timetable_last
  | succ left ih =>
      intro first k start henough hends
      unfold runFrom
      dsimp only
      rcases pause?_cases p first (answer first) with ⟨hpassing, hleft, hpause⟩ | ⟨hlast, hpause⟩
      · rw [hpause]
        have hnext := hends.next hpassing hleft
        have hmore : k - first = k - (first + 1) + 1 := by have hle := hnext.le; omega
        rw [hmore]
        exact (ih (first + 1) k _ (by omega) hnext).before
      · rw [hpause]
        obtain rfl := hends.eq_of_last hlast
        rw [Nat.sub_self]
        exact timetable_last

/-- **The policy ends the loop**: being allowed more attempts changes nothing. -/
theorem runFrom_of_enough {left left' first : Nat} {start : Span}
    (henough : p.attempts ≤ first + left) (henough' : p.attempts ≤ first + left') :
    p.runFrom answer took left first start = p.runFrom answer took left' first start := by
  obtain ⟨k, hends⟩ := exists_endsFrom p answer left first henough
  exact (runFrom_timetable left first k start henough hends).unique
    (runFrom_timetable left' first k start henough' hends)

/-! ### What is seen of it -/

/-- A call is made `k` times, with nothing but the pauses between them. -/
structure Spaced (p : RetryPolicy) (answer : Nat → Except AnalyzerFault α) (took : Nat → Span)
    (k : Nat) (run : Attempts α) : Prop where
  /-- The last answer is passed on as it is. -/
  result : run.result = answer k
  calls : run.starts.length = k ∧ run.ends.length = k
  /-- After any answer but a fault that may pass the call is not made again. -/
  stops : ∀ i, 1 ≤ i → i ≤ k → ¬ Passing (answer i) → i = k
  /-- The first attempt begins at once. -/
  first : run.starts[0]? = some .zero
  lasts : ∀ i, i < k → ∃ start, run.starts[i]? = some start ∧
    run.ends[i]? = some ⟨start.nanos + (took (i + 1)).nanos⟩
  /-- From the end of an attempt to the start of the next one it takes the pause after that
  attempt. -/
  waits : ∀ i, i + 1 < k → ∃ ended, run.ends[i]? = some ended ∧
    run.starts[i + 1]? = some ⟨ended.nanos + (p.pause (i + 1)).nanos⟩
  /-- With the end of the last attempt it is all over. -/
  finish : run.ends[k - 1]? = some run.finish
  total : run.finish.nanos = ∑ i ∈ Finset.range k, (took (i + 1)).nanos
    + ∑ i ∈ Finset.range (k - 1), (p.pause (i + 1)).nanos
  bounded : ∑ i ∈ Finset.range (k - 1), (p.pause (i + 1)).nanos
    ≤ (max 1 p.attempts - 1) * p.longestPause.nanos

theorem sum_pauses_le (p : RetryPolicy) (count : Nat) :
    ∑ i ∈ Finset.range count, (p.pause (i + 1)).nanos ≤ count * p.longestPause.nanos := by
  calc ∑ i ∈ Finset.range count, (p.pause (i + 1)).nanos
      ≤ ∑ _i ∈ Finset.range count, p.longestPause.nanos :=
        Finset.sum_le_sum fun i _ => nanos_pause_le p (i + 1)
    _ = count * p.longestPause.nanos := by
        rw [Finset.sum_const_nat fun _ _ => rfl, Finset.card_range]

theorem elapsed_eq (p : RetryPolicy) (took : Nat → Span) (count : Nat) :
    p.elapsed took 1 count = ∑ i ∈ Finset.range count, (took (i + 1)).nanos
      + ∑ i ∈ Finset.range count, (p.pause (i + 1)).nanos := by
  unfold elapsed
  rw [← Finset.sum_add_distrib]
  refine Finset.sum_congr rfl fun j _ => ?_
  rw [Nat.add_comm 1 j]

/-- What the timetable of a whole run says. -/
theorem Timetable.spaced {more : Nat} {run : Attempts α}
    (h : p.Timetable answer took 1 more .zero run) (hends : p.EndsWith answer (1 + more)) :
    p.Spaced answer took (1 + more) run := by
  have hstart : ∀ i, i < more + 1 →
      run.starts[i]? = some ⟨Span.zero.nanos + p.elapsed took 1 i⟩ := by
    intro i hi
    rw [h.starts, List.getElem?_map, List.getElem?_range hi]
    rfl
  have hend : ∀ i, i < more + 1 → run.ends[i]?
      = some ⟨Span.zero.nanos + p.elapsed took 1 i + (took (i + 1)).nanos⟩ := by
    intro i hi
    rw [h.ends, List.getElem?_map, List.getElem?_range hi, Nat.add_comm i 1]
    rfl
  have hmost := hends.most
  refine ⟨h.result, ?_, ?_, ?_, ?_, ?_, ?_, ?_, ?_⟩
  · rw [h.starts, h.ends]
    simp only [List.length_map, List.length_range]
    omega
  · intro i hi hik hanswer
    by_contra hne
    exact hanswer (hends.before i hi (by omega))
  · rw [hstart 0 (by omega)]
    rfl
  · intro i hi
    exact ⟨_, hstart i (by omega), hend i (by omega)⟩
  · intro i hi
    refine ⟨_, hend i (by omega), ?_⟩
    rw [hstart (i + 1) (by omega), elapsed_succ, Nat.add_comm 1 i]
    simp only [Nat.add_assoc]
  · rw [Nat.add_sub_cancel_left, hend more (by omega), h.finish, Nat.add_comm more 1]
  · rw [h.finish, Nat.add_sub_cancel_left, Nat.add_comm 1 more, Finset.sum_range_succ]
    show 0 + p.elapsed took 1 more + (took (more + 1)).nanos = _
    rw [elapsed_eq]
    omega
  · rw [Nat.add_sub_cancel_left]
    exact Nat.le_trans (sum_pauses_le p more) (Nat.mul_le_mul_right _ (by omega))

theorem runTaking_spaced {k : Nat} (hends : p.EndsWith answer k) :
    p.Spaced answer took k (p.runTaking answer took) := by
  have htimes : p.Timetable answer took 1 (k - 1) .zero (p.runTaking answer took) :=
    runFrom_timetable _ 1 k .zero (by omega) hends
  have hk : 1 + (k - 1) = k := by have hle := hends.le; omega
  rw [← hk] at hends ⊢
  exact htimes.spaced hends

/-- Attempts that are answered at once. -/
example : (standard.run fun _ => (.error (.unavailable "busy") : Except AnalyzerFault Unit)).starts
    = [.zero, .ofMillis 200, .ofMillis 600] := rfl

end AnalysisDesk.RetryPolicy
