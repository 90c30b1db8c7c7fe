/-
How long the pauses are.

A pause is worked out in steps, and each step stops at a limit of its own: the power of two at
thirty-two bits, its product with the first pause at the longest span there is, the result at the
longest pause.  The longest pause is a span too, so whatever the second limit cuts off, the third
would have cut off as well, and nothing shows of it.  The first limit shows only where the first
pause is so short that thirty-two doublings do not bring it to the longest one.

So a pause is one minimum over exact numbers, `nanos_pause`, and how the pauses grow is read off it.
-/
import AnalysisDesk.Analyzer.Backoff
import Mathlib.Algebra.Ring.Nat

namespace AnalysisDesk

namespace Span

/-- A span has room in sixty-four bits of seconds and the nanoseconds after them. -/
def Fits (s : Span) : Prop := s.nanos ≤ longest.nanos

/-! ### Multiples -/

/-- Seconds and nanoseconds, multiplied apart and carried over, are a multiple of the whole. -/
theorem carried_mul (s : Span) (k : Nat) :
    (s.seconds * k + s.subsecNanos * k / nanosPerSecond) * nanosPerSecond
      + s.subsecNanos * k % nanosPerSecond = s.nanos * k := by
  have hparts : s.seconds * nanosPerSecond + s.subsecNanos = s.nanos :=
    Nat.div_add_mod' s.nanos nanosPerSecond
  have hcarry := Nat.div_add_mod' (s.subsecNanos * k) nanosPerSecond
  calc (s.seconds * k + s.subsecNanos * k / nanosPerSecond) * nanosPerSecond
        + s.subsecNanos * k % nanosPerSecond
      = s.seconds * k * nanosPerSecond + (s.subsecNanos * k / nanosPerSecond * nanosPerSecond
        + s.subsecNanos * k % nanosPerSecond) := by rw [Nat.add_mul, Nat.add_assoc]
    _ = s.seconds * nanosPerSecond * k + s.subsecNanos * k := by
        rw [hcarry, Nat.mul_right_comm]
    _ = s.nanos * k := by rw [← Nat.add_mul, hparts]

theorem nanos_times (s : Span) (k : Nat) :
    (s.times k).nanos = min (s.nanos * k) longest.nanos := by
  have hwhole := carried_mul s k
  have hrest : s.subsecNanos * k % nanosPerSecond < nanosPerSecond := Nat.mod_lt _ (by decide)
  have hlongest : longest.nanos = (Limit.word64 + 1) * nanosPerSecond - 1 := rfl
  unfold times
  dsimp only
  rw [hlongest]
  unfold nanosPerSecond Limit.word64 at *
  by_cases h : s.seconds * k + s.subsecNanos * k / 1000000000 ≤ 18446744073709551615
  · rw [if_pos h]
    dsimp only
    omega
  · rw [if_neg h, hlongest]
    omega

theorem nanos_atMost (s limit : Span) : (s.atMost limit).nanos = min s.nanos limit.nanos := by
  unfold atMost
  by_cases h : s.nanos ≤ limit.nanos
  · rw [if_pos h]
    omega
  · rw [if_neg h]
    omega

end Span

namespace RetryPolicy

/-! ### What the first pause is multiplied by -/

theorem factor_eq (attempt : Nat) :
    factor attempt = min (2 ^ (max attempt 1 - 1)) (2 ^ 32 - 1) := by
  have hexponent : max attempt 1 - 1 = attempt - 1 := by omega
  rw [hexponent]
  unfold factor
  by_cases h : 32 ≤ attempt - 1
  · rw [if_pos h]
    have hpower : 2 ^ 32 ≤ 2 ^ (attempt - 1) := Nat.pow_le_pow_right (by decide) h
    show 4294967295 = _
    omega
  · rw [if_neg h]
    have hpower : 2 ^ (attempt - 1) ≤ 2 ^ 31 := Nat.pow_le_pow_right (by decide) (by omega)
    show 2 ^ (attempt - 1) = _
    omega

theorem factor_mono {a b : Nat} (h : a ≤ b) : factor a ≤ factor b := by
  have hpower : 2 ^ (max a 1 - 1) ≤ 2 ^ (max b 1 - 1) :=
    Nat.pow_le_pow_right (by decide) (by omega)
  rw [factor_eq, factor_eq]
  omega

theorem factor_succ_le (attempt : Nat) : factor (attempt + 1) ≤ 2 * factor attempt := by
  have hpower : 2 ^ (max (attempt + 1) 1 - 1) ≤ 2 ^ (max attempt 1 - 1 + 1) :=
    Nat.pow_le_pow_right (by decide) (by omega)
  rw [Nat.pow_succ] at hpower
  rw [factor_eq, factor_eq]
  omega

/-! ### Pauses -/

variable {p : RetryPolicy}

theorem nanos_pause (hp : p.longestPause.Fits) (attempt : Nat) :
    (p.pause attempt).nanos
      = min p.longestPause.nanos (p.firstPause.nanos * factor attempt) := by
  have hfits : p.longestPause.nanos ≤ Span.longest.nanos := hp
  unfold pause
  rw [Span.nanos_atMost, Span.nanos_times]
  omega

theorem nanos_pause_le (p : RetryPolicy) (attempt : Nat) :
    (p.pause attempt).nanos ≤ p.longestPause.nanos := by
  unfold pause
  rw [Span.nanos_atMost]
  exact Nat.min_le_right _ _

/-- How the pauses of a policy grow, in nanoseconds. -/
structure GrowsByDoubling (p : RetryPolicy) : Prop where
  exact : ∀ attempt, (p.pause attempt).nanos
    = min p.longestPause.nanos
        (p.firstPause.nanos * min (2 ^ (max attempt 1 - 1)) (2 ^ 32 - 1))
  /-- The product that is carried over, the only one without a limit, has room in sixty-four
  bits. -/
  carry : ∀ attempt, p.firstPause.subsecNanos * factor attempt < 2 ^ 64
  bounded : ∀ attempt, (p.pause attempt).nanos ≤ p.longestPause.nanos
  monotone : ∀ a b, a ≤ b → (p.pause a).nanos ≤ (p.pause b).nanos
  doubles : ∀ attempt, (p.pause (attempt + 1)).nanos ≤ 2 * (p.pause attempt).nanos
  /-- The limit of the power does not show where it lies beyond the longest pause. -/
  ideal : p.longestPause.nanos ≤ p.firstPause.nanos * (2 ^ 32 - 1) → ∀ attempt, 1 ≤ attempt →
    (p.pause attempt).nanos
      = min p.longestPause.nanos (p.firstPause.nanos * 2 ^ (attempt - 1))

theorem carry_lt (p : RetryPolicy) (attempt : Nat) :
    p.firstPause.subsecNanos * factor attempt < 2 ^ 64 := by
  have hnanos : p.firstPause.subsecNanos < 1000000000 := Nat.mod_lt _ (by decide)
  have hfactor : factor attempt ≤ 2 ^ 32 - 1 := by
    rw [factor_eq]
    exact Nat.min_le_right _ _
  calc p.firstPause.subsecNanos * factor attempt
      ≤ 1000000000 * (2 ^ 32 - 1) := Nat.mul_le_mul (Nat.le_of_lt hnanos) hfactor
    _ < 2 ^ 64 := by decide

/-- Once the power has come to its limit, the pause is the longest one. -/
private theorem ideal_of_limit {longest first power : Nat}
    (hlimit : longest ≤ first * (2 ^ 32 - 1)) :
    min longest (first * min power (2 ^ 32 - 1)) = min longest (first * power) := by
  rcases Nat.le_total power (2 ^ 32 - 1) with h | h
  · rw [Nat.min_eq_left h]
  · rw [Nat.min_eq_right h, Nat.min_eq_left hlimit,
      Nat.min_eq_left (Nat.le_trans hlimit (Nat.mul_le_mul_left first h))]

/-- **Pauses double from one attempt to the next up to the longest one.** -/
theorem pauses_double (p : RetryPolicy) (hp : p.longestPause.Fits) : p.GrowsByDoubling := by
  have hexact : ∀ attempt, (p.pause attempt).nanos
      = min p.longestPause.nanos
          (p.firstPause.nanos * min (2 ^ (max attempt 1 - 1)) (2 ^ 32 - 1)) := by
    intro attempt
    rw [nanos_pause hp, factor_eq]
  refine ⟨hexact, carry_lt p, nanos_pause_le p, ?_, ?_, ?_⟩
  · intro a b hab
    have hproduct := Nat.mul_le_mul_left p.firstPause.nanos (factor_mono hab)
    rw [nanos_pause hp, nanos_pause hp]
    omega
  · intro attempt
    have hproduct := Nat.mul_le_mul_left p.firstPause.nanos (factor_succ_le attempt)
    rw [Nat.mul_left_comm] at hproduct
    rw [nanos_pause hp, nanos_pause hp]
    omega
  · intro hlimit attempt hattempt
    have hexponent : max attempt 1 - 1 = attempt - 1 := by omega
    rw [hexact, ideal_of_limit hlimit, hexponent]

/-- A first pause that is longer than the longest one, and a longest one that is as long as can be. -/
theorem pauses_double_at_limits :
    (Span.longest.Fits ∧ GrowsByDoubling ⟨0, ⟨1500000001⟩, Span.longest⟩) ∧
      (Span.Fits ⟨1⟩ ∧ GrowsByDoubling ⟨4294967295, Span.longest, ⟨1⟩⟩) := by
  have hlongest : Span.longest.Fits := Nat.le_refl _
  have hshort : Span.Fits ⟨1⟩ := by
    unfold Span.Fits
    decide
  exact ⟨⟨hlongest, pauses_double _ hlongest⟩, ⟨hshort, pauses_double _ hshort⟩⟩

end RetryPolicy

end AnalysisDesk
