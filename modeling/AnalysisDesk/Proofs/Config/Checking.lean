/-
What passes the check of a configuration.

The check collects problems, each of one setting or of two that have to fit together, and
passes what has none.  So what passes is told by one condition for each of the problems.
-/
import AnalysisDesk.Config.Check

namespace AnalysisDesk.Config

theorem settle_eq_ok_iff {problems : List Problem} : settle problems = .ok () ↔ problems = [] := by
  cases problems <;> simp [settle]

theorem check_eq_ok_iff (c : Config) : c.check = .ok () ↔ c.problems = [] := settle_eq_ok_iff

theorem problemIf_eq_nil_iff {bad : Bool} {problem : Problem} :
    problemIf bad problem = [] ↔ bad = false := by
  cases bad <;> simp [problemIf]

/-- An address that begins as those of the web do. -/
def BeginsAsWeb (url : String) : Prop :=
  "http://".toList <+: url.toList ∨ "https://".toList <+: url.toList

theorem isWeb_iff {url : String} : isWeb url = true ↔ BeginsAsWeb url := by
  unfold isWeb BeginsAsWeb
  rw [Bool.or_eq_true, String.startsWith_string_iff, String.startsWith_string_iff]

/-- A configuration that the service can work by. -/
structure Workable (c : Config) : Prop where
  interval : 0 < c.polling.interval
  sweepInterval : 0 < c.polling.sweepInterval
  requestTimeout : 0 < c.analyzer.requestTimeout
  attempts : 0 < c.retry.maxAttempts
  /-- There is time for one question at least. -/
  timeout : c.polling.interval < c.polling.timeout
  delays : c.retry.baseDelay ≤ c.retry.maxDelay
  url : BeginsAsWeb c.analyzer.url

/-- **The check passes what the service can work by**, and nothing else. -/
theorem check_eq_ok_iff_workable {c : Config} : c.check = .ok () ↔ c.Workable := by
  rw [check_eq_ok_iff]
  simp only [problems, List.append_eq_nil_iff, problemIf_eq_nil_iff, decide_eq_false_iff_not,
    Bool.not_eq_false', isWeb_iff, beq_eq_false_iff_ne]
  constructor
  · rintro ⟨⟨⟨⟨⟨⟨hinterval, hsweep⟩, htimeout⟩, hattempts⟩, hdelays⟩, hrequest⟩, hurl⟩
    exact ⟨Nat.pos_of_ne_zero hinterval, Nat.pos_of_ne_zero hsweep, Nat.pos_of_ne_zero hrequest,
      Nat.pos_of_ne_zero hattempts, Nat.not_le.mp htimeout, Nat.not_lt.mp hdelays, hurl⟩
  · intro h
    exact ⟨⟨⟨⟨⟨⟨Nat.ne_of_gt h.interval, Nat.ne_of_gt h.sweepInterval⟩, Nat.not_le.mpr h.timeout⟩,
      Nat.ne_of_gt h.attempts⟩, Nat.not_lt.mpr h.delays⟩, Nat.ne_of_gt h.requestTimeout⟩, h.url⟩

end AnalysisDesk.Config
