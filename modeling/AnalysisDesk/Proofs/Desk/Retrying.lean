/-
The calls that the desk tries again.

There are two of them, handing a job over and having it dropped.  Their loops differ in the call and
in what is made of its answer; `Flow.tryFrom` is what they have in common, a loop around any call
that a procedure makes and goes on from with the answer.  A procedure is a tree, so given the answers
there is only one way through it, and to say where the loop leads with which exchanges is to say all
that it does.

What a loop comes to is told attempt by attempt: as long as attempts fail with a fault that may pass,
it stands before the next one, with a pause behind each attempt so far.
-/
import AnalysisDesk.Proofs.Analyzer.Attempts
import AnalysisDesk.Proofs.Desk.Manners

namespace AnalysisDesk

open RetryPolicy

/-! ### The loop around a call -/

/-- Makes a call; attempt number `attempt`, after which `left` may follow. -/
def Flow.tryFrom {α β : Type} (policy : RetryPolicy)
    (call : (Except AnalyzerFault β → Flow α) → Flow α) (next : Except AnalyzerFault β → Flow α) :
    Nat → Nat → Flow α
  | 0, _ => call next
  | left + 1, attempt =>
    call fun answer =>
      match policy.pause? attempt answer with
      | none => next answer
      | some pause => .sleep pause (tryFrom policy call next left (attempt + 1))

namespace Desk

variable {α : Type} {policy : RetryPolicy}

theorem enqueueFrom_eq {spec : JobSpec} {next : Except AnalyzerFault String → Flow α} :
    ∀ left attempt : Nat, enqueueFrom policy spec next left attempt
      = Flow.tryFrom policy (Flow.enqueue spec) next left attempt := by
  intro left
  induction left with
  | zero => exact fun _ => rfl
  | succ left ih =>
      intro attempt
      refine congrArg (Flow.enqueue spec) (funext fun answer => ?_)
      cases policy.pause? attempt answer with
      | none => rfl
      | some pause => exact congrArg (Flow.sleep pause) (ih (attempt + 1))

theorem abandonFrom_eq {job : JobId} {handle : String} {next : Flow α} :
    ∀ left attempt : Nat, abandonFrom policy job handle next left attempt
      = Flow.tryFrom policy (Flow.abandon job handle) (fun _ => next) left attempt := by
  intro left
  induction left with
  | zero => exact fun _ => rfl
  | succ left ih =>
      intro attempt
      refine congrArg (Flow.abandon job handle) (funext fun answer => ?_)
      cases policy.pause? attempt answer with
      | none => rfl
      | some pause => exact congrArg (Flow.sleep pause) (ih (attempt + 1))

end Desk

/-! ### What the loop does -/

/-- The first attempts of a call, as many as given, with the pause after each; last one first. -/
def RetryPolicy.retried (p : RetryPolicy) (exchange : Nat → Exchange) : Nat → List Exchange
  | 0 => []
  | k + 1 => ⟨.sleep (p.pause (k + 1)), ()⟩ :: exchange (k + 1) :: retried p exchange k

namespace Flow

variable {α β : Type} {policy : RetryPolicy} {call : (Except AnalyzerFault β → Flow α) → Flow α}
  {next : Except AnalyzerFault β → Flow α} {exchange : Except AnalyzerFault β → Exchange}
  {flow : Flow α} {past : List Exchange} {left attempt : Nat} {answer : Except AnalyzerFault β}

/-- Whoever makes the call has one exchange and goes on with its answer. -/
def Makes (call : (Except AnalyzerFault β → Flow α) → Flow α)
    (exchange : Except AnalyzerFault β → Exchange) : Prop :=
  ∀ {flow : Flow α} {past : List Exchange} {next : Except AnalyzerFault β → Flow α},
    flow.Leads past (call next) → ∀ answer, flow.Leads (exchange answer :: past) (next answer)

theorem makes_enqueue (spec : JobSpec) :
    Makes (α := α) (Flow.enqueue spec) fun answer => ⟨.enqueue spec, answer⟩ :=
  fun h answer => h.step answer

theorem makes_abandon (job : JobId) (handle : String) :
    Makes (α := α) (Flow.abandon job handle) fun answer => ⟨.abandon job handle, answer⟩ :=
  fun h answer => h.step answer

/-- After a fault that may pass there is a pause, and then the loop stands before another attempt. -/
theorem Leads.tryAgain (hcall : Makes call exchange)
    (h : flow.Leads past (tryFrom policy call next (left + 1) attempt)) (hpassing : Passing answer)
    (hleft : attempt < policy.attempts) :
    flow.Leads (⟨.sleep (policy.pause attempt), ()⟩ :: exchange answer :: past)
      (tryFrom policy call next left (attempt + 1)) := by
  have hstep := hcall h answer
  simp only [pause?_eq_some hpassing hleft] at hstep
  exact hstep.step ()

/-- After any other answer, and after the last attempt there may be, the loop is left. -/
theorem Leads.tryNoMore (hcall : Makes call exchange)
    (h : flow.Leads past (tryFrom policy call next left attempt))
    (hlast : attempt < policy.attempts → ¬ Passing answer) :
    flow.Leads (exchange answer :: past) (next answer) := by
  cases left with
  | zero => exact hcall h answer
  | succ left =>
      have hstep := hcall h answer
      simp only [pause?_eq_none hlast] at hstep
      exact hstep

variable {answers : Nat → Except AnalyzerFault β} {k : Nat}

/-- Before each attempt that is made, the ones before it have failed and been waited for. -/
theorem leads_retried (hcall : Makes call exchange) (hends : policy.EndsWith answers k) :
    ∀ done, done + 1 ≤ k →
      (tryFrom policy call next (policy.attempts - 1) 1).Leads
        (policy.retried (fun i => exchange (answers i)) done)
        (tryFrom policy call next (policy.attempts - 1 - done) (done + 1)) := by
  intro done
  induction done with
  | zero => exact fun _ => .start
  | succ done ih =>
      intro hdone
      have hmost := hends.most
      have hbefore := ih (by omega)
      have hleft : policy.attempts - 1 - done = policy.attempts - 1 - (done + 1) + 1 := by omega
      rw [hleft] at hbefore
      exact hbefore.tryAgain hcall (hends.before (done + 1) (by omega) (by omega)) (by omega)

theorem leads_tried (hcall : Makes call exchange) (hends : policy.EndsWith answers k) :
    (tryFrom policy call next (policy.attempts - 1) 1).Leads
      (exchange (answers k) :: policy.retried (fun i => exchange (answers i)) (k - 1))
      (next (answers k)) := by
  have hle := hends.le
  have hk : k - 1 + 1 = k := by omega
  have hbefore : (tryFrom policy call next (policy.attempts - 1) 1).Leads _ _ :=
    leads_retried hcall hends (k - 1) (by omega)
  rw [hk] at hbefore
  exact hbefore.tryNoMore hcall hends.last

end Flow

/-- **Calls are tried again as often as they have to be and may be.**  This holds of a call by itself,
whatever its attempts are answered and however long they take, and of the two calls that the desk
tries again: it makes the same attempts with the same pauses between them, and goes on with the
answer to the last one. -/
theorem retries_are_bounded (p : RetryPolicy) :
    (∀ {α : Type} (answer : Nat → Except AnalyzerFault α) (took : Nat → Span),
      ∃ k, p.EndsWith answer k ∧ p.Spaced answer took k (p.runTaking answer took) ∧
        ∀ more, p.runFrom answer took (p.attempts - 1 + more) 1 .zero = p.runTaking answer took) ∧
    (∀ {α : Type} (spec : JobSpec) (next : Except AnalyzerFault String → Flow α)
      (answer : Nat → Except AnalyzerFault String),
      ∃ k, p.EndsWith answer k ∧ (Desk.enqueue p spec next).Leads
        (⟨.enqueue spec, answer k⟩ :: p.retried (fun i => ⟨.enqueue spec, answer i⟩) (k - 1))
        (next (answer k))) ∧
    (∀ {α : Type} (job : JobId) (handle : String) (next : Flow α)
      (answer : Nat → Except AnalyzerFault Unit),
      ∃ k, p.EndsWith answer k ∧ (Desk.abandon p job handle next).Leads
        (⟨.abandon job handle, answer k⟩
          :: p.retried (fun i => ⟨.abandon job handle, answer i⟩) (k - 1)) next) := by
  refine ⟨?_, ?_, ?_⟩
  · intro α answer took
    obtain ⟨k, hends, -⟩ := p.existsUnique_endsWith answer
    exact ⟨k, hends, runTaking_spaced hends,
      fun more => runFrom_of_enough (by omega) (by omega)⟩
  · intro α spec next answer
    obtain ⟨k, hends, -⟩ := p.existsUnique_endsWith answer
    refine ⟨k, hends, ?_⟩
    unfold Desk.enqueue
    rw [Desk.enqueueFrom_eq]
    exact Flow.leads_tried (Flow.makes_enqueue spec) hends
  · intro α job handle next answer
    obtain ⟨k, hends, -⟩ := p.existsUnique_endsWith answer
    refine ⟨k, hends, ?_⟩
    unfold Desk.abandon
    rw [Desk.abandonFrom_eq]
    exact Flow.leads_tried (Flow.makes_abandon job handle) hends

end AnalysisDesk
