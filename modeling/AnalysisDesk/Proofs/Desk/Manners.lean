/-
The manners of a procedure.

A procedure is a tree, so what it does next is settled by what it did and what it
was answered.  `Flow.Keeps may ends` says of all its branches at once that `may`
holds of every action when it begins, and `ends` of every result, both seen
against the exchanges so far.  Nothing is assumed of the answers: manners hold
whatever the store and the analyzer say, and whoever else is at work.  A procedure
with manners does not collapse of itself, though it may be made to by the clock.

Most exchanges leave no trace in what follows.  The others are milestones, and
the manners of a procedure are mostly told by its milestones alone, last one
first.  The loops that try again pass none, so a procedure leaves such a loop with
the milestones with which it entered.
-/
import AnalysisDesk.Desk.Operations

namespace AnalysisDesk

/-- An action with its answer. -/
abbrev Exchange : Type := (action : Action) × action.Answer

namespace Exchange

/-- Whether an exchange settles what a procedure does after it. -/
def isMilestone : Exchange → Bool
  | ⟨.query _, _⟩ | ⟨.write _, _⟩ | ⟨.poll _, _⟩ | ⟨.freshId, _⟩ => true
  | ⟨.startPoller _ _ _, _⟩ | ⟨.stopPoller _, _⟩ | ⟨.stopAllPollers, _⟩ => true
  | ⟨.enqueue _, answer⟩ => answer.isOk
  | ⟨.abandon _ _, _⟩ | ⟨.sleep _, _⟩ | ⟨.now, _⟩ => false

theorem isMilestone_of_write {x : Exchange} {change : StoreWrite} (h : x.1 = .write change) :
    x.isMilestone = true := by
  obtain ⟨action, answer⟩ := x
  cases h
  rfl

/-- A call to the store that was answered with an error. -/
def Failed : Exchange → Prop
  | ⟨.query _, answer⟩ => ∃ cause, answer = .error cause
  | ⟨.write _, answer⟩ => ∃ cause, answer = .error cause
  | _ => False

instance : DecidablePred Failed
  | ⟨.query _, .error cause⟩ | ⟨.write _, .error cause⟩ => isTrue ⟨cause, rfl⟩
  | ⟨.query _, .ok _⟩ | ⟨.write _, .ok _⟩ => isFalse fun ⟨_, hc⟩ => nomatch hc
  | ⟨.enqueue _, _⟩ | ⟨.poll _, _⟩ | ⟨.abandon _ _, _⟩ | ⟨.sleep _, _⟩ | ⟨.now, _⟩ | ⟨.freshId, _⟩
  | ⟨.startPoller _ _ _, _⟩ | ⟨.stopPoller _, _⟩ | ⟨.stopAllPollers, _⟩ => isFalse id

end Exchange

/-- The milestones among some exchanges. -/
def milestones (past : List Exchange) : List Exchange := past.filter Exchange.isMilestone

@[simp] theorem milestones_nil : milestones [] = [] := rfl

theorem milestones_cons_of_milestone {x : Exchange} (h : x.isMilestone = true)
    (past : List Exchange) : milestones (x :: past) = x :: milestones past :=
  List.filter_cons_of_pos h

theorem milestones_cons_of_other {x : Exchange} (h : x.isMilestone = false)
    (past : List Exchange) : milestones (x :: past) = milestones past :=
  List.filter_cons_of_neg (by simp [h])

theorem milestones_cons_now (t : Instant) (past : List Exchange) :
    milestones (⟨.now, t⟩ :: past) = milestones past :=
  milestones_cons_of_other rfl past

theorem mem_of_mem_milestones {x : Exchange} {past : List Exchange} (h : x ∈ milestones past) :
    x ∈ past :=
  (List.mem_filter.mp h).1

namespace Flow

variable {α β : Type} {may may' : List Exchange → Action → Prop}
  {ends ends' : List Exchange → α → Prop}

/-- Every action may be begun, and every result is as it should be, after the exchanges so far. -/
def Keeps (may : List Exchange → Action → Prop) (ends : List Exchange → α → Prop) :
    List Exchange → Flow α → Prop
  | past, .done result => ends past result
  | _, .collapse _ => False
  | past, .act action next =>
    may past action ∧ ∀ answer, Keeps may ends (⟨action, answer⟩ :: past) (next answer)

theorem Keeps.mono (hmay : ∀ past action, may past action → may' past action)
    (hends : ∀ past result, ends past result → ends' past result) :
    ∀ {flow : Flow α} {past : List Exchange}, Keeps may ends past flow →
      Keeps may' ends' past flow := by
  intro flow
  induction flow with
  | done result => intro past h; exact hends _ _ h
  | collapse cause => exact fun h => h.elim
  | act action next ih =>
      intro past h
      exact ⟨hmay _ _ h.1, fun answer => ih answer (h.2 answer)⟩

/-- The manners of a procedure whose result is passed on. -/
theorem Keeps.map {ends : List Exchange → β → Prop} (f : α → β) :
    ∀ {flow : Flow α} {past : List Exchange},
      Keeps may (fun past result => ends past (f result)) past flow →
      Keeps may ends past (flow.map f) := by
  intro flow
  induction flow with
  | done result => intro past h; exact h
  | collapse cause => exact fun h => h.elim
  | act action next ih => intro past h; exact ⟨h.1, fun answer => ih answer (h.2 answer)⟩

/-! ### Where a procedure can get -/

/-- A procedure comes to another one by some exchanges, last one first. -/
inductive Leads (flow : Flow α) : List Exchange → Flow α → Prop
  | start : Leads flow [] flow
  | step {past : List Exchange} {action : Action} {next : action.Answer → Flow α}
      (h : Leads flow past (.act action next)) (answer : action.Answer) :
      Leads flow (⟨action, answer⟩ :: past) (next answer)

/-- Manners are kept all along the way. -/
theorem Leads.keeps {flow flow' : Flow α} {past : List Exchange} (h : Leads flow past flow')
    (hkeeps : Keeps may ends [] flow) : Keeps may ends past flow' := by
  induction h with
  | start => exact hkeeps
  | step _ answer ih => exact ih.2 answer

/-- Every action on the way might be begun after those before it. -/
theorem Leads.may_of_mem {flow flow' : Flow α} {past : List Exchange} (h : Leads flow past flow')
    (hkeeps : Keeps may ends [] flow) {x : Exchange} (hx : x ∈ past) :
    ∃ newer older, past = newer ++ x :: older ∧ may older x.1 := by
  induction h with
  | start => exact nomatch hx
  | @step past action next h answer ih =>
      rcases List.mem_cons.mp hx with rfl | hx
      · exact ⟨[], past, rfl, (h.keeps hkeeps).1⟩
      · obtain ⟨newer, older, rfl, hmay⟩ := ih hx
        exact ⟨_ :: newer, older, rfl, hmay⟩

end Flow

namespace Desk

variable {α : Type} {may : List Exchange → Action → Prop} {ends : List Exchange → α → Prop}

/-! ### Calls that are tried again -/

/-- Handing a job over ends with a handle, which is a milestone, or with a fault, which is none. -/
theorem enqueueFrom_keeps {policy : RetryPolicy} {spec : JobSpec}
    {next : Except AnalyzerFault String → Flow α} (ms : List Exchange)
    (henqueue : ∀ past, milestones past = ms → may past (.enqueue spec))
    (hsleep : ∀ past span, milestones past = ms → may past (.sleep span))
    (hok : ∀ past handle, milestones past = ⟨.enqueue spec, .ok handle⟩ :: ms →
      (next (.ok handle)).Keeps may ends past)
    (herror : ∀ past fault, milestones past = ms → (next (.error fault)).Keeps may ends past) :
    ∀ (left attempt : Nat) (past : List Exchange), milestones past = ms →
      (enqueueFrom policy spec next left attempt).Keeps may ends past := by
  have hanswer : ∀ (answer : Except AnalyzerFault String) (past : List Exchange),
      milestones past = ms → (next answer).Keeps may ends (⟨.enqueue spec, answer⟩ :: past) := by
    intro answer past h
    cases answer with
    | error fault => exact herror _ fault h
    | ok handle => exact hok _ handle (by rw [milestones_cons_of_milestone rfl, h])
  intro left
  induction left with
  | zero => intro attempt past h; exact ⟨henqueue past h, fun answer => hanswer answer past h⟩
  | succ left ih =>
      intro attempt past h
      refine ⟨henqueue past h, fun answer => ?_⟩
      cases hpause : policy.pause? attempt answer with
      | none => simp only [hpause]; exact hanswer answer past h
      | some pause =>
          cases answer with
          | ok handle => exact nomatch hpause
          | error fault =>
              simp only [hpause]
              exact ⟨hsleep _ pause h, fun _ => ih _ _ h⟩

/-- Telling the analyzer to drop a job passes no milestone, and it is told at least once. -/
theorem abandonFrom_keeps {policy : RetryPolicy} {job : JobId} {handle : String} {next : Flow α}
    (ms : List Exchange)
    (habandon : ∀ past, milestones past = ms → may past (.abandon job handle))
    (hsleep : ∀ past span, milestones past = ms → may past (.sleep span)) :
    ∀ (left attempt : Nat) (past : List Exchange), milestones past = ms →
      (∀ past', past <:+ past' → milestones past' = ms →
        (∃ answer, (⟨.abandon job handle, answer⟩ : Exchange) ∈ past') →
        next.Keeps may ends past') →
      (abandonFrom policy job handle next left attempt).Keeps may ends past := by
  intro left
  induction left with
  | zero =>
      intro attempt past h hnext
      refine ⟨habandon past h, fun answer => ?_⟩
      exact hnext _ (List.suffix_cons _ _) h ⟨answer, by simp⟩
  | succ left ih =>
      intro attempt past h hnext
      refine ⟨habandon past h, fun answer => ?_⟩
      cases hpause : policy.pause? attempt answer with
      | none =>
          simp only [hpause]
          exact hnext _ (List.suffix_cons _ _) h ⟨answer, by simp⟩
      | some pause =>
          simp only [hpause]
          refine ⟨hsleep _ pause h, fun _ => ih _ _ h fun past' hsuffix => hnext past' ?_⟩
          exact ((List.suffix_cons _ _).trans (List.suffix_cons _ _)).trans hsuffix

theorem abandonIfKnown_keeps {policy : RetryPolicy} {job : JobId} {handle : Option String}
    {next : Flow α} (ms : List Exchange) {past : List Exchange}
    (habandon : ∀ past h, handle = some h → milestones past = ms → may past (.abandon job h))
    (hsleep : ∀ past span, milestones past = ms → may past (.sleep span))
    (hpast : milestones past = ms)
    (hnext : ∀ past', past <:+ past' → milestones past' = ms →
      (∀ h, handle = some h → ∃ answer, (⟨.abandon job h, answer⟩ : Exchange) ∈ past') →
      next.Keeps may ends past') :
    (abandonIfKnown policy job handle next).Keeps may ends past := by
  cases handle with
  | none => exact hnext past (List.suffix_refl _) hpast fun h hc => nomatch hc
  | some handle =>
      refine abandonFrom_keeps ms (fun past h => habandon past handle rfl h) hsleep _ _ past hpast ?_
      intro past' hsuffix h' htold
      exact hnext past' hsuffix h' fun h hc => Option.some.inj hc ▸ htold

end Desk

end AnalysisDesk
