/-
What a procedure brings about in the store.

`Flow.Ensures rely post` says that a procedure comes to an end, and that `post`
holds of its result and of the store then.  The store answers as it stands;
everything else may be answered in any way and at any time, and before each of its
calls the store may have been changed by others as far as `rely` admits.  A
procedure is a tree whose branches all end, so nothing needs to be said about how
long it takes.  It must not collapse either; as the clock is not looked at, it must
not even start a poller.

A procedure that has the store for itself relies on everything staying as it is.
-/
import AnalysisDesk.Proofs.Desk.Shift

namespace AnalysisDesk

/-- Whatever is answered outside of the store and whatever others do that `rely` admits, a procedure
ends with a result and a store of which `post` holds. -/
def Flow.Ensures {α : Type} (rely : Store → Store → Prop) (post : α → Store → Prop) :
    Store → Flow α → Prop
  | s, .done result => post result s
  | _, .collapse _ => False
  | s, .act (.query question) next =>
    ∀ s', rely s s' → Ensures rely post s' (next (question.run s'))
  | s, .act (.write change) next =>
    ∀ s', rely s s' → ∀ now,
      Ensures rely post (change.run now s').2 (next (change.run now s').1)
  | s, .act (.enqueue _) next => ∀ answer, Ensures rely post s (next answer)
  | s, .act (.poll _) next => ∀ answer, Ensures rely post s (next answer)
  | s, .act (.abandon _ _) next => ∀ answer, Ensures rely post s (next answer)
  | s, .act (.sleep _) next => ∀ answer, Ensures rely post s (next answer)
  | s, .act .now next => ∀ answer, Ensures rely post s (next answer)
  | s, .act .freshId next => ∀ answer, Ensures rely post s (next answer)
  | _, .act (.startPoller _ _ _) _ => False
  | s, .act (.stopPoller _) next => ∀ answer, Ensures rely post s (next answer)
  | s, .act .stopAllPollers next => ∀ answer, Ensures rely post s (next answer)

/-- A procedure that has the store for itself ends with a result and a store of which `post`
holds. -/
abbrev Flow.Alone {α : Type} (post : α → Store → Prop) (s : Store) (flow : Flow α) : Prop :=
  flow.Ensures (fun s s' => s' = s) post s

namespace Flow.Ensures

variable {α : Type} {rely : Store → Store → Prop} {post post' : α → Store → Prop} {s s' : Store}

theorem done_iff {result : α} :
    (Flow.done result).Ensures rely post s ↔ post result s := Iff.rfl

theorem mono (hpost : ∀ result s, post result s → post' result s) :
    ∀ {flow : Flow α} {s : Store}, flow.Ensures rely post s → flow.Ensures rely post' s := by
  intro flow
  induction flow with
  | done result => exact fun h => hpost _ _ h
  | collapse cause => exact fun h => h.elim
  | act action next ih =>
      intro s h
      cases action with
      | query question => exact fun s' hs' => ih _ (h s' hs')
      | write change => exact fun s' hs' now => ih _ (h s' hs' now)
      | startPoller => exact h.elim
      | enqueue | poll | abandon | sleep | now | freshId | stopPoller | stopAllPollers =>
          exact fun answer => ih answer (h answer)

/-- What others do does not matter. -/
theorem steady (htrans : ∀ a b c, rely a b → rely b c → rely a c)
    (hpost : ∀ result a b, rely a b → post result a → post result b) :
    ∀ {flow : Flow α} {s s' : Store}, flow.Ensures rely post s → rely s s' →
      flow.Ensures rely post s' := by
  intro flow
  induction flow with
  | done result => exact fun h hs' => hpost _ _ _ hs' h
  | collapse cause => exact fun h _ => h.elim
  | act action next ih =>
      intro s s' h hs'
      cases action with
      | query question => exact fun t ht => h t (htrans _ _ _ hs' ht)
      | write change => exact fun t ht => h t (htrans _ _ _ hs' ht)
      | startPoller => exact h.elim
      | enqueue | poll | abandon | sleep | now | freshId | stopPoller | stopAllPollers =>
          exact fun answer => ih answer (h answer) hs'

/-- The result of a procedure is passed on. -/
theorem map {β : Type} {post : β → Store → Prop} (f : α → β) :
    ∀ {flow : Flow α} {s : Store}, flow.Ensures rely (fun result => post (f result)) s →
      (flow.map f).Ensures rely post s := by
  intro flow
  induction flow with
  | done result => exact fun h => h
  | collapse cause => exact fun h => h.elim
  | act action next ih =>
      intro s h
      cases action with
      | query question => exact fun s' hs' => ih _ (h s' hs')
      | write change => exact fun s' hs' now => ih _ (h s' hs' now)
      | startPoller => exact h.elim
      | enqueue | poll | abandon | sleep | now | freshId | stopPoller | stopAllPollers =>
          exact fun answer => ih answer (h answer)

end Flow.Ensures

namespace Desk

variable {α : Type} {rely : Store → Store → Prop} {post : α → Store → Prop} {s : Store}

/-- Telling the analyzer to drop a job leaves the store alone, however often it is told. -/
theorem abandonFrom_ensures {policy : RetryPolicy} {job : JobId} {handle : String} {next : Flow α}
    (h : next.Ensures rely post s) :
    ∀ left attempt : Nat, (abandonFrom policy job handle next left attempt).Ensures rely post s := by
  intro left
  induction left with
  | zero => exact fun attempt answer => h
  | succ left ih =>
      intro attempt answer
      cases hpause : policy.pause? attempt answer with
      | none => simp only [hpause]; exact h
      | some pause => simp only [hpause]; exact fun _ => ih _

theorem abandonIfKnown_ensures {policy : RetryPolicy} {job : JobId} {handle : Option String}
    {next : Flow α} (h : next.Ensures rely post s) :
    (abandonIfKnown policy job handle next).Ensures rely post s := by
  cases handle with
  | none => exact h
  | some handle => exact abandonFrom_ensures h _ _

end Desk

/-! ### Procedures under way -/

namespace Task

variable {α : Type} {rely : Store → Store → Prop} {post : α → Store → Prop} {s : Scene}

/-- The same for a procedure that may be waiting.  The answer of a call to the store is there as soon
as the call has begun. -/
def Ensures (rely : Store → Store → Prop) (post : α → Store → Prop) (s : Store) : Task α → Prop
  | .ready flow => flow.Ensures rely post s
  | .waiting _ action held next =>
    match action.settled? held with
    | some answer => (next answer).Ensures rely post s
    | none => ∀ answer, (next answer).Ensures rely post s

theorem Ensures.steady (htrans : ∀ a b c, rely a b → rely b c → rely a c)
    (hpost : ∀ result a b, rely a b → post result a → post result b) {task : Task α} {s s' : Store}
    (h : task.Ensures rely post s) (hs' : rely s s') : task.Ensures rely post s' := by
  match task with
  | .ready flow => exact Flow.Ensures.steady htrans hpost h hs'
  | .waiting wake action held next =>
      cases action with
      | query | write | now | freshId | startPoller | stopPoller | stopAllPollers =>
          have hnext : (next held).Ensures rely post s := h
          exact hnext.steady htrans hpost hs'
      | enqueue | poll | abandon | sleep =>
          exact fun answer => Flow.Ensures.steady htrans hpost (h answer) hs'

/-- **A step brings a procedure closer to what it ensures.** -/
theorem Ensures.step (hrefl : ∀ s, rely s s) {task : Task α} (h : task.Ensures rely post s.store) :
    (s.step task).1.Ensures rely post (s.step task).2.store := by
  match task with
  | .ready (.done result) => exact h
  | .ready (.collapse cause) => exact h.elim
  | .ready (.act action next) =>
      cases action with
      | query question => exact h _ (hrefl _)
      | write change => exact h _ (hrefl _) s.now
      | startPoller => exact h.elim
      | enqueue | poll | abandon | sleep => exact h
      | now | freshId | stopPoller | stopAllPollers => exact h _
  | .waiting wake action held next =>
      by_cases hwake : wake.nanos ≤ s.now.nanos
      · have hstep : s.step (.waiting wake action held next)
            = (.ready (next (s.conclude action held).1), (s.conclude action held).2) :=
          if_pos hwake
        rw [hstep]
        cases action with
        | query | write | now | freshId | startPoller | stopPoller | stopAllPollers => exact h
        | enqueue | poll | abandon | sleep => exact h _
      · have hstep : s.step (.waiting wake action held next) = (.waiting wake action held next, s) :=
          if_neg hwake
        rw [hstep]
        exact h

end Task

end AnalysisDesk
