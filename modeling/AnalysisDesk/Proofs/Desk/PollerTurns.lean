/-
How a poller gets done with what it is at.

A poller that has begun to act goes on for one step at every turn it is given, and
between two turns others may do what they like with other jobs.  What the poller
brings about in the store is what its procedure ensures under such company
(`Flow.Ensures`).  That it gets there is a matter of counting: a procedure that only
calls the store needs two turns for each call, one to begin it and one to take the
answer, and neither can be held up, for calls to the store take no time.
-/
import AnalysisDesk.Proofs.Desk.Ensuring
import Mathlib.Logic.Function.Iterate

namespace AnalysisDesk

/-! ### Company that leaves a job alone -/

/-- What others may do to a store when they leave a job alone. -/
structure Store.Spares (job : JobId) (s s' : Store) : Prop where
  reached : s.Reached → s'.Reached
  row : s'.jobRow? job = s.jobRow? job

namespace Store.Spares

variable {job : JobId} {s t u : Store}

theorem refl (job : JobId) (s : Store) : s.Spares job s := ⟨id, rfl⟩

theorem trans (h : s.Spares job t) (h' : t.Spares job u) : s.Spares job u :=
  ⟨fun hs => h'.reached (h.reached hs), h'.row.trans h.row⟩

end Store.Spares

/-- What others may do to a scene when they leave a job and its poller alone.  Meanwhile time may
pass. -/
structure Scene.Spares (job : JobId) (s s' : Scene) : Prop where
  store : s.store.Spares job s'.store
  poller : s'.poller? job = s.poller? job
  later : s.now.nanos ≤ s'.now.nanos

/-- The poller on a job has had some turns, and before, between and after them others have left the
job alone. -/
def Scene.HasTurned (job : JobId) : Nat → Scene → Scene → Prop
  | 0, s, s' => s.Spares job s'
  | turns + 1, s, s' => ∃ t, s.Spares job t ∧ HasTurned job turns (t.turnPoller Scene.step job) s'

namespace Scene

theorem Spares.refl (job : JobId) (s : Scene) : s.Spares job s :=
  ⟨Store.Spares.refl job s.store, rfl, Int.le_refl _⟩

/-- Nobody else needs to do anything. -/
theorem hasTurned_iterate (job : JobId) : ∀ (turns : Nat) (s : Scene),
    HasTurned job turns s ((fun s : Scene => s.turnPoller Scene.step job)^[turns] s) := by
  intro turns
  induction turns with
  | zero => exact fun s => Spares.refl job s
  | succ turns ih => exact fun s => ⟨s, Spares.refl job s, ih _⟩

end Scene

/-! ### The poller on a job -/

namespace Scene

variable {s : Scene} {job : JobId} {poller : Poller}

theorem poller?_stopPoller (s : Scene) (job : JobId) : (s.stopPoller job).poller? job = none := by
  unfold poller? stopPoller
  rw [List.find?_eq_none]
  intro other hother hjob
  have hne : (other.job != job) = true := (List.mem_filter.mp hother).2
  simp [eq_of_beq hjob] at hne

theorem poller?_putPoller (h : s.poller? job = some poller) {poller' : Poller}
    (hjob : poller'.job = job) : (s.putPoller job (some poller')).poller? job = some poller' := by
  have hsame : ((fun other : Poller => other.job == job) ∘
      fun other => if other.job = job then poller' else other) = fun other => other.job == job := by
    funext other
    by_cases hother : other.job = job
    · simp [hother, hjob]
    · simp [hother]
  have hfound : s.pollers.find? (fun other => other.job == job) = some poller := h
  show (s.pollers.map fun other => if other.job = job then poller' else other).find? _ = _
  rw [List.find?_map, hsame, hfound, Option.map_some, if_pos (poller?_job h)]

end Scene

/-- What becomes of a poller after a step of its check. -/
def Poller.afterCheck (poller : Poller) : Task Bool → Option Poller
  | .ready (.done true) => some { poller with phase := .waiting }
  | .ready (.done false) => none
  | task => some { poller with phase := .checking task }

theorem Scene.turnPoller_of_checking {s : Scene} {job : JobId} {poller : Poller} {task : Task Bool}
    (h : s.poller? job = some poller) (hphase : poller.phase = .checking task) :
    s.turnPoller Scene.step job
      = (s.step task).2.putPoller job (poller.afterCheck (s.step task).1) := by
  unfold Scene.turnPoller Poller.turn
  rw [h]
  dsimp only
  rw [hphase]
  dsimp only
  obtain ⟨task', s'⟩ := s.step task
  match task' with
  | .ready (.done true) => rfl
  | .ready (.done false) => rfl
  | .ready (.collapse _) => rfl
  | .ready (.act _ _) => rfl
  | .waiting _ _ _ _ => rfl

theorem Poller.afterCheck_of_underway (poller : Poller) {task : Task Bool}
    (h : ∀ result, task ≠ .ready (.done result)) :
    poller.afterCheck task = some { poller with phase := .checking task } := by
  match task with
  | .ready (.done result) => exact absurd rfl (h result)
  | .ready (.collapse _) | .ready (.act _ _) | .waiting _ _ _ _ => rfl

/-- A poller whose check is not over stays at it. -/
theorem Scene.poller?_turnPoller {s : Scene} {job : JobId} {poller : Poller} {task : Task Bool}
    (h : s.poller? job = some poller) (hphase : poller.phase = .checking task)
    (hpollers : (s.step task).2.pollers = s.pollers)
    (hunderway : ∀ result, (s.step task).1 ≠ .ready (.done result)) :
    (s.turnPoller Scene.step job).poller? job
      = some { poller with phase := .checking (s.step task).1 } := by
  have hpoller : (s.step task).2.poller? job = some poller := by
    unfold poller?
    rw [hpollers]
    exact h
  have hjob : poller.job = job := poller?_job h
  rw [turnPoller_of_checking h hphase, poller.afterCheck_of_underway hunderway]
  exact poller?_putPoller hpoller hjob

/-! ### The clock -/

namespace Scene

variable {s s' : Scene} {job : JobId}

theorem store_putPoller (s : Scene) (job : JobId) (put : Option Poller) :
    (s.putPoller job put).store = s.store := by
  cases put <;> rfl

theorem now_putPoller (s : Scene) (job : JobId) (put : Option Poller) :
    (s.putPoller job put).now = s.now := by
  cases put <;> rfl

/-- The clock stands still while somebody takes a step. -/
theorem now_step {α : Type} (s : Scene) (task : Task α) : (s.step task).2.now = s.now := by
  match task with
  | .ready (.done _) | .ready (.collapse _) => rfl
  | .ready (.act action next) =>
      cases hroom : s.overflow? action with
      | none =>
          rw [step_act hroom]
          cases action <;> rfl
      | some cause => simp only [step, hroom]
  | .waiting wake action held next =>
      by_cases hwake : wake.nanos ≤ s.now.nanos
      · have hstep : s.step (.waiting wake action held next)
            = (.ready (next (s.conclude action held).1), (s.conclude action held).2) := if_pos hwake
        rw [hstep]
        cases action <;> rfl
      · have hstep : s.step (.waiting wake action held next) = (.waiting wake action held next, s) :=
          if_neg hwake
        rw [hstep]

theorem now_turnPoller (s : Scene) (job : JobId) :
    (s.turnPoller Scene.step job).now = s.now := by
  have hturn : ∀ poller : Poller, (poller.turn Scene.step s).2.now = s.now := by
    intro poller
    unfold Poller.turn
    cases poller.phase with
    | halted | waiting => rfl
    | checking task =>
        have hnow := s.now_step task
        dsimp only
        generalize s.step task = stepped at hnow ⊢
        match stepped with
        | (.ready (.done true), _) | (.ready (.done false), _) | (.ready (.collapse _), _)
        | (.ready (.act _ _), _) | (.waiting _ _ _ _, _) => exact hnow
    | expiring task =>
        have hnow := s.now_step task
        dsimp only
        generalize s.step task = stepped at hnow ⊢
        match stepped with
        | (.ready (.done ()), _) | (.ready (.collapse _), _) | (.ready (.act _ _), _)
        | (.waiting _ _ _ _, _) => exact hnow
  unfold turnPoller
  cases s.poller? job with
  | none => rfl
  | some poller => exact (now_putPoller _ _ _).trans (hturn poller)

theorem HasTurned.later : ∀ {turns : Nat} {s : Scene}, HasTurned job turns s s' →
    s.now.nanos ≤ s'.now.nanos := by
  intro turns
  induction turns with
  | zero => exact fun h => Spares.later h
  | succ turns ih =>
      rintro s ⟨t, hspares, hrest⟩
      have hnow := ih hrest
      rw [now_turnPoller] at hnow
      exact Int.le_trans hspares.later hnow

/-- **A poller that waits goes on waiting** until its next tick or its deadline, however many turns it
is given. -/
theorem HasTurned.waits {poller : Poller} (hphase : poller.phase = .waiting) :
    ∀ {turns : Nat} {s : Scene}, HasTurned job turns s s' → s.poller? job = some poller →
      s'.now.nanos < poller.deadline.nanos → s'.now.nanos < poller.nextTick.nanos →
      s'.poller? job = some poller ∧ s'.store.jobRow? job = s.store.jobRow? job := by
  intro turns
  induction turns with
  | zero => exact fun h hpoller _ _ => ⟨h.poller.trans hpoller, h.store.row⟩
  | succ turns ih =>
      rintro s ⟨t, hspares, hrest⟩ hpoller hdeadline htick
      have hpoller' := hspares.poller.trans hpoller
      have hlater := hrest.later
      rw [now_turnPoller] at hlater
      have hidle : poller.awaken t = poller := by
        unfold Poller.awaken
        rw [if_neg (by omega), if_neg (by omega)]
      have hturn : t.turnPoller Scene.step job = t.putPoller job (some poller) := by
        unfold turnPoller Poller.turn
        rw [hpoller']
        dsimp only
        rw [hphase]
        dsimp only
        rw [hidle]
      rw [hturn] at hrest
      obtain ⟨hafter, hrow⟩ :=
        ih hrest (poller?_putPoller hpoller' (poller?_job hpoller')) hdeadline htick
      exact ⟨hafter, hrow.trans hspares.store.row⟩

end Scene

/-! ### Procedures that only call the store -/

/-- A procedure that makes so many calls to the store at most, and does nothing else. -/
def Flow.OnlyCalls {α : Type} : Nat → Flow α → Prop
  | _, .done _ => True
  | _, .collapse _ => False
  | 0, .act _ _ => False
  | calls + 1, .act action next =>
    action.isStoreCall = true ∧ ∀ answer, (next answer).OnlyCalls calls

theorem Flow.OnlyCalls.map {α β : Type} (f : α → β) :
    ∀ {calls : Nat} {flow : Flow α}, flow.OnlyCalls calls → (flow.map f).OnlyCalls calls := by
  intro calls
  induction calls with
  | zero =>
      intro flow h
      cases flow with
      | done result => trivial
      | collapse cause => exact h.elim
      | act action next => exact h.elim
  | succ calls ih =>
      intro flow h
      cases flow with
      | done result => trivial
      | collapse cause => exact h.elim
      | act action next => exact ⟨h.1, fun answer => ih (h.2 answer)⟩

namespace Task

variable {α : Type}

/-- A task that is over after so many steps at most. -/
inductive Nears (now : Instant) : Nat → Task α → Prop
  | ready {flow : Flow α} {calls : Nat} (h : flow.OnlyCalls calls) :
      Nears now (2 * calls) (.ready flow)
  | waiting {wake : Instant} {action : Action} {held : action.Held} {next : action.Answer → Flow α}
      {calls : Nat} (hcall : action.isStoreCall = true) (hwake : wake.nanos ≤ now.nanos)
      (h : ∀ answer, (next answer).OnlyCalls calls) :
      Nears now (2 * calls + 1) (.waiting wake action held next)

theorem Nears.later {now now' : Instant} (hlater : now.nanos ≤ now'.nanos) {steps : Nat}
    {task : Task α} (h : task.Nears now steps) : task.Nears now' steps := by
  cases h with
  | ready h => exact .ready h
  | waiting hcall hwake h => exact .waiting hcall (Int.le_trans hwake hlater) h

/-- **A step brings a task nearer to its end**, and changes nothing but the store. -/
theorem Nears.step {s : Scene} {steps : Nat} {task : Task α} (h : task.Nears s.now steps) :
    (∃ result, task = .ready (.done result)) ∨
      ∃ left, steps = left + 1 ∧ (s.step task).1.Nears s.now left ∧
        ∃ store, (s.step task).2 = { s with store } := by
  cases h with
  | @ready flow calls h =>
      cases flow with
      | done result => exact Or.inl ⟨result, rfl⟩
      | collapse cause => cases calls <;> exact h.elim
      | act action next =>
          cases calls with
          | zero => exact h.elim
          | succ calls =>
              refine Or.inr ⟨2 * calls + 1, rfl, ?_⟩
              obtain ⟨hcall, hnext⟩ := h
              cases action with
              | query question => exact ⟨.waiting hcall (Int.le_refl _) hnext, s.store, rfl⟩
              | write change => exact ⟨.waiting hcall (Int.le_refl _) hnext, _, rfl⟩
              | enqueue | poll | abandon | sleep | now | freshId | startPoller | stopPoller
              | stopAllPollers => exact Bool.noConfusion hcall
  | @waiting wake action held next calls hcall hwake h =>
      refine Or.inr ⟨2 * calls, rfl, ?_⟩
      have hstep : s.step (.waiting wake action held next)
          = (.ready (next (s.conclude action held).1), (s.conclude action held).2) := if_pos hwake
      rw [hstep]
      cases action with
      | query | write => exact ⟨.ready (h _), s.store, rfl⟩
      | enqueue | poll | abandon | sleep | now | freshId | startPoller | stopPoller
      | stopAllPollers => exact Bool.noConfusion hcall

end Task

/-! ### Turns -/

namespace Scene

variable {job : JobId} {post : Store → Prop} {s s' t : Scene} {steps : Nat}

/-- The poller on a job is at a check that is over after so many steps at most, and then it is gone
and the store is as it should be. -/
def Checks (s : Scene) (job : JobId) (post : Store → Prop) (steps : Nat) : Prop :=
  ∃ poller task, s.poller? job = some poller ∧ poller.phase = .checking task ∧
    task.Nears s.now steps ∧
    task.Ensures (Store.Spares job) (fun result store => result = false ∧ post store) s.store

/-- The poller on a job is gone, and the store is as it should be. -/
def IsThrough (s : Scene) (job : JobId) (post : Store → Prop) : Prop :=
  s.poller? job = none ∧ post s.store

section Steady

variable (hsteady : ∀ a b : Store, a.Spares job b → post a → post b)

include hsteady

theorem IsThrough.spared (h : s.IsThrough job post) (hspares : s.Spares job t) :
    t.IsThrough job post :=
  ⟨hspares.poller.trans h.1, hsteady _ _ hspares.store h.2⟩

theorem Checks.spared (h : s.Checks job post steps) (hspares : s.Spares job t) :
    t.Checks job post steps := by
  obtain ⟨poller, task, hpoller, hphase, hnears, hensures⟩ := h
  refine ⟨poller, task, hspares.poller.trans hpoller, hphase, hnears.later hspares.later, ?_⟩
  refine hensures.steady (fun _ _ _ h h' => h.trans h') ?_ hspares.store
  exact fun result a b hspares h => ⟨h.1, hsteady a b hspares h.2⟩

omit hsteady in
/-- **A turn brings a poller nearer to the end of its check.** -/
theorem Checks.turn (h : s.Checks job post steps) :
    (s.turnPoller Scene.step job).IsThrough job post ∨
      ∃ left, steps = left + 1 ∧ (s.turnPoller Scene.step job).Checks job post left := by
  obtain ⟨poller, task, hpoller, hphase, hnears, hensures⟩ := h
  have hnext := hensures.step (Store.Spares.refl job)
  have hturn := turnPoller_of_checking hpoller hphase
  by_cases hover : ∃ result, (s.step task).1 = .ready (.done result)
  · left
    obtain ⟨result, hresult⟩ := hover
    rw [hresult] at hnext hturn
    obtain ⟨rfl, hpost⟩ := hnext
    rw [hturn]
    exact ⟨poller?_stopPoller _ job, hpost⟩
  · right
    rcases hnears.step with ⟨result, rfl⟩ | ⟨left, hleft, hnears', store, hstore⟩
    · exact absurd ⟨result, rfl⟩ hover
    have hpoller' := poller?_turnPoller hpoller hphase (by rw [hstore])
      fun result hc => hover ⟨result, hc⟩
    refine ⟨left, hleft, _, _, hpoller', rfl, ?_, ?_⟩
    · rw [now_turnPoller]
      exact hnears'
    · have hsame : (s.turnPoller Scene.step job).store = (s.step task).2.store := by
        rw [hturn]
        exact store_putPoller _ _ _
      rw [hsame]
      exact hnext

theorem HasTurned.isThrough : ∀ {turns : Nat} {s : Scene}, HasTurned job turns s s' →
    s.IsThrough job post → s'.IsThrough job post := by
  intro turns
  induction turns with
  | zero => exact fun h hthrough => hthrough.spared hsteady h
  | succ turns ih =>
      rintro s ⟨t, hspares, hrest⟩ hthrough
      have ht := hthrough.spared hsteady hspares
      refine ih hrest ?_
      unfold turnPoller
      rw [ht.1]
      exact ht

/-- **After enough turns a poller is through with its check**, whatever others do meanwhile that leave
its job alone. -/
theorem HasTurned.ends : ∀ {turns steps : Nat} {s : Scene}, HasTurned job turns s s' →
    s.Checks job post steps → steps < turns → s'.IsThrough job post := by
  intro turns
  induction turns with
  | zero => exact fun _ _ hc => absurd hc (Nat.not_lt_zero _)
  | succ turns ih =>
      rintro steps s ⟨t, hspares, hrest⟩ hchecks hlt
      rcases (hchecks.spared hsteady hspares).turn with hthrough | ⟨left, rfl, hleft⟩
      · exact hrest.isThrough hsteady hthrough
      · exact ih hrest hleft (Nat.lt_of_succ_lt_succ hlt)

end Steady

end Scene

end AnalysisDesk
