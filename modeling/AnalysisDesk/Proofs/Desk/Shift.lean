/-
Duties on a clock.

An office says nothing about time.  Here the scene of the desk is taken with its
clock, its analyzer and its pollers, as `Scene.step` and `Scene.turnPoller` carry
them on, and around it there are workers, each of them on a duty of its own.  At
every step somebody begins a duty or goes on for one action, a poller takes a turn,
the analyzer comes to answer and identifiers to be drawn otherwise than they would
have been, or the clock moves.

Calls to the store take no time, so the clock stands still while anybody is in the
middle of one, or of anything else that is over at once.  It may move while all
others rest: they are through, or wait for the analyzer or for a sleep to end, or
have put off their next call to the store.  How far it moves is not said, so
whoever waits may be late.

Nobody collapses as long as the time that a job may take is no longer than
`Scene.longestWait`, for then the clock has room for every deadline.
-/
import AnalysisDesk.Desk.Scene
import AnalysisDesk.Proofs.Desk.Duties
import AnalysisDesk.Proofs.Desk.Happening

namespace AnalysisDesk

/-! ### The clock of the waits -/

namespace Scene

/-- The longest span for whose end the clock has room whenever it begins. -/
def longestWait : Span :=
  ⟨(Limit.greatest64.toNat + 1) * Span.nanosPerSecond - 1 - Limit.greatest64.toNat⟩

theorem reaches_of_le {span : Span} (h : span.nanos ≤ longestWait.nanos) (s : Scene) :
    s.reaches span = true := by
  have huptime : s.uptime.nanos ≤ 9223372036854775807 := Nat.min_le_right ..
  have hlongest : longestWait.nanos = 9223372036854775807999999999 - 9223372036854775807 := rfl
  refine decide_eq_true ?_
  show (s.uptime.nanos + span.nanos) / 1000000000 ≤ 9223372036854775807
  omega

/-- Nothing keeps an action from being begun if the clock has room for the time that a job may
take. -/
theorem overflow?_eq_none {s : Scene} (h : s.reaches s.settings.pollTimeout = true)
    (action : Action) : s.overflow? action = none := by
  cases action with
  | startPoller job handle t =>
      have hleft : (s.timeLeft t).nanos ≤ s.settings.pollTimeout.nanos := Nat.sub_le ..
      refine if_pos (decide_eq_true (Nat.le_trans ?_ (of_decide_eq_true h)))
      exact Nat.div_le_div_right (Nat.add_le_add_left hleft _)
  | query | write | enqueue | poll | abandon | sleep | now | freshId | stopPoller
  | stopAllPollers => rfl

/-- An action that nothing keeps from being begun is begun. -/
theorem step_act {α : Type} {s : Scene} {action : Action} (h : s.overflow? action = none)
    (next : action.Answer → Flow α) :
    s.step (.ready (.act action next))
      = (.waiting (s.perform action).1.1 action (s.perform action).1.2 next,
        (s.perform action).2) := by
  simp only [step, h]

end Scene

/-! ### Actions -/

namespace Action

/-- Whether an action takes time.  The others are over as soon as they are begun. -/
def takesTime : Action → Bool
  | .enqueue _ | .poll _ | .abandon _ _ | .sleep _ => true
  | .query _ | .write _ | .now | .freshId | .startPoller _ _ _ | .stopPoller _
  | .stopAllPollers => false

/-- The answer to an action that takes no time, which is there from the beginning. -/
def settled? : (action : Action) → action.Held → Option action.Answer
  | .query _, held | .write _, held | .now, held | .freshId, held | .startPoller _ _ _, held
  | .stopPoller _, held | .stopAllPollers, held => some held
  | .enqueue _, _ | .poll _, _ | .abandon _ _, _ | .sleep _, _ => none

theorem settled?_eq_none_iff {action : Action} {held : action.Held} :
    action.settled? held = none ↔ action.takesTime = true := by
  cases action <;> simp [settled?, takesTime]

end Action

/-- The answer of a store to an action, if it does not fail. -/
def Scene.answers (s : Scene) : Action → Bool
  | .query question => (question.run s.store).isOk
  | .write change => (change.run s.now s.store).1.isOk
  | .enqueue _ | .poll _ | .abandon _ _ | .sleep _ | .now | .freshId | .startPoller _ _ _
  | .stopPoller _ | .stopAllPollers => true

/-- The pollers after an action. -/
def Scene.pollersAfter (s : Scene) : Action → List Poller
  | .startPoller job handle dispatchedAt => (s.startPoller job handle dispatchedAt).pollers
  | .stopPoller job => (s.stopPoller job).pollers
  | .stopAllPollers => []
  | .query _ | .write _ | .enqueue _ | .poll _ | .abandon _ _ | .sleep _ | .now | .freshId =>
    s.pollers

theorem Scene.poller?_job {s : Scene} {job : JobId} {poller : Poller}
    (h : s.poller? job = some poller) : poller.job = job :=
  eq_of_beq (List.find?_some (p := fun poller : Poller => poller.job == job) h)

/-! ### Tasks -/

namespace Task

variable {α : Type}

/-- Whether the clock may move while a task stands where it stands. -/
def rests : Task α → Bool
  | .ready (.done _) | .ready (.collapse _) => true
  | .ready (.act action _) => action.isStoreCall
  | .waiting _ action _ _ => action.takesTime

/-- Whether the store answers what a task is about to ask of it. -/
def isAnswered (s : Scene) : Task α → Bool
  | .ready (.act action _) => s.answers action
  | .ready (.done _) | .ready (.collapse _) | .waiting _ _ _ _ => true

/-- A task keeps to the tables of its procedure, after what it has settled so far.  An action that
takes no time is settled when it is begun, and it is over by then. -/
def Keeps (now : Instant) (may : List Exchange → Action → Prop) (ends : List Exchange → α → Prop)
    (past : List Exchange) : Task α → Prop
  | .ready flow => flow.Keeps may ends past
  | .waiting wake action held next =>
    match action.settled? held with
    | some answer => wake.nanos ≤ now.nanos ∧ (next answer).Keeps may ends past
    | none => may past action ∧ ∀ answer, (next answer).Keeps may ends (⟨action, answer⟩ :: past)

/-- A scene in which nothing has happened but what the analyzer and the identifiers are about. -/
structure Aside (s s' : Scene) : Prop where
  settings : s'.settings = s.settings
  now : s'.now = s.now
  store : s'.store = s.store
  pollers : s'.pollers = s.pollers

/-- What an exchange with a store that does not fail makes of the scene. -/
structure Settles (s : Scene) (x : Exchange) (s' : Scene) : Prop where
  happens : Happens s.now s.store x s'.store
  unfailing : ¬ x.Failed
  clock : ∀ t, x = ⟨.now, t⟩ → t = s.now
  pollers : s'.pollers = s.pollersAfter x.1
  settings : s'.settings = s.settings
  now : s'.now = s.now

/-- What becomes of a task and of the scene when the task is given a turn. -/
inductive Advance (may : List Exchange → Action → Prop) (ends : List Exchange → α → Prop)
    (past : List Exchange) (s : Scene) (task' : Task α) (s' : Scene) : Prop
  | idle (haside : Aside s s') (hkeeps : task'.Keeps s'.now may ends past)
  | settled (x : Exchange) (hmay : may past x.1) (hsettles : Settles s x s')
      (hkeeps : task'.Keeps s'.now may ends (x :: past))

variable {may : List Exchange → Action → Prop} {ends : List Exchange → α → Prop}
  {past : List Exchange} {s : Scene}

private theorem aside_conclude (action : Action) (held : action.Held) :
    Aside s (s.conclude action held).2 := by
  cases action <;> exact ⟨rfl, rfl, rfl, rfl⟩

private theorem conclude_of_settled {action : Action} {held : action.Held} {answer : action.Answer}
    (h : action.settled? held = some answer) : (s.conclude action held).1 = answer := by
  cases action with
  | query | write | now | freshId | startPoller | stopPoller | stopAllPollers =>
      exact Option.some.inj h
  | enqueue | poll | abandon | sleep => exact nomatch h

/-- A slow action leaves no mark on the scene when it is begun. -/
private theorem aside_perform {action : Action} (h : action.takesTime = true) :
    Aside s (s.perform action).2 := by
  cases action with
  | enqueue | poll | abandon | sleep => exact ⟨rfl, rfl, rfl, rfl⟩
  | query | write | now | freshId | startPoller | stopPoller | stopAllPollers =>
      exact Bool.noConfusion h

/-- An action that takes no time is settled when it is begun. -/
private theorem settles_perform {action : Action} (h : action.takesTime = false)
    (hanswers : s.answers action = true) :
    ∃ answer, action.settled? (s.perform action).1.2 = some answer ∧
      (s.perform action).1.1.nanos ≤ (s.perform action).2.now.nanos ∧
      Settles s ⟨action, answer⟩ (s.perform action).2 := by
  have hisOk : ∀ {α : Type} {answer : Except StoreError α}, answer.isOk = true →
      ¬ ∃ cause, answer = .error cause := by
    rintro α answer hok ⟨cause, rfl⟩
    exact Bool.noConfusion hok
  cases action with
  | query question =>
      exact ⟨_, rfl, Int.le_refl _, .asked question _ rfl, hisOk hanswers,
        fun t hc => (nomatch hc), rfl, rfl, rfl⟩
  | write change =>
      exact ⟨_, rfl, Int.le_refl _, .written change _ _ rfl, hisOk hanswers,
        fun t hc => (nomatch hc), rfl, rfl, rfl⟩
  | now =>
      refine ⟨_, rfl, Int.le_refl _, .elsewhere _ _ rfl, id, fun t hc => ?_, rfl, rfl, rfl⟩
      cases hc
      rfl
  | freshId | startPoller | stopPoller | stopAllPollers =>
      exact ⟨_, rfl, Int.le_refl _, .elsewhere _ _ rfl, id, fun t hc => (nomatch hc), rfl, rfl, rfl⟩
  | enqueue | poll | abandon | sleep => exact Bool.noConfusion h

/-- A slow action is settled when it is over. -/
private theorem settles_conclude {action : Action} (h : action.takesTime = true)
    (held : action.Held) :
    Settles s ⟨action, (s.conclude action held).1⟩ (s.conclude action held).2 := by
  cases action with
  | enqueue | poll | abandon | sleep =>
      exact ⟨.elsewhere _ _ rfl, id, fun t hc => (nomatch hc), rfl, rfl, rfl⟩
  | query | write | now | freshId | startPoller | stopPoller | stopAllPollers =>
      exact Bool.noConfusion h

theorem keeps_waiting_of_settled {now wake : Instant} {action : Action} {held : action.Held}
    {next : action.Answer → Flow α} {answer : action.Answer}
    (h : action.settled? held = some answer) :
    (Task.waiting wake action held next).Keeps now may ends past ↔
      wake.nanos ≤ now.nanos ∧ (next answer).Keeps may ends past := by
  simp only [Keeps, h]

theorem keeps_waiting_of_slow {now wake : Instant} {action : Action} {held : action.Held}
    {next : action.Answer → Flow α} (h : action.takesTime = true) :
    (Task.waiting wake action held next).Keeps now may ends past ↔
      may past action ∧ ∀ answer, (next answer).Keeps may ends (⟨action, answer⟩ :: past) := by
  simp only [Keeps, Action.settled?_eq_none_iff.mpr h]

/-- **What comes of a turn of a task** that keeps to its tables, if the clock has room. -/
theorem Keeps.step {task : Task α} (h : task.Keeps s.now may ends past)
    (hroom : s.reaches s.settings.pollTimeout = true) (hanswered : task.isAnswered s = true) :
    Advance may ends past s (s.step task).1 (s.step task).2 := by
  match task with
  | .ready (.done result) => exact .idle ⟨rfl, rfl, rfl, rfl⟩ h
  | .ready (.collapse cause) => exact h.elim
  | .ready (.act action next) =>
      obtain ⟨hmay, hnext⟩ : may past action ∧ ∀ answer, (next answer).Keeps may ends _ := h
      rw [Scene.step_act (Scene.overflow?_eq_none hroom action)]
      cases htime : action.takesTime with
      | true => exact .idle (aside_perform htime) ((keeps_waiting_of_slow htime).mpr ⟨hmay, hnext⟩)
      | false =>
          obtain ⟨answer, hsettled, hwake, hsettles⟩ := settles_perform htime hanswered
          exact .settled ⟨action, answer⟩ hmay hsettles
            ((keeps_waiting_of_settled hsettled).mpr ⟨hwake, hnext answer⟩)
  | .waiting wake action held next =>
      by_cases hwake : wake.nanos ≤ s.now.nanos
      · have hstep : s.step (.waiting wake action held next)
            = (.ready (next (s.conclude action held).1), (s.conclude action held).2) :=
          if_pos hwake
        rw [hstep]
        cases hsettled : action.settled? held with
        | some answer =>
            rw [conclude_of_settled hsettled]
            exact .idle (aside_conclude action held) ((keeps_waiting_of_settled hsettled).mp h).2
        | none =>
            have htime := Action.settled?_eq_none_iff.mp hsettled
            obtain ⟨hmay, hnext⟩ := (keeps_waiting_of_slow htime).mp h
            exact .settled ⟨action, (s.conclude action held).1⟩ hmay (settles_conclude htime held)
              (hnext _)
      · have hstep : s.step (.waiting wake action held next) = (.waiting wake action held next, s) :=
          if_neg hwake
        rw [hstep]
        exact .idle ⟨rfl, rfl, rfl, rfl⟩ h

/-- The clock moves on. -/
theorem Keeps.later {task : Task α} {now now' : Instant} (h : task.Keeps now may ends past)
    (hlater : now.nanos ≤ now'.nanos) : task.Keeps now' may ends past := by
  match task with
  | .ready flow => exact h
  | .waiting wake action held next =>
      cases hsettled : action.settled? held with
      | some answer =>
          rw [keeps_waiting_of_settled hsettled] at h ⊢
          exact ⟨Int.le_trans h.1 hlater, h.2⟩
      | none =>
          rw [keeps_waiting_of_slow (Action.settled?_eq_none_iff.mp hsettled)] at h ⊢
          exact h

/-- A task that has nothing to do now is through, or waits for an action that takes time. -/
theorem Keeps.of_not_due {task : Task α} {now : Instant} (h : task.Keeps now may ends past)
    (hdue : ∀ t, task.dueAt? now = some t → now.nanos < t.nanos) :
    (∃ result, task = .ready (.done result) ∧ ends past result) ∨
      ∃ wake action held next, task = .waiting wake action held next ∧ action.takesTime = true ∧
        may past action := by
  match task with
  | .ready (.done result) => exact Or.inl ⟨result, rfl, h⟩
  | .ready (.collapse cause) => exact h.elim
  | .ready (.act action next) => exact absurd (hdue now rfl) (Int.lt_irrefl _)
  | .waiting wake action held next =>
      cases hsettled : action.settled? held with
      | some answer =>
          exact absurd (hdue wake rfl) (Int.not_lt.mpr ((keeps_waiting_of_settled hsettled).mp h).1)
      | none =>
          have htime := Action.settled?_eq_none_iff.mp hsettled
          exact Or.inr ⟨wake, action, held, next, rfl, htime, ((keeps_waiting_of_slow htime).mp h).1⟩

/-- The same for a task during which the clock may move, but that may have put off a call. -/
theorem Keeps.of_rests {task : Task α} {now : Instant} (h : task.Keeps now may ends past)
    (hrests : task.rests = true) :
    (∃ result, ends past result) ∨
      ∃ action, may past action ∧ (action.isStoreCall = true ∨ action.takesTime = true) := by
  match task with
  | .ready (.done result) => exact Or.inl ⟨result, h⟩
  | .ready (.collapse cause) => exact h.elim
  | .ready (.act action next) => exact Or.inr ⟨action, h.1, Or.inl hrests⟩
  | .waiting wake action held next =>
      exact Or.inr ⟨action, ((keeps_waiting_of_slow hrests).mp h).1, Or.inr hrests⟩

end Task

/-! ### Shifts -/

/-- Somebody with a duty, and how far it has come. -/
structure Worker where
  duty : Duty
  task : Task duty.Result

/-- A scene and those who are at work in it. -/
structure Shift where
  scene : Scene
  workers : List Worker

/-- Whether a duty is a call of the desk, and not the work of a poller or the end of all watches. -/
def Duty.isCall : Duty → Bool
  | .submit _ _ | .ingest _ _ | .cancel _ _ | .sweepAt _ | .sweep | .resume => true
  | .shutdown | .check _ _ | .expire _ => false

namespace Poller

/-- Whether the clock may move while a poller stands where it stands. -/
def rests (poller : Poller) : Bool :=
  match poller.phase with
  | .waiting | .halted => true
  | .checking task => task.rests
  | .expiring task => task.rests

/-- Whether the store answers what a poller is about to ask of it. -/
def isAnswered (s : Scene) (poller : Poller) : Bool :=
  match poller.phase with
  | .waiting | .halted => true
  | .checking task => task.isAnswered s
  | .expiring task => task.isAnswered s

end Poller

namespace Shift

/-- Whether the clock may move. -/
def rests (w : Shift) : Bool :=
  (w.workers.all fun worker => worker.task.rests) && w.scene.pollers.all Poller.rests

/-- The instants at which somebody has something to do. -/
def agenda (w : Shift) : List Instant :=
  w.scene.pollers.filterMap (·.dueAt? w.scene.now) ++
    w.workers.filterMap (·.task.dueAt? w.scene.now)

/-- Whether nobody has anything to do right now. -/
def isQuiet (w : Shift) : Bool := w.agenda.all fun t => w.scene.now.nanos < t.nanos

/-- The shift after a worker's turn. -/
def afterWork (w : Shift) (place : Nat) (worker : Worker) : Shift where
  scene := (w.scene.step worker.task).2
  workers := w.workers.set place ⟨worker.duty, (w.scene.step worker.task).1⟩

/-- One step of a shift.  The store answers whatever it is asked. -/
inductive Step (w : Shift) : Shift → Prop
  | begin (duty : Duty) (hcall : duty.isCall = true) :
      Step w { w with workers := w.workers ++ [⟨duty, .ready (duty.flow w.scene.settings)⟩] }
  | work (place : Nat) (worker : Worker) (hworker : w.workers[place]? = some worker)
      (hanswered : worker.task.isAnswered w.scene = true) : Step w (w.afterWork place worker)
  | turn (poller : Poller) (hpoller : w.scene.poller? poller.job = some poller)
      (hanswered : poller.isAnswered w.scene = true) :
      Step w { w with scene := w.scene.turnPoller Scene.step poller.job }
  | surprise (analyzer : Script) (issued : Nat) :
      Step w { w with scene := { w.scene with analyzer, issued } }
  | tick (now : Instant) (hlater : w.scene.now.nanos ≤ now.nanos) (hwhole : now.cut = now)
      (hrests : w.rests = true) : Step w { w with scene := { w.scene with now } }

/-- The shifts that come about.  In the beginning nobody is at work and no job is watched. -/
inductive Reached (settings : DeskSettings) (first : Store) : Shift → Prop
  | opening (now boot : Instant) (analyzer : Script) (hwhole : now.cut = now) :
      Reached settings first ⟨⟨settings, first, now, boot, analyzer, [], 0, []⟩, []⟩
  | step {w w' : Shift} (h : Reached settings first w) (hstep : w.Step w') :
      Reached settings first w'

/-! ### Playing a shift -/

/-- What can come next. -/
inductive Move where
  | begin (duty : Duty)
  | work (place : Nat)
  | turn (job : JobId)
  | surprise (analyzer : Script) (issued : Nat)
  | tick (now : Instant)

/-- The shift after a move, if the move can be made. -/
def play (w : Shift) : Move → Option Shift
  | .begin duty =>
    if duty.isCall then
      some { w with workers := w.workers ++ [⟨duty, .ready (duty.flow w.scene.settings)⟩] }
    else none
  | .work place =>
    match w.workers[place]? with
    | some worker =>
      if worker.task.isAnswered w.scene then some (w.afterWork place worker) else none
    | none => none
  | .turn job =>
    match w.scene.poller? job with
    | some poller =>
      if poller.isAnswered w.scene then
        some { w with scene := w.scene.turnPoller Scene.step poller.job }
      else none
    | none => none
  | .surprise analyzer issued => some { w with scene := { w.scene with analyzer, issued } }
  | .tick now =>
    if w.scene.now.nanos ≤ now.nanos ∧ now.cut = now ∧ w.rests = true then
      some { w with scene := { w.scene with now } }
    else none

/-- The shift after some moves. -/
def playAll : Shift → List Move → Option Shift
  | w, [] => some w
  | w, move :: rest => (w.play move).bind fun w' => w'.playAll rest

variable {settings : DeskSettings} {first : Store} {w w' : Shift}

theorem step_of_play {move : Move} (h : w.play move = some w') : w.Step w' := by
  cases move with
  | begin duty =>
      obtain ⟨hcall, hw'⟩ := Option.ite_none_right_eq_some.mp h
      obtain rfl := Option.some.inj hw'
      exact .begin duty hcall
  | work place =>
      unfold play at h
      dsimp only at h
      cases hworker : w.workers[place]? with
      | none =>
          rw [hworker] at h
          exact nomatch h
      | some worker =>
          rw [hworker] at h
          obtain ⟨hanswered, hw'⟩ := Option.ite_none_right_eq_some.mp h
          obtain rfl := Option.some.inj hw'
          exact .work place worker hworker hanswered
  | turn job =>
      unfold play at h
      dsimp only at h
      cases hpoller : w.scene.poller? job with
      | none =>
          rw [hpoller] at h
          exact nomatch h
      | some poller =>
          rw [hpoller] at h
          obtain ⟨hanswered, hw'⟩ := Option.ite_none_right_eq_some.mp h
          obtain rfl := Option.some.inj hw'
          refine .turn poller ?_ hanswered
          rw [Scene.poller?_job hpoller]
          exact hpoller
  | surprise analyzer issued =>
      obtain rfl := Option.some.inj h
      exact .surprise analyzer issued
  | tick now =>
      obtain ⟨⟨hlater, hwhole, hrests⟩, hw'⟩ := Option.ite_none_right_eq_some.mp h
      obtain rfl := Option.some.inj hw'
      exact .tick now hlater hwhole hrests

/-- **A shift that can be played comes about.** -/
theorem Reached.playAll {moves : List Move} (h : w.Reached settings first)
    (hplayed : w.playAll moves = some w') : w'.Reached settings first := by
  induction moves generalizing w with
  | nil =>
      obtain rfl := Option.some.inj hplayed
      exact h
  | cons move rest ih =>
      obtain ⟨between, hplay, hrest⟩ := Option.bind_eq_some_iff.mp hplayed
      exact ih (h.step (step_of_play hplay)) hrest

/-- A shift that begins at the first instant, on a machine that has just been started. -/
def opened (settings : DeskSettings) (first : Store) : Shift :=
  ⟨⟨settings, first, ⟨0⟩, ⟨0⟩, .empty, [], 0, []⟩, []⟩

/-- The shift after some moves, or as it opened if one of them cannot be made. -/
def played (settings : DeskSettings) (first : Store) (moves : List Move) : Shift :=
  ((opened settings first).playAll moves).getD (opened settings first)

theorem reached_played (settings : DeskSettings) (first : Store) (moves : List Move) :
    (played settings first moves).Reached settings first := by
  have hopening : (opened settings first).Reached settings first := .opening ⟨0⟩ ⟨0⟩ .empty rfl
  unfold played
  cases hplayed : (opened settings first).playAll moves with
  | none => exact hopening
  | some w => exact hopening.playAll hplayed

end Shift

end AnalysisDesk
