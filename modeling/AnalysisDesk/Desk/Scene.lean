/-
The desk at work.

A `Scene` is all that procedures share: the store, the clock, the analyzer, and the pollers, of
which each watches one job.  `Scene.perform` begins an action.  Most actions are over at once; a
call to the analyzer and a sleep take time, and the procedure that waits becomes a `Task` that
can be taken up again when the time has come.

Clocks strike whole milliseconds only.  Whoever waits for an instant in between goes on at the
next stroke.

Waits are timed by a clock of their own, which counts from when the machine was started.  It has room
for seconds of sixty-four bits, so a deadline can be too far off for it.  Whoever is to set such a
deadline collapses, and a poller whose ticks are that far apart never ticks.
-/
import AnalysisDesk.Analyzer.Script
import AnalysisDesk.Desk.Operations

namespace AnalysisDesk

/-- What is known of the outcome of an action while it goes on. -/
def Action.Held : Action → Type
  | .enqueue _ => Intake
  | action => action.Answer

/-- A procedure under way. -/
inductive Task (α : Type) : Type where
  /-- It may go on. -/
  | ready (flow : Flow α)
  /-- It waits until an action is over. -/
  | waiting (wake : Instant) (action : Action) (held : action.Held)
      (next : action.Answer → Flow α)

namespace Task

variable {α : Type}

/-- When a task can go on, seen from `now`; never if it is over. -/
def dueAt? (now : Instant) : Task α → Option Instant
  | .ready (.done _) | .ready (.collapse _) => none
  | .ready (.act _ _) => some now
  | .waiting wake _ _ _ => some wake

end Task

/-- What a poller is at. -/
inductive Poller.Phase where
  /-- It waits for its next tick or for its deadline. -/
  | waiting
  /-- It asks the analyzer about the job and acts on the answer. -/
  | checking (task : Task Bool)
  /-- Its deadline has passed, and it ends the job. -/
  | expiring (task : Task Unit)
  /-- It can never tick, because the interval between two ticks is zero or has no room on the clock.
  Its job counts as watched all the same. -/
  | halted

/-- The watch on one job. -/
structure Poller where
  job : JobId
  handle : String
  deadline : Instant
  nextTick : Instant
  phase : Poller.Phase

/-- A call to the analyzer. -/
inductive AnalyzerCall where
  | enqueue (spec : JobSpec)
  | poll (handle : String)
  | abandon (job : JobId) (handle : String)
deriving DecidableEq, Inhabited

/-- What procedures share. -/
structure Scene where
  settings : DeskSettings
  store : Store
  now : Instant
  /-- When the machine was started. -/
  boot : Instant
  analyzer : Script
  /-- The calls to the analyzer with the instants at which they began, last one first. -/
  calls : List (Instant × AnalyzerCall)
  /-- How many identifiers have been handed out. -/
  issued : Nat
  pollers : List Poller

namespace Scene

/-- When a wait that begins now is over. -/
def wake (s : Scene) (span : Span) : Instant := (s.now.after span).roundUp

def logged (s : Scene) (call : AnalyzerCall) : Scene := { s with calls := (s.now, call) :: s.calls }

/-! ### The clock of the waits -/

/-- For how long the machine has been running.  This is counted in nanoseconds of sixty-four bits. -/
def uptime (s : Scene) : Span := ⟨min (s.now.since s.boot).nanos Limit.greatest64.toNat⟩

/-- Whether the clock has room for the end of a span that begins now. -/
def reaches (s : Scene) (span : Span) : Bool :=
  (s.uptime.nanos + span.nanos) / Span.nanosPerSecond ≤ Limit.greatest64.toNat

/-! ### Pollers -/

/-- Ends the watch on a job. -/
def stopPoller (s : Scene) (job : JobId) : Scene :=
  { s with pollers := s.pollers.filter fun poller => poller.job != job }

/-- What is left of the time that a job may take which was dispatched at the given instant. -/
def timeLeft (s : Scene) (dispatchedAt : Instant) : Span :=
  s.settings.pollTimeout.minus (s.now.since dispatchedAt)

/-- Starts to watch a job that was dispatched at the given instant.  What is left of the time that the
job may take counts from now. -/
def startPoller (s : Scene) (job : JobId) (handle : String) (dispatchedAt : Instant) : Scene :=
  let interval := s.settings.pollInterval
  let poller : Poller :=
    { job, handle, deadline := s.now.after (s.timeLeft dispatchedAt), nextTick := s.now.after interval
      phase := if 0 < interval.nanos ∧ s.reaches interval then .waiting else .halted }
  let s' := s.stopPoller job
  { s' with pollers := s'.pollers ++ [poller] }

/-! ### Actions -/

/-- What keeps an action from being begun, if anything does: the deadline of a watch may be too far
off for the clock. -/
def overflow? (s : Scene) : Action → Option Overflow
  | .startPoller _ _ dispatchedAt =>
    if s.reaches (s.timeLeft dispatchedAt) then none else some .instant
  | .query _ | .write _ | .enqueue _ | .poll _ | .abandon _ _ | .sleep _ | .now | .freshId
  | .stopPoller _ | .stopAllPollers => none

/-- Begins an action: when it will be over, and what is known of its outcome. -/
def perform (s : Scene) : (action : Action) → (Instant × action.Held) × Scene
  | .query question => ((s.now, question.run s.store), s)
  | .write change =>
    let (answer, store) := change.run s.now s.store
    ((s.now, answer), { s with store })
  | .enqueue spec =>
    let (entry, analyzer) := s.analyzer.nextIntake
    ((s.wake entry.delay, entry.answer), { s.logged (.enqueue spec) with analyzer })
  | .poll handle =>
    let (entry, analyzer) := s.analyzer.nextPoll handle
    ((s.wake entry.delay, entry.answer), { s.logged (.poll handle) with analyzer })
  | .abandon job handle =>
    let (entry, analyzer) := s.analyzer.nextDrop handle
    ((s.wake entry.delay, entry.answer), { s.logged (.abandon job handle) with analyzer })
  | .sleep span => ((s.wake span, ()), s)
  | .now => ((s.now, s.now), s)
  | .freshId => ((s.now, JobId.numbered (s.issued + 1)), { s with issued := s.issued + 1 })
  | .startPoller job handle dispatchedAt => ((s.now, ()), s.startPoller job handle dispatchedAt)
  | .stopPoller job => ((s.now, ()), s.stopPoller job)
  | .stopAllPollers => ((s.now, ()), { s with pollers := [] })

/-- Ends an action. -/
def conclude (s : Scene) : (action : Action) → action.Held → action.Answer × Scene
  | .enqueue _, intake =>
    let (answer, analyzer) := s.analyzer.take intake
    (answer, { s with analyzer })
  | .query _, held | .write _, held | .poll _, held | .abandon _ _, held | .sleep _, held
  | .now, held | .freshId, held | .startPoller _ _ _, held | .stopPoller _, held
  | .stopAllPollers, held => (held, s)

/-! ### Tasks -/

variable {α : Type}

/-- Lets a task do one thing, if it can. -/
def step (s : Scene) : Task α → Task α × Scene
  | .ready (.done result) => (.ready (.done result), s)
  | .ready (.collapse cause) => (.ready (.collapse cause), s)
  | .ready (.act action next) =>
    match s.overflow? action with
    | some cause => (.ready (.collapse cause), s)
    | none =>
      let ((wake, held), s') := s.perform action
      (.waiting wake action held next, s')
  | .waiting wake action held next =>
    if wake.nanos ≤ s.now.nanos then
      let (answer, s') := s.conclude action held
      (.ready (next answer), s')
    else (.waiting wake action held next, s)

/-- Runs a procedure until it has to wait or is over. -/
def run (s : Scene) : Flow α → Task α × Scene
  | .done result => (.ready (.done result), s)
  | .collapse cause => (.ready (.collapse cause), s)
  | .act action next =>
    match s.overflow? action with
    | some cause => (.ready (.collapse cause), s)
    | none =>
      let ((wake, held), s') := s.perform action
      if wake.nanos ≤ s'.now.nanos then
        let (answer, s'') := s'.conclude action held
        run s'' (next answer)
      else (.waiting wake action held next, s')

/-- Runs a task until it has to wait or is over. -/
def runTask (s : Scene) : Task α → Task α × Scene
  | .ready flow => s.run flow
  | .waiting wake action held next =>
    if wake.nanos ≤ s.now.nanos then
      let (answer, s') := s.conclude action held
      s'.run (next answer)
    else (.waiting wake action held next, s)

end Scene

/-! ### The turns of a poller -/

namespace Poller

/-- How late a tick may be taken without moving the ticks after it. -/
def tolerance : Span := .ofMillis 5

/-- The tick after one that is taken now. -/
def tickAfter (s : Scene) (due : Instant) (interval : Span) : Instant :=
  if (due.after tolerance).nanos < s.now.nanos then s.now.after interval else due.after interval

/-- When a poller has something to do, seen from `now`. -/
def dueAt? (now : Instant) (poller : Poller) : Option Instant :=
  match poller.phase with
  | .waiting =>
    some (if poller.deadline.nanos ≤ poller.nextTick.nanos then poller.deadline.roundUp
      else poller.nextTick.roundUp)
  | .checking task => some ((task.dueAt? now).getD now)
  | .expiring task => some ((task.dueAt? now).getD now)
  | .halted => none

/-- Gives a waiting poller something to do if its deadline has passed or its tick has come. -/
def awaken (s : Scene) (poller : Poller) : Poller :=
  if poller.deadline.nanos ≤ s.now.nanos then
    { poller with phase := .expiring (.ready (Desk.expireJob s.settings poller.job)) }
  else if poller.nextTick.nanos ≤ s.now.nanos then
    { poller with
      nextTick := tickAfter s poller.nextTick s.settings.pollInterval
      phase := .checking (.ready (Desk.checkJob poller.job poller.handle)) }
  else poller

/-- One turn of a poller, given how tasks are carried on.  A poller that is over is gone. -/
def turn (carryOn : {α : Type} → Scene → Task α → Task α × Scene) (s : Scene) (poller : Poller) :
    Option Poller × Scene :=
  match poller.phase with
  | .halted => (some poller, s)
  | .waiting => (some (poller.awaken s), s)
  | .checking task =>
    match carryOn s task with
    | (.ready (.done true), s') => (some { poller with phase := .waiting }, s')
    | (.ready (.done false), s') => (none, s')
    | (task', s') => (some { poller with phase := .checking task' }, s')
  | .expiring task =>
    match carryOn s task with
    | (.ready (.done ()), s') => (none, s')
    | (task', s') => (some { poller with phase := .expiring task' }, s')

end Poller

namespace Scene

/-- Puts a poller where the one on its job was, or takes it away. -/
def putPoller (s : Scene) (job : JobId) : Option Poller → Scene
  | none => s.stopPoller job
  | some poller =>
    { s with pollers := s.pollers.map fun other => if other.job = job then poller else other }

/-- The poller on a job. -/
def poller? (s : Scene) (job : JobId) : Option Poller :=
  s.pollers.find? fun poller => poller.job == job

/-- Gives the poller on a job a turn. -/
def turnPoller (carryOn : {α : Type} → Scene → Task α → Task α × Scene) (s : Scene)
    (job : JobId) : Scene :=
  match s.poller? job with
  | none => s
  | some poller =>
    let (poller', s') := poller.turn carryOn s
    s'.putPoller job poller'

end Scene

end AnalysisDesk
