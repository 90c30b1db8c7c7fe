/-
A run of the desk.

Around a scene there are sweepers, which sweep at regular intervals, and callers in the
background.  One more procedure may stand in the foreground.  It has the clock: whenever it waits,
the clock moves on to where the wait is over, and on the way everybody else does what is due, in
the order of the instants.  At one instant pollers come first, then sweepers, then callers.

`World.finish` runs a procedure in the foreground to its end, `World.race` several of them side by
side, one call to the store after the other.
-/
import AnalysisDesk.Desk.Scene

namespace AnalysisDesk

/-- Somebody who sweeps at regular intervals. -/
structure Sweeper where
  interval : Span
  nextTick : Instant
  /-- The sweep that goes on. -/
  sweep : Option (Task (Except DeskError Nat))

/-- A procedure in the background, under a name. -/
structure Caller (α : Type) where
  name : String
  task : Task α

/-- A scene and those who work in it. -/
structure World (α : Type) where
  scene : Scene
  sweepers : List Sweeper
  callers : List (Caller α)

namespace Sweeper

/-- When a sweeper has something to do, seen from `now`. -/
def dueAt? (now : Instant) (sweeper : Sweeper) : Option Instant :=
  match sweeper.sweep with
  | none => some sweeper.nextTick.roundUp
  | some task => some ((task.dueAt? now).getD now)

/-- One turn of a sweeper. -/
def turn (s : Scene) (sweeper : Sweeper) : Sweeper × Scene :=
  match sweeper.sweep with
  | none =>
    if sweeper.nextTick.nanos ≤ s.now.nanos then
      ({ sweeper with
          nextTick := Poller.tickAfter s sweeper.nextTick sweeper.interval
          sweep := some (.ready (Desk.sweep s.settings)) }, s)
    else (sweeper, s)
  | some task =>
    match s.runTask task with
    | (.ready (.done _), s') => ({ sweeper with sweep := none }, s')
    | (task', s') => ({ sweeper with sweep := some task' }, s')

end Sweeper

namespace World

variable {α β : Type}

def now (w : World α) : Instant := w.scene.now

/-! ### What is due -/

/-- Gives every sweeper a turn. -/
def turnSweepers (s : Scene) : List Sweeper → List Sweeper × Scene
  | [] => ([], s)
  | sweeper :: rest =>
    let (sweeper, s) := sweeper.turn s
    let (rest, s) := turnSweepers s rest
    (sweeper :: rest, s)

/-- Carries every caller on. -/
def turnCallers (s : Scene) : List (Caller α) → List (Caller α) × Scene
  | [] => ([], s)
  | caller :: rest =>
    let (task, s) := s.runTask caller.task
    let (rest, s) := turnCallers s rest
    ({ caller with task } :: rest, s)

/-- Gives everybody a turn. -/
def round (w : World α) : World α :=
  let scene := (w.scene.pollers.map (·.job)).foldl (Scene.turnPoller Scene.runTask) w.scene
  let (sweepers, scene) := turnSweepers scene w.sweepers
  let (callers, scene) := turnCallers scene w.callers
  { scene, sweepers, callers }

/-- The instants at which somebody has something to do. -/
def agenda (w : World α) : List Instant :=
  w.scene.pollers.filterMap (·.dueAt? w.now) ++ w.sweepers.filterMap (·.dueAt? w.now)
    ++ w.callers.filterMap (·.task.dueAt? w.now)

/-- The earliest of some instants. -/
def earliest? : List Instant → Option Instant
  | [] => none
  | t :: rest =>
    match earliest? rest with
    | none => some t
    | some u => some (if t.nanos ≤ u.nanos then t else u)

/-- The next instant at which somebody has something to do. -/
def nextDue? (w : World α) : Option Instant := earliest? w.agenda

/-- Whether nobody has anything to do right now. -/
def isQuiet (w : World α) : Bool := w.agenda.all fun t => w.now.nanos < t.nanos

/-- Gives everybody turns until nobody has anything to do, or the rounds are used up. -/
def settleWithin : Nat → World α → World α
  | 0, w => w
  | rounds + 1, w => if w.isQuiet then w else settleWithin rounds w.round

/-- More rounds than anybody can use at one instant: a poller wakes, checks its job, wakes once
more and expires it, and each of these is a turn. -/
def roundsPerInstant : Nat := 12

/-- Finishes what is due without moving the clock. -/
def settle (w : World α) : World α := settleWithin roundsPerInstant w

/-! ### The clock -/

/-- Moves the clock. -/
def setClock (w : World α) (t : Instant) : World α := { w with scene := { w.scene with now := t } }

/-- Moves the clock to `target`, stopping at most `stops` times on the way. -/
def advanceWithin (target : Instant) : Nat → World α → World α
  | 0, w => (w.setClock target).settle
  | stops + 1, w =>
    match w.nextDue? with
    | none => (w.setClock target).settle
    | some t =>
      if t.nanos < target.nanos then
        advanceWithin target stops (w.setClock (if t.nanos ≤ w.now.nanos then w.now else t)).settle
      else (w.setClock target).settle

/-- Moves the clock to `target` if that lies ahead.  As clocks strike whole milliseconds only,
there are no more stops on the way than milliseconds. -/
def advanceTo (w : World α) (target : Instant) : World α :=
  if target.nanos ≤ w.now.nanos then w
  else advanceWithin target (target.roundUp.millis - w.now.millis).toNat w

/-! ### The foreground -/

/-- Begins an action, waits until it is over and ends it. -/
def perform (w : World α) (action : Action) : action.Answer × World α :=
  let ((wake, held), scene) := w.scene.perform action
  let w' := ({ w with scene }).advanceTo wake
  let (answer, scene) := w'.scene.conclude action held
  (answer, { w' with scene })

/-- Runs a procedure to its end. -/
def finish (w : World α) : Flow β → Except Overflow β × World α
  | .done result => (.ok result, w)
  | .collapse cause => (.error cause, w)
  | .act action next =>
    match w.scene.overflow? action with
    | some cause => (.error cause, w)
    | none =>
      let (answer, w') := w.perform action
      finish w' (next answer)

/-- Runs a task to its end. -/
def finishTask (w : World α) : Task β → Except Overflow β × World α
  | .ready flow => w.finish flow
  | .waiting wake action held next =>
    let w' := w.advanceTo wake
    let (answer, scene) := w'.scene.conclude action held
    ({ w' with scene }).finish (next answer)

/-- Starts a procedure in the background. -/
def start (w : World α) (name : String) (flow : Flow α) : World α :=
  { w with callers := w.callers ++ [⟨name, .ready flow⟩] }

/-- Waits for a procedure in the background and takes its result. -/
def join? (w : World α) (name : String) : Option (Except Overflow α × World α) :=
  (w.callers.find? fun caller => caller.name == name).map fun caller =>
    ({ w with callers := w.callers.filter fun other => other.name != name }).finishTask caller.task

/-- Starts a sweeper.  One whose interval is zero or has no room on the clock never sweeps. -/
def startSweeper (w : World α) (interval : Span) : World α :=
  if 0 < interval.nanos ∧ w.scene.reaches interval then
    { w with sweepers := w.sweepers ++ [⟨interval, w.now.after interval, none⟩] }
  else w

/-! ### Races -/

/-- Runs a procedure up to its next call to the store. -/
def toStoreCall (w : World α) : Flow β → Flow β × World α
  | .done result => (.done result, w)
  | .collapse cause => (.collapse cause, w)
  | .act action next =>
    if action.isStoreCall then (.act action next, w)
    else
      match w.scene.overflow? action with
      | some cause => (.collapse cause, w)
      | none =>
        let (answer, w') := w.perform action
        toStoreCall w' (next answer)

/-- Lets a procedure make a call to the store, before which it stands, and go on to the next one. -/
def raceStep (w : World α) : Flow β → Flow β × World α
  | .done result => (.done result, w)
  | .collapse cause => (.collapse cause, w)
  | .act action next =>
    let (answer, w') := w.perform action
    w'.toStoreCall (next answer)

/-- One thing after the other for a list of procedures. -/
def eachInTurn (step : World α → Flow β → Flow β × World α) (w : World α) :
    List (Flow β) → List (Flow β) × World α
  | [] => ([], w)
  | flow :: rest =>
    let (flow, w) := step w flow
    let (rest, w) := eachInTurn step w rest
    (flow :: rest, w)

def isOver : Flow β → Bool
  | .done _ | .collapse _ => true
  | .act _ _ => false

/-- Rounds of a race, at most `rounds` of them. -/
def raceWithin : Nat → World α → List (Flow β) → List (Flow β) × World α
  | 0, w, flows => (flows, w)
  | rounds + 1, w, flows =>
    if flows.all isOver then (flows, w)
    else
      let (flows, w) := eachInTurn raceStep w flows
      raceWithin rounds w.settle flows

/-- Runs procedures side by side: in every round each makes its next call to the store.  No
procedure makes more calls than there are jobs to sweep, apart from a handful. -/
def race (w : World α) (flows : List (Flow β)) : List (Flow β) × World α :=
  let (flows', w') := eachInTurn toStoreCall w flows
  raceWithin (w.scene.store.jobs.length + flows.length + 8) w'.settle flows'

end World

end AnalysisDesk
