/-
Playing an office through.

The steps of an office are a relation, as anybody may go on next and anything may
be answered.  Given who goes on and what is answered outside of the store they are
a function, `Office.play`, so that a run can be computed from a list of moves.
Every office that can be played is one that comes about.
-/
import AnalysisDesk.Proofs.Desk.Endings

namespace AnalysisDesk

/-- What is answered to actions that do not ask the store. -/
structure Surroundings where
  now : Instant
  id : JobId
  intake : Except AnalyzerFault String
  poll : Except AnalyzerFault PollAnswer

/-- The answer to an action, and the store afterwards, when the store does not fail. -/
def Action.carriedOut (around : Surroundings) (s : Store) : (action : Action) → action.Answer × Store
  | .query question => (question.run s, s)
  | .write change => change.run around.now s
  | .enqueue _ => (around.intake, s)
  | .poll _ => (around.poll, s)
  | .abandon _ _ => (.ok (), s)
  | .now => (around.now, s)
  | .freshId => (around.id, s)
  | .sleep _ | .startPoller _ _ _ | .stopPoller _ | .stopAllPollers => ((), s)

theorem Action.happens_carriedOut (around : Surroundings) (s : Store) (action : Action) :
    Happens around.now s ⟨action, (action.carriedOut around s).1⟩
      (action.carriedOut around s).2 := by
  cases action with
  | query question => exact .asked question _ rfl
  | write change => exact .written change _ _ rfl
  | enqueue | poll | abandon | sleep | now | freshId | startPoller | stopPoller | stopAllPollers =>
      exact .elsewhere _ _ rfl

/-- What can be done next. -/
inductive Move where
  | begin (duty : Duty)
  | act (doer : Nat) (around : Surroundings)

namespace Office

instance (o : Office) (duty : Duty) : Decidable (o.Admits duty) :=
  match duty with
  | .check job handle => inferInstanceAs (Decidable ((job, handle) ∈ o.watches))
  | .expire job => inferInstanceAs (Decidable (job ∈ o.watches.map (·.1)))
  | .submit _ _ | .ingest _ _ | .cancel _ _ | .sweepAt _ | .sweep | .resume | .shutdown =>
    inferInstanceAs (Decidable True)

/-- The office after a move, if the move can be made. -/
def play (settings : DeskSettings) (o : Office) : Move → Option Office
  | .begin duty =>
    if o.Admits duty then
      some { o with agents := o.agents ++ [⟨duty, duty.flow settings, false⟩] }
    else none
  | .act doer around =>
    match o.agents[doer]? with
    | some ⟨duty, .act action next, stopped⟩ =>
      let (answer, s) := action.carriedOut around o.store
      some {
        store := s
        watches := action.watches o.watches
        agents := (o.agents.set doer ⟨duty, next answer, stopped⟩).map (·.after action)
        past := ⟨doer, duty, around.now, ⟨action, answer⟩, o.store, s⟩ :: o.past }
    | _ => none

/-- The office after some moves. -/
def playAll (settings : DeskSettings) : Office → List Move → Option Office
  | o, [] => some o
  | o, move :: rest => (o.play settings move).bind fun o' => o'.playAll settings rest

variable {settings : DeskSettings} {first : Store} {o o' : Office}

theorem step_of_play {move : Move} (h : o.play settings move = some o') : o.Step settings o' := by
  cases move with
  | begin duty =>
      unfold play at h
      dsimp only at h
      by_cases hadmits : o.Admits duty
      · rw [if_pos hadmits] at h
        obtain rfl := Option.some.inj h
        exact .begin duty hadmits
      · rw [if_neg hadmits] at h
        exact nomatch h
  | act doer around =>
      unfold play at h
      dsimp only at h
      split at h
      · rename_i duty action next stopped hagent
        obtain rfl := Option.some.inj h
        exact .act doer duty action next stopped hagent around.now _ _
          (action.happens_carriedOut around o.store)
      · exact nomatch h

/-- **An office that can be played comes about.** -/
theorem Reached.playAll {moves : List Move} (ho : o.Reached settings first)
    (h : o.playAll settings moves = some o') : o'.Reached settings first := by
  induction moves generalizing o with
  | nil =>
      obtain rfl := Option.some.inj h
      exact ho
  | cons move rest ih =>
      obtain ⟨between, hplay, hrest⟩ := Option.bind_eq_some_iff.mp h
      exact ih (ho.step (step_of_play hplay)) hrest

/-- The office after some moves, or as it opened if one of them cannot be made. -/
def played (settings : DeskSettings) (first : Store) (moves : List Move) : Office :=
  ((⟨first, [], [], []⟩ : Office).playAll settings moves).getD ⟨first, [], [], []⟩

theorem reached_played (settings : DeskSettings) (first : Store) (moves : List Move) :
    (played settings first moves).Reached settings first := by
  have hopening : (⟨first, [], [], []⟩ : Office).Reached settings first :=
    .opening [] fun _ h => nomatch h
  unfold played
  cases hplayed : (⟨first, [], [], []⟩ : Office).playAll settings moves with
  | none => exact hopening
  | some o => exact hopening.playAll hplayed

/-- Whether somebody has returned. -/
def hasReturned (o : Office) (doer : Nat) : Bool :=
  match o.agents[doer]? with
  | some ⟨_, .done _, _⟩ => true
  | _ => false

theorem hasReturned_iff {doer : Nat} : o.hasReturned doer = true ↔ o.Returned doer := by
  unfold hasReturned
  constructor
  · intro h
    split at h
    · rename_i duty result stopped hagent
      exact ⟨duty, result, stopped, hagent⟩
    · exact Bool.noConfusion h
  · rintro ⟨duty, result, stopped, hagent⟩
    rw [hagent]

instance (doer : Nat) : Decidable (o.Returned doer) := decidable_of_iff _ hasReturned_iff

end Office

instance (past : List Event) : Decidable (Unfailing past) :=
  inferInstanceAs (Decidable (∀ e ∈ past, ¬ e.what.Failed))

deriving instance DecidableEq for StoreQuery, StoreWrite, Action

/-! ### A small office -/

namespace Small

def settings : DeskSettings := ⟨.ofMillis 1000, .ofMillis 600000, .standard⟩

/-- A store with one user, who has one repository. -/
def store : Store :=
  Store.Operation.after ⟨0⟩
    (Store.Operation.after ⟨0⟩ .empty (.createUser "ada"))
    (.createRepository 1 "site" "https://git.example.com/site.git" "main")

theorem store_reached : store.Reached := (Store.Reached.empty.after _ _).after _ _

/-- The same store with a job that the analyzer has taken. -/
def dispatched : Store :=
  Store.Operation.after ⟨2⟩
    (Store.Operation.after ⟨1⟩ store
      (.createJob default ⟨1, "https://git.example.com/site.git", "main", none⟩))
    (.markDispatched default "h-1")

theorem dispatched_reached : dispatched.Reached := (store_reached.after _ _).after _ _

/-- An analyzer that takes jobs and has them underway. -/
def calm (nanos : Int) : Surroundings := ⟨⟨nanos⟩, default, .ok "h-1", .ok .underway⟩

/-- A submission that has created its job. -/
def submitting : Office :=
  Office.played settings store
    [.begin (.submit 1 ⟨1, none, none⟩), .act 0 (calm 1), .act 0 (calm 2),
      .act 0 (calm 3)]

/-- A job that is cancelled while its submission waits for the analyzer. -/
def overtaken : Office :=
  Office.played settings store
    [.begin (.submit 1 ⟨1, none, none⟩), .act 0 (calm 1), .act 0 (calm 2),
      .act 0 (calm 3), .begin (.cancel default 1), .act 1 (calm 4),
      .act 1 (calm 5), .act 0 (calm 6), .act 0 (calm 7), .act 0 (calm 8),
      .act 0 (calm 9), .act 0 (calm 10), .act 1 (calm 11), .act 1 (calm 12),
      .act 1 (calm 13)]

/-- A report, a cancellation and a sweep that have all found the job processing.  The cancellation
writes first. -/
def contest : Office :=
  Office.played settings dispatched
    [.begin (.ingest default ⟨.failed, none, none, none, none, none, none, [], [], some "broken"⟩),
      .begin (.cancel default 1), .begin (.sweepAt ⟨1000000000000000000⟩),
      .act 0 (calm 3), .act 1 (calm 4), .act 2 (calm 5), .act 1 (calm 6),
      .act 0 (calm 7), .act 2 (calm 8), .act 0 (calm 9), .act 1 (calm 10),
      .act 1 (calm 11), .act 1 (calm 12)]

end Small

end AnalysisDesk
