/-
Looking.

There are seven views, and calling one is asking the store one question and passing on
what it says: a failure, that there is nothing for the one who asks, or the view.  So a
look is over as soon as the store has answered, and it leaves everything as it is.

One of the views adds numbers up, and whoever calls it collapses if a total on the way
has no room.  This is no answer, but it leaves everything as it is too.
-/
import AnalysisDesk.Proofs.Desk.Ingesting

namespace AnalysisDesk

/-- A view with its arguments, but for who asks. -/
inductive Look where
  | detail (job : JobId)
  | repositoryPage (repository : Int) (request : PageRequest)
  | userPage (request : PageRequest)
  | latestJobs (limit : Option Nat)
  | issuePage (job : JobId) (filter : IssueFilter) (request : PageRequest)
  | metricsView (job : JobId) (filter : MetricFilter)
  | userStats

namespace Look

/-- The type of what is looked at. -/
def Result : Look → Type
  | .detail _ => JobDetail
  | .repositoryPage _ _ | .userPage _ => Page Job
  | .latestJobs _ => List Job
  | .issuePage _ _ _ => Page Issue
  | .metricsView _ _ => MetricsView
  | .userStats => UserStats

/-- The call of a view by a user. -/
def call (user : Int) : (look : Look) → DeskCall look.Result
  | .detail job => Desk.detail job user
  | .repositoryPage repository request => Desk.repositoryPage repository request user
  | .userPage request => Desk.userPage request user
  | .latestJobs limit => Desk.latestJobs limit user
  | .issuePage job filter request => Desk.issuePage job filter request user
  | .metricsView job filter => Desk.metricsView job filter user
  | .userStats => Desk.userStats user

/-- What there is to be said of a view in which something is computed that may have no room. -/
def computed {α : Type} : Store.View (Except Overflow α) → Except Overflow (Store.View α)
  | .error cause => .ok (.error cause)
  | .ok none => .ok (.ok none)
  | .ok (some figures) => figures.map fun view => .ok (some view)

/-- What the store has to say to a user who looks, or what is fallen over on the way. -/
def view (s : Store) (user : Int) : (look : Look) → Except Overflow (Store.View look.Result)
  | .detail job => .ok (s.jobDetail job user)
  | .repositoryPage repository request => .ok (s.repositoryPage repository request user)
  | .userPage request => .ok (s.userPage request user)
  | .latestJobs limit => .ok (s.latestJobs limit user)
  | .issuePage job filter request => .ok (s.issuePage job filter request user)
  | .metricsView job filter => .ok (s.metricsView job filter user)
  | .userStats => computed (s.userStats user)

/-- The job that a view is about, if it is about one. -/
def job? : Look → Option JobId
  | .detail job | .issuePage job _ _ | .metricsView job _ => some job
  | .repositoryPage _ _ | .userPage _ | .latestJobs _ | .userStats => none

/-- The repository that a view is about, if it is about one. -/
def repository? : Look → Option Int
  | .repositoryPage repository _ => some repository
  | .detail _ | .userPage _ | .latestJobs _ | .issuePage _ _ _ | .metricsView _ _ | .userStats =>
      none

/-- How a look ends, given what there is to be said. -/
def ending {α : Type} : Except Overflow (Store.View α) → DeskCall α
  | .error cause => .collapse cause
  | .ok (.error cause) => .done (.error (.storage cause))
  | .ok (.ok none) => .done (.error .notFound)
  | .ok (.ok (some view)) => .done (.ok view)

theorem viewed_eq {α : Type} (view : Store.View α) : Desk.viewed view = ending (.ok view) := by
  rcases view with cause | _ | view <;> rfl

/-- Whoever is told what there is to be said gets a result. -/
theorem ending_ok {α : Type} (view : Store.View α) : ∃ result, ending (.ok view) = .done result := by
  rcases view with cause | _ | view <;> exact ⟨_, rfl⟩

theorem run_ending {α : Type} (s : Scene) (seen : Except Overflow (Store.View α)) :
    s.run (ending seen) = (.ready (ending seen), s) := by
  rcases seen with cause | cause | _ | view <;> rfl

/-- A look is one question, whatever the answer is. -/
theorem call_eq (user : Int) (look : Look) :
    ∃ (question : StoreQuery) (next : Except StoreError question.Answer → DeskCall look.Result),
      look.call user = .act (.query question) next ∧
      (∀ answer, ∃ seen, next answer = ending seen) ∧
      ∀ s : Store, next (question.run s) = ending (look.view s user) := by
  have hover : ∀ {α : Type} (view : Store.View α), ∃ seen, Desk.viewed view = ending seen :=
    fun view => ⟨_, viewed_eq view⟩
  cases look with
  | detail job => exact ⟨.jobDetail job user, _, rfl, hover, fun s => viewed_eq _⟩
  | repositoryPage repository request =>
      exact ⟨.repositoryPage repository request user, _, rfl, hover, fun s => viewed_eq _⟩
  | userPage request => exact ⟨.userPage request user, _, rfl, hover, fun s => viewed_eq _⟩
  | latestJobs limit => exact ⟨.latestJobs limit user, _, rfl, hover, fun s => viewed_eq _⟩
  | issuePage job filter request =>
      exact ⟨.issuePage job filter request user, _, rfl, hover, fun s => viewed_eq _⟩
  | metricsView job filter =>
      exact ⟨.metricsView job filter user, _, rfl, hover, fun s => viewed_eq _⟩
  | userStats =>
      refine ⟨.userStats user, _, rfl, fun answer => ⟨computed answer, ?_⟩, fun s => ?_⟩
      · rcases answer with cause | _ | cause | stats <;> rfl
      · show _ = ending (computed (s.userStats user))
        rw [StoreQuery.run]
        generalize s.userStats user = answer
        rcases answer with cause | _ | cause | stats <;> rfl

/-- **A look is over at once and leaves everything as it is.** -/
theorem run_call (s : Scene) (user : Int) (look : Look) :
    s.run (look.call user) = (.ready (ending (look.view s.store user)), s) := by
  obtain ⟨question, next, hcall, -, hnext⟩ := call_eq user look
  rw [hcall, Scene.run_query, hnext]
  exact run_ending s _

/-- Whoever looks does nothing but ask. -/
theorem query_of_leads {user : Int} {look : Look} {past : List Exchange}
    {flow : DeskCall look.Result} (h : (look.call user).Leads past flow) :
    ∀ x ∈ past, ∃ question, x.1 = .query question := by
  obtain ⟨question, next, hcall, hover, -⟩ := call_eq user look
  rw [hcall] at h
  have hstands : (past = [] ∧ flow = .act (.query question) next) ∨
      (∀ x ∈ past, ∃ question, x.1 = .query question) ∧ ∃ seen, flow = ending seen := by
    induction h with
    | start => exact Or.inl ⟨rfl, rfl⟩
    | step _ answer ih =>
        rcases ih with ⟨rfl, hflow⟩ | ⟨-, seen, hflow⟩
        · cases hflow
          exact Or.inr ⟨List.forall_mem_singleton.mpr ⟨question, rfl⟩, hover answer⟩
        · rcases seen with cause | cause | _ | view <;> exact nomatch hflow
  rcases hstands with ⟨rfl, -⟩ | ⟨hasked, -⟩
  · exact fun x hx => nomatch hx
  · exact hasked

end Look

end AnalysisDesk
