/-
The ways of a command.

A command is a tree, and what it does depends on what it learns.  `Passes` tells one way through
the tree, whatever is learnt on it; a run on a machine is one of them.  So what holds on every way
also holds on a machine, and of a machine that could answer otherwise.

A way through one command after another is a way through the first and then one through the
second.  A command that may end early ends there with its ending.
-/
import AnalysisDesk.Cli.Machine
import AnalysisDesk.Cli.Run

namespace AnalysisDesk

namespace Errand

variable {α β : Type} {deeds : List Deed}

/-- A way through a command: the deeds on it, and what it ends with. -/
inductive Passes {α : Type} : Errand α → List Deed → α → Prop
  | done (result : α) : Passes (.done result) [] result
  | act {deed : Deed} {next : deed.Answer → Errand α} {deeds : List Deed} {result : α}
      (answer : deed.Answer) (h : Passes (next answer) deeds result) :
      Passes (.act deed next) (deed :: deeds) result

theorem Passes.of_bind {errand : Errand α} {f : α → Errand β} {b : β}
    (h : Passes (errand.bind f) deeds b) :
    ∃ before after a, Passes errand before a ∧ Passes (f a) after b ∧ deeds = before ++ after := by
  induction errand generalizing deeds with
  | done a => exact ⟨[], deeds, a, .done a, h, rfl⟩
  | act deed next ih =>
      cases h with
      | act answer h =>
          obtain ⟨before, after, a, hbefore, hafter, rfl⟩ := ih answer h
          exact ⟨deed :: before, after, a, .act answer hbefore, hafter, rfl⟩

/-- A command all of whose deeds are of a kind. -/
def Only (kind : Deed → Prop) (errand : Errand α) : Prop :=
  ∀ deeds result, Passes errand deeds result → ∀ deed ∈ deeds, kind deed

variable {kind : Deed → Prop}

theorem Only.done (a : α) : Only kind (.done a) := by
  intro deeds result h
  cases h
  exact fun _ hdeed => nomatch hdeed

theorem Only.act {deed : Deed} {next : deed.Answer → Errand α} (hdeed : kind deed)
    (hnext : ∀ answer, Only kind (next answer)) : Only kind (.act deed next) := by
  intro deeds result h
  cases h with
  | act answer h => exact List.forall_mem_cons.mpr ⟨hdeed, hnext answer _ _ h⟩

theorem Only.perform {deed : Deed} (hdeed : kind deed) : Only kind (perform deed) :=
  .act hdeed .done

theorem Only.bind {errand : Errand α} {f : α → Errand β} (herrand : Only kind errand)
    (hf : ∀ a, Only kind (f a)) : Only kind (errand >>= f) := by
  intro deeds result h
  obtain ⟨before, after, a, hbefore, hafter, rfl⟩ := Passes.of_bind h
  intro deed hdeed
  rcases List.mem_append.mp hdeed with hdeed | hdeed
  · exact herrand before a hbefore deed hdeed
  · exact hf a after result hafter deed hdeed

end Errand

namespace Cli

open Errand

variable {α β : Type} {kind : Deed → Prop}

/-! ### Commands that may end early -/

namespace Work

/-- A command that gets to its end passes through its parts. -/
theorem passes_bind_ok {work : Work α} {f : α → Work β} {deeds : List Deed} {b : β}
    (h : Passes (work >>= f).run deeds (.ok b)) :
    ∃ before after a, Passes work.run before (.ok a) ∧ Passes (f a).run after (.ok b) ∧
      deeds = before ++ after := by
  obtain ⟨before, after, result, hbefore, hafter, rfl⟩ := Passes.of_bind h
  cases result with
  | ok a => exact ⟨before, after, a, hbefore, hafter, rfl⟩
  | error ending => cases hafter

end Work

/-! ### Runs on a machine -/

namespace Machine

variable {m m' : Machine}

/-- The deeds of a command on a machine. -/
def deeds (m : Machine) : Errand α → List Deed
  | .done _ => []
  | .act deed next => deed :: (m.perform deed).2.deeds (next (m.perform deed).1)

end Machine

end Cli

end AnalysisDesk
