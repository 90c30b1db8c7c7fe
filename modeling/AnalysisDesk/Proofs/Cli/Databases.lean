/-
The database of a command.

Whatever a command learns on its way, it opens no database and keeps none but the one at the path
that its configuration names; the way through each command is followed once, part by part.  And a
command that works on a database gets to its end only if it has opened that one, unless the
database has no file.
-/
import AnalysisDesk.Proofs.Cli.Passing

namespace AnalysisDesk

namespace Cli

open Errand Work

variable {α β : Type} {path : String}

/-- A command that gets to its end only after it has opened the database at a path, unless that
has no file. -/
def Opens (path : String) (work : Work α) : Prop :=
  ∀ deeds a, Passes work.run deeds (.ok a) →
    isFleeting path = true ∨ Deed.openDatabase path ∈ deeds

theorem Opens.before {work : Work α} (h : Opens path work) (f : α → Work β) :
    Opens path (work >>= f) := by
  intro deeds b hpasses
  obtain ⟨before, after, a, hbefore, -, rfl⟩ := passes_bind_ok hpasses
  exact (h before a hbefore).imp_right (List.mem_append_left after)

theorem Opens.after (work : Work α) {f : α → Work β} (h : ∀ a, Opens path (f a)) :
    Opens path (work >>= f) := by
  intro deeds b hpasses
  obtain ⟨before, after, a, -, hafter, rfl⟩ := passes_bind_ok hpasses
  exact (h a after b hafter).imp_right (List.mem_append_right before)

end Cli

end AnalysisDesk
