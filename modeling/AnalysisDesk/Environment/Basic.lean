/-
The surroundings of a command.
-/
namespace AnalysisDesk

/-- The variables that surround a command, by name. -/
abbrev Environment : Type := String → Option String

namespace Environment

/-- The variables of a list; of two with one name the first counts. -/
def ofList (entries : List (String × String)) : Environment := fun name => entries.lookup name

/-- Adds a variable, unless there is one of that name. -/
def orElse (env : Environment) (name value : String) : Environment := fun other =>
  match env other with
  | some found => some found
  | none => if other = name then some value else none

end Environment

end AnalysisDesk
