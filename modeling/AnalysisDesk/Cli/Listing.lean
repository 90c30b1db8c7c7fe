/-
Tables for the terminal.
-/
import AnalysisDesk.Job.Basic

namespace AnalysisDesk.Cli

/-- A text with blanks after it up to a width. -/
def padded (width : Nat) (s : String) : String :=
  s ++ String.ofList (List.replicate (width - s.length) ' ')

/-- A line of the table of repositories; the last column has no width. -/
def repositoryLine (id name branch url : String) : String :=
  padded 6 id ++ " " ++ padded 24 name ++ " " ++ padded 12 branch ++ " " ++ url ++ "\n"

/-- The table of repositories. -/
def repositoryTable (repositories : List Repository) : String :=
  repositoryLine "Id" "Name" "Branch" "Clone URL"
    ++ repositoryLine "--" "----" "------" "---------"
    ++ String.join (repositories.map fun r =>
      repositoryLine (toString r.id) r.name r.defaultBranch r.cloneUrl)

end AnalysisDesk.Cli
