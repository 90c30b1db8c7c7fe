/-
Commands.

What a command line asks for: one of nine commands with their arguments, and three options that go
with each of them.
-/
namespace AnalysisDesk.Cli

/-- What is to be done. -/
inductive Command where
  | serve (port : Option Nat) (analyzerUrl : Option String) (dev : Bool)
  | initDatabase
  | addUser (username : String)
  | addRepository (owner : Int) (name cloneUrl defaultBranch : String)
  | listRepositories (owner : Int)
  | sweep
  | showConfig
  | validateConfig
  | initConfig
deriving DecidableEq, Repr, Inhabited

/-- A command with the options that go with every command. -/
structure Invocation where
  verbose : Bool
  /-- The path of a settings file. -/
  config : Option String
  /-- The path of the database. -/
  databasePath : Option String
  command : Command
deriving DecidableEq, Repr, Inhabited

/-- How a command ends. -/
inductive Ending where
  | success
  | failure (message : String)
  /-- The command line makes no sense. -/
  | misuse
  /-- The command cannot go on, for a reason that it was not made for. -/
  | collapse
deriving DecidableEq, Repr, Inhabited

/-- The number that the caller gets. -/
def Ending.code : Ending → Nat
  | .success => 0
  | .failure _ => 1
  | .misuse => 2
  | .collapse => 101

end AnalysisDesk.Cli
