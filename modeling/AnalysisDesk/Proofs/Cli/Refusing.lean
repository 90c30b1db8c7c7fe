/-
Commands that are refused.

A command that gets no configuration ends before anything has happened.  One whose configuration
the service cannot work by ends when the log has been started, so nothing that was there has
changed, and nothing is new but directories and the empty log file.  In neither case is there a
database or a settings file that was not there before.

The command that makes a settings file is the only one that goes on without a configuration that
can be read.  It writes where nothing was, or not at all.
-/
import AnalysisDesk.Proofs.Cli.Databases
import AnalysisDesk.Proofs.Cli.Preparing
import AnalysisDesk.Proofs.Config.Layers

namespace AnalysisDesk.Cli

open Errand Work

namespace Machine

variable {m m' : Machine} {outer env : Environment} {arguments : List String}
  {invocation : Invocation} {config : Config}

/-! ### Parts of a command line -/

/-- The file that a configuration comes of; one without settings where none counts. -/
inductive Source (m : Machine) (env : Environment) (invocation : Invocation) : TomlTable → Prop
  | none (hfile : m.settingsFile? env invocation.config = none) : Source m env invocation []
  | file {path content : String} {file : TomlTable}
      (hfile : m.settingsFile? env invocation.config = some path)
      (hfound : m.tree.find? m.here path = some (.text content))
      (hread : Toml.read? content = some file) : Source m env invocation file
  | fallback {fault : Config.Fault} (hcommand : invocation.command = .initConfig)
      (h : Discovers m env invocation.config (.error fault)) : Source m env invocation []

/-- The path of the database: the one of the option, else of the variable, else of the file, else
the default. -/
inductive DatabasePath (m : Machine) (env : Environment) (invocation : Invocation) : String → Prop
  | option {path : String} (h : invocation.databasePath = some path) :
      DatabasePath m env invocation path
  | layered {file : TomlTable} {path : String} (hoption : invocation.databasePath = none)
      (hsource : Source m env invocation file)
      (h : Config.Layered (Config.IsSet env "CODESAGE_DB_PATH") Given.IsText
        (Given.stated? file "server" "db_path") ".codesage/codesage.db" path) :
      DatabasePath m env invocation path

/-- What a command starts from is what a file tells, over the defaults. -/
theorem StartsFrom.tells {base : Config} (h : StartsFrom m env invocation base) :
    ∃ file given, Source m env invocation file ∧ Given.Tells file given ∧
      base = given.withDefaults .standard := by
  cases h with
  | found h =>
      cases h with
      | defaults hfile => exact ⟨[], default, .none hfile, Given.tells_nil, rfl⟩
      | read hfile hfound hcontent =>
          obtain ⟨given, hgiven, rfl⟩ := Option.map_eq_some_iff.mp hcontent
          obtain ⟨file, hread, htable⟩ := Option.bind_eq_some_iff.mp hgiven
          exact ⟨file, given, .file hfile hfound hread,
            (Given.ofTable?_eq_some_iff.mp htable).2, rfl⟩
  | fallback hcommand h => exact ⟨[], default, .fallback hcommand h, Given.tells_nil, rfl⟩

theorem Configured.databasePath (h : Configured m env invocation config) :
    DatabasePath m env invocation config.server.databasePath := by
  obtain ⟨hbase, hvariables⟩ := h
  cases hoption : invocation.databasePath with
  | some path => exact .option hoption
  | none =>
      obtain ⟨file, given, hsource, htells, rfl⟩ := hbase.tells
      refine .layered hoption hsource ?_
      rw [Config.override_eq] at hvariables
      split at hvariables
      next =>
        cases hvariables
        exact ((Config.layers_iff htells).mpr rfl).databasePath
      next => exact nomatch hvariables

/-! ### Command lines -/

end Machine

end AnalysisDesk.Cli
