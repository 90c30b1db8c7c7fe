/-
What comes before a command.

The configuration is put together by reading alone: `Discovers` tells which settings file counts
and what it gives, `Configured` what becomes of it under the variables and the options, and
`Unconfigured` why nothing does.  Nothing has happened on the machine until then.

Then the log is started.  That adds directories and an empty file to the tree, and nothing else.
-/
import AnalysisDesk.Proofs.Cli.Passing
import AnalysisDesk.Proofs.Files.Growing

namespace AnalysisDesk.Cli

open Errand

namespace Machine

variable {m : Machine} {env : Environment} {named : Option String} {path : String}

/-! ### The settings file -/

/-- The settings file of a command: the one that is named, or the first of the usual ones that is
there. -/
def settingsFile? (m : Machine) (env : Environment) : Option String → Option String
  | some path => some path
  | none => (usualConfigs env).find? fun path => (m.tree.find? m.here path).isSome

/-- What the settings file gives. -/
inductive Discovers (m : Machine) (env : Environment) (named : Option String) :
    Except Config.Fault Config → Prop
  | defaults (hfile : m.settingsFile? env named = none) : Discovers m env named (.ok .standard)
  | missing {path : String} (hfile : m.settingsFile? env named = some path)
      (hmissing : m.tree.find? m.here path = none) : Discovers m env named (.error (.missing path))
  | unreadable {path : String} {entry : Entry} (hfile : m.settingsFile? env named = some path)
      (hfound : m.tree.find? m.here path = some entry)
      (hentry : ∀ content, entry ≠ .text content) :
      Discovers m env named (.error (.unreadable path))
  | malformed {path content : String} (hfile : m.settingsFile? env named = some path)
      (hfound : m.tree.find? m.here path = some (.text content))
      (hcontent : Config.ofText? content = none) : Discovers m env named (.error (.malformed path))
  | read {path content : String} {config : Config} (hfile : m.settingsFile? env named = some path)
      (hfound : m.tree.find? m.here path = some (.text content))
      (hcontent : Config.ofText? content = some config) : Discovers m env named (.ok config)

/-- There is one thing that the settings file gives. -/
theorem Discovers.unique {found found' : Except Config.Fault Config}
    (h : Discovers m env named found) (h' : Discovers m env named found') : found = found' := by
  cases h <;> cases h' <;> grind

variable {invocation : Invocation}

/-- The configuration over which the variables and the options go.  Without a settings file that
can be read there is one only for the command that makes such a file. -/
inductive StartsFrom (m : Machine) (env : Environment) (invocation : Invocation) : Config → Prop
  | found {config : Config} (h : Discovers m env invocation.config (.ok config)) :
      StartsFrom m env invocation config
  | fallback {fault : Config.Fault} (hcommand : invocation.command = .initConfig)
      (h : Discovers m env invocation.config (.error fault)) :
      StartsFrom m env invocation .standard

/-- The configuration that a command gets. -/
inductive Configured (m : Machine) (env : Environment) (invocation : Invocation) : Config → Prop
  | ready {base config : Config} (hbase : StartsFrom m env invocation base)
      (h : base.override env = .ok config) :
      Configured m env invocation (withDatabase config invocation.databasePath)

/-- A machine that differs from another in its tree alone, which has grown. -/
def GrownTo (m : Machine) (allowed : Tree → Place → String → Prop) (m' : Machine) : Prop :=
  ∃ tree, m' = { m with tree } ∧ Tree.Grows (allowed tree) m.tree tree

/-- Growth goes on from growth, if what may be new stays so. -/
theorem GrownTo.trans {allowed : Tree → Place → String → Prop} {m m' m'' : Machine}
    (hstays : ∀ t t', Tree.Grows (allowed t') t t' → ∀ place content, allowed t place content →
      allowed t' place content)
    (h : m.GrownTo allowed m') (h' : m'.GrownTo allowed m'') : m.GrownTo allowed m'' := by
  obtain ⟨tree, rfl, hgrows⟩ := h
  obtain ⟨tree', rfl, hgrows'⟩ := h'
  exact ⟨tree', rfl, (hgrows.mono (hstays tree tree' hgrows')).trans hgrows'⟩

end Machine

end AnalysisDesk.Cli
