/-
What a settings file says about the configuration.

A file may leave out sections and settings, and may hold others that the service does not know.
`Given` keeps exactly what it says; over the defaults it makes a configuration.

A section is a table, or a list of its settings in order.  A section that is a point in time says
nothing.
-/
import AnalysisDesk.Config.Basic
import AnalysisDesk.Toml.Reader

namespace AnalysisDesk

/-- The settings that a file gives. -/
structure Given where
  host : Option String
  port : Option Nat
  databasePath : Option String
  url : Option String
  requestTimeout : Option Nat
  interval : Option Nat
  timeout : Option Nat
  sweepInterval : Option Nat
  maxAttempts : Option Nat
  baseDelay : Option Nat
  maxDelay : Option Nat
  format : Option LogFormat
  directory : Option String
  filter : Option String
deriving DecidableEq, Repr, Inhabited

namespace Given

/-! ### Values -/

/-- A value that is a text. -/
def text? : Toml → Option String
  | .str text => some text
  | _ => none

/-- A value that is a whole number up to a greatest one, and not negative. -/
def natural? (greatest : Nat) : Toml → Option Nat
  | .int (.ofNat n) => if n ≤ greatest then some n else none
  | _ => none

def port? : Toml → Option Nat := natural? Limit.word16
def count? : Toml → Option Nat := natural? Limit.word32
def amount? : Toml → Option Nat := natural? Limit.word64

/-- Whether a value has nothing in it. -/
def isVoid : Toml → Bool
  | .arr items => items.isEmpty
  | .table entries => entries.isEmpty
  | _ => false

/-- A log format: its label, or a table with an empty value under it. -/
def format? : Toml → Option LogFormat
  | .str label => LogFormat.labelled.lookup label
  | .table [(label, content)] =>
    (LogFormat.labelled.lookup label).filter fun _ => isVoid content
  | _ => none

/-! ### Sections -/

/-- The settings of a section whose names are `names`, if it can be a section. -/
def section? (names : List String) : Option Toml → Option TomlTable
  | none => some []
  | some (.table entries) => some entries
  | some (.arr items) => some (names.zip items)
  | some (.moment _) => some []
  | some _ => none

/-- Reads a setting; one that is there has to be readable. -/
def setting? {α : Type} (read : Toml → Option α) (name : String) (entries : TomlTable) :
    Option (Option α) :=
  match entries.lookup name with
  | none => some none
  | some value => (read value).map some

/-- What a table says. -/
def ofTable? (file : TomlTable) : Option Given := do
  let server ← section? ["host", "port", "db_path"] (file.lookup "server")
  let analyzer ← section? ["url", "request_timeout_secs"] (file.lookup "analyzer")
  let polling ← section? ["interval_secs", "timeout_secs", "sweep_interval_secs"]
    (file.lookup "polling")
  let retry ← section? ["max_attempts", "base_delay_ms", "max_delay_ms"] (file.lookup "retry")
  let logging ← section? ["format", "directory", "filter"] (file.lookup "logging")
  some {
    host := ← setting? text? "host" server
    port := ← setting? port? "port" server
    databasePath := ← setting? text? "db_path" server
    url := ← setting? text? "url" analyzer
    requestTimeout := ← setting? amount? "request_timeout_secs" analyzer
    interval := ← setting? amount? "interval_secs" polling
    timeout := ← setting? amount? "timeout_secs" polling
    sweepInterval := ← setting? amount? "sweep_interval_secs" polling
    maxAttempts := ← setting? count? "max_attempts" retry
    baseDelay := ← setting? amount? "base_delay_ms" retry
    maxDelay := ← setting? amount? "max_delay_ms" retry
    format := ← setting? format? "format" logging
    directory := ← setting? text? "directory" logging
    filter := ← setting? text? "filter" logging }

/-- What a file's text says, if it is one of a configuration. -/
def ofText? (text : String) : Option Given := (Toml.read? text).bind ofTable?

/-- The configuration in which whatever is not given stays as it is. -/
def withDefaults (given : Given) (base : Config) : Config where
  server := ⟨given.host.getD base.server.host, given.port.getD base.server.port,
    given.databasePath.getD base.server.databasePath⟩
  analyzer := ⟨given.url.getD base.analyzer.url,
    given.requestTimeout.getD base.analyzer.requestTimeout⟩
  polling := ⟨given.interval.getD base.polling.interval, given.timeout.getD base.polling.timeout,
    given.sweepInterval.getD base.polling.sweepInterval⟩
  retry := ⟨given.maxAttempts.getD base.retry.maxAttempts,
    given.baseDelay.getD base.retry.baseDelay, given.maxDelay.getD base.retry.maxDelay⟩
  logging := ⟨given.format.getD base.logging.format, given.directory.or base.logging.directory,
    given.filter.or base.logging.filter⟩

end Given

/-- The configuration that a file's text describes. -/
def Config.ofText? (text : String) : Option Config :=
  (Given.ofText? text).map fun given => given.withDefaults .standard

end AnalysisDesk
