/-
The configuration as a settings file.

Every section is written with all its settings; only a log directory and a log filter may be
missing.  The text is a settings file again, with the same configuration.
-/
import AnalysisDesk.Config.Basic
import AnalysisDesk.Toml.Writer

namespace AnalysisDesk.Config

/-- A line with a setting. -/
def textLine (name text : String) : String := name ++ " = " ++ Toml.quoted text ++ "\n"

def numberLine (name : String) (n : Nat) : String := name ++ " = " ++ toString n ++ "\n"

/-- A line with a setting that may be missing. -/
def optionalLine (name : String) (text : Option String) : String :=
  (text.map (textLine name)).getD ""

/-- A section with its lines. -/
def sectionText (name : String) (lines : List String) : String :=
  "[" ++ name ++ "]\n" ++ String.join lines

/-- The text of a configuration. -/
def write (c : Config) : String :=
  "\n".intercalate [
    sectionText "server" [textLine "host" c.server.host, numberLine "port" c.server.port,
      textLine "db_path" c.server.databasePath],
    sectionText "analyzer" [textLine "url" c.analyzer.url,
      numberLine "request_timeout_secs" c.analyzer.requestTimeout],
    sectionText "polling" [numberLine "interval_secs" c.polling.interval,
      numberLine "timeout_secs" c.polling.timeout,
      numberLine "sweep_interval_secs" c.polling.sweepInterval],
    sectionText "retry" [numberLine "max_attempts" c.retry.maxAttempts,
      numberLine "base_delay_ms" c.retry.baseDelay, numberLine "max_delay_ms" c.retry.maxDelay],
    sectionText "logging" [textLine "format" c.logging.format.label,
      optionalLine "directory" c.logging.directory, optionalLine "filter" c.logging.filter]]

end AnalysisDesk.Config
