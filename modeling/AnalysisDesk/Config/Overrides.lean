/-
Settings from outside.

Four settings can be changed without a file, by variables of the surroundings.  The text of a
variable may be unusable; then the setting stays as it is, the others are changed all the same,
and the problem is reported.
-/
import AnalysisDesk.Config.Check
import AnalysisDesk.Environment.Basic
import AnalysisDesk.Text.Numeral

namespace AnalysisDesk

namespace Config

def urlVariable : String := "CODESAGE_ANALYZER_URL"
def databaseVariable : String := "CODESAGE_DB_PATH"
def portVariable : String := "CODESAGE_PORT"
def formatVariable : String := "CODESAGE_LOG_FORMAT"

/-- The port that a text names. -/
def portOfText? (text : String) : Option Nat := (Text.readNatural Limit.word16 text).toOption

/-- The problems of the variables. -/
def variableProblems (env : Environment) : List Problem :=
  (match env portVariable with
    | some text => problemIf (portOfText? text).isNone (.notPort text)
    | none => [])
  ++ match env formatVariable with
    | some text => problemIf (LogFormat.ofLabel? text).isNone (.notFormat text)
    | none => []

/-- The configuration with the variables that can be used. -/
def withVariables (c : Config) (env : Environment) : Config where
  server := { c.server with
    databasePath := (env databaseVariable).getD c.server.databasePath
    port := ((env portVariable).bind portOfText?).getD c.server.port }
  analyzer := { c.analyzer with url := (env urlVariable).getD c.analyzer.url }
  polling := c.polling
  retry := c.retry
  logging := { c.logging with
    format := ((env formatVariable).bind LogFormat.ofLabel?).getD c.logging.format }

/-- The configuration with the variables, if all of them can be used. -/
def override (c : Config) (env : Environment) : Except Fault Config :=
  (settle (variableProblems env)).map fun _ => c.withVariables env

end Config

end AnalysisDesk
