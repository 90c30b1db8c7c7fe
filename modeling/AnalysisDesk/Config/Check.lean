/-
What is wrong with a configuration.

A configuration that has been put together may still be one that the service cannot work by: a
poll that never comes, a timeout that passes before the first poll, an analyzer that cannot be
reached by its address.  All problems are named at once.
-/
import AnalysisDesk.Config.Basic

namespace AnalysisDesk.Config

/-- A setting that cannot be used. -/
inductive Problem where
  | intervalZero
  | sweepIntervalZero
  | timeoutTooShort (timeout interval : Nat)
  | noAttempts
  | delaysSwapped
  | requestTimeoutZero
  | notWeb (url : String)
  /-- The port that was asked for from outside is none. -/
  | notPort (text : String)
  /-- The log format that was asked for from outside is none. -/
  | notFormat (text : String)
deriving DecidableEq, Repr

def Problem.message : Problem → String
  | .intervalZero => "polling.interval_secs must be greater than zero"
  | .sweepIntervalZero => "polling.sweep_interval_secs must be greater than zero"
  | .timeoutTooShort timeout interval =>
    "polling.timeout_secs (" ++ toString timeout ++ ") must exceed polling.interval_secs ("
      ++ toString interval ++ ")"
  | .noAttempts => "retry.max_attempts must be at least 1"
  | .delaysSwapped => "retry.base_delay_ms must not exceed retry.max_delay_ms"
  | .requestTimeoutZero => "analyzer.request_timeout_secs must be greater than zero"
  | .notWeb url => "analyzer.url '" ++ url ++ "' must be an http(s) URL"
  | .notPort text => "CODESAGE_PORT '" ++ text ++ "' is not a valid port"
  | .notFormat text => LogFormat.problem text

/-- Why there is no configuration to work by. -/
inductive Fault where
  /-- The file that was asked for is not there. -/
  | missing (path : String)
  /-- The file cannot be read. -/
  | unreadable (path : String)
  /-- The file's text is no configuration. -/
  | malformed (path : String)
  | invalid (problems : List Problem)
deriving DecidableEq, Repr

def Fault.message : Fault → String
  | .missing path => "Config file " ++ path ++ " does not exist"
  | .unreadable path => "Failed to read config file: " ++ path
  | .malformed path => "In config file " ++ path
  | .invalid problems =>
    "Invalid configuration: " ++ "; ".intercalate (problems.map Problem.message)

/-- Whether an address is one of the web. -/
def isWeb (url : String) : Bool := url.startsWith "http://" || url.startsWith "https://"

/-- A problem, where there is one. -/
def problemIf (bad : Bool) (problem : Problem) : List Problem := if bad then [problem] else []

/-- All problems of a configuration. -/
def problems (c : Config) : List Problem :=
  problemIf (c.polling.interval == 0) .intervalZero
  ++ problemIf (c.polling.sweepInterval == 0) .sweepIntervalZero
  ++ problemIf (c.polling.timeout ≤ c.polling.interval)
      (.timeoutTooShort c.polling.timeout c.polling.interval)
  ++ problemIf (c.retry.maxAttempts == 0) .noAttempts
  ++ problemIf (c.retry.maxDelay < c.retry.baseDelay) .delaysSwapped
  ++ problemIf (c.analyzer.requestTimeout == 0) .requestTimeoutZero
  ++ problemIf (!isWeb c.analyzer.url) (.notWeb c.analyzer.url)

/-- Nothing, if there is no problem. -/
def settle (problems : List Problem) : Except Fault Unit :=
  if problems.isEmpty then .ok () else .error (.invalid problems)

/-- Whether the service can work by a configuration. -/
def check (c : Config) : Except Fault Unit := settle c.problems

end AnalysisDesk.Config
