/-
The configuration of the service.

It has five sections, and each setting has a default.  Durations are whole numbers of seconds, or
of milliseconds where their name says so.
-/
import AnalysisDesk.Desk.Settings

namespace AnalysisDesk

/-- How log lines are written to the terminal. -/
inductive LogFormat where
  | plain
  | json
deriving DecidableEq, Repr, Inhabited

namespace LogFormat

def label : LogFormat → String
  | .plain => "plain"
  | .json => "json"

def all : List LogFormat := [.plain, .json]

/-- The labels with what they stand for. -/
def labelled : List (String × LogFormat) := all.map fun format => (format.label, format)

/-- The format with a label, in whatever case it is written. -/
def ofLabel? (s : String) : Option LogFormat := labelled.lookup s.toLower

/-- What is said about a text that is no format. -/
def problem (s : String) : String :=
  "Invalid log format '" ++ s ++ "'. Valid values: " ++ ", ".intercalate (all.map label)

end LogFormat

/-- Where the service listens and keeps its data. -/
structure ServerConfig where
  host : String
  port : Nat
  databasePath : String
deriving DecidableEq, Repr, Inhabited

/-- Where the analyzer is, and how long it may take to answer. -/
structure AnalyzerConfig where
  url : String
  requestTimeout : Nat
deriving DecidableEq, Repr, Inhabited

/-- How often the analyzer is asked, and after how long a job is given up. -/
structure PollingConfig where
  interval : Nat
  timeout : Nat
  sweepInterval : Nat
deriving DecidableEq, Repr, Inhabited

/-- How often a call is tried; the delays are milliseconds. -/
structure RetryConfig where
  maxAttempts : Nat
  baseDelay : Nat
  maxDelay : Nat
deriving DecidableEq, Repr, Inhabited

/-- What is logged, and where to. -/
structure LoggingConfig where
  format : LogFormat
  directory : Option String
  filter : Option String
deriving DecidableEq, Repr, Inhabited

/-- A configuration. -/
structure Config where
  server : ServerConfig
  analyzer : AnalyzerConfig
  polling : PollingConfig
  retry : RetryConfig
  logging : LoggingConfig
deriving DecidableEq, Repr, Inhabited

namespace Config

/-- What holds where nothing else is said. -/
def standard : Config where
  server := ⟨"127.0.0.1", 5000, ".codesage/codesage.db"⟩
  analyzer := ⟨"http://localhost:8000", 30⟩
  polling := ⟨5, 600, 30⟩
  retry := ⟨3, 200, 5000⟩
  logging := ⟨.plain, none, none⟩

def pollInterval (c : Config) : Span := .ofSeconds c.polling.interval
def pollTimeout (c : Config) : Span := .ofSeconds c.polling.timeout
def sweepInterval (c : Config) : Span := .ofSeconds c.polling.sweepInterval
def requestTimeout (c : Config) : Span := .ofSeconds c.analyzer.requestTimeout

def retryPolicy (c : Config) : RetryPolicy :=
  ⟨c.retry.maxAttempts, .ofMillis c.retry.baseDelay, .ofMillis c.retry.maxDelay⟩

/-- The part of the configuration that the desk works by. -/
def deskSettings (c : Config) : DeskSettings := ⟨c.pollInterval, c.pollTimeout, c.retryPolicy⟩

end Config

end AnalysisDesk
