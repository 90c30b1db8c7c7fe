/-
Commands on a machine that is a value.

The machine has a tree of directories, a working directory, a clock and a network, and it keeps
what is printed.  Running a command on it is a function, so it can be said of every command what
it leaves behind.
-/
import AnalysisDesk.Cli.Errand
import AnalysisDesk.Files.Tree
import AnalysisDesk.Logging.Daily

namespace AnalysisDesk.Cli

/-- A machine. -/
structure Machine where
  tree : Tree
  /-- The working directory. -/
  here : Place
  clock : Instant
  /-- What becomes of a request. -/
  network : AnalyzerRequest → Delivery
  /-- How many identifiers have been handed out. -/
  issued : Nat
  /-- What has been printed. -/
  output : String

namespace Machine

/-- The kind of an entry. -/
def kindOf : Entry → FileKind
  | .directory => .directory
  | .text _ | .database _ => .file

/-- The machine with another tree, if there is one. -/
def replace (m : Machine) : Option Tree → Bool × Machine
  | none => (false, m)
  | some tree => (true, { m with tree })

/-- Starts a log file; one that is there is gone on with. -/
def startLog (m : Machine) (directory : String) : Bool × Machine :=
  let path := LogFile.path directory m.clock
  match m.tree.find? m.here path with
  | some .directory => (false, m)
  | some _ => (true, m)
  | none => m.replace (m.tree.write? m.here path "")

/-- Does a deed. -/
def perform (m : Machine) : (deed : Deed) → deed.Answer × Machine
  | .whereAmI => (Path.text m.here, m)
  | .look path => ((m.tree.find? m.here path).map kindOf, m)
  | .readText path =>
    match m.tree.find? m.here path with
    | some (.text content) => (some content, m)
    | _ => (none, m)
  | .writeText path content => m.replace (m.tree.write? m.here path content)
  | .makeDirectories path => m.replace (m.tree.makeDirectories? m.here path)
  | .openDatabase path =>
    match m.tree.openDatabase? m.here path with
    | some (store, tree) => (some store, { m with tree })
    | none => (none, m)
  | .keepDatabase path store => ((), { m with tree := m.tree.keepDatabase m.here path store })
  | .startLog directory => m.startLog directory
  | .listen _ => (false, m)
  | .send request => (m.network request, m)
  | .pause span => ((), { m with clock := m.clock.after span })
  | .now => (m.clock, m)
  | .freshId => (JobId.numbered (m.issued + 1), { m with issued := m.issued + 1 })
  | .print text => ((), { m with output := m.output ++ text })

/-- Runs a command. -/
def run {α : Type} (m : Machine) : Errand α → α × Machine
  | .done result => (result, m)
  | .act deed next =>
    let (answer, m) := m.perform deed
    m.run (next answer)

end Machine

end AnalysisDesk.Cli
