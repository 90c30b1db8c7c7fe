/-
The command line.

`perform` carries out the deeds of a command on the machine it runs on.  A database is a file
with the text of its store.  There is no network here: nothing can be listened to, and requests
are lost.
-/
import AnalysisDesk.Cli.Run
import AnalysisDesk.Logging.Daily
import AnalysisDesk.Store.Saved
import Std.Time.DateTime.Timestamp

namespace AnalysisDesk.Cli

/-- What became of something that may go wrong. -/
def attempt {α : Type} (work : IO α) : IO (Option α) := do
  try
    return some (← work)
  catch _ => return none

/-- What a path leads to. -/
def lookAt (path : String) : IO (Option FileKind) := do
  let place := (← IO.currentDir) / path
  match ← attempt place.metadata with
  | none => return none
  | some metadata =>
    match metadata.type with
    | .dir => return some .directory
    | _ => return some .file

/-- Opens a database: the store that the file holds, or an empty one where nothing is. -/
def openFile (path : String) : IO (Option Store) := do
  match ← lookAt path with
  | some .directory => return none
  | none =>
    match ← attempt (IO.FS.writeFile path Store.empty.save) with
    | some () => return some Store.empty
    | none => return none
  | some .file =>
    match ← attempt (IO.FS.readFile path) with
    | none => return none
    | some "" =>
      IO.FS.writeFile path Store.empty.save
      return some Store.empty
    | some text => return Store.ofSaved? text

/-- The time. -/
def clockNow : IO Instant := do
  return ⟨(← Std.Time.Timestamp.now).toNanosecondsSinceUnixEpoch.val⟩

/-- An identifier that nobody has taken before. -/
def randomId : IO JobId := do
  return JobId.drawn ((← IO.getRandomBytes 16).toList.foldl (fun n b => 256 * n + b.toNat) 0)

/-- Does a deed. -/
def perform : (deed : Deed) → IO deed.Answer
  | .whereAmI => return (← IO.currentDir).toString
  | .look path => lookAt path
  | .readText path => attempt (IO.FS.readFile path)
  | .writeText path content => return (← attempt (IO.FS.writeFile path content)).isSome
  | .makeDirectories path =>
    if path.isEmpty then return true else return (← attempt (IO.FS.createDirAll path)).isSome
  | .openDatabase path => openFile path
  | .keepDatabase path store => IO.FS.writeFile path store.save
  | .startLog directory => do
    let path := LogFile.path directory (← clockNow)
    return (← attempt (IO.FS.withFile path .append fun _ => pure ())).isSome
  | .listen _ => return false
  | .send _ => return Delivery.lost
  | .pause span => IO.sleep (UInt32.ofNat (span.nanos / 1000000))
  | .now => clockNow
  | .freshId => randomId
  | .print text => IO.print text

/-- Runs a command. -/
def carryOut {α : Type} : Errand α → IO α
  | .done result => return result
  | .act deed next => do carryOut (next (← perform deed))

/-- The variables that matter. -/
def outside (names : List String) : IO Environment := do
  let mut found := []
  for name in names do
    match ← IO.getEnv name with
    | some value => found := found ++ [(name, value)]
    | none => pure ()
  return Environment.ofList found

end AnalysisDesk.Cli

open AnalysisDesk in
/-- Runs the command line and says how it ended. -/
def main (arguments : List String) : IO UInt32 := do
  let env ← Cli.outside Cli.variableNames
  let ending ← Cli.carryOut (Cli.run env arguments)
  match ending with
  | .failure message => IO.eprintln ("Error: " ++ message)
  | _ => pure ()
  return UInt32.ofNat ending.code
