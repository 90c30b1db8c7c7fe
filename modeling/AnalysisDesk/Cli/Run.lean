/-
Running commands.

Before any command there is the configuration: the settings file that is named, or the first of
two usual ones, or the defaults; over it the variables, over these the options.  Only the command
that makes a settings file goes on without one that can be read.  Then the log is started, and
only then does the command itself begin.
-/
import AnalysisDesk.Cli.Arguments
import AnalysisDesk.Cli.Desk
import AnalysisDesk.Cli.Listing
import AnalysisDesk.Config.Given
import AnalysisDesk.Config.Overrides
import AnalysisDesk.Config.Written
import AnalysisDesk.Desk.Operations
import AnalysisDesk.Environment.Dotenv
import AnalysisDesk.Files.Path
import AnalysisDesk.Logging.Filter

namespace AnalysisDesk.Cli

/-- A command that may end early. -/
abbrev Work (α : Type) : Type := ExceptT Ending Errand α

/-- Ends with a failure. -/
def fail {α : Type} (message : String) : Work α := throw (.failure message)

/-- Ends with the failure of a call to the store. -/
def stored {α : Type} : Except StoreError α → Work α
  | .ok a => return a
  | .error cause => fail cause.message

/-! ### Variables -/

/-- The variable with the filter of the log. -/
def filterVariable : String := "RUST_LOG"

/-- The variables with the user's directories. -/
def settingsVariable : String := "XDG_CONFIG_HOME"
def homeVariable : String := "HOME"

/-- All variables that a command looks at. -/
def variableNames : List String :=
  [configVariable, Config.urlVariable, Config.databaseVariable, Config.portVariable,
    Config.formatVariable, filterVariable, settingsVariable, homeVariable]

/-- The variables with those of the first file of variables, here or above. -/
def withDotenv (env : Environment) : List Place → Errand Environment
  | [] => return env
  | place :: above => do
    let path := Path.append (Path.text place) Dotenv.fileName
    match ← Errand.look path with
    | some .file =>
      match ← Errand.readText path with
      | some text => return Dotenv.load env text
      | none => return env
    | _ => withDotenv env above

/-- The variables for a command. -/
def surroundings (env : Environment) : Errand Environment := do
  let here ← Errand.whereAmI
  withDotenv env (Path.ancestors (Path.place [] here))

/-! ### The configuration -/

/-- The name of the settings file in the working directory. -/
def configFileName : String := "codesage.toml"

/-- The directory of the user's settings. -/
def userDirectory? (env : Environment) : Option String :=
  match (env settingsVariable).filter Path.isAbsolute with
  | some directory => some directory
  | none => ((env homeVariable).filter fun home => !home.isEmpty).map fun home =>
      Path.append home ".config"

/-- Where settings files are looked for if none is named. -/
def usualConfigs (env : Environment) : List String :=
  configFileName :: (userDirectory? env).toList.map fun directory =>
    Path.append (Path.append directory "codesage") "config.toml"

/-- Reads the configuration of a settings file. -/
def loadConfig (path : String) : Errand (Except Config.Fault Config) := do
  match ← Errand.readText path with
  | none => return .error (.unreadable path)
  | some text =>
    match Config.ofText? text with
    | none => return .error (.malformed path)
    | some config => return .ok config

/-- The configuration of the first of some settings files, or the defaults. -/
def firstConfig : List String → Errand (Except Config.Fault Config)
  | [] => return .ok .standard
  | path :: rest => do
    match ← Errand.look path with
    | some _ => loadConfig path
    | none => firstConfig rest

/-- The configuration of the file that is named, or of a usual one. -/
def discover (env : Environment) : Option String → Errand (Except Config.Fault Config)
  | none => firstConfig (usualConfigs env)
  | some path => do
    match ← Errand.look path with
    | some _ => loadConfig path
    | none => return .error (.missing path)

/-- The configuration with the option for the database. -/
def withDatabase (config : Config) (path : Option String) : Config :=
  { config with server := { config.server with
    databasePath := path.getD config.server.databasePath } }

/-- The configuration with the variables and the options over it. -/
def settled (env : Environment) (invocation : Invocation) (base : Config) : Work Config :=
  match base.override env with
  | .error fault => fail fault.message
  | .ok config => return withDatabase config invocation.databasePath

/-- The configuration that a command works by. -/
def effectiveConfig (env : Environment) (invocation : Invocation) : Work Config := do
  let base ←
    match invocation.command, ← discover env invocation.config with
    | _, .ok config => pure config
    | .initConfig, .error _ => pure .standard
    | _, .error fault => fail fault.message
  settled env invocation base

/-- Ends the command if the configuration cannot be worked by. -/
def checked (config : Config) : Work Unit :=
  match config.check with
  | .ok () => return
  | .error fault => fail fault.message

/-! ### The log -/

/-- Starts the log file in a directory, which is made if it is missing. -/
def startLogFile (directory : String) : Work Unit := do
  if !(← Errand.makeDirectories directory) then
    fail ("Failed to create log directory " ++ directory)
  if !(← Errand.startLog directory) then throw .collapse

/-- Starts the log. -/
def startLogging (env : Environment) (logging : LoggingConfig) (verbose : Bool) : Work Unit := do
  let filter := LogFilter.choose (env filterVariable) logging.filter verbose
  if !LogFilter.isValid filter then fail ("Invalid log filter '" ++ filter ++ "'")
  match logging.directory with
  | none => return
  | some directory => startLogFile directory

/-! ### The database -/

/-- Whether a database has no file and ends with the command. -/
def isFleeting (path : String) : Bool := path == "" || path == ":memory:"

/-- Opens the database at a path in a directory that is there, or fails with a message. -/
def openStoreFile (path message : String) : Work Store := do
  if isFleeting path then return .empty
  match ← Errand.openDatabase path with
  | some store => return store
  | none => fail message

/-- Opens the database at a path; its directory is made if it is missing. -/
def openStore (path message : String) : Work Store := do
  match Path.parent? path with
  | none => pure ()
  | some parent => if !parent.isEmpty && !(← Errand.makeDirectories parent) then fail message
  openStoreFile path message

/-- Opens the database of a command. -/
def openDatabase (config : Config) : Work Store :=
  openStore config.server.databasePath ("Failed to open database at " ++ config.server.databasePath)

/-- Keeps a store in the database at a path. -/
def keepStore (path : String) (store : Store) : Errand Unit :=
  if isFleeting path then return else Errand.keepDatabase path store

/-- Keeps the store after a change, if the change could be made. -/
def record {α : Type} (config : Config) (outcome : Store.Outcome α) : Work α := do
  let answer ← stored outcome.1
  keepStore config.server.databasePath outcome.2
  return answer

/-- Runs a procedure of the desk on the store in the database.  A time limit that reaches back
beyond all time is nothing that a command was made for. -/
def attend (config : Config) (store : Store) (procedure : DeskCall Nat) : Work Nat := do
  let client := AnalyzerClient.ofUrl config.analyzer.url
  let running : Errand (Except Overflow (Except DeskError Nat)) :=
    runDesk client (keepStore config.server.databasePath) store procedure
  match ← (liftM running : Work (Except Overflow (Except DeskError Nat))) with
  | .ok (.ok count) => return count
  | .ok (.error (.storage .cutoffOutOfRange)) | .error _ => throw .collapse
  | .ok (.error e) => fail e.message

/-! ### The commands -/

def initDatabase (config : Config) : Work Unit := do
  let _ ← openDatabase config
  Errand.printLine ("Database initialized at " ++ config.server.databasePath)

def addUser (config : Config) (username : String) : Work Unit := do
  let store ← openDatabase config
  let user ← record config (store.createUser username (← Errand.now))
  Errand.printLine ("Created user " ++ user.username ++ " (id " ++ toString user.id ++ ")")

def addRepository (config : Config) (owner : Int) (name cloneUrl defaultBranch : String) :
    Work Unit := do
  let store ← openDatabase config
  if (← stored (store.user? owner)).isNone then fail ("No user with id " ++ toString owner)
  let repository ← record config
    (store.createRepository owner name cloneUrl defaultBranch (← Errand.now))
  Errand.printLine ("Created repository " ++ repository.name ++ " (id " ++ toString repository.id
    ++ ") on branch " ++ repository.defaultBranch)

def listRepositories (config : Config) (owner : Int) : Work Unit := do
  let store ← openDatabase config
  let repositories ← stored (store.repositoriesOf owner)
  if repositories.isEmpty then
    Errand.printLine ("No repositories for user " ++ toString owner)
  else Errand.print (repositoryTable repositories)

/-- Sweeps once. -/
def sweep (config : Config) : Work Unit := do
  checked config
  let store ← openDatabase config
  let swept ← attend config store (Desk.sweep config.deskSettings)
  Errand.printLine ("Swept " ++ toString swept ++ " stale analyses")

/-- The configuration with the options of the service. -/
def served (config : Config) (port : Option Nat) (analyzerUrl : Option String) : Config :=
  { config with
    server := { config.server with port := port.getD config.server.port }
    analyzer := { config.analyzer with url := analyzerUrl.getD config.analyzer.url } }

/-- What a service does before it answers requests: what has waited too long is failed, and what
is still processing is watched again. -/
def recover (settings : DeskSettings) : DeskCall Nat :=
  (Desk.sweep settings).bind fun
    | .error e => .done (.error e)
    | .ok _ => Desk.resume

/-- Listens for requests and opens the database.  What comes after is the work of the service. -/
def serve (config : Config) (port : Option Nat) (analyzerUrl : Option String) : Work Unit := do
  let config := served config port analyzerUrl
  checked config
  let address := config.server.host ++ ":" ++ toString config.server.port
  if !(← Errand.listen address) then fail ("Failed to bind to " ++ address)
  let store ← openStore config.server.databasePath "Failed to initialize analysis database"
  let _ ← attend config store (recover config.deskSettings)

def showConfig (config : Config) : Work Unit :=
  Errand.print ("\nCodeSage Configuration (effective, with env/CLI overrides)\n"
    ++ "==========================================================\n\n" ++ config.write ++ "\n")

def validateConfig (config : Config) : Work Unit := do
  let problems := config.problems
  if problems.isEmpty then Errand.printLine "Configuration is valid."
  else
    Errand.print ("Configuration problems:\n" ++ String.join (problems.map fun problem =>
      "  - " ++ problem.message ++ "\n"))
    fail (toString problems.length ++ " configuration problem(s)")

/-- Writes the defaults into a settings file, unless there is something already. -/
def initConfig (named : Option String) : Work Unit := do
  let path := named.getD configFileName
  match ← Errand.look path with
  | some _ =>
    Errand.print (path ++ " already exists.\nDelete it first if you want to recreate it.\n")
  | none =>
    if !(← Errand.writeText path Config.standard.write) then fail ("Failed to write " ++ path)
    Errand.printLine ("Created " ++ path)

/-- Runs a command by a configuration. -/
def runCommand (invocation : Invocation) (config : Config) : Work Unit :=
  match invocation.command with
  | .serve port analyzerUrl _ => serve config port analyzerUrl
  | .initDatabase => initDatabase config
  | .addUser username => addUser config username
  | .addRepository owner name cloneUrl defaultBranch =>
    addRepository config owner name cloneUrl defaultBranch
  | .listRepositories owner => listRepositories config owner
  | .sweep => sweep config
  | .showConfig => showConfig config
  | .validateConfig => validateConfig config
  | .initConfig => initConfig invocation.config

/-- Prepares and runs a command. -/
def invoke (env : Environment) (invocation : Invocation) : Work Unit := do
  let config ← effectiveConfig env invocation
  startLogging env config.logging invocation.verbose
  runCommand invocation config

/-- The name and the version of the program. -/
def versionText : String := "codesage 0.1.0"

/-- Runs a command line. -/
def run (env : Environment) (arguments : List String) : Errand Ending := do
  let env ← surroundings env
  match read env arguments with
  | .error .misuse => return .misuse
  | .error .help => return .success
  | .error .version =>
    Errand.printLine versionText
    return .success
  | .ok invocation =>
    match ← (invoke env invocation).run with
    | .ok () => return .success
    | .error ending => return ending

end AnalysisDesk.Cli
