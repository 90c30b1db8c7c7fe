/-
Command lines.

A command line is a way down a small tree of commands, with options on the way.  A long option
takes its value from the next argument or after an equals sign, a short one also right behind it;
a value that looks like an option has to be attached.  After two dashes no argument is an option
or the name of a command.

An option may be given once at each stop of the way.  The options that go with every command may
stand at any stop, and the last stop counts.
-/
import AnalysisDesk.Cli.Command
import AnalysisDesk.Environment.Basic
import AnalysisDesk.Text.Numeral

namespace AnalysisDesk.Cli

/-! ### The tree of commands -/

/-- A stop on the way to a command. -/
inductive Stop where
  | top
  | serve
  | initDatabase
  | user
  | addUser
  | repository
  | addRepository
  | listRepositories
  | sweep
  | config
  | showConfig
  | validateConfig
  | initConfig
deriving DecidableEq, Repr, Inhabited

/-- The stops after a stop, by name. -/
def Stop.next : Stop → List (String × Stop)
  | .top => [("serve", .serve), ("init-db", .initDatabase), ("user", .user),
      ("repo", .repository), ("sweep", .sweep), ("config", .config)]
  | .user => [("add", .addUser)]
  | .repository => [("add", .addRepository), ("list", .listRepositories)]
  | .config => [("show", .showConfig), ("validate", .validateConfig), ("init", .initConfig)]
  | _ => []

/-- An option. -/
inductive Choice where
  | help
  | version
  | verbose
  | config
  | databasePath
  | port
  | analyzerUrl
  | dev
  | owner
  | name
  | cloneUrl
  | defaultBranch
deriving DecidableEq, Repr, Inhabited

/-- The long name of an option. -/
def Choice.longName : Choice → String
  | .help => "help"
  | .version => "version"
  | .verbose => "verbose"
  | .config => "config"
  | .databasePath => "db-path"
  | .port => "port"
  | .analyzerUrl => "analyzer-url"
  | .dev => "dev"
  | .owner => "owner"
  | .name => "name"
  | .cloneUrl => "clone-url"
  | .defaultBranch => "default-branch"

/-- The short name of an option, if it has one. -/
def Choice.shortName? : Choice → Option Char
  | .help => some 'h'
  | .version => some 'V'
  | .verbose => some 'v'
  | .port => some 'p'
  | _ => none

/-- Whether an option has a value. -/
def Choice.hasValue : Choice → Bool
  | .help | .version | .verbose | .dev => false
  | _ => true

/-- The options that may stand at a stop. -/
def Stop.choices (stop : Stop) : List Choice :=
  [.help, .verbose, .config, .databasePath] ++
    match stop with
    | .top => [.version]
    | .serve => [.port, .analyzerUrl, .dev]
    | .addRepository => [.owner, .name, .cloneUrl, .defaultBranch]
    | .listRepositories => [.owner]
    | _ => []

def Stop.long? (stop : Stop) (name : String) : Option Choice :=
  stop.choices.find? fun choice => choice.longName == name

def Stop.short? (stop : Stop) (c : Char) : Option Choice :=
  stop.choices.find? fun choice => choice.shortName? == some c

/-! ### Values -/

/-- The port that a value names: a whole number with or without sign. -/
def portValue? (value : String) : Option Nat :=
  match Text.readInteger value with
  | .ok (.ofNat n) => if n ≤ Limit.word16 then some n else none
  | _ => none

def numberValue? (value : String) : Option Int := (Text.readInteger value).toOption

/-- Whether an option can have a value. -/
def Choice.admits (choice : Choice) (value : String) : Bool :=
  match choice with
  | .config | .databasePath => !value.isEmpty
  | .port => (portValue? value).isSome
  | .owner => (numberValue? value).isSome
  | _ => true

/-! ### The way -/

/-- Why no command is run. -/
inductive Halt where
  | misuse
  | help
  | version
deriving DecidableEq, Repr

/-- The options given at a stop; one without a value has an empty one. -/
abbrev Given : Type := List (Choice × String)

/-- How far a command line has been read. -/
structure Way where
  stop : Stop
  given : Given
  /-- The options given at the stops before, the last stop first. -/
  before : List Given
  /-- The argument that is no option. -/
  word : Option String
  /-- An option whose value is still to come. -/
  awaiting : Option Choice
  /-- Whether two dashes have come. -/
  wordsOnly : Bool
  /-- Whether help is wanted on the stops that follow. -/
  helping : Bool
deriving DecidableEq, Repr

namespace Way

def start : Way := ⟨.top, [], [], none, none, false, false⟩

/-- Gives an option. -/
def give (w : Way) (choice : Choice) (value : String) : Except Halt Way :=
  if (w.given.lookup choice).isSome ∨ !choice.admits value then .error .misuse
  else .ok { w with given := w.given ++ [(choice, value)], awaiting := none }

/-- Takes an option, with a value if one is attached. -/
def takeChoice (w : Way) (choice : Choice) (attached : Option String) : Except Halt Way :=
  if w.awaiting.isSome then .error .misuse
  else
    match choice.hasValue, attached with
    | true, some value => w.give choice value
    | true, none => .ok { w with awaiting := some choice }
    | false, some _ => .error .misuse
    | false, none =>
      match choice with
      | .help => .error .help
      | .version => .error .version
      | _ => w.give choice ""

/-- Takes a long option after its dashes. -/
def takeLong (w : Way) (cs : List Char) : Except Halt Way :=
  let name := cs.takeWhile (· != '=')
  let attached := match cs.drop name.length with
    | [] => none
    | _ :: value => some (String.ofList value)
  match w.stop.long? (String.ofList name) with
  | some choice => w.takeChoice choice attached
  | none => .error .misuse

/-- Takes short options after their dash; the rest may be the value of one. -/
def takeShort (w : Way) : List Char → Except Halt Way
  | [] => .ok w
  | c :: rest =>
    match w.stop.short? c with
    | none => .error .misuse
    | some choice =>
      if choice.hasValue then
        w.takeChoice choice <|
          match rest with
          | [] => none
          | '=' :: value => some (String.ofList value)
          | value => some (String.ofList value)
      else
        match w.takeChoice choice none with
        | .ok w => w.takeShort rest
        | .error halt => .error halt

/-- Takes an argument that is no option and no name of a command. -/
def takeWord (w : Way) (argument : String) : Except Halt Way :=
  if w.stop = .addUser ∧ w.word.isNone then .ok { w with word := some argument }
  else .error .misuse

/-- Goes on to the next stop. -/
def enter (w : Way) (stop : Stop) : Way :=
  ⟨stop, [], w.given :: w.before, none, none, false, w.helping⟩

/-- Takes an argument that is no option. -/
def takePlain (w : Way) (argument : String) : Except Halt Way :=
  match w.awaiting with
  | some choice => w.give choice argument
  | none =>
    match w.stop.next.lookup argument with
    | some stop => .ok (w.enter stop)
    | none =>
      if argument = "help" ∧ !w.stop.next.isEmpty then .ok { w with helping := true }
      else w.takeWord argument

/-- Takes the name of a stop on which help is wanted. -/
def takeTopic (w : Way) (argument : String) : Except Halt Way :=
  match w.stop.next.lookup argument with
  | some stop => .ok (w.enter stop)
  | none => .error .misuse

/-- Takes an argument. -/
def take (w : Way) (argument : String) : Except Halt Way :=
  if w.helping then w.takeTopic argument
  else if w.wordsOnly then w.takeWord argument
  else
    match argument.toList with
    | ['-', '-'] =>
      if w.awaiting.isSome then .error .misuse else .ok { w with wordsOnly := true }
    | '-' :: '-' :: cs => w.takeLong cs
    | '-' :: c :: cs => w.takeShort (c :: cs)
    | _ => w.takePlain argument

/-! ### The end of the way -/

/-- The options at all stops, the last stop first. -/
def levels (w : Way) : List Given := w.given :: w.before

/-- The value of an option at the last stop where it is given. -/
def last? (w : Way) (choice : Choice) : Option String :=
  (w.levels.filterMap fun given => given.lookup choice).head?

/-- The command at the end. -/
def command? (w : Way) : Option Command :=
  match w.stop with
  | .top | .user | .repository => none
  | .serve =>
    some (.serve ((w.given.lookup .port).bind portValue?) (w.given.lookup .analyzerUrl)
      (w.given.lookup .dev).isSome)
  | .initDatabase => some .initDatabase
  | .addUser => w.word.map .addUser
  | .addRepository => do
    let owner ← (w.given.lookup .owner).bind numberValue?
    let name ← w.given.lookup .name
    let cloneUrl ← w.given.lookup .cloneUrl
    some (.addRepository owner name cloneUrl ((w.given.lookup .defaultBranch).getD "main"))
  | .listRepositories =>
    (w.given.lookup .owner).bind numberValue? |>.map .listRepositories
  | .sweep => some .sweep
  | .config | .showConfig => some .showConfig
  | .validateConfig => some .validateConfig
  | .initConfig => some .initConfig

/-- The invocation at the end.  The settings file may also be named by a variable, which must not
be empty where it is needed. -/
def finish (w : Way) (outside : Option String) : Except Halt Invocation :=
  let unnamed := w.levels.any fun given => (given.lookup .config).isNone
  if w.helping then .error .help
  else if w.awaiting.isSome ∨ (unnamed ∧ outside = some "") then .error .misuse
  else
    match w.command? with
    | none => .error .misuse
    | some command =>
      .ok {
        verbose := (w.last? .verbose).isSome
        config := (w.last? .config).or outside
        databasePath := w.last? .databasePath
        command }

end Way

/-- The variable that may name the settings file. -/
def configVariable : String := "CODESAGE_CONFIG"

/-- Reads a command line. -/
def read (env : Environment) (arguments : List String) : Except Halt Invocation := do
  let way ← arguments.foldlM Way.take .start
  way.finish (env configVariable)

end AnalysisDesk.Cli
