/-
What a command does to its surroundings.

A command is a tree, like the procedures of the desk: at each node it does one deed — looks for a
file, opens a database, prints a line — and goes on with what it learns.  `Errand` does not say
how deeds are carried out, so the same command can run on the machine or on a tree of files that
is a value.
-/
import AnalysisDesk.Analyzer.Client
import AnalysisDesk.Store.Basic
import AnalysisDesk.Time.Instant
import AnalysisDesk.Time.Span

namespace AnalysisDesk

/-- What a path leads to. -/
inductive FileKind where
  | file
  | directory
deriving DecidableEq, Repr

/-- One thing that a command does. -/
inductive Deed where
  /-- Asks for the path of the working directory. -/
  | whereAmI
  /-- Looks what a path leads to. -/
  | look (path : String)
  | readText (path : String)
  | writeText (path content : String)
  | makeDirectories (path : String)
  /-- Opens a database; one that is missing is made. -/
  | openDatabase (path : String)
  | keepDatabase (path : String) (store : Store)
  /-- Starts the log file of the day in a directory. -/
  | startLog (directory : String)
  /-- Listens for requests at an address. -/
  | listen (address : String)
  /-- Sends a request and waits for the reply. -/
  | send (request : AnalyzerRequest)
  | pause (span : Span)
  | now
  /-- Takes an identifier that nobody has taken before. -/
  | freshId
  | print (text : String)

/-- The type of what a command learns from a deed; where it is a truth value it says whether the
deed could be done. -/
def Deed.Answer : Deed → Type
  | .whereAmI => String
  | .look _ => Option FileKind
  | .readText _ => Option String
  | .writeText _ _ | .makeDirectories _ | .startLog _ | .listen _ => Bool
  | .openDatabase _ => Option Store
  | .keepDatabase _ _ | .pause _ | .print _ => Unit
  | .send _ => Delivery
  | .now => Instant
  | .freshId => JobId

/-- A command that ends with an `α`. -/
inductive Errand (α : Type) : Type where
  | done (result : α)
  | act (deed : Deed) (next : deed.Answer → Errand α)

namespace Errand

/-- Goes on with another command after the end of the first. -/
def bind {α β : Type} (errand : Errand α) (f : α → Errand β) : Errand β :=
  match errand with
  | .done result => f result
  | .act deed next => .act deed fun answer => (next answer).bind f

instance : Monad Errand where
  pure := .done
  bind := bind

/-- A single deed. -/
def perform (deed : Deed) : Errand deed.Answer := .act deed .done

def whereAmI : Errand String := perform .whereAmI
def look (path : String) : Errand (Option FileKind) := perform (.look path)
def readText (path : String) : Errand (Option String) := perform (.readText path)
def writeText (path content : String) : Errand Bool := perform (.writeText path content)
def makeDirectories (path : String) : Errand Bool := perform (.makeDirectories path)
def openDatabase (path : String) : Errand (Option Store) := perform (.openDatabase path)
def keepDatabase (path : String) (store : Store) : Errand Unit :=
  perform (.keepDatabase path store)
def startLog (directory : String) : Errand Bool := perform (.startLog directory)
def listen (address : String) : Errand Bool := perform (.listen address)
def send (request : AnalyzerRequest) : Errand Delivery := perform (.send request)
def pause (span : Span) : Errand Unit := perform (.pause span)
def now : Errand Instant := perform .now
def freshId : Errand JobId := perform .freshId
def print (text : String) : Errand Unit := perform (.print text)
def printLine (text : String) : Errand Unit := print (text ++ "\n")

end Errand

end AnalysisDesk
