/-
Log files.

There is one log file a day, named after the day.
-/
import AnalysisDesk.Files.Path
import AnalysisDesk.Time.Timestamp

namespace AnalysisDesk.LogFile

/-- The day of an instant as text. -/
def dayText (t : Instant) : String := String.ofList (t.text.toList.takeWhile (· != 'T'))

/-- The path of the log file of a day in a directory. -/
def path (directory : String) (t : Instant) : String :=
  Path.append directory ("codesage.log." ++ dayText t)

end AnalysisDesk.LogFile
