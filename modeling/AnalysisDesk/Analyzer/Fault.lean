/-
What can go wrong between the desk and the analyzer.

Only a fault that may pass by itself is worth another attempt.
-/
namespace AnalysisDesk

/-- Why a call to the analyzer fails. -/
inductive AnalyzerFault where
  /-- The analyzer cannot be reached or is busy. -/
  | unavailable (message : String)
  /-- The analyzer will not do what it is asked. -/
  | rejected (message : String)
  /-- The analyzer's answer makes no sense. -/
  | unexpected (message : String)
deriving DecidableEq, Repr, Inhabited

namespace AnalyzerFault

/-- Whether another attempt may succeed. -/
def isPassing : AnalyzerFault → Bool
  | .unavailable _ => true
  | .rejected _ | .unexpected _ => false

def text : AnalyzerFault → String
  | .unavailable message => "Analyzer unavailable: " ++ message
  | .rejected message => "Analyzer rejected request: " ++ message
  | .unexpected message => "Unexpected analyzer response: " ++ message

end AnalyzerFault

end AnalysisDesk
