import TestWatch.Line
import TestWatch.Text.Numeral
import TestWatch.Text.Quoted

/-!
# Events as they are logged

The form in which the journal shows the event that a line was read as: the constructor's name and
its fields by name, texts quoted.
-/

namespace TestWatch

open Text

/-- A status as the journal names it. -/
def Status.shown : Status → Text
  | .pass => "Pass".toList
  | .fail => "Fail".toList

/-- A verdict as the journal names it. -/
def Verdict.shown : Verdict → Text
  | .ok => "Ok".toList
  | .fail => "Fail".toList

/-- A name with fields in braces. -/
def shownFields (name : String) (fields : List (String × Text)) : Text :=
  name.toList ++ " \x7b ".toList
    ++ join ", ".toList (fields.map fun (key, shown) => key.toList ++ ": ".toList ++ shown)
    ++ " \x7d".toList

/-- A record as the journal shows it. -/
def Record.shown (r : Record) : Text :=
  shownFields "TestResultRecord" [
    ("test_name", quoted r.name), ("file", quoted r.file), ("line", quoted r.line),
    ("status", r.status.shown), ("message", quoted r.message)]

/-- An event as the journal shows it. -/
def Event.shown : Event → Text
  | .result status record =>
    let shownRecord := match record with
      | none => "None".toList
      | some r => "Some(".toList ++ r.shown ++ ")".toList
    shownFields "TestResult" [("status", status.shown), ("record", shownRecord)]
  | .summary run failed => shownFields "Summary" [("run", decimal run), ("failed", decimal failed)]
  | .malformedSummary => "MalformedSummary".toList
  | .verdict v => "TerminalMarker(".toList ++ v.shown ++ ")".toList
  | .marker m => shownFields "FallbackMarker" [("marker", quoted m.phrase)]
  | .unclassified => "Unclassified".toList

end TestWatch
