import TestWatch.Line
import TestWatch.Text.Blank
import TestWatch.Text.Numeral
import TestWatch.Text.Upper

/-!
# Reading a line

The rules that tell what a line says, in the order in which they are tried on the trimmed line:

1. a line that holds `:PASS` or `:FAIL` is the result of a test;
2. a line that holds `Tests` and one of `Failures` and `Ignored` is a summary;
3. a line that is `OK` or `FAIL` is a verdict;
4. a line that holds a closing phrase, in any case, is a marker.
-/

namespace TestWatch

open Text

/-! ## Results of tests -/

/-- The status that a line gives: passing if it holds `:PASS`, else failing if it holds `:FAIL`. -/
def Status.ofLine? (line : Text) : Option Status :=
  if holds ":PASS".toList line then some .pass
  else if holds ":FAIL".toList line then some .fail
  else none

/-- The part of a path after its last slash. -/
def fileName (path : Text) : Text := (split '/' path).getLastD []

/-- The record in a line `path:line:name:STATUS[:message]`, if it has that many fields; the message
may hold colons itself. -/
def Record.ofLine? (status : Status) (line : Text) : Option Record :=
  match split ':' line with
  | path :: number :: name :: _ :: message =>
    some {
      name := name
      file := fileName path
      line := number
      status := status
      message := trim (join [':'] message) }
  | _ => none

/-! ## Summaries -/

/-- Whether a line has the words of a summary. -/
def isSummary (line : Text) : Bool :=
  holds "Tests".toList line && (holds "Failures".toList line || holds "Ignored".toList line)

/-- The rows of digits in a line, each as long as can be. -/
def digitRows (line : Text) : List Text := nonEmpty (splitWhere (fun c => !isDigit c) line)

/-- The summary that a line gives: its first two rows of digits, if both can be read. -/
def summaryOfLine (line : Text) : Event :=
  match digitRows line with
  | first :: second :: _ =>
    match word64? first, word64? second with
    | some run, some failed => .summary run failed
    | _, _ => .malformedSummary
  | _ => .malformedSummary

/-! ## Verdicts and markers -/

/-- The verdict that a line is. -/
def Verdict.ofLine? (line : Text) : Option Verdict :=
  if line = Verdict.ok.word then some .ok
  else if line = Verdict.fail.word then some .fail
  else none

/-- The first marker whose phrase the upper case of a line holds. -/
def Marker.ofLine? (line : Text) : Option Marker :=
  Marker.all.find? fun m => holds m.phrase (upper line)

/-! ## The rules together -/

/-- What a line without blanks at its ends says. -/
def Event.ofTrimmed (line : Text) : Event :=
  if line.isEmpty then .unclassified
  else match Status.ofLine? line with
    | some status => .result status (Record.ofLine? status line)
    | none =>
      if isSummary line then summaryOfLine line
      else match Verdict.ofLine? line with
        | some v => .verdict v
        | none => match Marker.ofLine? line with
          | some m => .marker m
          | none => .unclassified

/-- What a line says; blanks at its ends, such as a carriage return, do not matter. -/
def Event.ofLine (line : Text) : Event := Event.ofTrimmed (trim line)

end TestWatch
