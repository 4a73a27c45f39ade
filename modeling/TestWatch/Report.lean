import TestWatch.Tally
import TestWatch.Text.Numeral
import TestWatch.Text.Style

/-!
# The report

The report on a run, made from its tally: the counts, a banner, a line per record, and a section on
the failures.  It is built as styled text and shown plainly or in color.
-/

namespace TestWatch

open Text

namespace Report

/-- The report on a run of no tests. -/
def noResults : Text := "No test results captured".toList

/-- The width of a rule. -/
def ruleWidth : Nat := 70

/-- The rule around the report. -/
def heavyRule : Piece := plainly (List.replicate ruleWidth '=')

/-- The rule between its parts. -/
def lightRule : Piece := plainly (List.replicate ruleWidth '-')

/-- A space between pieces. -/
def gap : Piece := plainly [' ']

/-- A label and a number in one style. -/
def countLine (style : Style) (label : String) (n : Nat) : Styled :=
  [style.of label.toList, gap, style.of (decimal n)]

/-- The banner. -/
def banner (t : Tally) : Styled :=
  if t.failed = 0 then [Style.pass.of "ALL TESTS PASSED!".toList]
  else [Style.fail.of (decimal t.failed), gap, Style.fail.of "TEST(S) FAILED".toList]

/-- Where a test stands. -/
def place (r : Record) : Text := r.file ++ ':' :: r.line

/-- The line of a passing test. -/
def passedLine (r : Record) : Styled :=
  [Style.pass.of "✓ PASS:".toList, gap, plainly r.name]

/-- The line of a failing test. -/
def failedLine (r : Record) : Styled :=
  [Style.fail.of "✗ FAIL:".toList, gap, plainly r.name]
    ++ (if r.message.isEmpty then [] else [plainly (" - ".toList ++ r.message)])
    ++ [plainly (" (".toList ++ place r ++ ")".toList)]

/-- The entry on a failing test, numbered from one. -/
def failureEntry (number : Nat) (r : Record) : List Styled :=
  [[Style.fail.of (decimal number ++ ['.']), gap, Style.fail.of r.name],
    [plainly ("   File: ".toList ++ place r)]]
    ++ (if r.message.isEmpty then [] else [[plainly ("   Error: ".toList ++ r.message)]])

/-- The entries on failing tests, an empty line between two. -/
def failureEntries (number : Nat) : List Record → List Styled
  | [] => []
  | [r] => failureEntry number r
  | r :: rest => failureEntry number r ++ [] :: failureEntries (number + 1) rest

/-- The section on the failures, if there are any. -/
def failureSection (failed : List Record) : List Styled :=
  if failed.isEmpty then []
  else [[], [lightRule], [Style.heading.of "FAILURE DETAILS:".toList]] ++ failureEntries 1 failed

/-- The lines of the report on a run of some tests. -/
def lines (t : Tally) : List Styled :=
  [[heavyRule], [Style.title.of "UNITY TEST RESULTS SUMMARY".toList], [heavyRule],
    countLine .count "Tests Run:" t.run, countLine .pass "Passed:" t.passed,
    countLine .fail "Failed:" t.failed, banner t, [lightRule],
    [Style.heading.of "DETAILED RESULTS:".toList]]
    ++ t.passedTests.map passedLine ++ t.failedTests.map failedLine
    ++ failureSection t.failedTests ++ [[heavyRule]]

/-- The report as styled text. -/
def styled (t : Tally) : Styled :=
  if t.run = 0 then [plainly noResults]
  else List.intercalate [plainly ['\n']] (lines t)

/-- The report on a run, in color or plainly. -/
def render (color : Bool) (t : Tally) : Text := Styled.shown color (styled t)

end Report

end TestWatch
