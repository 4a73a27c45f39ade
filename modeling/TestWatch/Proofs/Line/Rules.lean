import TestWatch.Line.Reading
import TestWatch.Proofs.Text.Searching

/-!
# Which rule a line comes under

The rules for reading a line look into the trimmed line.  No piece that they look for begins or ends
with a blank, so that they can be told of the line as it stands: a line shows a result, a summary or a
verdict, or it escapes these three.

What a line says is then given rule by rule: results and markers by an equivalence
(`Event.ofLine_eq_result_iff`, `Event.ofLine_eq_marker_iff`), summaries by an equation
(`Event.ofLine_of_showsSummary`), and the lines that escape the first three rules by what their upper
case holds (`Event.ofLine_of_escapes`).
-/

namespace TestWatch

open Text

/-! ## The rules, told of the line as it stands -/

/-- A line with the mark of a result, anywhere in it. -/
def ShowsResult (line : Text) : Prop := ":PASS".toList <:+: line ∨ ":FAIL".toList <:+: line

/-- A line with the words of a summary, anywhere in it. -/
def ShowsSummary (line : Text) : Prop :=
  "Tests".toList <:+: line ∧ ("Failures".toList <:+: line ∨ "Ignored".toList <:+: line)

/-- A line that is a verdict up to the blanks at its ends. -/
def ShowsVerdict (line : Text) : Prop := ∃ verdict : Verdict, trim line = verdict.word

/-- A line that shows neither a result nor a summary nor a verdict. -/
def EscapesRules (line : Text) : Prop :=
  ¬ ShowsResult line ∧ ¬ ShowsSummary line ∧ ¬ ShowsVerdict line

/-- A piece without blanks at its ends is found in the trimmed line exactly if it is in the line. -/
theorem holds_trim_iff {part : Text} (hne : part ≠ []) (hpart : Solid part) (line : Text) :
    holds part (trim line) = true ↔ part <:+: line :=
  holds_iff_isInfix.trans (infix_trim_iff hne hpart line)

theorem holds_pass_trim_iff (line : Text) :
    holds ":PASS".toList (trim line) = true ↔ ":PASS".toList <:+: line :=
  holds_trim_iff (by decide) (by decide) line

theorem holds_fail_trim_iff (line : Text) :
    holds ":FAIL".toList (trim line) = true ↔ ":FAIL".toList <:+: line :=
  holds_trim_iff (by decide) (by decide) line

theorem isSummary_trim_iff (line : Text) : isSummary (trim line) = true ↔ ShowsSummary line := by
  rw [isSummary, Bool.and_eq_true, Bool.or_eq_true, holds_trim_iff (by decide) (by decide),
    holds_trim_iff (by decide) (by decide), holds_trim_iff (by decide) (by decide), ShowsSummary]

namespace Status

/-- A line passes as soon as it holds the mark of a pass. -/
theorem ofLine?_trim_eq_pass_iff (line : Text) :
    ofLine? (trim line) = some .pass ↔ ":PASS".toList <:+: line := by
  rw [← holds_pass_trim_iff, ofLine?]
  cases holds ":PASS".toList (trim line) <;> cases holds ":FAIL".toList (trim line) <;> simp

/-- A line fails if it holds the mark of a failure and not that of a pass. -/
theorem ofLine?_trim_eq_fail_iff (line : Text) :
    ofLine? (trim line) = some .fail ↔ ":FAIL".toList <:+: line ∧ ¬ ":PASS".toList <:+: line := by
  rw [← holds_pass_trim_iff, ← holds_fail_trim_iff, ofLine?]
  cases holds ":PASS".toList (trim line) <;> cases holds ":FAIL".toList (trim line) <;> simp

theorem ofLine?_trim_eq_none_iff (line : Text) :
    ofLine? (trim line) = none ↔ ¬ ShowsResult line := by
  rw [ShowsResult, ← holds_pass_trim_iff, ← holds_fail_trim_iff, ofLine?]
  cases holds ":PASS".toList (trim line) <;> cases holds ":FAIL".toList (trim line) <;> simp

end Status

namespace Verdict

theorem ofLine?_eq_some_iff {line : Text} {verdict : Verdict} :
    ofLine? line = some verdict ↔ line = verdict.word := by
  have hdistinct : Verdict.ok.word ≠ Verdict.fail.word := by decide
  unfold ofLine?
  split
  · rename_i hok
    subst hok
    cases verdict <;> simp [hdistinct]
  · rename_i hok
    split
    · rename_i hfail
      subst hfail
      cases verdict <;> simp [hdistinct.symm]
    · rename_i hfail
      cases verdict <;> simp [hok, hfail]

theorem ofLine?_trim_eq_none_iff (line : Text) :
    ofLine? (trim line) = none ↔ ¬ ShowsVerdict line := by
  rw [ShowsVerdict, Option.eq_none_iff_forall_ne_some, not_exists]
  exact forall_congr' fun verdict => not_congr ofLine?_eq_some_iff

end Verdict

instance (line : Text) : Decidable (ShowsResult line) :=
  decidable_of_iff (¬ Status.ofLine? (trim line) = none)
    (not_iff_comm.1 (Status.ofLine?_trim_eq_none_iff line).symm)

instance (line : Text) : Decidable (ShowsSummary line) :=
  decidable_of_iff (isSummary (trim line) = true) (isSummary_trim_iff line)

instance (line : Text) : Decidable (ShowsVerdict line) :=
  decidable_of_iff (¬ Verdict.ofLine? (trim line) = none)
    (not_iff_comm.1 (Verdict.ofLine?_trim_eq_none_iff line).symm)

instance (line : Text) : Decidable (EscapesRules line) :=
  inferInstanceAs (Decidable (¬ ShowsResult line ∧ ¬ ShowsSummary line ∧ ¬ ShowsVerdict line))

/-! ## What a line says, rule by rule -/

namespace Event

/-- A blank line needs no rule of its own: it holds nothing that the others look for. -/
theorem ofLine_eq (line : Text) :
    ofLine line = match Status.ofLine? (trim line) with
      | some status => .result status (Record.ofLine? status (trim line))
      | none =>
        if isSummary (trim line) then summaryOfLine (trim line)
        else match Verdict.ofLine? (trim line) with
          | some v => .verdict v
          | none => match Marker.ofLine? (trim line) with
            | some m => .marker m
            | none => .unclassified := by
  rw [ofLine, ofTrimmed]
  cases trim line <;> rfl

theorem summaryOfLine_cases (line : Text) :
    (∃ run failed, summaryOfLine line = .summary run failed)
      ∨ summaryOfLine line = .malformedSummary := by
  unfold summaryOfLine
  split
  · split
    · exact .inl ⟨_, _, rfl⟩
    · exact .inr rfl
  · exact .inr rfl

theorem ofLine_of_showsSummary {line : Text} (hresult : ¬ ShowsResult line)
    (hsummary : ShowsSummary line) : ofLine line = summaryOfLine (trim line) := by
  rw [ofLine_eq, (Status.ofLine?_trim_eq_none_iff line).2 hresult]
  exact if_pos ((isSummary_trim_iff line).2 hsummary)

theorem ofLine_of_not_showsSummary {line : Text} (hresult : ¬ ShowsResult line)
    (hsummary : ¬ ShowsSummary line) :
    ofLine line = match Verdict.ofLine? (trim line) with
      | some v => .verdict v
      | none => match Marker.ofLine? (trim line) with
        | some m => .marker m
        | none => .unclassified := by
  rw [ofLine_eq, (Status.ofLine?_trim_eq_none_iff line).2 hresult]
  exact if_neg (by rwa [isSummary_trim_iff])

/-- A line that escapes the first three rules says what its upper case holds. -/
theorem ofLine_of_escapes {line : Text} (h : EscapesRules line) :
    ofLine line = match Marker.ofLine? (trim line) with
      | some m => .marker m
      | none => .unclassified := by
  obtain ⟨hresult, hsummary, hverdict⟩ := h
  rw [ofLine_of_not_showsSummary hresult hsummary,
    (Verdict.ofLine?_trim_eq_none_iff line).2 hverdict]

/-- A line is a result exactly if it has a status, and then it comes with the record of its fields. -/
theorem ofLine_eq_result_iff {line : Text} {status : Status} {record : Option Record} :
    ofLine line = .result status record
      ↔ Status.ofLine? (trim line) = some status
        ∧ record = Record.ofLine? status (trim line) := by
  cases hstatus : Status.ofLine? (trim line) with
  | some s =>
    rw [ofLine_eq, hstatus]
    constructor
    · rintro ⟨⟩
      exact ⟨rfl, rfl⟩
    · rintro ⟨⟨⟩, rfl⟩
      rfl
  | none =>
    have hresult := (Status.ofLine?_trim_eq_none_iff line).1 hstatus
    simp only [reduceCtorEq, false_and, iff_false]
    by_cases hsummary : ShowsSummary line
    · rw [ofLine_of_showsSummary hresult hsummary]
      rcases summaryOfLine_cases (trim line) with ⟨run, failed, heq⟩ | heq <;> simp [heq]
    · rw [ofLine_of_not_showsSummary hresult hsummary]
      (repeat' split) <;> simp

theorem exists_result_iff (line : Text) :
    (∃ status record, ofLine line = .result status record) ↔ ShowsResult line := by
  rw [← not_iff_not, ← Status.ofLine?_trim_eq_none_iff, Option.eq_none_iff_forall_ne_some, not_exists]
  refine forall_congr' fun status => not_congr ?_
  simp only [ofLine_eq_result_iff, exists_and_left, exists_eq, and_true]

/-- A line is a marker exactly if it escapes the first three rules and its upper case holds one. -/
theorem ofLine_eq_marker_iff {line : Text} {m : Marker} :
    ofLine line = .marker m ↔ EscapesRules line ∧ Marker.ofLine? (trim line) = some m := by
  constructor
  · intro h
    have hresult : ¬ ShowsResult line := by
      intro hshows
      obtain ⟨status, record, heq⟩ := (exists_result_iff line).2 hshows
      cases heq.symm.trans h
    have hsummary : ¬ ShowsSummary line := by
      intro hshows
      rw [ofLine_of_showsSummary hresult hshows] at h
      rcases summaryOfLine_cases (trim line) with ⟨run, failed, heq⟩ | heq
      · cases heq.symm.trans h
      · cases heq.symm.trans h
    rw [ofLine_of_not_showsSummary hresult hsummary] at h
    cases hverdict : Verdict.ofLine? (trim line) with
    | some v =>
      rw [hverdict] at h
      cases h
    | none =>
      rw [hverdict] at h
      refine ⟨⟨hresult, hsummary, (Verdict.ofLine?_trim_eq_none_iff line).1 hverdict⟩, ?_⟩
      cases hmarker : Marker.ofLine? (trim line) with
      | some k =>
        rw [hmarker] at h
        cases h
        rfl
      | none =>
        rw [hmarker] at h
        cases h
  · rintro ⟨hescapes, hmarker⟩
    rw [ofLine_of_escapes hescapes, hmarker]

end Event

end TestWatch
