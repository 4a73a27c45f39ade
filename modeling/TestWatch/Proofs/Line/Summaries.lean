import TestWatch.Progress
import TestWatch.Proofs.Line.Rules
import TestWatch.Proofs.Text.Numerals
import TestWatch.Tally

/-!
# The numbers of a summary

A summary gives its two numbers as the first two rows of digits in the line.  `DigitRuns` says what the
rows of a text are without saying how they are found: they hold digits only, and what stands before,
between and after them holds none.  Every text has exactly one list of rows, and it is the one that the
reader finds (`digitRuns_iff`); blanks at the ends of a line do not matter for it (`digitRows_trim`).

`read_summary` says what a line with the words of a summary says: the values of its first two rows if
both fit 64 bits, and nothing that counts otherwise.
-/

namespace TestWatch

open Text

/-! ## Rows of digits -/

/-- A text without digits. -/
def IsGap (s : Text) : Prop := ∀ c ∈ s, isDigit c = false

instance (s : Text) : Decidable (IsGap s) :=
  List.decidableBAll (fun c => isDigit c = false) s

/-- The rows of digits in a text, each as long as can be, from the first to the last. -/
inductive DigitRuns : Text → List Text → Prop where
  /-- A text without digits has no rows. -/
  | nil {gap : Text} (hgap : IsGap gap) : DigitRuns gap []
  /-- The first row comes after a gap that holds no digits, and no digit follows it at once. -/
  | cons {gap digits rest : Text} {rows : List Text} (hgap : IsGap gap)
      (hdigits : IsNumeral digits) (hend : ∀ c ∈ rest.head?, isDigit c = false)
      (hrest : DigitRuns rest rows) :
      DigitRuns (gap ++ (digits ++ rest)) (digits :: rows)

namespace DigitRuns

/-- One more character that is no digit, at the front. -/
theorem cons_gap {c : Char} {s : Text} {rows : List Text} (hc : isDigit c = false)
    (h : DigitRuns s rows) : DigitRuns (c :: s) rows := by
  cases h with
  | nil hgap => exact .nil (List.forall_mem_cons.2 ⟨hc, hgap⟩)
  | @cons gap digits rest rows hgap hdigits hend hrest =>
    have hlonger : IsGap (c :: gap) := List.forall_mem_cons.2 ⟨hc, hgap⟩
    exact .cons hlonger hdigits hend hrest

/-- One more digit at the front lengthens the first row, or it is a row of its own. -/
theorem cons_digit {c : Char} {s : Text} {rows : List Text} (hc : isDigit c = true)
    (h : DigitRuns s rows) : ∃ rows, DigitRuns (c :: s) rows := by
  have hnone : IsGap [] := List.forall_mem_nil _
  have hsingle : IsNumeral [c] := ⟨List.cons_ne_nil c [], List.forall_mem_singleton.2 hc⟩
  cases h with
  | nil hgap =>
    exact ⟨_, .cons hnone hsingle (fun d hd => hgap d (List.mem_of_mem_head? hd)) (.nil hgap)⟩
  | @cons gap digits rest rows hgap hdigits hend hrest =>
    cases gap with
    | nil =>
      have hlonger : IsNumeral (c :: digits) :=
        ⟨List.cons_ne_nil c digits, List.forall_mem_cons.2 ⟨hc, hdigits.2⟩⟩
      exact ⟨_, .cons hnone hlonger hend hrest⟩
    | cons g gap =>
      have hnext : ∀ d ∈ (g :: gap ++ (digits ++ rest)).head?, isDigit d = false := by
        rintro d ⟨⟩
        exact hgap g List.mem_cons_self
      exact ⟨_, .cons hnone hsingle hnext (.cons hgap hdigits hend hrest)⟩

/-- Characters after the text that are no digits. -/
theorem append_gap {s back : Text} {rows : List Text} (h : DigitRuns s rows)
    (hback : IsGap back) : DigitRuns (s ++ back) rows := by
  induction h with
  | nil hgap => exact .nil (List.forall_mem_append.2 ⟨hgap, hback⟩)
  | @cons gap digits rest rows hgap hdigits hend hrest ih =>
    rw [List.append_assoc, List.append_assoc]
    refine .cons hgap hdigits (fun c hc => ?_) ih
    cases rest with
    | nil => exact hback c (List.mem_of_mem_head? hc)
    | cons d rest => exact hend c hc

end DigitRuns

theorem exists_digitRuns (s : Text) : ∃ rows, DigitRuns s rows := by
  induction s with
  | nil => exact ⟨[], .nil (List.forall_mem_nil _)⟩
  | cons c s ih =>
    obtain ⟨rows, h⟩ := ih
    cases hc : isDigit c with
    | true => exact h.cons_digit hc
    | false => exact ⟨rows, h.cons_gap hc⟩

/-! ## The reader finds them -/

theorem digitRows_append_gap {gap : Text} (hgap : IsGap gap) (s : Text) :
    digitRows (gap ++ s) = digitRows s := by
  induction gap with
  | nil => rfl
  | cons c gap ih =>
    have hc : isDigit c = false := hgap c List.mem_cons_self
    have hskip : digitRows (c :: (gap ++ s)) = digitRows (gap ++ s) := by
      simp [digitRows, splitWhere, hc, nonEmpty]
    rw [List.cons_append, hskip, ih fun d hd => hgap d (List.mem_cons_of_mem c hd)]

theorem digitRows_append_digits {digits rest : Text} (hdigits : IsNumeral digits)
    (hend : ∀ c ∈ rest.head?, isDigit c = false) :
    digitRows (digits ++ rest) = digits :: digitRows rest := by
  have hsep : ∀ c ∈ digits, (!isDigit c) = false := fun c hc => by rw [hdigits.2 c hc]; rfl
  have hkept : (!digits.isEmpty) = true := by simpa using hdigits.1
  cases rest with
  | nil =>
    rw [List.append_nil, digitRows, splitWhere_of_avoids hsep]
    exact List.filter_cons_of_pos hkept
  | cons c rest =>
    have hc : (!isDigit c) = true := by rw [hend c rfl]; rfl
    have hskip : digitRows ([c] ++ rest) = digitRows rest :=
      digitRows_append_gap (fun d hd => List.mem_singleton.1 hd ▸ hend c rfl) rest
    rw [← List.singleton_append, hskip, digitRows, List.singleton_append, splitWhere_append hsep hc]
    exact List.filter_cons_of_pos hkept

theorem digitRuns_iff {s : Text} {rows : List Text} : DigitRuns s rows ↔ digitRows s = rows := by
  have hfound : ∀ {s rows}, DigitRuns s rows → digitRows s = rows := by
    intro s rows h
    induction h with
    | @nil gap hgap =>
      have hnone := digitRows_append_gap hgap []
      rwa [List.append_nil] at hnone
    | cons hgap hdigits hend hrest ih =>
      rw [digitRows_append_gap hgap, digitRows_append_digits hdigits hend, ih]
  refine ⟨hfound, ?_⟩
  rintro rfl
  obtain ⟨rows, h⟩ := exists_digitRuns s
  rwa [hfound h]

theorem digitRows_trim (line : Text) : digitRows (trim line) = digitRows line := by
  obtain ⟨front, back, hline, hfront, hback⟩ := exists_trim line
  have hrows : DigitRuns (trim line ++ back) (digitRows (trim line)) :=
    (digitRuns_iff.2 rfl).append_gap fun c hc => isDigit_of_isBlank (hback c hc)
  calc digitRows (trim line) = digitRows (trim line ++ back) := (digitRuns_iff.1 hrows).symm
    _ = digitRows (front ++ (trim line ++ back)) :=
        (digitRows_append_gap (fun c hc => isDigit_of_isBlank (hfront c hc)) _).symm
    _ = digitRows line := by rw [← List.append_assoc, ← hline]

/-- A row that is found is a numeral. -/
theorem isNumeral_of_mem_digitRows {s row : Text} (h : row ∈ digitRows s) : IsNumeral row := by
  obtain ⟨hfield, hkept⟩ := List.mem_filter.1 h
  refine ⟨by simpa using hkept, fun c hc => ?_⟩
  simpa using splitWhere_avoids hfield c hc

/-! ## What a summary says -/

theorem summaryOfLine_eq_summary_iff {line : Text} {run failed : Nat} :
    summaryOfLine line = .summary run failed
      ↔ ∃ first second later, digitRows line = first :: second :: later
        ∧ value first = run ∧ value second = failed ∧ run ≤ word64 - 1 ∧ failed ≤ word64 - 1 := by
  unfold summaryOfLine
  split
  · rename_i first second later hrows
    have hfirst : IsNumeral first := isNumeral_of_mem_digitRows (by rw [hrows]; simp)
    have hsecond : IsNumeral second := isNumeral_of_mem_digitRows (by rw [hrows]; simp)
    have hread : ∀ {row : Text} {n : Nat}, IsNumeral row →
        (word64? row = some n ↔ value row = n ∧ n ≤ word64 - 1) :=
      fun hrow => word64?_eq_some_iff hrow.1 hrow.2
    constructor
    · intro h
      split at h
      · rename_i hrun hfailed
        cases h
        obtain ⟨hrun, hrunle⟩ := (hread hfirst).1 hrun
        obtain ⟨hfailed, hfailedle⟩ := (hread hsecond).1 hfailed
        exact ⟨first, second, later, hrows, hrun, hfailed, hrunle, hfailedle⟩
      · cases h
    · rintro ⟨_, _, _, hsame, hrun, hfailed, hrunle, hfailedle⟩
      rw [hrows] at hsame
      cases hsame
      rw [(hread hfirst).2 ⟨hrun, hrunle⟩, (hread hsecond).2 ⟨hfailed, hfailedle⟩]
  · rename_i hnone
    constructor
    · rintro ⟨⟩
    · rintro ⟨first, second, later, hrows, -⟩
      exact absurd hrows (hnone first second later)

/-- The summary that Unity prints, with a numeral in each of its three places. -/
def summaryLine (run failed ignored : Text) : Text :=
  run ++ (" Tests ".toList ++ (failed ++ (" Failures ".toList ++ (ignored ++ " Ignored".toList))))

theorem digitRuns_summaryLine {run failed ignored : Text} (hrun : IsNumeral run)
    (hfailed : IsNumeral failed) (hignored : IsNumeral ignored) :
    DigitRuns (summaryLine run failed ignored) [run, failed, ignored] := by
  have hlast : DigitRuns " Ignored".toList [] := .nil (by decide)
  have hthird : DigitRuns (" Failures ".toList ++ (ignored ++ " Ignored".toList)) [ignored] :=
    .cons (by decide) hignored (by rintro c ⟨⟩; rfl) hlast
  have hsecond := DigitRuns.cons (by decide : IsGap " Tests ".toList) hfailed
    (by rintro c ⟨⟩; rfl) hthird
  exact DigitRuns.cons (List.forall_mem_nil _) hrun (by rintro c ⟨⟩; rfl) hsecond

/-- Such a line has no colon, and the words of a summary. -/
theorem shows_summaryLine {run failed ignored : Text} (hrun : IsNumeral run)
    (hfailed : IsNumeral failed) (hignored : IsNumeral ignored) :
    ':' ∉ summaryLine run failed ignored ∧ ShowsSummary (summaryLine run failed ignored) := by
  have hcolon : ∀ {row : Text}, IsNumeral row → ':' ∉ row :=
    fun hrow hmem => absurd (hrow.2 ':' hmem) (by decide)
  refine ⟨?_, ?_, .inl ?_⟩
  · simp [summaryLine, hcolon hrun, hcolon hfailed, hcolon hignored]
  · exact ⟨run ++ [' '], ' ' :: (failed ++ (" Failures ".toList ++ (ignored ++ " Ignored".toList))),
      by simp [summaryLine]⟩
  · exact ⟨run ++ " Tests ".toList ++ failed ++ [' '], ' ' :: (ignored ++ " Ignored".toList),
      by simp [summaryLine]⟩

/-- **What a line with the words of a summary says.**  Unless it is a result, it is a summary exactly
if it has two rows of digits at least and the first two have values that fit 64 bits; those are its
numbers, whatever comes later.  Otherwise it is malformed, and moves neither the counts nor the run.
The line that Unity prints sets the counts to the values of its first two numerals, whatever was
counted before. -/
theorem read_summary :
    (∀ line : Text, ¬ ":PASS".toList <:+: line → ¬ ":FAIL".toList <:+: line →
      "Tests".toList <:+: trim line →
      ("Failures".toList <:+: trim line ∨ "Ignored".toList <:+: trim line) →
      (∀ run failed, Event.ofLine line = .summary run failed
        ↔ ∃ first second later, DigitRuns line (first :: second :: later)
          ∧ value first = run ∧ value second = failed
          ∧ run ≤ Nat.pow 2 64 - 1 ∧ failed ≤ Nat.pow 2 64 - 1)
      ∧ ((¬ ∃ run failed, Event.ofLine line = .summary run failed) →
        Event.ofLine line = .malformedSummary
          ∧ (∀ t : Tally, t.apply (Event.ofLine line) = t)
          ∧ ∀ p : Progress, p.fires? (Event.ofLine line) = none ∧ p.observe (Event.ofLine line) = p))
    ∧ ∀ run failed ignored, IsNumeral run → IsNumeral failed → IsNumeral ignored →
      value run ≤ Nat.pow 2 64 - 1 → value failed ≤ Nat.pow 2 64 - 1 →
      ∀ t : Tally, (t.apply (Event.ofLine (summaryLine run failed ignored))).run = value run
        ∧ (t.apply (Event.ofLine (summaryLine run failed ignored))).failed = value failed := by
  have hbound : word64 - 1 = Nat.pow 2 64 - 1 := rfl
  constructor
  · intro line hpass hfail htests hwords
    have hresult : ¬ ShowsResult line := not_or.2 ⟨hpass, hfail⟩
    have hsummary : ShowsSummary line := by
      rw [infix_trim_iff (by decide) (by decide)] at htests
      rw [infix_trim_iff (by decide) (by decide), infix_trim_iff (by decide) (by decide)] at hwords
      exact ⟨htests, hwords⟩
    rw [Event.ofLine_of_showsSummary hresult hsummary]
    constructor
    · intro run failed
      rw [summaryOfLine_eq_summary_iff, digitRows_trim, hbound]
      simp only [digitRuns_iff]
    · intro hnone
      rcases Event.summaryOfLine_cases (trim line) with h | h
      · exact absurd h hnone
      · rw [h]
        have hfires : ∀ p : Progress, p.fires? .malformedSummary = none :=
          Progress.fires?_of_trigger?_eq_none rfl
        exact ⟨rfl, fun t => rfl, fun p =>
          ⟨hfires p, Progress.observe_of_fires?_eq_none (hfires p)⟩⟩
  · intro run failed ignored hrun hfailed hignored hrunle hfailedle t
    obtain ⟨hcolon, hsummary⟩ := shows_summaryLine hrun hfailed hignored
    have hresult : ¬ ShowsResult (summaryLine run failed ignored) := by
      rintro (h | h)
      · exact hcolon (h.subset (by decide))
      · exact hcolon (h.subset (by decide))
    have hread : Event.ofLine (summaryLine run failed ignored)
        = .summary (value run) (value failed) := by
      rw [Event.ofLine_of_showsSummary hresult hsummary, summaryOfLine_eq_summary_iff,
        digitRows_trim, digitRuns_iff.1 (digitRuns_summaryLine hrun hfailed hignored)]
      exact ⟨run, failed, [ignored], rfl, rfl, rfl, hrunle, hfailedle⟩
    rw [hread]
    exact ⟨rfl, rfl⟩

/-- Digits beyond ASCII do not count and zeros in front do not matter; a third number may be of any
size, a first one may not, and no closing phrase makes up for it. -/
theorem read_summary_of_large :
    let line := "v٣: 007 Tests, 2 Failures, 99999999999999999999 ms".toList
    let large := "99999999999999999999 Tests 0 Failures, END OF TESTS".toList
    Event.ofLine line = .summary 7 2 ∧ Event.ofLine large = .malformedSummary
      ∧ ∀ t : Tally, (t.apply (Event.ofLine "007 Tests 2 Failures 0 Ignored".toList)).run = 7 := by
  intro line large
  have hline := (read_summary.1 line (mt holds_iff_isInfix.2 (by decide))
    (mt holds_iff_isInfix.2 (by decide)) (holds_iff_isInfix.1 (by decide))
    (.inl (holds_iff_isInfix.1 (by decide)))).1 7 2
  have hlarge := read_summary.1 large (mt holds_iff_isInfix.2 (by decide))
    (mt holds_iff_isInfix.2 (by decide)) (holds_iff_isInfix.1 (by decide))
    (.inl (holds_iff_isInfix.1 (by decide)))
  refine ⟨hline.2 ⟨"007".toList, "2".toList, ["99999999999999999999".toList],
    digitRuns_iff.2 (by decide), by decide, by decide, by decide, by decide⟩, (hlarge.2 ?_).1, ?_⟩
  · rintro ⟨run, failed, h⟩
    obtain ⟨first, second, later, hrows, hrun, -, hle, -⟩ := (hlarge.1 run failed).1 h
    have hfound : digitRows large = ["99999999999999999999".toList, "0".toList] := by decide
    rw [digitRuns_iff, hfound] at hrows
    cases hrows
    have habove : ¬ value "99999999999999999999".toList ≤ Nat.pow 2 64 - 1 := by decide +kernel
    exact habove (hrun ▸ hle)
  · intro t
    exact (read_summary.2 "007".toList "2".toList "0".toList (by decide) (by decide) (by decide)
      (by decide +kernel) (by decide +kernel) t).1

end TestWatch
