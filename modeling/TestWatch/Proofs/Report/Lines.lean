import TestWatch.Proofs.Text.Searching
import TestWatch.Report

/-!
# The report, line by line

The report is put together from lines, and each line from pieces.  What the report says on its own
holds no control character; one that stands in a report has come with a record (`avoids_lines`).  So
a report on records without line breaks falls into its lines again when it is cut at its line breaks,
in color and plainly (`splitOn_render`).
-/

namespace TestWatch

open Text

/-! ## Characters that stay away -/

/-- A record without a character in any of its texts. -/
structure Record.Avoids (c : Char) (r : Record) : Prop where
  /-- The name is free of it. -/
  name : c ∉ r.name
  /-- The file is free of it. -/
  file : c ∉ r.file
  /-- The line number is free of it. -/
  line : c ∉ r.line
  /-- The message is free of it. -/
  message : c ∉ r.message

instance (c : Char) (r : Record) : Decidable (r.Avoids c) :=
  decidable_of_iff (c ∉ r.name ∧ c ∉ r.file ∧ c ∉ r.line ∧ c ∉ r.message)
    ⟨fun ⟨hname, hfile, hline, hmessage⟩ => ⟨hname, hfile, hline, hmessage⟩,
      fun h => ⟨h.name, h.file, h.line, h.message⟩⟩

/-- A tally none of whose records holds a character. -/
structure Tally.Avoids (c : Char) (t : Tally) : Prop where
  /-- The records of passing tests are free of it. -/
  passed : ∀ r ∈ t.passedTests, r.Avoids c
  /-- The records of failing tests are free of it. -/
  failed : ∀ r ∈ t.failedTests, r.Avoids c

instance (c : Char) (t : Tally) : Decidable (t.Avoids c) :=
  decidable_of_iff ((∀ r ∈ t.passedTests, r.Avoids c) ∧ ∀ r ∈ t.failedTests, r.Avoids c)
    ⟨fun ⟨hpassed, hfailed⟩ => ⟨hpassed, hfailed⟩, fun h => ⟨h.passed, h.failed⟩⟩

/-- A styled text none of whose pieces holds a character. -/
def Text.Styled.Avoids (c : Char) (s : Styled) : Prop := ∀ piece ∈ s, c ∉ piece.text

/-- A control character: one below the space. -/
def IsControl (c : Char) : Prop := c.toNat < ' '.toNat

instance (c : Char) : Decidable (IsControl c) := inferInstanceAs (Decidable (_ < _))

/-- Words of visible characters and spaces hold no control character. -/
theorem IsControl.notMem {c : Char} (hc : IsControl c) {w : Text}
    (hw : w.all (' '.toNat ≤ ·.toNat) = true) : c ∉ w :=
  fun h => absurd hc (Nat.not_lt.2 (of_decide_eq_true (List.all_eq_true.1 hw c h)))

theorem IsControl.notMem_decimal {c : Char} (hc : IsControl c) (n : Nat) : c ∉ decimal n := by
  refine Text.notMem_decimal (Bool.eq_false_iff.2 fun hdigit => ?_) n
  simp only [isDigit, Bool.and_eq_true, decide_eq_true_eq] at hdigit
  exact absurd (Nat.lt_of_lt_of_le (by decide : ' '.toNat < '0'.toNat) hdigit.1)
    (Nat.not_lt.2 (Nat.le_of_lt hc))

namespace Text.Styled

@[simp] theorem avoids_nil (c : Char) : Styled.Avoids c [] := List.forall_mem_nil _

@[simp] theorem avoids_cons {c : Char} {piece : Piece} {s : Styled} :
    Styled.Avoids c (piece :: s) ↔ c ∉ piece.text ∧ Styled.Avoids c s := List.forall_mem_cons

@[simp] theorem avoids_append {c : Char} {a b : Styled} :
    Styled.Avoids c (a ++ b) ↔ Styled.Avoids c a ∧ Styled.Avoids c b := List.forall_mem_append

/-- A shown text holds what is written in its pieces and, in color, what turns styles on and off. -/
theorem notMem_shown {c : Char} {s : Styled} (h : s.Avoids c) {color : Bool}
    (hstyles : color = true → ∀ style : Style, c ∉ style.opening ∧ c ∉ reset) :
    c ∉ s.shown color := by
  intro hmem
  obtain ⟨piece, hpiece, hmem⟩ := List.mem_flatMap.1 hmem
  have htext := h piece hpiece
  unfold Piece.shown at hmem
  cases hstyle : piece.style with
  | none => exact htext (by simpa [hstyle] using hmem)
  | some style =>
    rw [hstyle] at hmem
    cases color with
    | false => exact htext hmem
    | true =>
      obtain ⟨hopening, hreset⟩ := hstyles rfl style
      simp_all

end Text.Styled

@[simp] theorem Text.plainly_text (text : Text) : (plainly text).text = text := rfl

@[simp] theorem Text.Style.of_text (style : Style) (text : Text) : (style.of text).text = text := rfl

namespace Report

section Avoids

variable {c : Char} (hc : IsControl c)

include hc

theorem avoids_gap : c ∉ gap.text := hc.notMem (by decide)

theorem avoids_heavyRule : Styled.Avoids c [heavyRule] := by
  simpa using hc.notMem (w := heavyRule.text) (by decide)

theorem avoids_lightRule : Styled.Avoids c [lightRule] := by
  simpa using hc.notMem (w := lightRule.text) (by decide)

theorem avoids_countLine (style : Style) {label : String}
    (hlabel : label.toList.all (' '.toNat ≤ ·.toNat) = true) (n : Nat) :
    (countLine style label n).Avoids c := by
  simp [countLine, avoids_gap hc, hc.notMem hlabel, hc.notMem_decimal]

theorem avoids_banner (t : Tally) : (banner t).Avoids c := by
  unfold banner
  split
  · simpa using hc.notMem (w := "ALL TESTS PASSED!".toList) (by decide)
  · simpa [avoids_gap hc, hc.notMem_decimal] using
      hc.notMem (w := "TEST(S) FAILED".toList) (by decide)

theorem notMem_place {r : Record} (h : r.Avoids c) : c ∉ place r := by
  have hcolon : c ≠ ':' := by
    rintro rfl
    exact absurd hc (by decide)
  simp [place, h.file, h.line, hcolon]

theorem avoids_passedLine {r : Record} (h : r.Avoids c) : (passedLine r).Avoids c := by
  simpa [passedLine, avoids_gap hc, h.name] using hc.notMem (w := "✓ PASS:".toList) (by decide)

theorem avoids_failedLine {r : Record} (h : r.Avoids c) : (failedLine r).Avoids c := by
  have hfail := hc.notMem (w := "✗ FAIL:".toList) (by decide)
  have hdash := hc.notMem (w := " - ".toList) (by decide)
  have hopen := hc.notMem (w := " (".toList) (by decide)
  have hclose := hc.notMem (w := ")".toList) (by decide)
  unfold failedLine
  split <;> simp_all [avoids_gap hc, h.name, h.message, notMem_place hc h]

theorem avoids_failureEntry {r : Record} (h : r.Avoids c) (number : Nat) :
    ∀ line ∈ failureEntry number r, line.Avoids c := by
  have hdot := hc.notMem (w := ['.']) (by decide)
  have hfile := hc.notMem (w := "   File: ".toList) (by decide)
  have herror := hc.notMem (w := "   Error: ".toList) (by decide)
  unfold failureEntry
  split <;> simp_all [avoids_gap hc, h.name, h.message, notMem_place hc h, hc.notMem_decimal]

theorem avoids_failureEntries {records : List Record} (h : ∀ r ∈ records, r.Avoids c)
    (number : Nat) : ∀ line ∈ failureEntries number records, line.Avoids c := by
  fun_induction failureEntries number records with
  | case1 => exact List.forall_mem_nil _
  | case2 number r => exact avoids_failureEntry hc (h r List.mem_cons_self) number
  | case3 number r rest hrest ih =>
    obtain ⟨hr, hrest⟩ := List.forall_mem_cons.1 h
    exact List.forall_mem_append.2
      ⟨avoids_failureEntry hc hr number, List.forall_mem_cons.2 ⟨Styled.avoids_nil c, ih hrest⟩⟩

theorem avoids_failureSection {failed : List Record} (h : ∀ r ∈ failed, r.Avoids c) :
    ∀ line ∈ failureSection failed, line.Avoids c := by
  unfold failureSection
  split
  · exact List.forall_mem_nil _
  · refine List.forall_mem_append.2 ⟨?_, avoids_failureEntries hc h 1⟩
    have hheading := hc.notMem (w := "FAILURE DETAILS:".toList) (by decide)
    simpa [avoids_lightRule hc] using hheading

/-- A control character that stands in a report has come with a record. -/
theorem avoids_lines {t : Tally} (h : t.Avoids c) : ∀ line ∈ lines t, line.Avoids c := by
  have htitle := hc.notMem (w := "UNITY TEST RESULTS SUMMARY".toList) (by decide)
  have hheading := hc.notMem (w := "DETAILED RESULTS:".toList) (by decide)
  have hpassed : ∀ line ∈ t.passedTests.map passedLine, line.Avoids c :=
    List.forall_mem_map.2 fun r hr => avoids_passedLine hc (h.passed r hr)
  have hfailed : ∀ line ∈ t.failedTests.map failedLine, line.Avoids c :=
    List.forall_mem_map.2 fun r hr => avoids_failedLine hc (h.failed r hr)
  have hrun : (countLine .count "Tests Run:" t.run).Avoids c :=
    avoids_countLine hc .count (by decide) t.run
  have hpass : (countLine .pass "Passed:" t.passed).Avoids c :=
    avoids_countLine hc .pass (by decide) t.passed
  have hfail : (countLine .fail "Failed:" t.failed).Avoids c :=
    avoids_countLine hc .fail (by decide) t.failed
  have hlast : ∀ line ∈ ([[heavyRule]] : List Styled), line.Avoids c :=
    List.forall_mem_singleton.2 (avoids_heavyRule hc)
  refine List.forall_mem_append.2 ⟨List.forall_mem_append.2 ⟨List.forall_mem_append.2
    ⟨List.forall_mem_append.2 ⟨?_, hpassed⟩, hfailed⟩, avoids_failureSection hc h.failed⟩, hlast⟩
  simp only [List.forall_mem_cons]
  exact ⟨avoids_heavyRule hc, by simpa using htitle, avoids_heavyRule hc, hrun, hpass, hfail,
    avoids_banner hc t, avoids_lightRule hc, by simpa using hheading⟩

end Avoids

/-! ## Cut into lines -/

/-- A report is shown line by line. -/
theorem shown_intercalate (color : Bool) (ls : List Styled) :
    Styled.shown color (List.intercalate [plainly ['\n']] ls)
      = List.intercalate ['\n'] (ls.map (Styled.shown color)) := by
  induction ls with
  | nil => rfl
  | cons line ls ih =>
    cases ls with
    | nil => simp
    | cons next ls =>
      rw [List.intercalate_cons_cons, List.map_cons, List.map_cons, List.intercalate_cons_cons,
        ← List.map_cons, ← ih]
      simp [Styled.shown, Piece.shown, plainly]

theorem render_of_run {t : Tally} (h : 0 < t.run) (color : Bool) :
    render color t = List.intercalate ['\n'] ((lines t).map (Styled.shown color)) := by
  rw [render, styled, if_neg (Nat.ne_of_gt h), shown_intercalate]

theorem render_of_no_run {t : Tally} (h : t.run = 0) (color : Bool) : render color t = noResults := by
  rw [render, styled, if_pos h]
  simp [Styled.shown, Piece.shown, plainly]

/-- A report on records without line breaks falls into its lines again. -/
theorem splitOn_render {t : Tally} (hrun : 0 < t.run) (h : t.Avoids '\n') (color : Bool) :
    (render color t).splitOn '\n' = (lines t).map (Styled.shown color) := by
  rw [render_of_run hrun]
  refine List.splitOn_intercalate '\n' ?_ (by simp [lines])
  refine List.forall_mem_map.2 fun line hline => ?_
  exact Styled.notMem_shown (avoids_lines (by decide) h line hline) fun _ style => by
    cases style <;> decide

end Report

end TestWatch
