import TestWatch.Proofs.Report.Lines
import TestWatch.Proofs.Text.Erasing

/-!
# Colors of a report

A report in color says what the plain report says.  As long as the records hold no escape characters,
all of those in the colored report belong to the sequences that turn styles on and off; without these
it is the plain report, which holds none.  Each style that is turned on in a line is turned off in the
same line, before any other is turned on (`Closed`): piece by piece (`closed_shown`), and so in each
line of the report.  `render_colors` says all of this.
-/

namespace TestWatch

open Text

namespace Text

/-- A line in which each style that is turned on is turned off again, before anything else is turned
on: after a styling sequence other than a reset the next escape character is that of a reset. -/
def Closed (line : Text) : Prop :=
  ∀ a q b, line = a ++ q ++ b → IsStyling q → q ≠ reset →
    ∃ inside after, b = inside ++ reset ++ after ∧ esc ∉ inside

/-- Nothing is turned on without an escape character. -/
theorem closed_of_notMem {line : Text} (h : esc ∉ line) : Closed line := by
  rintro a q b rfl hq -
  obtain ⟨rest, rfl, -⟩ := hq.exists_cons
  exact absurd (List.mem_append_left _ (List.mem_append_right a List.mem_cons_self)) h

namespace Styled

/-- Pieces without escape characters are shown in color with each style turned off again. -/
theorem closed_shown {s : Styled} (h : s.Avoids esc) : Closed (s.shown true) := by
  induction s with
  | nil => exact closed_of_notMem List.not_mem_nil
  | cons piece s ih =>
    obtain ⟨hpiece, hs⟩ := avoids_cons.1 h
    intro a q b hline hq hne
    rw [Styled.shown, List.flatMap_cons, ← Styled.shown] at hline
    unfold Piece.shown at hline
    cases hstyle : piece.style with
    | none =>
      rw [hstyle] at hline
      obtain ⟨c, -, hrest⟩ := hq.after_of_notMem hpiece hline
      exact ih hs c q b hrest hq hne
    | some style =>
      -- the sequence is the piece's own, or stands behind its reset
      have hpieces : style.opening ++ (piece.text ++ (reset ++ Styled.shown true s)) = a ++ q ++ b := by
        rw [hstyle] at hline
        simpa using hline
      rcases (isStyling_opening style).eq_or_after hq hpieces with ⟨-, -, rfl⟩ | ⟨c, -, hbehind⟩
      · exact ⟨piece.text, Styled.shown true s, by simp, hpiece⟩
      · obtain ⟨d, -, hreset⟩ := hq.after_of_notMem hpiece hbehind
        rcases isStyling_reset.eq_or_after hq hreset with ⟨-, hq, -⟩ | ⟨e, -, hrest⟩
        · exact absurd hq hne
        · exact ih hs e q b hrest hq hne

theorem avoids_intercalate {c : Char} {sep : Styled} {ls : List Styled} (hsep : sep.Avoids c)
    (h : ∀ line ∈ ls, line.Avoids c) : Styled.Avoids c (List.intercalate sep ls) := by
  intro piece hpiece
  rcases mem_of_mem_intercalate hpiece with hmem | ⟨line, hline, hmem⟩
  · exact hsep piece hmem
  · exact h line hline piece hmem

end Styled

end Text

namespace Report

theorem esc_notMem_noResults : esc ∉ noResults := by decide

/-- The escape characters of a report come from its records. -/
theorem avoids_styled {t : Tally} (h : t.Avoids esc) : (styled t).Avoids esc := by
  have hbreak : esc ∉ ['\n'] := by decide
  unfold styled
  split
  · simpa using esc_notMem_noResults
  · exact Styled.avoids_intercalate (by simpa using hbreak) (avoids_lines (by decide) h)

/-- In each line of a report the styles are turned off again. -/
theorem closed_lines {t : Tally} (hesc : t.Avoids esc) (hbreak : t.Avoids '\n') :
    ∀ line ∈ (render true t).splitOn '\n', Closed line := by
  rcases Nat.eq_zero_or_pos t.run with hrun | hrun
  · have hone : noResults.splitOn '\n' = [noResults] := by decide
    rw [render_of_no_run hrun, hone]
    exact List.forall_mem_singleton.2 (closed_of_notMem esc_notMem_noResults)
  · rw [splitOn_render hrun hbreak]
    exact List.forall_mem_map.2 fun line hline =>
      Styled.closed_shown (avoids_lines (by decide) hesc line hline)

/-- **Colors do not change what a report says.**  If no record holds an escape character, then exactly
the plain report is left of the colored one when the styling sequences are taken out, the plain one
holds no escape character, and, if no record holds a line break either, each style is turned off in the
line in which it is turned on.  On a run of no tests both are the same. -/
theorem render_colors :
    (∀ t : Tally, t.Avoids esc →
      (∀ s, Unstyled (render true t) s ↔ s = render false t)
        ∧ esc ∉ render false t
        ∧ (t.Avoids '\n' → ∀ line ∈ (render true t).splitOn '\n', Closed line))
    ∧ ∀ t : Tally, t.run = 0 → render true t = noResults ∧ render false t = noResults := by
  constructor
  · intro t h
    have hpieces := avoids_styled h
    refine ⟨fun s => ?_, ?_, closed_lines h⟩
    · rw [unstyled_iff, render, render, erase_colored hpieces]
    · exact Styled.notMem_shown hpieces fun hcolor => absurd hcolor Bool.false_ne_true
  · exact fun t h => ⟨render_of_no_run h true, render_of_no_run h false⟩

/-- A run with a failure, whose message holds the rest of a styling sequence. -/
theorem render_colors_of_failure :
    let t : Tally := ⟨2, 1, 1, [⟨"push".toList, "ring.c".toList, "3".toList, .pass, []⟩],
      [⟨"pop".toList, "ring.c".toList, "8".toList, .fail, "[31m0m".toList⟩]⟩
    t.Avoids esc ∧ t.Avoids '\n' ∧ Unstyled (render true t) (render false t)
      ∧ esc ∉ render false t ∧ Closed "\x1b[31m✗ FAIL:\x1b[0m pop - [31m0m (ring.c:8)".toList
      ∧ render true { t with run := 0 } = noResults := by
  intro t
  have hesc : t.Avoids esc := by decide
  have hbreak : t.Avoids '\n' := by decide
  obtain ⟨hleft, hplain, hclosed⟩ := render_colors.1 t hesc
  refine ⟨hesc, hbreak, (hleft _).2 rfl, hplain, hclosed hbreak _ ?_,
    (render_colors.2 { t with run := 0 } rfl).1⟩
  rw [splitOn_render (by decide) hbreak]
  exact List.mem_of_getElem? (i := 10) rfl

end Report

end TestWatch
