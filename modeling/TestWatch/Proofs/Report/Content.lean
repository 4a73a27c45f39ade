import TestWatch.Proofs.Line.Results
import TestWatch.Proofs.Report.Lines
import TestWatch.Proofs.Tally.Counting

/-!
# What a report tells

A plain report tells all of what it is made from: the three counts, the names of the tests that passed,
and the name, place and message of each that failed.  Names and messages are arbitrary, and may look
like a rule, a banner or the next entry; what tells the parts apart is not their wording alone.

* The lines of passing and of failing tests are told apart by their first character, so that both lists
  end where they end (`append_inj_of_head`).
* An entry on a failure gives its record and the place where it ends: after it comes an empty line or
  the last rule, and neither looks like a message (`failureEntry_append_inj`).  From entry to entry that
  gives all failures (`afterEntry_inj`).

`tells_all` puts the parts together.  What it asks of the records holds for those of lines
(`legible_of_lines`).
-/

namespace TestWatch

open Text

theorem Text.decimal_injective : Function.Injective decimal :=
  Function.LeftInverse.injective value_decimal

/-- What the report tells of a failure. -/
def Record.details (r : Record) : Text × Text × Text × Text := (r.name, r.file, r.line, r.message)

/-- A tally whose report can be read: no record holds a line break, and no file of a failure a colon. -/
structure Tally.Legible (t : Tally) : Prop where
  /-- Each text of a record stands on one line. -/
  oneLine : t.Avoids '\n'
  /-- A file ends where the line number begins. -/
  file : ∀ r ∈ t.failedTests, ':' ∉ r.file

instance (t : Tally) : Decidable t.Legible :=
  decidable_of_iff (t.Avoids '\n' ∧ ∀ r ∈ t.failedTests, ':' ∉ r.file)
    ⟨fun ⟨honeLine, hfile⟩ => ⟨honeLine, hfile⟩, fun h => ⟨h.oneLine, h.file⟩⟩

namespace Report

/-! ## Plain lines -/

theorem shown_countLine (style : Style) (label : String) (n : Nat) :
    Styled.shown false (countLine style label n) = label.toList ++ ' ' :: decimal n := by
  simp [Styled.shown, countLine, Piece.shown, Style.of, gap, plainly]

theorem shown_countLine_inj {style : Style} {label : String} {m n : Nat}
    (h : Styled.shown false (countLine style label m) = Styled.shown false (countLine style label n)) :
    m = n := by
  rw [shown_countLine, shown_countLine] at h
  exact decimal_injective (List.cons.inj (List.append_cancel_left h)).2

theorem shown_banner_eq_iff (t : Tally) :
    Styled.shown false (banner t) = "ALL TESTS PASSED!".toList ↔ t.failed = 0 := by
  unfold banner
  split
  · rename_i hnone
    simp [Styled.shown, Piece.shown, Style.of, hnone]
  · rename_i hsome
    refine iff_of_false (fun h => ?_) hsome
    -- a banner on failures begins with their number
    obtain ⟨digit, digits, hdigits⟩ := List.exists_cons_of_ne_nil (decimal_ne_nil t.failed)
    have hdigit : isDigit digit = true :=
      isDigit_of_mem_decimal (n := t.failed) (by rw [hdigits]; exact List.mem_cons_self)
    have hfirst : (Styled.shown false [Style.fail.of (decimal t.failed), gap,
        Style.fail.of "TEST(S) FAILED".toList]).head? = some digit := by
      simp [Styled.shown, Piece.shown, Style.of, hdigits]
    have hall : "ALL TESTS PASSED!".toList.head? = some 'A' := rfl
    rw [h, hall, Option.some.injEq] at hfirst
    rw [← hfirst] at hdigit
    exact absurd hdigit (by decide)

theorem shown_passedLine (r : Record) :
    Styled.shown false (passedLine r) = "✓ PASS: ".toList ++ r.name := by
  simp [Styled.shown, passedLine, Piece.shown, Style.of, gap, plainly]

theorem head?_shown_failedLine (r : Record) : (Styled.shown false (failedLine r)).head? = some '✗' := by
  simp [Styled.shown, failedLine, Piece.shown, Style.of]

theorem shown_failureEntry (number : Nat) (r : Record) :
    (failureEntry number r).map (Styled.shown false)
      = (decimal number ++ '.' :: ' ' :: r.name) :: ("   File: ".toList ++ place r)
        :: if r.message.isEmpty then [] else ["   Error: ".toList ++ r.message] := by
  unfold failureEntry
  split <;> simp [Styled.shown, Piece.shown, Style.of, gap, plainly, *]

theorem place_inj {r s : Record} (hr : ':' ∉ r.file) (hs : ':' ∉ s.file) (h : place r = place s) :
    r.file = s.file ∧ r.line = s.line := by
  have hcut := congrArg (cutAt ':') h
  rw [place, place, cutAt_append hr, cutAt_append hs, Option.some.injEq, Prod.mk.injEq] at hcut
  exact hcut

/-! ## Where lists end -/

/-- The lines that begin with a character are taken up to where a line begins otherwise. -/
theorem takeWhile_head {first : Char} {a x : List Text} (ha : ∀ line ∈ a, line.head? = some first)
    (hx : ∀ line ∈ x.head?, line.head? ≠ some first) :
    (a ++ x).takeWhile (·.head? == some first) = a := by
  have hstop : x.takeWhile (·.head? == some first) = [] := by
    cases x with
    | nil => rfl
    | cons line x => exact List.takeWhile_cons_of_neg (by simpa using hx line rfl)
  rw [List.takeWhile_append_of_pos fun line hline => by simpa using ha line hline, hstop,
    List.append_nil]

/-- Lists whose lines begin with a character end where a line begins otherwise. -/
theorem append_inj_of_head {first : Char} {a b x y : List Text}
    (ha : ∀ line ∈ a, line.head? = some first) (hb : ∀ line ∈ b, line.head? = some first)
    (hx : ∀ line ∈ x.head?, line.head? ≠ some first)
    (hy : ∀ line ∈ y.head?, line.head? ≠ some first) (h : a ++ x = b ++ y) : a = b ∧ x = y := by
  have hab : a = b := by rw [← takeWhile_head ha hx, h, takeWhile_head hb hy]
  subst hab
  exact ⟨rfl, List.append_cancel_left h⟩

/-! ## Entries on failures -/

/-- The last line. -/
def lastLine : Text := Styled.shown false [heavyRule]

/-- A line that could stand in an entry for its message. -/
def IsMessageLine (line : Text) : Prop := "   Error: ".toList <+: line

/-- An entry tells its record, and where it ends. -/
theorem failureEntry_append_inj {number : Nat} {r s : Record} (hr : ':' ∉ r.file)
    (hs : ':' ∉ s.file) {x y : List Text} (hx : ∀ line ∈ x.head?, ¬ IsMessageLine line)
    (hy : ∀ line ∈ y.head?, ¬ IsMessageLine line)
    (h : (failureEntry number r).map (Styled.shown false) ++ x
      = (failureEntry number s).map (Styled.shown false) ++ y) :
    r.details = s.details ∧ x = y := by
  rw [shown_failureEntry, shown_failureEntry] at h
  obtain ⟨hname, h⟩ := List.cons.inj h
  obtain ⟨hplace, h⟩ := List.cons.inj h
  have hname : r.name = s.name :=
    (List.cons.inj (List.cons.inj (List.append_cancel_left hname)).2).2
  obtain ⟨hfile, hline⟩ := place_inj hr hs (List.append_cancel_left hplace)
  -- without a message on one side, the message line of the other would come after the entry
  have hmessage : r.message = s.message ∧ x = y := by
    cases hrm : r.message with
    | nil =>
      cases hsm : s.message with
      | nil =>
        rw [hrm, hsm] at h
        exact ⟨rfl, h⟩
      | cons c message =>
        rw [hrm, hsm] at h
        exact absurd (List.prefix_append _ _) (hx _ (congrArg List.head? h))
    | cons c message =>
      cases hsm : s.message with
      | nil =>
        rw [hrm, hsm] at h
        exact absurd (List.prefix_append _ _) (hy _ (congrArg List.head? h.symm))
      | cons d other =>
        rw [hrm, hsm] at h
        obtain ⟨hline, hrest⟩ := List.cons.inj h
        exact ⟨List.append_cancel_left hline, hrest⟩
  exact ⟨by rw [Record.details, Record.details, hname, hfile, hline, hmessage.1], hmessage.2⟩

/-- The lines after an entry, with the entries that follow. -/
def afterEntry (number : Nat) : List Record → List Text
  | [] => [lastLine]
  | r :: rest => [] :: ((failureEntries number (r :: rest)).map (Styled.shown false) ++ [lastLine])

theorem head?_afterEntry (number : Nat) (records : List Record) :
    ∀ line ∈ (afterEntry number records).head?, ¬ IsMessageLine line := by
  cases records with
  | nil =>
    rintro line ⟨⟩
    exact (by decide : ¬ "   Error: ".toList <+: lastLine)
  | cons r rest =>
    rintro line ⟨⟩
    exact (by decide : ¬ "   Error: ".toList <+: [])

theorem failureEntries_cons (number : Nat) (r : Record) (rest : List Record) :
    (failureEntries number (r :: rest)).map (Styled.shown false) ++ [lastLine]
      = (failureEntry number r).map (Styled.shown false) ++ afterEntry (number + 1) rest := by
  cases rest with
  | nil => rfl
  | cons s rest =>
    rw [failureEntries, List.map_append, List.map_cons, List.append_assoc, List.cons_append]
    · rfl
    · simp

/-- The entries tell all failures.  By induction over one list, as an entry tells where it ends. -/
theorem afterEntry_inj {a b : List Record} (ha : ∀ r ∈ a, ':' ∉ r.file) (hb : ∀ r ∈ b, ':' ∉ r.file)
    {number : Nat} (h : afterEntry number a = afterEntry number b) :
    a.map Record.details = b.map Record.details := by
  have hlast : lastLine ≠ [] := by decide
  induction a generalizing b number with
  | nil =>
    cases b with
    | nil => rfl
    | cons s b => exact absurd (List.cons.inj h).1 hlast
  | cons r a ih =>
    cases b with
    | nil => exact absurd (List.cons.inj h).1.symm hlast
    | cons s b =>
      obtain ⟨hr, ha⟩ := List.forall_mem_cons.1 ha
      obtain ⟨hs, hb⟩ := List.forall_mem_cons.1 hb
      have hentries := (List.cons.inj h).2
      rw [failureEntries_cons, failureEntries_cons] at hentries
      obtain ⟨hdetails, hafter⟩ := failureEntry_append_inj hr hs (head?_afterEntry _ a)
        (head?_afterEntry _ b) hentries
      rw [List.map_cons, List.map_cons, hdetails, ih ha hb hafter]

/-- The section on the failures and the last line tell all failures. -/
theorem failureSection_inj {a b : List Record} (ha : ∀ r ∈ a, ':' ∉ r.file)
    (hb : ∀ r ∈ b, ':' ∉ r.file)
    (h : (failureSection a).map (Styled.shown false) ++ [lastLine]
      = (failureSection b).map (Styled.shown false) ++ [lastLine]) :
    a.map Record.details = b.map Record.details := by
  have hlast : lastLine ≠ [] := by decide
  cases a with
  | nil =>
    cases b with
    | nil => rfl
    | cons s b => exact absurd (List.cons.inj h).1 hlast
  | cons r a =>
    cases b with
    | nil => exact absurd (List.cons.inj h).1.symm hlast
    | cons s b =>
      -- behind its heading the section goes on like an entry after another
      have hentries : afterEntry 1 (r :: a) = afterEntry 1 (s :: b) :=
        congrArg (fun ls : List Text => [] :: ls.drop 3) h
      exact afterEntry_inj ha hb hentries

/-! ## All lines -/

/-- The lines on the failures, and the last line. -/
def failureLines (failed : List Record) : List Text :=
  (failed.map failedLine).map (Styled.shown false)
    ++ ((failureSection failed).map (Styled.shown false) ++ [lastLine])

theorem drop_lines (t : Tally) :
    ((lines t).map (Styled.shown false)).drop 9
      = (t.passedTests.map passedLine).map (Styled.shown false) ++ failureLines t.failedTests := by
  simp [lines, failureLines, lastLine]

/-- The section on the failures, or the last line, does not begin like the line of a failing test. -/
theorem head?_failureSection (failed : List Record) :
    ∀ line ∈ ((failureSection failed).map (Styled.shown false) ++ [lastLine]).head?,
      line.head? ≠ some '✗' := by
  cases failed with
  | nil =>
    rintro line ⟨⟩
    decide
  | cons r rest =>
    rintro line ⟨⟩
    decide

theorem head?_failureLines (failed : List Record) :
    ∀ line ∈ (failureLines failed).head?, line.head? ≠ some '✓' := by
  cases failed with
  | nil =>
    rintro line ⟨⟩
    decide
  | cons r rest =>
    rintro line ⟨⟩
    rw [head?_shown_failedLine]
    decide

theorem failureLines_inj {a b : List Record} (ha : ∀ r ∈ a, ':' ∉ r.file)
    (hb : ∀ r ∈ b, ':' ∉ r.file) (h : failureLines a = failureLines b) :
    a.map Record.details = b.map Record.details := by
  have hhead : ∀ l : List Record, ∀ line ∈ (l.map failedLine).map (Styled.shown false),
      line.head? = some '✗' := by
    intro l line hline
    obtain ⟨styled, hstyled, rfl⟩ := List.mem_map.1 hline
    obtain ⟨r, -, rfl⟩ := List.mem_map.1 hstyled
    exact head?_shown_failedLine r
  exact failureSection_inj ha hb (append_inj_of_head (hhead a) (hhead b) (head?_failureSection a)
    (head?_failureSection b) h).2

/-- The lines on the records tell the names of the tests that passed and all of the failures. -/
theorem drop_lines_inj {t u : Tally} (ht : t.Legible) (hu : u.Legible)
    (h : ((lines t).map (Styled.shown false)).drop 9 = ((lines u).map (Styled.shown false)).drop 9) :
    t.passedTests.map Record.name = u.passedTests.map Record.name
      ∧ t.failedTests.map Record.details = u.failedTests.map Record.details := by
  have hshown : ∀ l : List Record, (l.map passedLine).map (Styled.shown false)
      = (l.map Record.name).map ("✓ PASS: ".toList ++ ·) := by
    intro l
    rw [List.map_map, List.map_map]
    exact List.map_congr_left fun r _ => shown_passedLine r
  have hhead : ∀ l : List Record, ∀ line ∈ (l.map passedLine).map (Styled.shown false),
      line.head? = some '✓' := by
    intro l line hline
    rw [hshown] at hline
    obtain ⟨name, -, rfl⟩ := List.mem_map.1 hline
    rfl
  rw [drop_lines, drop_lines] at h
  obtain ⟨hpassed, hfailed⟩ := append_inj_of_head (hhead _) (hhead _) (head?_failureLines _)
    (head?_failureLines _) h
  rw [hshown, hshown] at hpassed
  exact ⟨List.map_injective_iff.2 (List.append_right_injective _) hpassed,
    failureLines_inj ht.file hu.file hfailed⟩

/-- The report tells the counts. -/
theorem counts_of_lines {t u : Tally}
    (h : (lines t).map (Styled.shown false) = (lines u).map (Styled.shown false)) :
    t.run = u.run ∧ t.passed = u.passed ∧ t.failed = u.failed := by
  have hline : ∀ i : Nat, ((lines t).map (Styled.shown false))[i]?
      = ((lines u).map (Styled.shown false))[i]? := fun i => by rw [h]
  exact ⟨shown_countLine_inj (Option.some.inj (hline 3)),
    shown_countLine_inj (Option.some.inj (hline 4)), shown_countLine_inj (Option.some.inj (hline 5))⟩

end Report

/-! ## Records of lines -/

theorem Text.mem_of_mem_trim {s : Text} {c : Char} (h : c ∈ trim s) : c ∈ s := by
  obtain ⟨front, back, hs, -, -⟩ := exists_trim s
  rw [hs]
  exact List.mem_append_left _ (List.mem_append_right _ h)

/-- The fields of a line hold no character that the line does not. -/
theorem mem_of_mem_fieldsOf {line field : Text} (hfield : field ∈ fieldsOf line) {c : Char}
    (hc : c ∈ field) : c ∈ line := by
  have htrim : c ∈ [':'].intercalate ((trim line).splitOn ':') := mem_intercalate_of_mem hfield hc
  rw [List.intercalate_splitOn] at htrim
  exact mem_of_mem_trim htrim

theorem IsFileName.subset {path file : Text} (h : IsFileName path file) : file ⊆ path := by
  rcases h.2 with rfl | ⟨directory, rfl⟩
  · exact List.Subset.refl file
  · exact List.subset_append_of_subset_right _ (List.subset_cons_self _ _)

namespace Record

/-- A record holds no character that its line does not, colons aside. -/
theorem MatchesFields.avoids {r : Record} {line : Text} (h : r.MatchesFields (fieldsOf line))
    {c : Char} (hcolon : c ≠ ':') (hc : c ∉ line) : r.Avoids c where
  name hname := hc (mem_of_mem_fieldsOf (List.mem_of_getElem? h.name_eq) hname)
  line hline := hc (mem_of_mem_fieldsOf (List.mem_of_getElem? h.line_eq) hline)
  file hfile := by
    obtain ⟨path, hpath, hname⟩ := h.file_eq
    exact hc (mem_of_mem_fieldsOf (List.mem_of_getElem? hpath) (hname.subset hfile))
  message hmessage := by
    rw [h.message_eq] at hmessage
    rcases mem_of_mem_intercalate (mem_of_mem_trim hmessage) with hsep | ⟨field, hfield, hmem⟩
    · exact hcolon (List.mem_singleton.1 hsep)
    · exact hc (mem_of_mem_fieldsOf (List.mem_of_mem_drop hfield) hmem)

/-- The file of a record holds no colon, as the fields of a line do not. -/
theorem MatchesFields.colon_notMem_file {r : Record} {line : Text}
    (h : r.MatchesFields (fieldsOf line)) : ':' ∉ r.file := by
  obtain ⟨path, hpath, hname⟩ := h.file_eq
  have hfield : path ∈ split ':' (trim line) := by
    rw [split_eq_splitOn]
    exact List.mem_of_getElem? hpath
  intro hmem
  simpa using splitWhere_avoids hfield ':' (hname.subset hmem)

end Record

namespace Tally

/-- A record that a tally holds has been read from a line. -/
theorem exists_line_of_mem_recordsOf {ls : List Text} {status : Status} {r : Record}
    (h : r ∈ recordsOf status (ls.map Event.ofLine)) :
    ∃ line ∈ ls, r.MatchesFields (fieldsOf line) := by
  obtain ⟨event, hevent, hrecord⟩ := List.mem_filterMap.1 h
  obtain ⟨line, hline, rfl⟩ := List.mem_map.1 hevent
  refine ⟨line, hline, ?_⟩
  cases hread : Event.ofLine line with
  | result s record =>
    rw [hread, Event.record?] at hrecord
    split at hrecord
    · obtain ⟨-, hfields⟩ := Event.ofLine_eq_result_iff.1 hread
      exact (Record.matchesFields_of_ofLine? (hfields.symm.trans hrecord)).2
    · cases hrecord
  | _ => simp [hread, Event.record?] at hrecord

/-- The report on a tally of lines can be read. -/
theorem legible_of_lines {ls : List Text} (h : ∀ line ∈ ls, '\n' ∉ line) :
    (empty.applyAll (ls.map Event.ofLine)).Legible := by
  have hrecords : ∀ status, ∀ r ∈ (empty.applyAll (ls.map Event.ofLine)).records status,
      r.Avoids '\n' ∧ ':' ∉ r.file := by
    intro status r hr
    have hnone : empty.records status = [] := by cases status <;> rfl
    rw [applyAll, records_applyAllBy, hnone, List.nil_append] at hr
    obtain ⟨line, hline, hfields⟩ := exists_line_of_mem_recordsOf hr
    exact ⟨hfields.avoids (by decide) (h line hline), hfields.colon_notMem_file⟩
  exact ⟨⟨fun r hr => (hrecords .pass r hr).1, fun r hr => (hrecords .fail r hr).1⟩,
    fun r hr => (hrecords .fail r hr).2⟩

end Tally

namespace Report

/-! ## All that is told -/

/-- **A plain report tells all that it is made from.**  If two tallies of some tests, with records that
a report can show, have the same report, then they have the same counts, the same names of tests that
passed, and the same names, places and messages of tests that failed, all in order.  No such report is
that on a run of no tests, and its seventh line is the banner of success exactly if the run was one.
The records of lines without line breaks are such records. -/
theorem tells_all :
    (∀ t u : Tally, 0 < t.run → 0 < u.run → t.Legible → u.Legible →
      render false t = render false u →
        t.run = u.run ∧ t.passed = u.passed ∧ t.failed = u.failed
          ∧ t.passedTests.map Record.name = u.passedTests.map Record.name
          ∧ t.failedTests.map Record.details = u.failedTests.map Record.details)
    ∧ (∀ t : Tally, 0 < t.run → t.Legible →
      render false t ≠ noResults
        ∧ (((render false t).splitOn '\n')[6]? = some "ALL TESTS PASSED!".toList
          ↔ t.isSuccess = true))
    ∧ ∀ ls : List Text, (∀ line ∈ ls, '\n' ∉ line) →
      (Tally.empty.applyAll (ls.map Event.ofLine)).Legible := by
  refine ⟨?_, ?_, fun ls => Tally.legible_of_lines⟩
  · intro t u htrun hurun ht hu h
    have hlines : (lines t).map (Styled.shown false) = (lines u).map (Styled.shown false) := by
      rw [← splitOn_render htrun ht.oneLine, ← splitOn_render hurun hu.oneLine, h]
    obtain ⟨hrun, hpassed, hfailed⟩ := counts_of_lines hlines
    exact ⟨hrun, hpassed, hfailed, drop_lines_inj ht hu (by rw [hlines])⟩
  · intro t hrun ht
    have hsplit := splitOn_render hrun ht.oneLine false
    constructor
    · intro h
      have hfirst : (noResults.splitOn '\n').head? = some (Styled.shown false [heavyRule]) := by
        rw [← h, hsplit]
        rfl
      exact absurd hfirst (by decide)
    · have hbanner : ((render false t).splitOn '\n')[6]? = some (Styled.shown false (banner t)) := by
        rw [hsplit]
        rfl
      rw [hbanner, Option.some.injEq, shown_banner_eq_iff, Tally.isSuccess_iff]
      exact ⟨fun hfailed => ⟨hrun, hfailed⟩, fun h => h.2⟩

/-- Failures whose names and messages look like other parts of a report, and a passing test of which
only the name is told. -/
theorem tells_all_of_lookalikes :
    let failed : List Record := [
      ⟨"2. pop (ring.c:8)".toList, "ring.c".toList, "4:7".toList, .fail, []⟩,
      ⟨"   Error: full".toList, [], [], .fail, "FAILURE DETAILS:".toList⟩]
    let t : Tally := ⟨3, 1, 2, [⟨"✗ FAIL: push".toList, "ring.c".toList, "3".toList, .pass, []⟩], failed⟩
    let u : Tally := ⟨3, 1, 2, [⟨"✗ FAIL: push".toList, [], "9".toList, .pass, "late".toList⟩], failed⟩
    let line := "main/ring.c:31:push_keeps_order:PASS\r".toList
    t.Legible ∧ u.Legible ∧ render false t = render false u
      ∧ t.passedTests.map Record.name = u.passedTests.map Record.name
      ∧ render false t ≠ noResults
      ∧ ((render false t).splitOn '\n')[6]? ≠ some "ALL TESTS PASSED!".toList
      ∧ (Tally.empty.applyAll ([line].map Event.ofLine)).Legible := by
  intro failed t u line
  have ht : t.Legible := by decide
  have hu : u.Legible := by decide
  have hsame : render false t = render false u := rfl
  obtain ⟨hresults, hbanner⟩ := tells_all.2.1 t (by decide) ht
  refine ⟨ht, hu, hsame, (tells_all.1 t u (by decide) (by decide) ht hu hsame).2.2.2.1, hresults,
    fun h => absurd (hbanner.1 h) (by decide), tells_all.2.2 [line] (by decide)⟩

end Report

end TestWatch
