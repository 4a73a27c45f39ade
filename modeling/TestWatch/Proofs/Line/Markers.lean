import TestWatch.Proofs.Line.Rules

/-!
# Closing phrases in any case

Markers are looked for in the full upper case of a line.  The case of ASCII letters is lost there
(`upper_of_equalUpToCase`), and the upper case of a text goes with its pieces, so that a phrase is found
in any spelling and in any surroundings; trimming takes nothing off it, as it neither begins nor ends
with a blank.

Of several phrases in a line the first of the list is the one that counts (`Marker.ofLine?_eq_some_iff`).
`read_marker` puts this together with the three rules that come first.
-/

namespace TestWatch

open Text

/-! ## The case of ASCII letters -/

/-- Two texts that differ at most in the case of ASCII letters. -/
def EqualUpToCase (s t : Text) : Prop := s.map Char.toUpper = t.map Char.toUpper

namespace Text

/-- Beyond ASCII no letter is changed. -/
theorem toUpper_of_le {c : Char} (h : 0x80 ≤ c.toNat) : c.toUpper = c := by
  refine dif_neg fun hlower => ?_
  have hz : c.toNat ≤ 'z'.toNat := UInt32.le_iff_toNat_le.1 hlower.2
  have hlast : 'z'.toNat = 122 := rfl
  omega

/-- What holds of all ASCII characters and of all others holds of every character. -/
theorem ascii_cases {p : Char → Prop} (hascii : ∀ n < 0x80, p (Char.ofNat n))
    (hwide : ∀ c : Char, 0x80 ≤ c.toNat → p c) (c : Char) : p c := by
  by_cases h : c.toNat < 0x80
  · have hc := hascii c.toNat h
    rwa [Char.ofNat_toNat] at hc
  · exact hwide c (Nat.le_of_not_lt h)

theorem isBlank_toUpper (c : Char) : isBlank c.toUpper = isBlank c := by
  induction c using ascii_cases with
  | hascii n hn => revert n; decide
  | hwide c h => rw [toUpper_of_le h]

theorem upperChar_toUpper (c : Char) : upperChar c.toUpper = upperChar c := by
  induction c using ascii_cases with
  | hascii n hn => revert n; decide
  | hwide c h => rw [toUpper_of_le h]

theorem upper_map_toUpper (s : Text) : upper (s.map Char.toUpper) = upper s := by
  induction s with
  | nil => rfl
  | cons c s ih => rw [List.map_cons, upper_cons, upper_cons, upperChar_toUpper, ih]

theorem upper_of_equalUpToCase {s t : Text} (h : EqualUpToCase s t) : upper s = upper t := by
  rw [← upper_map_toUpper s, h, upper_map_toUpper]

theorem trim_of_equalUpToCase {s t : Text} (h : EqualUpToCase s t) :
    EqualUpToCase (trim s) (trim t) := by
  rw [EqualUpToCase, ← trim_map isBlank_toUpper, h, trim_map isBlank_toUpper]

theorem solid_map_toUpper (s : Text) : Solid (s.map Char.toUpper) ↔ Solid s := by
  simp [Solid, SolidFront, SolidBack, List.head?_map, List.getLast?_map, isBlank_toUpper]

theorem solid_of_equalUpToCase {s t : Text} (h : EqualUpToCase s t) (ht : Solid t) : Solid s := by
  rwa [← solid_map_toUpper, h, solid_map_toUpper]

end Text

/-! ## The first of a list -/

/-- A search finds what fits and has nothing before it that fits. -/
theorem find?_eq_some_iff_idxOf {α : Type} [BEq α] [LawfulBEq α] {l : List α} {p : α → Bool} {a : α} :
    l.find? p = some a ↔ a ∈ l ∧ p a = true ∧ ∀ b, l.idxOf b < l.idxOf a → p b = false := by
  rw [List.find?_eq_some_iff_append]
  constructor
  · rintro ⟨ha, before, after, rfl, hbefore⟩
    have hnot : a ∉ before := fun hmem => by simpa [ha] using hbefore a hmem
    have hidx : (before ++ a :: after).idxOf a = before.length := by
      rw [List.idxOf_append, if_neg hnot, List.idxOf_cons_self, Nat.zero_add]
    refine ⟨List.mem_append_right _ List.mem_cons_self, ha, fun b hb => ?_⟩
    rw [hidx, List.idxOf_append] at hb
    split at hb
    · rename_i hmem
      simpa using hbefore b hmem
    · omega
  · rintro ⟨hmem, ha, hbefore⟩
    obtain ⟨before, after, rfl, hnot⟩ := List.eq_append_cons_of_mem hmem
    refine ⟨ha, before, after, rfl, fun b hb => ?_⟩
    have hlt := List.idxOf_lt_length_of_mem hb
    rw [hbefore b (by rw [List.idxOf_append, List.idxOf_append, if_pos hb, if_neg hnot]; omega)]
    rfl

namespace Marker

/-- The marker of a line is the first whose phrase its upper case holds. -/
theorem ofLine?_eq_some_iff {line : Text} {m : Marker} :
    ofLine? line = some m ↔ m.phrase <:+: upper line
      ∧ ∀ k, Marker.all.idxOf k < Marker.all.idxOf m → ¬ k.phrase <:+: upper line := by
  simp only [ofLine?, find?_eq_some_iff_idxOf, mem_all, true_and, ← Bool.not_eq_true, holds_iff_isInfix]

/-- A line whose upper case holds a phrase has a marker, at the latest that one. -/
theorem exists_ofLine? {line : Text} {m : Marker} (h : m.phrase <:+: upper line) :
    ∃ k, ofLine? line = some k ∧ Marker.all.idxOf k ≤ Marker.all.idxOf m := by
  have hsome : (ofLine? line).isSome = true :=
    List.find?_isSome.2 ⟨m, mem_all m, holds_iff_isInfix.2 h⟩
  obtain ⟨k, hk⟩ := Option.isSome_iff_exists.1 hsome
  refine ⟨k, hk, Nat.le_of_not_lt fun hlt => ?_⟩
  exact (ofLine?_eq_some_iff.1 hk).2 m hlt h

/-- A phrase is in upper case, longer than a verdict, and has no blanks at its ends. -/
theorem phrase_shape (m : Marker) : upper m.phrase = m.phrase ∧ 4 < m.phrase.length ∧ Solid m.phrase := by
  cases m <;> decide

end Marker

/-! ## Phrases in their surroundings -/

section

variable {spelled : Text} {m : Marker}

theorem length_of_equalUpToCase (h : EqualUpToCase spelled m.phrase) : 4 < spelled.length := by
  have hlength := congrArg List.length h
  rw [List.length_map, List.length_map] at hlength
  rw [hlength]
  exact m.phrase_shape.2.1

/-- However a phrase is spelled, trimming leaves it in the line. -/
theorem infix_trim_of_equalUpToCase (h : EqualUpToCase spelled m.phrase) (a b : Text) :
    spelled <:+: trim (a ++ spelled ++ b) := by
  have hne : spelled ≠ [] := List.ne_nil_of_length_pos (Nat.zero_lt_of_lt (length_of_equalUpToCase h))
  rw [infix_trim_iff hne (solid_of_equalUpToCase h m.phrase_shape.2.2)]
  exact List.infix_append a spelled b

/-- However a phrase is spelled, the upper case of the line holds it. -/
theorem phrase_infix_upper (h : EqualUpToCase spelled m.phrase) (a b : Text) :
    m.phrase <:+: upper (trim (a ++ spelled ++ b)) := by
  obtain ⟨front, back, htrim⟩ := infix_trim_of_equalUpToCase h a b
  have hspelled : upper spelled = m.phrase :=
    (upper_of_equalUpToCase h).trans m.phrase_shape.1
  rw [← htrim, upper_append, upper_append, hspelled]
  exact List.infix_append _ _ _

/-- A line with a closing phrase is no verdict. -/
theorem not_showsVerdict_of_equalUpToCase (h : EqualUpToCase spelled m.phrase) (a b : Text) :
    ¬ ShowsVerdict (a ++ spelled ++ b) := by
  rintro ⟨verdict, hverdict⟩
  have hle := (infix_trim_of_equalUpToCase h a b).length_le
  rw [hverdict] at hle
  have hshort : verdict.word.length ≤ 4 := by cases verdict <;> decide
  have := length_of_equalUpToCase h
  omega

end

/-- **Closing phrases are found in any surroundings and any case.**  A line that holds a phrase, its
letters in any case, is a result or a summary if it shows one; otherwise it is a marker, the one of the
phrase or one that stands before it in the list.  A line is a marker exactly if it escapes the first
three rules and its upper case holds the phrase and none that stands before it.  Two lines that differ
only in the case of ASCII letters and both escape those rules say the same. -/
theorem read_marker :
    (∀ (a spelled b : Text) (m : Marker), EqualUpToCase spelled m.phrase →
      let line := a ++ spelled ++ b
      (ShowsResult line → ∃ status record, Event.ofLine line = .result status record)
        ∧ (¬ ShowsResult line → ShowsSummary line →
          (∃ run failed, Event.ofLine line = .summary run failed)
            ∨ Event.ofLine line = .malformedSummary)
        ∧ (¬ ShowsResult line → ¬ ShowsSummary line →
          ∃ k, Event.ofLine line = .marker k ∧ Marker.all.idxOf k ≤ Marker.all.idxOf m))
    ∧ (∀ (line : Text) (m : Marker), Event.ofLine line = .marker m
      ↔ EscapesRules line ∧ m.phrase <:+: upper (trim line)
        ∧ ∀ k, Marker.all.idxOf k < Marker.all.idxOf m → ¬ k.phrase <:+: upper (trim line))
    ∧ ∀ s t : Text, EqualUpToCase s t → EscapesRules s → EscapesRules t →
      Event.ofLine s = Event.ofLine t := by
  refine ⟨?_, ?_, ?_⟩
  · intro a spelled b m h line
    refine ⟨(Event.exists_result_iff line).2, ?_, ?_⟩
    · intro hresult hsummary
      rw [Event.ofLine_of_showsSummary hresult hsummary]
      exact Event.summaryOfLine_cases (trim line)
    · intro hresult hsummary
      have hescapes : EscapesRules line :=
        ⟨hresult, hsummary, not_showsVerdict_of_equalUpToCase h a b⟩
      obtain ⟨k, hk, hle⟩ := Marker.exists_ofLine? (phrase_infix_upper h a b)
      exact ⟨k, Event.ofLine_eq_marker_iff.2 ⟨hescapes, hk⟩, hle⟩
  · intro line m
    rw [Event.ofLine_eq_marker_iff, Marker.ofLine?_eq_some_iff]
  · intro s t h hs ht
    have hupper : upper (trim s) = upper (trim t) :=
      upper_of_equalUpToCase (trim_of_equalUpToCase h)
    rw [Event.ofLine_of_escapes hs, Event.ofLine_of_escapes ht, Marker.ofLine?, Marker.ofLine?, hupper]

/-- A phrase in mixed case, with a letter in the line that is longer in upper case. -/
theorem read_marker_of_mixed_case :
    let line := ">> ".toList ++ "eNd of Tests".toList ++ " (teﬆ)".toList
    Event.ofLine line = .marker .endOfTests
      ∧ (∃ k, Event.ofLine line = .marker k
        ∧ Marker.all.idxOf k ≤ Marker.all.idxOf .endOfTests)
      ∧ Event.ofLine ">> end of tests (TEﬆ)".toList = Event.ofLine line := by
  intro line
  have hescapes : EscapesRules line := by decide
  have hfound := read_marker.1 ">> ".toList "eNd of Tests".toList " (teﬆ)".toList .endOfTests
    (by unfold EqualUpToCase; decide)
  refine ⟨(read_marker.2.1 line .endOfTests).2 ⟨hescapes, holds_iff_isInfix.1 (by decide), ?_⟩,
    hfound.2.2 hescapes.1 hescapes.2.1, ?_⟩
  · intro k hk
    refine mt holds_iff_isInfix.2 ?_
    revert k
    rintro (_ | _ | _ | _) <;> decide
  · exact read_marker.2.2 _ line (by unfold EqualUpToCase; decide) (by decide) hescapes

end TestWatch
