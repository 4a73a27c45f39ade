import TestWatch.Proofs.Text.Searching
import TestWatch.Text.Numeral
import TestWatch.Text.Style

/-!
# Taking styling sequences out

A styling sequence is an escape character and an opening bracket, then digits and semicolons, then an
`m` (`IsStyling`).  What is left of a text without them is said twice: by `Unstyled`, which takes out
the sequence that a text begins with or lets its first character pass, and by the machine `erase`,
which holds back what may turn out to be a sequence.  Both say the same (`unstyled_iff`): held back
characters are either dropped with the `m` that ends them (`eraseFrom_codes`) or let through all
together (`eraseFrom_of_not_codes`).

No styling sequence is a beginning of another one (`IsStyling.eq_of_append_eq`), so that it can be said
where in a text they stand (`IsStyling.eq_or_after`).
-/

namespace TestWatch

namespace Text

/-! ## Styling sequences -/

/-- A character that can stand between the bracket and the `m` of a styling sequence. -/
def IsCode (c : Char) : Prop := isDigit c = true ∨ c = ';'

instance (c : Char) : Decidable (IsCode c) := inferInstanceAs (Decidable (_ ∨ _))

/-- An escape character and an opening bracket, digits and semicolons, and an `m`. -/
def IsStyling (q : Text) : Prop :=
  ∃ codes : Text, (∀ c ∈ codes, IsCode c) ∧ q = esc :: '[' :: (codes ++ ['m'])

theorem isCode_of_all {codes : Text} (h : codes.all (fun c => isDigit c || c == ';') = true) :
    ∀ c ∈ codes, IsCode c := by
  simpa [IsCode] using h

theorem m_notMem_codes {codes : Text} (h : ∀ c ∈ codes, IsCode c) : 'm' ∉ codes :=
  fun hmem => absurd (h 'm' hmem) (by decide)

theorem esc_notMem_codes {codes : Text} (h : ∀ c ∈ codes, IsCode c) : esc ∉ codes :=
  fun hmem => absurd (h esc hmem) (by decide)

theorem isStyling_opening (style : Style) : IsStyling style.opening :=
  ⟨style.codes, isCode_of_all (by cases style <;> decide), rfl⟩

theorem isStyling_reset : IsStyling reset := ⟨['0'], isCode_of_all rfl, rfl⟩

namespace IsStyling

variable {q p : Text}

/-- A styling sequence begins with its only escape character. -/
theorem exists_cons (hq : IsStyling q) : ∃ rest, q = esc :: rest ∧ esc ∉ rest := by
  obtain ⟨codes, hcodes, rfl⟩ := hq
  refine ⟨_, rfl, ?_⟩
  simp only [List.mem_cons, List.mem_append, List.not_mem_nil, or_false, not_or]
  exact ⟨by decide, esc_notMem_codes hcodes, by decide⟩

/-- A text begins with one styling sequence at most. -/
theorem eq_of_append_eq (hq : IsStyling q) (hp : IsStyling p) {s t : Text} (h : q ++ s = p ++ t) :
    q = p ∧ s = t := by
  obtain ⟨codes, hcodes, rfl⟩ := hq
  obtain ⟨others, hothers, rfl⟩ := hp
  have hbehind : codes ++ 'm' :: s = others ++ 'm' :: t := by simpa using h
  have hcut := congrArg (cutAt 'm') hbehind
  rw [cutAt_append (m_notMem_codes hcodes), cutAt_append (m_notMem_codes hothers),
    Option.some.injEq, Prod.mk.injEq] at hcut
  obtain ⟨rfl, rfl⟩ := hcut
  exact ⟨rfl, rfl⟩

/-- Behind a text without escape characters a styling sequence stands in what comes after it. -/
theorem after_of_notMem (hq : IsStyling q) {w r a b : Text} (hw : esc ∉ w)
    (h : w ++ r = a ++ q ++ b) : ∃ c, a = w ++ c ∧ r = c ++ q ++ b := by
  obtain ⟨rest, rfl, -⟩ := hq.exists_cons
  rw [List.append_assoc, List.append_eq_append_iff] at h
  rcases h with ⟨c, rfl, hr⟩ | ⟨c, rfl, hc⟩
  · exact ⟨c, rfl, by rw [hr, List.append_assoc]⟩
  · -- the escape character of the sequence would stand in the text
    cases c with
    | nil => exact ⟨[], by simp, by simpa using hc.symm⟩
    | cons d c =>
      have hd : esc = d := (List.cons.inj hc).1
      exact absurd (List.mem_append_right a (hd ▸ List.mem_cons_self)) hw

/-- Where a text begins with a styling sequence, any styling sequence in it is that one or comes after
it. -/
theorem eq_or_after (hp : IsStyling p) (hq : IsStyling q) {r a b : Text}
    (h : p ++ r = a ++ q ++ b) :
    (a = [] ∧ q = p ∧ b = r) ∨ ∃ c, a = p ++ c ∧ r = c ++ q ++ b := by
  cases a with
  | nil =>
    obtain ⟨hpq, hr⟩ := hp.eq_of_append_eq hq h
    exact .inl ⟨rfl, hpq.symm, hr.symm⟩
  | cons d a =>
    obtain ⟨rest, rfl, hrest⟩ := hp.exists_cons
    obtain ⟨rfl, hbehind⟩ := List.cons.inj h
    obtain ⟨c, rfl, hr⟩ := hq.after_of_notMem hrest hbehind
    exact .inr ⟨c, rfl, hr⟩

end IsStyling

/-! ## What is left -/

/-- The second text is left of the first when its styling sequences are taken out, from its beginning
to its end. -/
inductive Unstyled : Text → Text → Prop
  /-- Nothing is left of nothing. -/
  | nil : Unstyled [] []
  /-- A styling sequence is taken out. -/
  | styling {q s t : Text} (hq : IsStyling q) (h : Unstyled s t) : Unstyled (q ++ s) t
  /-- A character with which no styling sequence begins stays. -/
  | char {c : Char} {s t : Text} (hc : ∀ q, IsStyling q → ¬ q <+: c :: s) (h : Unstyled s t) :
      Unstyled (c :: s) (c :: t)

/-! ## The machine -/

theorem eraseStep_code {codes : Text} {c : Char} (hc : IsCode c) :
    eraseStep (esc :: '[' :: codes) c = ([], esc :: '[' :: (codes ++ [c])) := by
  have hm : c ≠ 'm' := by
    rintro rfl
    exact absurd hc (by decide)
  have hcode : (('0' ≤ c && c ≤ '9') || c = ';') = true := by
    simpa [IsCode, isDigit] using hc
  simp [eraseStep, hm, hcode]

/-- A character that does not continue a sequence lets through what was held back. -/
theorem eraseFrom_of_not_code {codes s : Text} {c : Char} (hm : c ≠ 'm') (hc : ¬ IsCode c) :
    eraseFrom (esc :: '[' :: codes) (c :: s) = esc :: '[' :: codes ++ erase (c :: s) := by
  have hcode : (('0' ≤ c && c ≤ '9') || c = ';') = false := by
    simpa [IsCode, isDigit] using hc
  simp [erase, eraseFrom, eraseStep, hm, hcode]

theorem erase_cons_of_ne_esc {c : Char} (hc : c ≠ esc) (s : Text) : erase (c :: s) = c :: erase s :=
  erase_append (a := [c]) (by simpa using Ne.symm hc) s

/-- With the `m` that ends a sequence, all that was held back is dropped. -/
theorem eraseFrom_codes {codes more : Text} (hmore : ∀ c ∈ more, IsCode c) (s : Text) :
    eraseFrom (esc :: '[' :: codes) (more ++ 'm' :: s) = erase s := by
  induction more generalizing codes with
  | nil => rfl
  | cons c more ih =>
    obtain ⟨hc, hmore⟩ := List.forall_mem_cons.1 hmore
    rw [List.cons_append, eraseFrom, eraseStep_code hc]
    exact ih hmore

/-- Where no sequence ends, all that was held back is let through. -/
theorem eraseFrom_of_not_codes {codes s : Text}
    (hs : ∀ more rest : Text, (∀ c ∈ more, IsCode c) → s ≠ more ++ 'm' :: rest) :
    eraseFrom (esc :: '[' :: codes) s = esc :: '[' :: codes ++ erase s := by
  induction s generalizing codes with
  | nil => exact (List.append_nil _).symm
  | cons c s ih =>
    have hm : c ≠ 'm' := fun h => hs [] s (List.forall_mem_nil _) (by rw [h]; rfl)
    by_cases hc : IsCode c
    · have hesc : c ≠ esc := by
        rintro rfl
        exact absurd hc (by decide)
      have hrest : ∀ more rest : Text, (∀ d ∈ more, IsCode d) → s ≠ more ++ 'm' :: rest :=
        fun more rest hmore h => hs (c :: more) rest (List.forall_mem_cons.2 ⟨hc, hmore⟩) (by rw [h]; rfl)
      rw [eraseFrom, eraseStep_code hc, ih hrest, erase_cons_of_ne_esc hesc]
      simp
    · exact eraseFrom_of_not_code hm hc

theorem erase_styling_append {q : Text} (hq : IsStyling q) (s : Text) : erase (q ++ s) = erase s := by
  obtain ⟨codes, hcodes, rfl⟩ := hq
  have herase : eraseFrom [esc, '['] (codes ++ 'm' :: s) = erase s := eraseFrom_codes hcodes s
  rw [← herase]
  simp [erase, eraseFrom, eraseStep, eraseFirst]

/-- A character with which no styling sequence begins is let through. -/
theorem erase_cons {c : Char} {s : Text} (hc : ∀ q, IsStyling q → ¬ q <+: c :: s) :
    erase (c :: s) = c :: erase s := by
  by_cases hesc : c = esc
  · subst hesc
    cases s with
    | nil => rfl
    | cons d s =>
      by_cases hd : d = '['
      · subst hd
        have hs : ∀ more rest : Text, (∀ c ∈ more, IsCode c) → s ≠ more ++ 'm' :: rest := by
          rintro more rest hmore rfl
          exact hc _ ⟨more, hmore, rfl⟩ ⟨rest, by simp⟩
        have hbracket := erase_cons_of_ne_esc (c := '[') (by decide) s
        have hheld : eraseFrom [esc, '['] s = [esc, '['] ++ erase s := eraseFrom_of_not_codes hs
        rw [hbracket]
        exact hheld
      · simp [erase, eraseFrom, eraseStep, eraseFirst, hd]
  · exact erase_cons_of_ne_esc hesc s

/-- The machine takes out the styling sequences and nothing else. -/
theorem unstyled_iff {s t : Text} : Unstyled s t ↔ t = erase s := by
  constructor
  · intro h
    induction h with
    | nil => rfl
    | styling hq _ ih => rw [erase_styling_append hq, ih]
    | char hc _ ih => rw [erase_cons hc, ih]
  · rintro rfl
    induction hn : s.length using Nat.strongRecOn generalizing s with
    | ind n ih =>
      by_cases hstyled : ∃ q, IsStyling q ∧ q <+: s
      · obtain ⟨q, hq, rest, rfl⟩ := hstyled
        obtain ⟨tail, htail, -⟩ := hq.exists_cons
        rw [erase_styling_append hq]
        refine .styling hq (ih rest.length ?_ rfl)
        rw [← hn, htail, List.length_append, List.length_cons]
        omega
      · cases s with
        | nil => exact .nil
        | cons c s =>
          have hc : ∀ q, IsStyling q → ¬ q <+: c :: s := fun q hq h => hstyled ⟨q, hq, h⟩
          rw [erase_cons hc]
          exact .char hc (ih s.length (by rw [← hn]; simp) rfl)

end Text

end TestWatch
