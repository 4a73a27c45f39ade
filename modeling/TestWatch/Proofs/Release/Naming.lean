import TestWatch.Esptool
import TestWatch.Proofs.Text.Numerals
import TestWatch.Proofs.Text.Searching

/-!
# Releases and their names

Which releases there are is said by a grammar of its own: three numbers of 64 bits, and behind them
parts made of identifiers with dots between (`Release.WellFormed`).  These are the releases that a name
can give (`wellFormed_of_read`), and each of them is read back from its name (`read_shown`): the name is
cut at its first plus sign and what is before that at its first hyphen, and neither stands in what is
written before it.

A word that stands apart from the text around it is one of the words of the whole
(`words_append`), so that the last release named in a text does not depend on what is said before it,
nor on later words that name none.  `last_named` says so, and which command a release has for loading
an image.
-/

namespace TestWatch

open Text

namespace Text

/-! ## Words apart -/

/-- A text that ends with a blank, if it does not end at once. -/
def EndsApart (s : Text) : Prop := ∀ c ∈ s.getLast?, isBlank c = true

/-- A text that begins with a blank, if it does not end at once. -/
def BeginsApart (s : Text) : Prop := ∀ c ∈ s.head?, isBlank c = true

instance (s : Text) : Decidable (EndsApart s) := Option.decidableForallMem s.getLast?

instance (s : Text) : Decidable (BeginsApart s) := Option.decidableForallMem s.head?

theorem words_append_blank {c : Char} (hc : isBlank c = true) (a b : Text) :
    words (a ++ c :: b) = words a ++ words b := by
  rw [words, words, words, splitWhere_eq_splitOnP, List.splitOnP_append_cons _ _ hc, nonEmpty,
    List.filter_append, splitWhere_eq_splitOnP, splitWhere_eq_splitOnP, nonEmpty, nonEmpty]

theorem words_nil : words [] = [] := rfl

theorem words_of_solid {word : Text} (hne : word ≠ []) (h : ∀ c ∈ word, isBlank c = false) :
    words word = [word] := by
  rw [words, splitWhere_of_avoids h, nonEmpty]
  simpa using hne

/-- A text that ends apart, and whatever comes after it, have their words apart. -/
theorem words_append_of_endsApart {a : Text} (ha : EndsApart a) (b : Text) :
    words (a ++ b) = words a ++ words b := by
  rcases List.eq_nil_or_concat a with rfl | ⟨s, c, rfl⟩
  · rfl
  · have hc : isBlank c = true := ha c (by simp)
    rw [List.concat_eq_append, List.append_assoc, List.singleton_append, words_append_blank hc,
      words_append_blank hc, words_nil, List.append_nil]

theorem words_append_of_beginsApart {b : Text} (hb : BeginsApart b) (a : Text) :
    words (a ++ b) = words a ++ words b := by
  cases b with
  | nil => rw [List.append_nil, words_nil, List.append_nil]
  | cons c s =>
    have hc : isBlank c = true := hb c rfl
    rw [words_append_blank hc, ← List.nil_append (c :: s), words_append_blank hc, words_nil,
      List.nil_append]

/-- A word between texts that stand apart from it is one of the words. -/
theorem words_append {a word b : Text} (ha : EndsApart a) (hb : BeginsApart b) (hne : word ≠ [])
    (hword : ∀ c ∈ word, isBlank c = false) :
    words (a ++ word ++ b) = words a ++ word :: words b := by
  rw [List.append_assoc, words_append_of_endsApart ha, words_append_of_beginsApart hb,
    words_of_solid hne hword, List.singleton_append]

/-- The letters and digits of ASCII by their places. -/
theorem isAlphanum_iff (c : Char) :
    c.isAlphanum = true ↔
      ('A' ≤ c ∧ c ≤ 'Z') ∨ ('a' ≤ c ∧ c ≤ 'z') ∨ ('0' ≤ c ∧ c ≤ '9') := by
  have hplaces : c.isAlphanum = ((decide ('A' ≤ c ∧ c ≤ 'Z') ||
      (decide ('a' ≤ c) && decide (c ≤ 'z'))) || (decide ('0' ≤ c) && decide (c ≤ '9'))) := rfl
  simp only [hplaces, Bool.or_eq_true, Bool.and_eq_true, decide_eq_true_eq, or_assoc]

/-- A blank is neither a letter nor a digit of ASCII. -/
theorem isAlphanum_of_isBlank {c : Char} (h : isBlank c = true) : c.isAlphanum = false := by
  have hapart : c.toNat ≤ 0x20 ∨ 0x85 ≤ c.toNat := by
    simp only [isBlank, Bool.or_eq_true, Bool.and_eq_true, decide_eq_true_eq, beq_iff_eq] at h
    omega
  have hval : c.val.toNat = c.toNat := rfl
  rw [Bool.eq_false_iff, ne_eq, isAlphanum_iff]
  simp [Char.le_def, UInt32.le_iff_toNat_le]
  omega

/-! ## Numerals -/

theorem word64?_decimal {n : Nat} (h : n < word64) : word64? (decimal n) = some n := by
  rw [word64?, readWord64_decimal h]
  rfl

end Text

namespace Release

/-! ## The grammar -/

/-- An identifier: ASCII letters, digits and hyphens, one of them at least. -/
def IsTag (s : Text) : Prop := s ≠ [] ∧ ∀ c ∈ s, c.isAlphanum = true ∨ c = '-'

/-- An identifier that has no leading zeros if it is a number. -/
def IsOrderedTag (s : Text) : Prop :=
  IsTag s ∧ ((∀ c ∈ s, c.isDigit = true) → s = ['0'] ∨ s.head? ≠ some '0')

-- a search for these instances may find one that goes through all characters there are
instance (s : Text) : Decidable (IsTag s) :=
  decidable_of_iff (s ≠ [] ∧ s.all (fun c => c.isAlphanum || c == '-') = true) (by simp [IsTag])

instance (s : Text) : Decidable (IsOrderedTag s) :=
  decidable_of_iff (IsTag s ∧ (s.all Char.isDigit = true → s = ['0'] ∨ s.head? ≠ some '0'))
    (by simp [IsOrderedTag])

/-- A part of a name: identifiers of a kind, one of them at least, with dots between. -/
def IsPart (Tag : Text → Prop) (part : Text) : Prop :=
  ∃ tags : List Text, tags ≠ [] ∧ (∀ tag ∈ tags, Tag tag) ∧ part = ['.'].intercalate tags

/-- A release that a name can give. -/
structure WellFormed (r : Release) : Prop where
  /-- The first number has 64 bits. -/
  major_lt : r.major < word64
  /-- The second number has 64 bits. -/
  minor_lt : r.minor < word64
  /-- The third number has 64 bits. -/
  patch_lt : r.patch < word64
  /-- What the release comes before is a part whose numbers have no leading zeros. -/
  before : ∀ part ∈ r.before, IsPart IsOrderedTag part
  /-- How it was built is a part. -/
  build : ∀ part ∈ r.build, IsPart IsTag part

theorem isTagChar_iff (c : Char) : isTagChar c = true ↔ c.isAlphanum = true ∨ c = '-' := by
  rw [isAlphanum_iff]
  simp only [isTagChar, isDigit, Bool.or_eq_true, Bool.and_eq_true, decide_eq_true_eq, beq_iff_eq]
  tauto

theorem isDigit_iff (c : Char) : isDigit c = true ↔ c.isDigit = true := by
  simp [isDigit, Char.isDigit, Char.le_def]

theorem isBuildTag_iff (s : Text) : isBuildTag s = true ↔ IsTag s := by
  simp [isBuildTag, IsTag, isTagChar_iff]

theorem isBeforeTag_iff (s : Text) : isBeforeTag s = true ↔ IsOrderedTag s := by
  rw [isBeforeTag, Bool.and_eq_true, isBuildTag_iff, IsOrderedTag]
  refine and_congr_right fun htag => ?_
  obtain ⟨c, rest, rfl⟩ := List.exists_cons_of_ne_nil htag.1
  cases rest with
  | nil => by_cases hc : c = '0' <;> simp [hc]
  | cons d rest =>
    have hall : (c :: d :: rest).all isDigit = true ↔ ∀ x ∈ c :: d :: rest, x.isDigit = true := by
      rw [List.all_eq_true]
      exact forall₂_congr fun x _ => isDigit_iff x
    rw [← hall]
    cases (c :: d :: rest).all isDigit <;> simp

theorem IsTag.notMem {s : Text} (h : IsTag s) {c : Char} (hc : c.isAlphanum = false) (hne : c ≠ '-') :
    c ∉ s := by
  intro hmem
  rcases h.2 c hmem with halpha | rfl
  · exact Bool.false_ne_true (hc.symm.trans halpha)
  · exact hne rfl

/-- A part is told by its pieces between dots. -/
theorem isPart_iff {Tag : Text → Prop} (hTag : ∀ s, Tag s → IsTag s) (part : Text) :
    IsPart Tag part ↔ ∀ tag ∈ split '.' part, Tag tag := by
  rw [split_eq_splitOn]
  constructor
  · rintro ⟨tags, hne, htags, rfl⟩
    have hdot : ∀ tag ∈ tags, '.' ∉ tag :=
      fun tag htag => (hTag tag (htags tag htag)).notMem (by decide) (by decide)
    rwa [List.splitOn_intercalate '.' hdot hne]
  · intro h
    exact ⟨_, List.splitOn_ne_nil '.' part, h, (List.intercalate_splitOn '.').symm⟩

theorem IsPart.notMem {Tag : Text → Prop} (hTag : ∀ s, Tag s → IsTag s) {part : Text}
    (h : IsPart Tag part) {c : Char} (hc : c.isAlphanum = false) (hhyphen : c ≠ '-')
    (hdot : c ≠ '.') : c ∉ part := by
  obtain ⟨tags, -, htags, rfl⟩ := h
  intro hmem
  rcases mem_of_mem_intercalate hmem with hsep | ⟨tag, htag, hctag⟩
  · exact hdot (List.mem_singleton.1 hsep)
  · exact (hTag tag (htags tag htag)).notMem hc hhyphen hctag

/-- A part is read exactly if each of its identifiers is of the kind asked for. -/
theorem readTags_eq_some_iff {isTag : Text → Bool} {Tag : Text → Prop}
    (hisTag : ∀ s, isTag s = true ↔ Tag s) (hTag : ∀ s, Tag s → IsTag s)
    {part answer : Option Text} :
    readTags isTag part = some answer ↔ answer = part ∧ ∀ p ∈ part, IsPart Tag p := by
  cases part with
  | none => simp [readTags, eq_comm]
  | some p =>
    have hall : (split '.' p).all isTag = true ↔ IsPart Tag p := by
      rw [isPart_iff hTag, List.all_eq_true]
      exact forall₂_congr fun tag _ => hisTag tag
    by_cases h : (split '.' p).all isTag = true
    · simp [readTags, h, hall.1 h, eq_comm]
    · simp [readTags, h, mt hall.2 h]

/-! ## Names are read back -/

/-- The three numbers of a release as they stand in its name. -/
def numbers (r : Release) : Text := decimal r.major ++ '.' :: decimal r.minor ++ '.' :: decimal r.patch

theorem notMem_numbers (r : Release) {c : Char} (hdigit : isDigit c = false) (hdot : c ≠ '.') :
    c ∉ r.numbers := by
  simp [numbers, notMem_decimal hdigit, hdot]

/-- A number is one field between dots. -/
theorem dotless (n : Nat) : ∀ d ∈ decimal n, (d == '.') = false :=
  fun d hd => beq_eq_false_iff_ne.2 fun h => notMem_decimal (c := '.') (by decide) n (h ▸ hd)

theorem split_numbers (r : Release) :
    split '.' r.numbers = [decimal r.major, decimal r.minor, decimal r.patch] := by
  rw [numbers, split, List.append_assoc, List.cons_append, splitWhere_append (dotless _) (by decide),
    splitWhere_append (dotless _) (by decide), splitWhere_of_avoids (dotless _)]

/-- What is written behind a mark is cut off at it. -/
theorem cutOff_suffix {mark : Char} {s : Text} (h : mark ∉ s) (part : Option Text) :
    cutOff mark (s ++ suffix mark part) = (s, part) := by
  cases part with
  | none => rw [suffix, List.append_nil, cutOff, cutAt_of_not_mem h]
  | some p => rw [suffix, cutOff, cutAt_append h]

namespace WellFormed

variable {r : Release}

theorem plus_notMem (h : r.WellFormed) : '+' ∉ r.numbers ++ suffix '-' r.before := by
  have hnumbers := r.notMem_numbers (c := '+') (by decide) (by decide)
  cases hbefore : r.before with
  | none => simpa [suffix] using hnumbers
  | some part =>
    have hpart := (h.before part hbefore).notMem (fun _ htag => htag.1) (c := '+') (by decide)
      (by decide) (by decide)
    simpa [suffix, hpart] using hnumbers

end WellFormed

/-- Every release that a name can give is read back from its name. -/
theorem read_shown {r : Release} (h : r.WellFormed) : read r.shown = some r := by
  have hbuilt : cutOff '+' r.shown = (r.numbers ++ suffix '-' r.before, r.build) :=
    cutOff_suffix h.plus_notMem r.build
  have hcore : cutOff '-' (r.numbers ++ suffix '-' r.before) = (r.numbers, r.before) :=
    cutOff_suffix (r.notMem_numbers (by decide) (by decide)) r.before
  have hbefore : readTags isBeforeTag r.before = some r.before :=
    (readTags_eq_some_iff isBeforeTag_iff fun _ htag => htag.1).2 ⟨rfl, h.before⟩
  have hbuild : readTags isBuildTag r.build = some r.build :=
    (readTags_eq_some_iff isBuildTag_iff fun _ htag => htag).2 ⟨rfl, h.build⟩
  simp only [read, hbuilt, hcore, split_numbers, readNumber_decimal h.major_lt,
    readNumber_decimal h.minor_lt, readNumber_decimal h.patch_lt, hbefore, hbuild]
  rfl

/-! ## Only such releases are read -/

theorem lt_of_readNumber {s : Text} {n : Nat} (h : readNumber s = some n) : n < word64 := by
  unfold readNumber at h
  split at h
  · cases h
  · exact lt_of_word64? h

theorem wellFormed_of_read {s : Text} {r : Release} (h : read s = some r) : r.WellFormed := by
  unfold read at h
  dsimp only at h
  split at h
  · simp only [Option.bind_eq_bind, Option.bind_eq_some_iff, Option.some.injEq] at h
    obtain ⟨major, hmajor, minor, hminor, patch, hpatch, before, hbefore, build, hbuild, rfl⟩ := h
    obtain ⟨rfl, hbeforePart⟩ := (readTags_eq_some_iff isBeforeTag_iff fun _ htag => htag.1).1 hbefore
    obtain ⟨rfl, hbuildPart⟩ := (readTags_eq_some_iff isBuildTag_iff fun _ htag => htag).1 hbuild
    exact ⟨lt_of_readNumber hmajor, lt_of_readNumber hminor, lt_of_readNumber hpatch, hbeforePart,
      hbuildPart⟩
  · cases h

theorem wellFormed_plain {a b c : Nat} (ha : a < word64) (hb : b < word64) (hc : c < word64) :
    (plain a b c).WellFormed :=
  ⟨ha, hb, hc, fun _ h => absurd h (by simp [plain]), fun _ h => absurd h (by simp [plain])⟩

theorem wellFormed_of_readPair {s : Text} {r : Release} (h : readPair s = some r) :
    r.WellFormed := by
  unfold readPair at h
  simp only [Option.bind_eq_bind, Option.bind_eq_some_iff, Option.some.injEq, Prod.exists] at h
  obtain ⟨a, b, -, major, hmajor, minor, hminor, rfl⟩ := h
  exact wellFormed_plain (lt_of_word64? hmajor) (lt_of_word64? hminor) (by decide)

theorem wellFormed_of_ofToken? {word : Text} {r : Release} (h : ofToken? word = some r) :
    r.WellFormed := by
  unfold ofToken? at h
  rcases Option.or_eq_some_iff.1 h with h | ⟨-, h⟩
  · exact wellFormed_of_read h
  · exact wellFormed_of_readPair h

theorem wellFormed_of_last? {s : Text} {r : Release} (h : last? s = some r) : r.WellFormed := by
  obtain ⟨word, -, hword⟩ := List.exists_of_findSome?_eq_some h
  exact wellFormed_of_ofToken? hword

/-! ## Names in a text -/

/-- What may stand before a name: nothing, or a `v`. -/
def IsLead (lead : Text) : Prop := lead = [] ∨ lead = ['v']

/-- A word that is a name is read as one, with a `v` in front or without. -/
theorem ofToken?_lead {lead : Text} (hlead : IsLead lead) {name : Text}
    (hname : ∃ digit rest, name = digit :: rest ∧ isDigit digit = true) :
    ofToken? (lead ++ name) = (read name).or (readPair name) := by
  obtain ⟨digit, rest, rfl, hdigit⟩ := hname
  have hv : 'v' ≠ digit := by
    rintro rfl
    exact absurd hdigit (by decide)
  rcases hlead with rfl | rfl
  · simp [ofToken?, dropFront?, hv]
  · simp [ofToken?, dropFront?]

theorem exists_decimal_append (n : Nat) (s : Text) :
    ∃ digit rest, decimal n ++ s = digit :: rest ∧ isDigit digit = true := by
  obtain ⟨digit, digits, hdigits⟩ := List.exists_cons_of_ne_nil (decimal_ne_nil n)
  refine ⟨digit, digits ++ s, by rw [hdigits]; rfl, ?_⟩
  exact isDigit_of_mem_decimal (n := n) (by rw [hdigits]; exact List.mem_cons_self)

/-- Behind texts that name no release, the last word that names one decides. -/
theorem last?_of_ofToken? {before word after : Text} (hbefore : EndsApart before)
    (hafter : BeginsApart after) (hnone : ∀ w ∈ words after, ofToken? w = none) (hne : word ≠ [])
    (hword : ∀ c ∈ word, isBlank c = false) {r : Release} (h : ofToken? word = some r) :
    last? (before ++ word ++ after) = some r := by
  have hlater : (words after).reverse.findSome? ofToken? = none :=
    List.findSome?_eq_none_iff.2 fun w hw => hnone w (List.mem_reverse.1 hw)
  rw [last?, words_append hbefore hafter hne hword, List.reverse_append, List.reverse_cons,
    List.append_assoc, List.findSome?_append, hlater, Option.none_or, List.singleton_append,
    List.findSome?_cons_of_isSome (by simp [h]), h]

theorem isBlank_lead {lead : Text} (h : IsLead lead) : ∀ c ∈ lead, isBlank c = false := by
  rcases h with rfl | rfl
  · exact List.forall_mem_nil _
  · exact List.forall_mem_singleton.2 (by decide)

theorem isBlank_decimal (n : Nat) : ∀ c ∈ decimal n, isBlank c = false := by
  intro c hc
  by_contra hblank
  rw [Bool.not_eq_false] at hblank
  have hdigit : isDigit c = false := by
    rw [Bool.eq_false_iff, ne_eq, isDigit_iff]
    exact fun h => by simpa [Char.isAlphanum, h] using isAlphanum_of_isBlank hblank
  exact notMem_decimal hdigit n hc

theorem isBlank_suffix {mark : Char} (hmark : isBlank mark = false) {Tag : Text → Prop}
    (hTag : ∀ s, Tag s → IsTag s) {part : Option Text} (h : ∀ p ∈ part, IsPart Tag p) :
    ∀ c ∈ suffix mark part, isBlank c = false := by
  intro c hc
  by_contra hblank
  rw [Bool.not_eq_false] at hblank
  have hne : ∀ d, isBlank d = false → c ≠ d := by
    rintro d hd rfl
    exact Bool.false_ne_true (hd.symm.trans hblank)
  cases part with
  | none => exact absurd hc List.not_mem_nil
  | some p =>
    rcases List.mem_cons.1 hc with rfl | hc
    · exact hne c hmark rfl
    · exact (h p rfl).notMem hTag (isAlphanum_of_isBlank hblank) (hne '-' (by decide))
        (hne '.' (by decide)) hc

theorem isBlank_shown {r : Release} (h : r.WellFormed) : ∀ c ∈ r.shown, isBlank c = false := by
  have hdot : isBlank '.' = false := by decide
  have hhyphen : isBlank '-' = false := by decide
  have hplus : isBlank '+' = false := by decide
  have hbefore := isBlank_suffix hhyphen (fun _ htag => htag.1) h.before
  have hbuild := isBlank_suffix hplus (fun _ htag => htag) h.build
  intro c hc
  simp only [shown, List.mem_append, List.mem_cons] at hc
  rcases hc with (((hc | hc | hc) | hc | hc) | hc) | hc
  · exact isBlank_decimal r.major c hc
  · exact hc ▸ hdot
  · exact isBlank_decimal r.minor c hc
  · exact hc ▸ hdot
  · exact isBlank_decimal r.patch c hc
  · exact hbefore c hc
  · exact hbuild c hc

/-- A release that is named in a text apart from what is around it is the last one there, if no word
after it names another. -/
theorem last?_named {r : Release} (hr : r.WellFormed) {before after lead : Text}
    (hbefore : EndsApart before) (hafter : BeginsApart after) (hlead : IsLead lead)
    (hnone : ∀ w ∈ words after, ofToken? w = none) :
    last? (before ++ (lead ++ r.shown) ++ after) = some r := by
  obtain ⟨digit, rest, hshown, hdigit⟩ : ∃ digit rest, r.shown = digit :: rest
      ∧ isDigit digit = true := by
    simpa only [shown, List.append_assoc] using exists_decimal_append r.major _
  refine last?_of_ofToken? hbefore hafter hnone (by simp [hshown]) ?_ ?_
  · exact List.forall_mem_append.2 ⟨isBlank_lead hlead, isBlank_shown hr⟩
  · rw [ofToken?_lead hlead ⟨digit, rest, hshown, hdigit⟩, read_shown hr, Option.some_or]

/-- Two numbers alone are no release by the strict reading, and are by the other. -/
theorem ofToken?_pair {lead : Text} (hlead : IsLead lead) {m n : Nat} (hm : m < word64)
    (hn : n < word64) :
    ofToken? (lead ++ (decimal m ++ '.' :: decimal n)) = some (plain m n 0) := by
  have hcut : ∀ mark : Char, isDigit mark = false → mark ≠ '.' →
      cutOff mark (decimal m ++ '.' :: decimal n) = (decimal m ++ '.' :: decimal n, none) := by
    intro mark hdigit hdot
    have hmark : mark ∉ decimal m ++ '.' :: decimal n := by
      simp [notMem_decimal hdigit, hdot]
    rw [cutOff, cutAt_of_not_mem hmark]
  have hsplit : split '.' (decimal m ++ '.' :: decimal n) = [decimal m, decimal n] := by
    rw [split, splitWhere_append (dotless m) (by decide), splitWhere_of_avoids (dotless n)]
  have hread : read (decimal m ++ '.' :: decimal n) = none := by
    simp only [read, hcut '+' (by decide) (by decide), hcut '-' (by decide) (by decide), hsplit]
  have hpair : readPair (decimal m ++ '.' :: decimal n) = some (plain m n 0) := by
    have hdot : '.' ∉ decimal m := notMem_decimal (by decide) m
    simp [readPair, cutAt_append hdot, word64?_decimal hm, word64?_decimal hn]
  rw [ofToken?_lead hlead (exists_decimal_append m _), hread, hpair, Option.none_or]

theorem last?_pair {m n : Nat} (hm : m < word64) (hn : n < word64) {before after lead : Text}
    (hbefore : EndsApart before) (hafter : BeginsApart after) (hlead : IsLead lead)
    (hnone : ∀ w ∈ words after, ofToken? w = none) :
    last? (before ++ (lead ++ (decimal m ++ '.' :: decimal n)) ++ after) = some (plain m n 0) := by
  have hdot : isBlank '.' = false := by decide
  refine last?_of_ofToken? hbefore hafter hnone (by simp) ?_ (ofToken?_pair hlead hm hn)
  exact List.forall_mem_append.2 ⟨isBlank_lead hlead, List.forall_mem_append.2
    ⟨isBlank_decimal m, List.forall_mem_cons.2 ⟨hdot, isBlank_decimal n⟩⟩⟩

/-! ## The order of releases and the command that loads an image -/

/-- Zero is the first of all numbers. -/
theorem isGE_compare_zero_then (n : Nat) {o : Ordering} (ho : o.isGE = true) :
    ((compare n 0).then o).isGE = true := by
  cases n with
  | zero => exact ho
  | succ n =>
    rw [Nat.compare_eq_gt.2 (Nat.succ_pos n)]
    rfl

/-- The numbers of a release reach those of the first release of a row exactly if the first number
does. -/
theorem isGE_order_core_iff (r : Release) (major : Nat) :
    (order r.core (plain major 0 0)).isGE = true ↔ major ≤ r.major := by
  have hrest : ((compare r.minor 0).then ((compare r.patch 0).then
      (compareBefore none none))).isGE = true :=
    isGE_compare_zero_then r.minor (isGE_compare_zero_then r.patch rfl)
  show ((compare r.major major).then _).isGE = true ↔ _
  rcases Nat.lt_trichotomy r.major major with hlt | heq | hgt
  · rw [Nat.compare_eq_lt.2 hlt]
    exact iff_of_false Bool.false_ne_true (Nat.not_le.2 hlt)
  · rw [Nat.compare_eq_eq.2 heq]
    exact iff_of_true hrest (Nat.le_of_eq heq.symm)
  · rw [Nat.compare_eq_gt.2 hgt]
    exact iff_of_true rfl (Nat.le_of_lt hgt)

theorem loadCommand_eq (r : Release) :
    Esptool.loadCommand r = if 5 ≤ r.major then "load-ram".toList else "load_ram".toList := by
  have hnumbers := isGE_order_core_iff r 5
  unfold Esptool.loadCommand Esptool.firstHyphened
  by_cases h : 5 ≤ r.major
  · rw [if_pos (hnumbers.2 h), if_pos h]
  · rw [if_neg (mt hnumbers.1 h), if_neg h]

/-- **A release is found where it is named, and gives the command.**  Every release that a name can give
is found in every text in which its name stands apart, with a `v` in front or without, if no word after
it names one; so is the release that two numbers alone name.  Every release that is found in a text is
found again in its own name.  The command to load an image has a hyphen exactly if the first number of
the release is five at least, whatever stands behind its numbers, and an underscore otherwise. -/
theorem last_named :
    (∀ (r : Release) (before after lead : Text), r.WellFormed → EndsApart before →
        BeginsApart after → IsLead lead → (∀ w ∈ words after, ofToken? w = none) →
        last? (before ++ (lead ++ r.shown) ++ after) = some r)
      ∧ (∀ (m n : Nat) (before after lead : Text), m < word64 → n < word64 → EndsApart before →
        BeginsApart after → IsLead lead → (∀ w ∈ words after, ofToken? w = none) →
        last? (before ++ (lead ++ (decimal m ++ '.' :: decimal n)) ++ after) = some (plain m n 0))
      ∧ (∀ (s : Text) (r : Release), last? s = some r →
        read r.shown = some r ∧ last? r.shown = some r)
      ∧ ∀ r : Release, (Esptool.loadCommand r = "load-ram".toList ↔ 5 ≤ r.major)
        ∧ (Esptool.loadCommand r = "load_ram".toList ↔ r.major < 5) := by
  refine ⟨?_, ?_, ?_, ?_⟩
  · intro r before after lead hr hbefore hafter hlead hnone
    exact last?_named hr hbefore hafter hlead hnone
  · intro m n before after lead hm hn hbefore hafter hlead hnone
    exact last?_pair hm hn hbefore hafter hlead hnone
  · intro s r h
    have hr := wellFormed_of_last? h
    have hown : last? ([] ++ ([] ++ r.shown) ++ []) = some r :=
      last?_named hr (by decide) (by decide) (.inl rfl) (List.forall_mem_nil _)
    exact ⟨read_shown hr, by simpa using hown⟩
  · intro r
    rw [loadCommand_eq, ← Nat.not_le]
    by_cases h : 5 ≤ r.major <;> simp [h]

/-- What comes before the fifth release is named between others, and loads with a hyphen. -/
theorem last_named_of_candidate :
    let r : Release := ⟨5, 0, 0, some "rc-1.0".toList, some "build.007".toList⟩
    let before := "esptool.py v4.7.0\n".toList
    let after := " on v5, not 6.x\r\n".toList
    r.WellFormed ∧ EndsApart before ∧ BeginsApart after
      ∧ (∀ w ∈ words after, ofToken? w = none)
      ∧ last? (before ++ (['v'] ++ r.shown) ++ after) = some r
      ∧ last? (before ++ ([] ++ (decimal 3 ++ '.' :: decimal 3)) ++ after) = some (plain 3 3 0)
      ∧ last? r.shown = some r ∧ Esptool.loadCommand r = "load-ram".toList := by
  intro r before after
  have hbefore : IsPart IsOrderedTag "rc-1.0".toList :=
    ⟨["rc-1".toList, ['0']], by decide, by decide, rfl⟩
  have hbuild : IsPart IsTag "build.007".toList :=
    ⟨["build".toList, "007".toList], by decide, by decide, rfl⟩
  have hr : r.WellFormed := by
    refine ⟨by decide, by decide, by decide, ?_, ?_⟩
    · rintro part ⟨⟩
      exact hbefore
    · rintro part ⟨⟩
      exact hbuild
  have hnone : ∀ w ∈ words after, ofToken? w = none := by decide
  have hfound := last_named.1 r before after ['v'] hr (by decide) (by decide) (.inr rfl) hnone
  have hpair := last_named.2.1 3 3 before after [] (by decide) (by decide) (by decide) (by decide)
    (.inl rfl) hnone
  exact ⟨hr, by decide, by decide, hnone, hfound, hpair, (last_named.2.2.1 _ r hfound).2,
    (last_named.2.2.2 r).1.2 (by decide)⟩

end Release

end TestWatch
