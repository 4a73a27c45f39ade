import TestWatch.Proofs.Settings.Documents
import TestWatch.Proofs.Settings.Heeding
import TestWatch.Proofs.TimeSpan.Numerals
import TestWatch.Proofs.Toml.Quoting

/-!
# Timeouts of files and of the command line

A text is read as a timeout in two ways: as a value of a file, which has to be a span of time, and as
an argument, which can also be a number of seconds.  The two never differ about a text that both take,
and a text that only the command line takes is a numeral (`timeout_read_alike`).

That a file takes a text is said of every tree of settings that has the text as its timeout
(`HasTimeout`): if the tree is accepted with some text there, it is accepted with each one that is a
span, and nothing else changes (`accept_of_withTimeout`).  There is a file for every text
(`holds_timeoutText`).
-/

namespace TestWatch

open Text

namespace Settings

/-! ## Trees with a timeout -/

/-- The tree has a text as its timeout. -/
def HasTimeout (tree : Tree) (s : Text) : Prop :=
  ∃ origin rows origin', List.lookup monitorSection.key tree.rows = some (.table origin rows)
    ∧ List.lookup timeoutField.key rows = some (.leaf origin' (.text s))

/-- The tree with a text as its timeout, and all else as it is. -/
def withTimeout (s : Text) (tree : Tree) : Tree :=
  tree.change (fun t => .leaf t.origin (.text s)) [.key monitorSection.key, .key timeoutField.key]

theorem mem_put_or_lookup {α : Type} {key : Text} {value : α} {rows : Keyed α} {row : Text × α}
    (h : row ∈ rows) :
    row ∈ Keyed.put key value rows ∨ row.1 = key ∧ List.lookup key rows = some row.2 := by
  induction rows with
  | nil => cases h
  | cons first rows ih =>
    unfold Keyed.put
    by_cases hfirst : first.1 = key
    · rw [if_pos hfirst]
      rcases List.mem_cons.1 h with rfl | h
      · exact .inr ⟨hfirst, by rw [List.lookup_cons, ← hfirst, beq_self_eq_true]⟩
      · exact .inl (List.mem_cons_of_mem _ h)
    · have hne : (key == first.1) = false := beq_eq_false_iff_ne.2 (Ne.symm hfirst)
      rw [if_neg hfirst, List.lookup_cons, hne]
      rcases List.mem_cons.1 h with rfl | h
      · exact .inl List.mem_cons_self
      · exact (ih h).imp_left (List.mem_cons_of_mem first)

theorem readSection_of_lookup {α : Type} {a b : Tree} {s : Section}
    {read : Source → Except ValueError α}
    (h : List.lookup s.key a.rows = List.lookup s.key b.rows) :
    readSection a s read = readSection b s read := by
  simp only [readSection, h]

/-- The timeout is what its text is read as. -/
theorem timeout_of_read {tree : Tree} {s : Text} (h : HasTimeout tree s) {settings : Settings}
    (hread : read tree = .ok settings) : TimeSpan.read s = .ok settings.timing.timeout := by
  obtain ⟨origin, rows, origin', hmonitor, htimeout⟩ := h
  have hsection := (readSection_eq_ok_iff hmonitor).1 (read_eq_ok_iff.1 hread).1
  obtain ⟨⟨t, ht, hspan⟩, -, -⟩ := readTiming_eq_ok_iff.1 hsection.2
  rw [htimeout] at ht
  obtain rfl := Option.some.inj ht
  exact asSpan_text_eq_ok_iff.1 hspan

theorem lookup_withTimeout {tree : Tree} {origin origin' : Option Text} {rows : Keyed Tree}
    {leaf : Leaf} (hmonitor : List.lookup monitorSection.key tree.rows = some (.table origin rows))
    (htimeout : List.lookup timeoutField.key rows = some (.leaf origin' leaf)) (s : Text) :
    List.lookup monitorSection.key (withTimeout s tree).rows
      = some (.table origin (Keyed.put timeoutField.key (.leaf origin' (.text s)) rows)) := by
  rw [withTimeout, lookup_change, if_pos rfl, hmonitor]
  simp only [Option.getD_some, Tree.change, Tree.rows, Tree.tableOrigin, htimeout, Tree.origin]

/-- A tree that is accepted with another timeout is accepted with a text that is a span, which is its
timeout then; nothing else changes. -/
theorem accept_of_withTimeout {tree : Tree} {s other : Text} {d : TimeSpan} {settings : Settings}
    (h : HasTimeout tree s) (hspan : TimeSpan.read s = .ok d) (hzero : d.isZero = false)
    (hother : accept (withTimeout other tree) = .ok settings) :
    accept tree = .ok { settings with timing := { settings.timing with timeout := d } } := by
  obtain ⟨origin, rows, origin', hmonitor, htimeout⟩ := h
  obtain ⟨hread, -, hpoll⟩ := accept_eq_ok_iff.1 hother
  obtain ⟨hmonitorRead, hserialRead, hloaderRead⟩ := read_eq_ok_iff.1 hread
  have hput := lookup_withTimeout hmonitor htimeout other
  obtain ⟨hcheck, htiming⟩ := (readSection_eq_ok_iff hput).1 hmonitorRead
  obtain ⟨-, hpollRead, hgraceRead⟩ := readTiming_eq_ok_iff.1 htiming
  have htimeoutRead : timeoutField.read (.leaf origin' (.text s)) = .ok d :=
    asSpan_text_eq_ok_iff.2 hspan
  have hrows : monitorSection.checkRows rows = .ok () := by
    refine Section.checkRows_eq_ok_iff.2 fun row hrow => ?_
    rcases mem_put_or_lookup hrow with hrow | ⟨hkey, hlookup⟩
    · exact Section.checkRows_eq_ok_iff.1 hcheck row hrow
    · rw [htimeout] at hlookup
      rw [Section.checkRow, hkey, ← Option.some.inj hlookup]
      exact Field.check_of_read htimeoutRead
  have hfield : ∀ {α} {f : Field α} {a : α}, f.key ≠ timeoutField.key →
      f.ReadsIn (Keyed.put timeoutField.key (.leaf origin' (.text other)) rows) a →
      f.ReadsIn rows a := by
    rintro α f a hne ⟨t, ht, hread⟩
    rw [Keyed.lookup_put_of_ne hne] at ht
    exact ⟨t, ht, hread⟩
  have hsection : ∀ {s : Section}, s.key ≠ monitorSection.key →
      List.lookup s.key tree.rows = List.lookup s.key (withTimeout other tree).rows := by
    intro s hne
    rw [withTimeout, lookup_change, if_neg hne]
  refine accept_eq_ok_iff.2 ⟨read_eq_ok_iff.2 ⟨?_, ?_, ?_⟩, hzero, hpoll⟩
  · exact (readSection_eq_ok_iff hmonitor).2 ⟨hrows, readTiming_eq_ok_iff.2
      ⟨⟨_, htimeout, htimeoutRead⟩, hfield (by decide) hpollRead, hfield (by decide) hgraceRead⟩⟩
  · rw [readSection_of_lookup (hsection (by decide))]
    exact hserialRead
  · rw [readSection_of_lookup (hsection (by decide))]
    exact hloaderRead

/-- A document whose keys are plain comes to a tree with the timeout that it says. -/
theorem hasTimeout_layered {doc : Keyed Toml.Value} (hkeys : (Toml.Table.mk .headed doc).KeysDiffer)
    (htabular : Tabular doc) (origin : Option Text) {s : Text}
    (hsaid : said doc monitorSection timeoutField.key = some (.text s)) :
    HasTimeout (layered origin doc) s := by
  refine ⟨none, _, origin, lookup_layered hkeys htabular origin (.head _), ?_⟩
  rw [lookup_sectionRows hkeys, hsaid]
  simp only [Tree.ofValue, Tree.overlay_leaf]

/-! ## A file for every text -/

/-- A document that says nothing but a timeout. -/
def timeoutText (s : Text) : Text := "[monitor]\n".toList ++ ("timeout = ".toList ++ Toml.quote s)

def timeoutDocument (s : Text) : Keyed Toml.Value :=
  [("monitor".toList, .table .headed [("timeout".toList, .text s)])]

/-- The document when its header has been read. -/
def underHeader : Toml.Draft := ⟨⟨.headed, []⟩, some ⟨false, [], "monitor".toList⟩, ⟨.headed, []⟩⟩

theorem readLine_header (rest : Text) :
    Toml.readLine .start ("[monitor]\n".toList ++ rest) = some (underHeader, rest) := by rfl

theorem readLine_timeout (s : Text) : Toml.readLine underHeader ("timeout = ".toList ++ Toml.quote s)
    = some ({ underHeader with current := ⟨.headed, [("timeout".toList, .text s)]⟩ }, []) := by
  show ((Toml.readValue Toml.depthLimit (Toml.quote s)).bind fun found =>
    (Toml.endLine found.2).bind fun rest =>
    (underHeader.add [] "timeout".toList found.1).bind fun d => some (d, rest)) = _
  rw [Toml.readValue_quote]
  rfl

/-- A line that does not begin with a blank, a line end or a comment is read. -/
theorem readLines_of_line {d d' : Toml.Draft} {c : Char} {s rest : Text}
    (hskip : Toml.skipLayout false (c :: s) = some (c :: s))
    (hline : Toml.readLine d (c :: s) = some (d', rest)) (fuel : Nat) :
    Toml.readLines (fuel + 1) d (c :: s) = Toml.readLines fuel d' rest := by
  rw [Toml.readLines, hskip]
  simp only [Option.bind_eq_bind, Option.bind_some, hline]

theorem read_timeoutText (s : Text) : Toml.read (timeoutText s) = some (timeoutDocument s) := by
  have hpaired : Toml.pairedReturns (timeoutText s) = true := by
    refine Toml.pairedReturns_of_notMem fun h => ?_
    rcases List.mem_append.1 h with h | h
    · exact absurd h (by decide)
    · rcases List.mem_append.1 h with h | h
      · exact absurd h (by decide)
      · exact absurd (Toml.isPrintable_of_mem_quote h) (by decide)
  have hheader : "[monitor]\n".toList = '[' :: "monitor]\n".toList := by decide
  have hkey : "timeout = ".toList = 't' :: "imeout = ".toList := by decide
  have hmark : dropFront? ['\uFEFF'] (timeoutText s) = none := by
    unfold timeoutText
    rw [hheader]
    rfl
  have hlength : (timeoutText s).length = (Toml.quote s).length + 18 + 1 + 1 := by
    have hlengths : "[monitor]\n".toList.length + "timeout = ".toList.length = 20 := by decide
    unfold timeoutText
    rw [List.length_append, List.length_append]
    omega
  have hlines : Toml.readLines (timeoutText s).length .start (timeoutText s)
      = some { underHeader with current := ⟨.headed, [("timeout".toList, .text s)]⟩ } := by
    have htimeout := readLine_timeout s
    have hfirst := readLine_header ("timeout = ".toList ++ Toml.quote s)
    rw [hkey, List.cons_append] at htimeout
    rw [hheader, hkey] at hfirst
    rw [hlength]
    unfold timeoutText
    rw [hheader, hkey]
    exact (readLines_of_line rfl hfirst _).trans (readLines_of_line rfl htimeout _)
  simp only [Toml.read, hmark, hpaired, hlines, Option.getD_none, Bool.not_true, Bool.false_eq_true,
    if_false, Option.bind_eq_bind, Option.bind_some]
  rfl

/-- There is a file for every text. -/
theorem holds_timeoutText (s : Text) :
    Holds (onlyFile (timeoutText s)) "c.toml".toList "c.toml".toList (timeoutDocument s) := by
  have hmark : withoutMark (encode (timeoutText s)) = encode (timeoutText s) := by rfl
  refine ⟨encode (timeoutText s), by rfl, ?_⟩
  rw [document?, hmark, decodeMarking_encode, read_timeoutText]

theorem wellTyped_timeoutDocument {s : Text} {d : TimeSpan} (hspan : TimeSpan.read s = .ok d)
    (hzero : d.isZero = false) : WellTyped (timeoutDocument s) where
  toTabular := by
    have hplain : ∀ key ∈ ["monitor".toList], IsPlainKey key := by decide
    exact tabular_of_monitor hplain rfl rfl rfl
  timeout := timeoutSetting.wellTyped_of_stands rfl ⟨⟨s, rfl, hspan⟩, hzero⟩
  pollInterval := pollSetting.wellTyped_of_silent rfl
  gracePeriod := graceSetting.wellTyped_of_silent rfl
  port := portSetting.wellTyped_of_silent rfl
  rate := rateSetting.wellTyped_of_silent rfl
  esptool := esptoolSetting.wellTyped_of_silent rfl

/-- There is a file for every text, and if the text is a span it is accepted. -/
theorem exists_load_timeoutText {s : Text} {d : TimeSpan} (hspan : TimeSpan.read s = .ok d)
    (hzero : d.isZero = false) : ∃ settings,
      (load (onlyFile (timeoutText s)) [] (some "c.toml".toList)).result = .ok settings
        ∧ settings.timing.timeout = d := by
  have hholds := holds_timeoutText s
  obtain ⟨settings, hread, hfollow⟩ :=
    exists_read_layered hholds.keysDiffer (wellTyped_timeoutDocument hspan hzero) _
  refine ⟨settings, ?_, ?_⟩
  · exact result_load_eq_ok_iff.2 ⟨_, hholds.assemble true,
      accept_eq_ok_iff.2 ⟨hread, (validate_eq_ok_iff.1 hfollow.validate).2⟩⟩
  · have hsaid : said (timeoutDocument s) monitorSection timeoutField.key = some (.text s) := by rfl
    have htimeout := timeout_of_read
      (hasTimeout_layered hholds.keysDiffer (wellTyped_timeoutDocument hspan hzero).toTabular _ hsaid)
      hread
    exact (Except.ok.inj (hspan.symm.trans htimeout)).symm

/-! ## The two readings -/

/-- What is accepted as the timeout of a file is read as the same one on the command line.  What is read
on the command line is a number of seconds, or else every file that has it as its timeout, and is
accepted with some timeout in its place, is accepted with the one that was read; there is such a file.
What a document says under the key of the timeout is the timeout of the tree that it comes to. -/
theorem timeout_read_alike (s : Text) :
    (∀ (files : Files) (dir : Text) (asked : Option Text) (path : Text) (doc : Keyed Toml.Value),
      Holds files (fileFor dir asked) path doc → Tabular doc →
      said doc monitorSection timeoutField.key = some (.text s) →
      ∃ tree, assemble files (fileFor dir asked) asked.isSome = .ok tree ∧ HasTimeout tree s)
    ∧ (∀ (files : Files) (dir : Text) (asked : Option Text) (tree : Tree) (settings : Settings),
      assemble files (fileFor dir asked) asked.isSome = .ok tree → HasTimeout tree s →
      (load files dir asked).result = .ok settings →
      readTimeout s = .ok settings.timing.timeout)
    ∧ ∀ d, readTimeout s = .ok d →
      (∃ digits, IsSigned s digits ∧ 1 ≤ value digits ∧ value digits ≤ Nat.pow 2 64 - 1
        ∧ d = .ofSeconds (value digits))
      ∨ (∀ (files : Files) (dir : Text) (asked : Option Text) (tree : Tree) (other : Text)
          (settings : Settings),
          assemble files (fileFor dir asked) asked.isSome = .ok tree → HasTimeout tree s →
          accept (withTimeout other tree) = .ok settings →
          (load files dir asked).result
            = .ok { settings with timing := { settings.timing with timeout := d } })
        ∧ ∃ files dir asked path doc settings, Holds files (fileFor dir asked) path doc
          ∧ said doc monitorSection timeoutField.key = some (.text s)
          ∧ (load files dir asked).result = .ok settings ∧ settings.timing.timeout = d := by
  refine ⟨?_, ?_, ?_⟩
  · intro files dir asked path doc hholds htabular hsaid
    exact ⟨_, hholds.assemble _, hasTimeout_layered hholds.keysDiffer htabular _ hsaid⟩
  · intro files dir asked tree settings htree htimeout hload
    obtain ⟨tree', htree', haccept⟩ := result_load_eq_ok_iff.1 hload
    obtain rfl := Except.ok.inj (htree.symm.trans htree')
    obtain ⟨hread, hzero, -⟩ := accept_eq_ok_iff.1 haccept
    exact readTimeout_eq_ok_iff.2 ⟨.inr (timeout_of_read htimeout hread), hzero⟩
  · intro d hd
    obtain ⟨⟨n, hn, rfl⟩ | hspan, hzero⟩ := readTimeout_eq_ok_iff.1 hd
    · obtain ⟨digits, hsigned, rfl, hle⟩ := readWord64_eq_ok_iff.1 hn
      exact .inl ⟨digits, hsigned, isZero_ofSeconds.1 hzero, hle, rfl⟩
    · refine .inr ⟨?_, ?_⟩
      · intro files dir asked tree other settings htree htimeout hother
        exact result_load_eq_ok_iff.2 ⟨tree, htree, accept_of_withTimeout htimeout hspan hzero hother⟩
      · obtain ⟨settings, hresult, htimeout⟩ := exists_load_timeoutText hspan hzero
        exact ⟨_, _, _, _, _, settings, holds_timeoutText s, by rfl, hresult, htimeout⟩

theorem timeout_read_alike_hours : ∃ tree settings,
    assemble (onlyFile (timeoutText "1h 30m".toList)) "c.toml".toList true = .ok tree
      ∧ HasTimeout tree "1h 30m".toList
      ∧ (load (onlyFile (timeoutText "1h 30m".toList)) [] (some "c.toml".toList)).result = .ok settings
      ∧ settings.timing.timeout = .ofSeconds 5400
      ∧ readTimeout "1h 30m".toList = .ok settings.timing.timeout := by
  have hspan : TimeSpan.read "1h 30m".toList = .ok (.ofSeconds 5400) := by decide +kernel
  have hzero : (TimeSpan.ofSeconds 5400).isZero = false := by decide
  obtain ⟨hdocument, hfile, -⟩ := timeout_read_alike "1h 30m".toList
  obtain ⟨tree, htree, htimeout⟩ := hdocument _ [] (some "c.toml".toList) _ _ (holds_timeoutText _)
    (wellTyped_timeoutDocument hspan hzero).toTabular (by rfl)
  obtain ⟨settings, hload, hspent⟩ := exists_load_timeoutText hspan hzero
  exact ⟨tree, settings, htree, htimeout, hload, hspent,
    hfile _ [] (some "c.toml".toList) tree settings htree htimeout hload⟩

end Settings

end TestWatch
