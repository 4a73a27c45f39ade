import Mathlib.Logic.Relation
import TestWatch.Proofs.Settings.Documents
import TestWatch.Proofs.Settings.Heeding

/-!
# Keys that mean nothing

A key of a document means nothing if it is no section's at the top, or no field's in the table of a
section (`IsStranger`).

* Exactly these keys are found, each once, a table among them by its own key only
  (`mem_strangers_layered`, `pairwise_foldr_insertSorted`).
* They are without effect.  A document with more of them (`Extends`) comes to a tree that agrees with
  the one without (`agree_layered`), whatever else the two hold, and so to the same settings or the
  same refusal.

`load_document` puts this together with what the settings of a document are.
-/

namespace TestWatch

open Text

namespace Settings

/-! ## Sorted names -/

theorem mem_insertSorted {s t : Text} {sorted : List Text} :
    t ∈ insertSorted s sorted ↔ t = s ∨ t ∈ sorted := by
  induction sorted with
  | nil => simp [insertSorted]
  | cons first rest ih =>
    unfold insertSorted
    split
    · rename_i h
      simp [h]
    · split
      · simp
      · rw [List.mem_cons, ih, List.mem_cons, or_left_comm]

theorem mem_foldr_insertSorted {t : Text} {found : List Text} :
    t ∈ found.foldr insertSorted [] ↔ t ∈ found := by
  induction found with
  | nil => rfl
  | cons s found ih => rw [List.foldr_cons, mem_insertSorted, ih, List.mem_cons]

theorem pairwise_insertSorted (s : Text) {sorted : List Text} (h : sorted.Pairwise (· < ·)) :
    (insertSorted s sorted).Pairwise (· < ·) := by
  induction sorted with
  | nil => exact List.pairwise_singleton _ _
  | cons first rest ih =>
    obtain ⟨hfirst, hrest⟩ := List.pairwise_cons.1 h
    unfold insertSorted
    split
    · exact h
    · rename_i hne
      split
      · rename_i hlt
        refine List.pairwise_cons.2 ⟨fun t ht => ?_, h⟩
        rcases List.mem_cons.1 ht with rfl | ht
        · exact hlt
        · exact List.lt_trans hlt (hfirst t ht)
      · rename_i hnlt
        -- what is neither the same nor before comes after
        have hgt : first < s := by
          rcases List.le_iff_lt_or_eq.1 (List.not_lt.1 hnlt) with hgt | heq
          · exact hgt
          · exact absurd heq.symm hne
        refine List.pairwise_cons.2 ⟨fun t ht => ?_, ih hrest⟩
        rcases mem_insertSorted.1 ht with rfl | ht
        · exact hgt
        · exact hfirst t ht

theorem pairwise_foldr_insertSorted (found : List Text) :
    (found.foldr insertSorted []).Pairwise (· < ·) := by
  induction found with
  | nil => exact .nil
  | cons s found ih => exact pairwise_insertSorted s ih

/-! ## Which keys mean nothing -/

/-- The names of the keys of a document that mean nothing. -/
inductive IsStranger (doc : Keyed Toml.Value) : Text → Prop
  /-- A key at the top that is no section's, whatever it holds. -/
  | top {key : Text} (hkey : key ∈ doc.keys) (hstrange : ∀ s ∈ sections, s.key ≠ key) :
    IsStranger doc key
  /-- A key in a section that is no field's. -/
  | inner {s : Section} {key : Text} (hs : s ∈ sections) (hkey : key ∈ (inSection doc s).keys)
    (hstrange : key ∉ s.fields.keys) : IsStranger doc (s.key ++ '.' :: key)

theorem find?_section {s : Section} (hs : s ∈ sections) :
    sections.find? (fun other => other.key == s.key) = some s := by
  simp only [sections, List.mem_cons, List.not_mem_nil, or_false] at hs
  rcases hs with rfl | rfl | rfl <;> rfl

/-- A name comes from a row at the top of a tree: the row is a section's and holds a key that is no
field's, or it is no section's. -/
theorem mem_strangers {tree : Tree} {name : Text} :
    name ∈ strangers tree ↔
      (∃ s ∈ sections, ∃ t, (s.key, t) ∈ tree.rows ∧
          ∃ key ∈ s.strangers t, name = s.key ++ '.' :: key)
        ∨ name ∈ tree.rows.keys ∧ ∀ s ∈ sections, s.key ≠ name := by
  rw [strangers, mem_foldr_insertSorted, List.mem_flatMap]
  constructor
  · rintro ⟨⟨key, t⟩, hrow, h⟩
    dsimp only at h
    split at h
    · rename_i s hs
      obtain ⟨inner, hinner, rfl⟩ := List.mem_map.1 h
      obtain rfl : s.key = key := by simpa using List.find?_some hs
      exact .inl ⟨s, List.mem_of_find?_eq_some hs, t, hrow, inner, hinner, rfl⟩
    · rename_i hnone
      obtain rfl := List.mem_singleton.1 h
      exact .inr ⟨List.mem_map_of_mem hrow, by simpa using hnone⟩
  · rintro (⟨s, hs, t, hrow, key, hkey, rfl⟩ | ⟨hname, hstrange⟩)
    · refine ⟨(s.key, t), hrow, ?_⟩
      simpa only [find?_section hs] using List.mem_map_of_mem hkey
    · obtain ⟨row, hrow, rfl⟩ := List.mem_map.1 hname
      have hnone : sections.find? (fun s => s.key == row.1) = none := by simpa using hstrange
      exact ⟨row, hrow, by simp [hnone]⟩

theorem mem_section_strangers {s : Section} {origin : Option Text} {rows : Keyed Tree} {key : Text} :
    key ∈ s.strangers (.table origin rows) ↔ key ∈ rows.keys ∧ key ∉ s.fields.keys := by
  rw [Section.strangers, List.mem_filter, Option.isNone_iff_eq_none, Keyed.lookup_eq_none_iff,
    Tree.rows]

/-- Nothing that is usual is strange. -/
theorem usual_keys {s : Section} (hs : s ∈ sections) {key : Text} (hkey : key ∈ (usualRows s).keys) :
    key ∈ s.fields.keys := by
  simp only [sections, List.mem_cons, List.not_mem_nil, or_false] at hs
  rcases hs with rfl | rfl | rfl <;> exact hkey

theorem exists_section_of_mem_defaultTree {key : Text} (h : key ∈ defaultTree.rows.keys) :
    ∃ s ∈ sections, s.key = key := by
  rw [← List.mem_map]
  exact h

/-- The keys that mean nothing are found, and no others. -/
theorem mem_strangers_layered {doc : Keyed Toml.Value}
    (hkeys : (Toml.Table.mk .headed doc).KeysDiffer) (htabular : Tabular doc) (origin : Option Text)
    {name : Text} : name ∈ strangers (layered origin doc) ↔ IsStranger doc name := by
  have hmem : ∀ {s}, s ∈ sections → ∀ {t}, (s.key, t) ∈ (layered origin doc).rows ↔
      t = .table none (sectionRows origin doc s) := by
    intro s hs t
    have hrow := lookup_layered hkeys htabular origin hs
    constructor
    · intro h
      have hnodup : (layered origin doc).rows.keys.Nodup := by
        rw [rows_layered htabular]
        exact Tree.nodup_keys_overlayRows (by decide)
      rw [Keyed.lookup_of_mem hnodup h] at hrow
      exact Option.some.inj hrow
    · rintro rfl
      exact Keyed.mem_of_lookup hrow
  have htop : name ∈ (layered origin doc).rows.keys ↔
      name ∈ doc.keys ∨ name ∈ defaultTree.rows.keys := by
    rw [rows_layered htabular, Tree.mem_keys_overlayRows, Tree.keys_ofRows]
  rw [mem_strangers]
  constructor
  · rintro (⟨s, hs, t, hrow, key, hkey, rfl⟩ | ⟨hname, hstrange⟩)
    · obtain rfl := (hmem hs).1 hrow
      obtain ⟨hkey, hstrange⟩ := mem_section_strangers.1 hkey
      rw [sectionRows, Tree.mem_keys_overlayRows, Tree.keys_ofRows] at hkey
      rcases hkey with hkey | hkey
      · exact .inner hs hkey hstrange
      · exact absurd (usual_keys hs hkey) hstrange
    · rcases htop.1 hname with hname | hname
      · exact .top hname hstrange
      · obtain ⟨s, hs, rfl⟩ := exists_section_of_mem_defaultTree hname
        exact absurd rfl (hstrange s hs)
  · rintro (⟨hkey, hstrange⟩ | @⟨s, key, hs, hkey, hstrange⟩)
    · exact .inr ⟨htop.2 (.inl hkey), hstrange⟩
    · refine .inl ⟨s, hs, _, (hmem hs).2 rfl, key, mem_section_strangers.2 ⟨?_, hstrange⟩, rfl⟩
      rw [sectionRows, Tree.mem_keys_overlayRows, Tree.keys_ofRows]
      exact .inl hkey

/-! ## Documents with more of them -/

/-- The second document has more keys than the first, which mean nothing. -/
inductive Extends : Keyed Toml.Value → Keyed Toml.Value → Prop
  /-- One more key at the top, with a value of any kind. -/
  | top (before after : Keyed Toml.Value) {key : Text} (value : Toml.Value) (hplain : IsPlainKey key)
    (hstrange : ∀ s ∈ sections, s.key ≠ key) :
    Extends (before ++ after) (before ++ (key, value) :: after)
  /-- One more key in the table of a section, with a value of any kind.  The form of the table can
  be another one then. -/
  | inner (before after : Keyed Toml.Value) {s : Section} (hs : s ∈ sections) (form form' : Toml.Form)
    (rows more : Keyed Toml.Value) {key : Text} (value : Toml.Value) (hstrange : key ∉ s.fields.keys) :
    Extends (before ++ (s.key, .table form (rows ++ more)) :: after)
      (before ++ (s.key, .table form' (rows ++ (key, value) :: more)) :: after)
  /-- The table of a section that was not there before, with nothing else in it.  No key before it
  leads into the section. -/
  | table (before after : Keyed Toml.Value) {s : Section} (hs : s ∈ sections) (form : Toml.Form)
    {rows : Keyed Toml.Value} (hstrange : ∀ key ∈ rows.keys, key ∉ s.fields.keys)
    (hbefore : ∀ key ∈ before.keys, (KeyPath.steps key).head? ≠ some (.key s.key)) :
    Extends (before ++ after) (before ++ (s.key, .table form rows) :: after)

theorem section_unique {s t : Section} (hs : s ∈ sections) (ht : t ∈ sections) (h : s.key = t.key) :
    s = t := by
  have hfind := find?_section hs
  rw [h, find?_section ht] at hfind
  exact (Option.some.inj hfind).symm

theorem layered_append (origin : Option Text) (before after : Keyed Toml.Value) :
    layered origin (before ++ after) = (layered origin before).setAll (Tree.ofRows origin after) := by
  rw [layered, Tree.ofRows_append, Tree.setAll_append, layered]

theorem layered_append_cons (origin : Option Text) (before after : Keyed Toml.Value)
    (row : Text × Toml.Value) :
    layered origin (before ++ row :: after)
      = ((layered origin before).change (Tree.ofValue origin row.2).overlay
        (KeyPath.steps row.1)).setAll (Tree.ofRows origin after) := by
  rw [layered_append, Tree.ofRows, Tree.setAll_cons]

/-- The keys of the sections are plain. -/
theorem plain_section {s : Section} (hs : s ∈ sections) : IsPlainKey s.key := by
  simp only [sections, List.mem_cons, List.not_mem_nil, or_false] at hs
  rcases hs with rfl | rfl | rfl <;> decide

/-- What is laid over in the place of one section decides whether trees agree. -/
theorem agree_change {s : Section} (hs : s ∈ sections) {a b : Tree}
    (hother : ∀ key, key ≠ s.key → List.lookup key a.rows = List.lookup key b.rows)
    (h : (List.lookup s.key a.rows).map s.heeded = (List.lookup s.key b.rows).map s.heeded) :
    Agree a b := by
  intro t ht
  by_cases hkey : t.key = s.key
  · obtain rfl := section_unique ht hs hkey
    exact h
  · rw [hother t.key hkey]

/-- Keys that mean nothing do not change what is heeded. -/
theorem agree_layered {doc doc' : Keyed Toml.Value} (h : Extends doc doc') (origin : Option Text) :
    Agree (layered origin doc) (layered origin doc') := by
  cases h with
  | top before after value hplain hstrange =>
    rename_i key
    rw [layered_append, layered_append_cons, steps_of_plain hplain]
    refine Agree.setAll (fun s hs => ?_) _
    rw [lookup_change, if_neg (hstrange s hs)]
  | inner before after hs form form' rows more value hstrange =>
    rename_i s key
    rw [layered_append_cons, layered_append_cons, steps_of_plain (plain_section hs)]
    refine Agree.setAll (agree_change hs (fun other hne => ?_) ?_) _
    · rw [lookup_change, lookup_change, if_neg hne, if_neg hne]
    · rw [lookup_change, lookup_change, if_pos rfl, if_pos rfl]
      refine congrArg some (Section.heeded_overlay ?_ rfl)
      simp only [Tree.ofValue, Section.heeded, Tree.ofRows_append, Tree.ofRows, Section.known_append]
      rw [Section.known_cons_stranger hstrange]
  | table before after hs form hstrange hbefore =>
    rename_i s rows
    rw [layered_append, layered_append_cons, steps_of_plain (plain_section hs)]
    refine Agree.setAll (agree_change hs (fun other hne => ?_) ?_) _
    · rw [lookup_change, if_neg hne]
    · have hfound : List.lookup s.key (layered origin before).rows
          = some (.table none (usualRows s)) := by
        rw [layered, lookup_setAll (by rwa [Tree.keys_ofRows]), (usual_section hs).1]
      have hnone : s.known (Tree.ofRows origin rows) = [] :=
        Section.known_eq_nil (by rwa [Tree.keys_ofRows])
      rw [lookup_change, if_pos rfl, hfound]
      simp only [Tree.change, Option.getD_some, Tree.ofValue, Tree.overlay_table, Tree.tableOrigin,
        Tree.rows, Option.map_some, Section.heeded, Section.known_overlayRows, hnone,
        Tree.overlayRows_nil]

/-! ## Loading a document -/

/-- Keys that mean nothing make no difference to what is accepted, or to why it is refused. -/
theorem accept_layered {doc doc' : Keyed Toml.Value} (h : Relation.EqvGen Extends doc doc')
    (origin : Option Text) : accept (layered origin doc) = accept (layered origin doc') := by
  induction h with
  | rel doc doc' h => rw [accept, accept, (agree_layered h origin).read_eq]
  | refl doc => rfl
  | symm doc doc' _ ih => exact ih.symm
  | trans doc doc' doc'' _ _ ih ih' => exact ih.trans ih'

/-- A document with well-typed settings is accepted: each of the six settings is what the document
says, or as usual if it says nothing about it, and the keys that mean nothing are told apart and, if
there are any, warned about by name.  For any document, keys that mean nothing can be put in or left out without a change in
the settings or the refusal. -/
theorem load_document {files : Files} {dir path : Text} {asked : Option Text} {doc : Keyed Toml.Value}
    (h : Holds files (fileFor dir asked) path doc) :
    (WellTyped doc →
      ∃ settings, (load files dir asked).result = .ok settings ∧ Follow doc settings
        ∧ (∀ name, name ∈ (load files dir asked).strangers ↔ IsStranger doc name)
        ∧ (load files dir asked).strangers.Pairwise (· < ·)
        ∧ ((load files dir asked).journal = if (load files dir asked).strangers.isEmpty then []
          else [warning (fileFor dir asked) (load files dir asked).strangers])
        ∧ Warns (fileFor dir asked) (load files dir asked).strangers
          (warning (fileFor dir asked) (load files dir asked).strangers))
      ∧ ∀ (files' : Files) (doc' : Keyed Toml.Value), files'.home = files.home →
        Holds files' (fileFor dir asked) path doc' → Relation.EqvGen Extends doc doc' →
        (load files' dir asked).result = (load files dir asked).result := by
  have htree := h.assemble asked.isSome
  constructor
  · intro htyped
    obtain ⟨settings, hread, hfollow⟩ := exists_read_layered h.keysDiffer htyped _
    obtain ⟨hstrangers, hjournal⟩ := noted_load htree hread
    refine ⟨settings, ?_, hfollow, ?_, ?_, ?_, warns_warning _ _⟩
    · exact result_load_eq_ok_iff.2 ⟨_, htree, accept_eq_ok_iff.2
        ⟨hread, (validate_eq_ok_iff.1 hfollow.validate).2⟩⟩
    · intro name
      rw [hstrangers]
      exact mem_strangers_layered h.keysDiffer htyped.toTabular _
    · rw [hstrangers]
      exact pairwise_foldr_insertSorted _
    · rw [hjournal, hstrangers]
  · intro files' doc' hhome h' hsame
    have hlocal : files'.fromHome path = files.fromHome path := by
      rw [Files.fromHome, hhome, Files.fromHome]
    have horigin : originOf files' path = originOf files path := by simp only [originOf, hlocal]
    rw [result_load, result_load, h'.assemble, htree, horigin]
    simp only [Except.bind, accept_layered hsame]

/-- A document with a timeout of seven seconds and two keys that mean nothing. -/
def noisyDocument : Keyed Toml.Value :=
  [("debug".toList, .int 1),
   ("monitor".toList, .table .headed
     [("timeout".toList, .text "7s".toList), ("color".toList, .bool true)])]

/-- The same document without them. -/
def quietDocument : Keyed Toml.Value :=
  [("monitor".toList, .table .headed [("timeout".toList, .text "7s".toList)])]

theorem wellTyped_noisyDocument : WellTyped noisyDocument where
  toTabular := tabular_of_monitor (by decide) rfl rfl rfl
  timeout := @Setting.wellTyped_of_stands _ timeoutSetting _ _ (.ofSeconds 7) rfl ⟨⟨_, rfl, rfl⟩, rfl⟩
  pollInterval := pollSetting.wellTyped_of_silent rfl
  gracePeriod := graceSetting.wellTyped_of_silent rfl
  port := portSetting.wellTyped_of_silent rfl
  rate := rateSetting.wellTyped_of_silent rfl
  esptool := esptoolSetting.wellTyped_of_silent rfl

theorem extends_noisyDocument : Relation.EqvGen Extends noisyDocument quietDocument := by
  have hcolor : Extends quietDocument ([] ++ [("monitor".toList, .table .headed
      [("timeout".toList, .text "7s".toList), ("color".toList, .bool true)])]) :=
    @Extends.inner [] [] monitorSection (.head _) .headed .headed
      [("timeout".toList, .text "7s".toList)] [] "color".toList (.bool true) (by decide)
  have hdebug : Extends _ noisyDocument :=
    @Extends.top [] _ "debug".toList (.int 1) (by decide) (by decide)
  exact .symm _ _ (.trans _ _ _ (.rel _ _ hcolor) (.rel _ _ hdebug))

/-- The file with the keys that mean nothing. -/
def noisyFile : Files :=
  onlyFile "debug = 1\n[monitor]\ntimeout = \"7s\"\ncolor = true\n".toList

/-- The file without them. -/
def quietFile : Files := onlyFile "[monitor]\ntimeout = \"7s\"\n".toList

/-- Both keys of the noisy file are warned about, and without them it comes to the same settings. -/
theorem load_document_noisy :
    Holds noisyFile "c.toml".toList "c.toml".toList noisyDocument ∧ WellTyped noisyDocument
      ∧ Holds quietFile "c.toml".toList "c.toml".toList quietDocument
      ∧ Relation.EqvGen Extends noisyDocument quietDocument
      ∧ (∃ settings, (load noisyFile [] (some "c.toml".toList)).result = .ok settings
        ∧ Follow noisyDocument settings)
      ∧ "monitor.color".toList ∈ (load noisyFile [] (some "c.toml".toList)).strangers
      ∧ (∃ entry, (load noisyFile [] (some "c.toml".toList)).journal = [entry]
        ∧ Warns "c.toml".toList ["debug".toList, "monitor.color".toList] entry)
      ∧ (load quietFile [] (some "c.toml".toList)).result
        = (load noisyFile [] (some "c.toml".toList)).result := by
  have hnoisy : Holds noisyFile "c.toml".toList "c.toml".toList noisyDocument := ⟨_, by rfl, by rfl⟩
  have hquiet : Holds quietFile "c.toml".toList "c.toml".toList quietDocument := ⟨_, by rfl, by rfl⟩
  obtain ⟨hload, hsame⟩ := @load_document noisyFile [] _ (some "c.toml".toList) _ hnoisy
  obtain ⟨settings, hresult, hfollow, hstrangers, -, hjournal, hwarns⟩ :=
    hload wellTyped_noisyDocument
  have hfound : (load noisyFile [] (some "c.toml".toList)).strangers
      = ["debug".toList, "monitor.color".toList] := by
    decide +kernel
  rw [hfound] at hjournal hwarns
  have hname : "monitor.color".toList = monitorSection.key ++ '.' :: "color".toList := by decide
  have hcolor : IsStranger noisyDocument "monitor.color".toList := by
    rw [hname]
    exact .inner (.head _) (by decide) (by decide)
  have hhome : quietFile.home = noisyFile.home := (home_onlyFile _).trans (home_onlyFile _).symm
  exact ⟨hnoisy, wellTyped_noisyDocument, hquiet, extends_noisyDocument, ⟨settings, hresult, hfollow⟩,
    (hstrangers _).2 hcolor, ⟨_, hjournal, hwarns⟩, hsame quietFile quietDocument hhome hquiet extends_noisyDocument⟩

end Settings

end TestWatch
