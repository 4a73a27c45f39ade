import TestWatch.Proofs.Settings.Layers
import TestWatch.Proofs.Toml.Keys

/-!
# What a document says

A document says something about a setting if the table of its section has a value under the key of
its field (`said`).  A setting is a record that ties the two to the place where the value is kept
(`Setting`), so that what holds of one holds of all six: if what is said of it stands for something, it
is read as that, and as usual if nothing is said (`Setting.exists_follows`).  No setting depends on
what is said of another, and `exists_read_layered` puts the six together.
-/

namespace TestWatch

open Text

/-- What a value holds by key. -/
def Toml.Value.rows : Toml.Value → Keyed Toml.Value
  | .table _ rows => rows
  | .text _ | .int _ | .float _ | .bool _ | .moment _ | .list _ _ => []

namespace Settings

/-! ## Documents -/

/-- The document that the content of a file is. -/
def document? (content : Octets) : Option (Keyed Toml.Value) :=
  Toml.read (decodeMarking (withoutMark content))

/-- A file is found at a path, and is a document. -/
def Holds (files : Files) (file path : Text) (doc : Keyed Toml.Value) : Prop :=
  ∃ content, locate files file = some (path, content) ∧ document? content = some doc

/-- What a document says in a section. -/
def inSection (doc : Keyed Toml.Value) (s : Section) : Keyed Toml.Value :=
  ((List.lookup s.key doc).map Toml.Value.rows).getD []

/-- What a document says under a key of a section. -/
def said (doc : Keyed Toml.Value) (s : Section) (key : Text) : Option Toml.Value :=
  List.lookup key (inSection doc s)

/-- What is usual in a section. -/
def usualRows (s : Section) : Keyed Tree :=
  ((List.lookup s.key defaultTree.rows).map Tree.rows).getD []

/-- The tree of the defaults with a document over them. -/
def layered (origin : Option Text) (doc : Keyed Toml.Value) : Tree :=
  defaultTree.setAll (Tree.ofRows origin doc)

/-- The rows of a section in that tree. -/
def sectionRows (origin : Option Text) (doc : Keyed Toml.Value) (s : Section) : Keyed Tree :=
  Tree.overlayRows (Tree.ofRows origin (inSection doc s)) (usualRows s)

/-- A file `"c.toml"` with a text in it, and nothing else. -/
def onlyFile (text : Text) : Files := ⟨none, [(["c.toml".toList], .file (encode text) false)]⟩

theorem home_onlyFile (text : Text) : (onlyFile text).home = none := rfl

theorem Holds.keysDiffer {files : Files} {file path : Text} {doc : Keyed Toml.Value}
    (h : Holds files file path doc) : (Toml.Table.mk .headed doc).KeysDiffer := by
  obtain ⟨content, -, hdoc⟩ := h
  exact Toml.keysDiffer_read hdoc

theorem Holds.assemble {files : Files} {file path : Text} {doc : Keyed Toml.Value}
    (h : Holds files file path doc) (required : Bool) :
    assemble files file required = .ok (layered (some (originOf files path)) doc) := by
  obtain ⟨content, hlocate, hdoc⟩ := h
  rw [document?] at hdoc
  simp only [Settings.assemble, hlocate, layer, hdoc, Option.map_some, layered]

theorem nodup_inSection {doc : Keyed Toml.Value} (h : (Toml.Table.mk .headed doc).KeysDiffer)
    (s : Section) : (inSection doc s).keys.Nodup := by
  unfold inSection
  cases hs : List.lookup s.key doc with
  | none => exact List.nodup_nil
  | some v =>
    have hv := h.lookup hs
    cases v with
    | table form rows => exact (Toml.keysDiffer_table.1 hv).keys
    | _ => exact List.nodup_nil

/-- The sections of the defaults are tables with different keys. -/
theorem usual_section {s : Section} (hs : s ∈ sections) :
    List.lookup s.key defaultTree.rows = some (.table none (usualRows s))
      ∧ (usualRows s).keys.Nodup := by
  simp only [sections, List.mem_cons, List.not_mem_nil, or_false] at hs
  rcases hs with rfl | rfl | rfl
  · exact ⟨rfl, by decide⟩
  · exact ⟨rfl, by decide⟩
  · exact ⟨rfl, by decide⟩

/-- A document can be laid over the defaults as one table: the keys at its top are plain, and what
stands for a section is a table. -/
structure Tabular (doc : Keyed Toml.Value) : Prop where
  /-- The keys are plain. -/
  plain : ∀ key ∈ doc.keys, IsPlainKey key
  /-- The sections are tables. -/
  tables : ∀ s ∈ sections, ∀ v, List.lookup s.key doc = some v → ∃ form rows, v = .table form rows

/-- A document that says nothing but in the section of the monitor, whatever stands beside the
sections. -/
theorem tabular_of_monitor {doc : Keyed Toml.Value} (hplain : ∀ key ∈ doc.keys, IsPlainKey key)
    {form : Toml.Form} {rows : Keyed Toml.Value}
    (hmonitor : List.lookup monitorSection.key doc = some (.table form rows))
    (hserial : List.lookup serialSection.key doc = none)
    (hloader : List.lookup loaderSection.key doc = none) : Tabular doc where
  plain := hplain
  tables := by
    intro s hs v hv
    simp only [sections, List.mem_cons, List.not_mem_nil, or_false] at hs
    rcases hs with rfl | rfl | rfl
    · exact ⟨form, rows, (Option.some.inj (hmonitor.symm.trans hv)).symm⟩
    · exact nomatch hserial.symm.trans hv
    · exact nomatch hloader.symm.trans hv

theorem rows_layered {doc : Keyed Toml.Value} (htabular : Tabular doc) (origin : Option Text) :
    (layered origin doc).rows
      = Tree.overlayRows (Tree.ofRows origin doc) defaultTree.rows := by
  have hplain : ∀ key ∈ Keyed.keys (Tree.ofRows origin doc), IsPlainKey key := by
    rw [Tree.keys_ofRows]
    exact htabular.plain
  exact congrArg Tree.rows (Tree.setAll_eq hplain none defaultTree.rows)

/-- Each section is a table, with what the document says over what is usual. -/
theorem lookup_layered {doc : Keyed Toml.Value} (hkeys : (Toml.Table.mk .headed doc).KeysDiffer)
    (htabular : Tabular doc) (origin : Option Text) {s : Section} (hs : s ∈ sections) :
    List.lookup s.key (layered origin doc).rows = some (.table none (sectionRows origin doc s)) := by
  have hnodup : (Keyed.keys (Tree.ofRows origin doc)).Nodup := by
    rw [Tree.keys_ofRows]
    exact hkeys.keys
  rw [rows_layered htabular origin, Tree.lookup_overlayRows hnodup, Tree.lookup_ofRows,
    (usual_section hs).1, sectionRows, inSection]
  cases hdoc : List.lookup s.key doc with
  | none => simp [Tree.ofRows, Tree.overlayRows_nil]
  | some v =>
    obtain ⟨form, rows, rfl⟩ := htabular.tables s hs v hdoc
    simp [Tree.ofValue, Tree.overlay_table, Tree.tableOrigin, Tree.rows, Toml.Value.rows]

theorem nodup_sectionRows (origin : Option Text) (doc : Keyed Toml.Value) {s : Section}
    (hs : s ∈ sections) : (sectionRows origin doc s).keys.Nodup :=
  Tree.nodup_keys_overlayRows (usual_section hs).2

/-- A field has what the document says over what is usual. -/
theorem lookup_sectionRows {doc : Keyed Toml.Value} (hkeys : (Toml.Table.mk .headed doc).KeysDiffer)
    (origin : Option Text) (s : Section) (key : Text) :
    List.lookup key (sectionRows origin doc s) = match said doc s key with
      | some v =>
        some (Tree.overlay (Tree.ofValue origin v) ((List.lookup key (usualRows s)).getD .nothing))
      | none => List.lookup key (usualRows s) := by
  have hnodup : (Keyed.keys (Tree.ofRows origin (inSection doc s))).Nodup := by
    rw [Tree.keys_ofRows]
    exact nodup_inSection hkeys s
  rw [sectionRows, Tree.lookup_overlayRows hnodup, Tree.lookup_ofRows, said]
  cases List.lookup key (inSection doc s) <;> rfl

/-! ## The six settings -/

/-- A setting: where it is given, by which values, and where it is kept. -/
structure Setting (α : Type) where
  /-- The section that it is given in. -/
  home : Section
  /-- The field that it is given by. -/
  field : Field α
  /-- Its place among the settings. -/
  place : Settings → α
  /-- Which values of a document stand for it. -/
  Stands : Toml.Value → α → Prop
  /-- A value that stands for it is read as what it stands for, whatever it is laid over. -/
  read_of_stands : ∀ {v a}, Stands v a → ∀ origin lower,
    field.read (Tree.overlay (Tree.ofValue origin v) lower) = .ok a
  /-- Where nothing is said, it is as usual. -/
  usual : field.ReadsIn (usualRows home) (place default)

/-- A text that is read as a span of time. -/
def IsSpan (v : Toml.Value) (span : TimeSpan) : Prop :=
  ∃ s, v = .text s ∧ TimeSpan.read s = .ok span

theorem asText_of_text (origin : Option Text) (s : Text) (lower : Tree) :
    asText (Tree.overlay (Tree.ofValue origin (.text s)) lower) = .ok s := by
  rw [Tree.ofValue, Tree.overlay_leaf]
  rfl

theorem asSpan_of_isSpan {v : Toml.Value} {span : TimeSpan} (h : IsSpan v span)
    (origin : Option Text) (lower : Tree) :
    asSpan (Tree.overlay (Tree.ofValue origin v) lower) = .ok span := by
  obtain ⟨s, rfl, hread⟩ := h
  rw [Tree.ofValue, Tree.overlay_leaf]
  exact asSpan_text_eq_ok_iff.2 hread

theorem asRate_of_int {n : Nat} (h : n < word32) (origin : Option Text) (lower : Tree) :
    asRate (Tree.overlay (Tree.ofValue origin (.int n)) lower) = .ok n := by
  rw [Tree.ofValue, Tree.overlay_leaf]
  simp [asRate, asWord64, h, bind, Except.bind]

/-- The timeout: a span that is not nothing. -/
def timeoutSetting : Setting TimeSpan where
  home := monitorSection
  field := timeoutField
  place settings := settings.timing.timeout
  Stands v span := IsSpan v span ∧ span.isZero = false
  read_of_stands h := asSpan_of_isSpan h.1
  usual := ⟨_, rfl, rfl⟩

/-- The poll interval: a span that is not nothing. -/
def pollSetting : Setting TimeSpan where
  home := monitorSection
  field := pollField
  place settings := settings.timing.pollInterval
  Stands v span := IsSpan v span ∧ span.isZero = false
  read_of_stands h := asSpan_of_isSpan h.1
  usual := ⟨_, rfl, rfl⟩

/-- The grace period: a span, which may be nothing. -/
def graceSetting : Setting TimeSpan where
  home := monitorSection
  field := graceField
  place settings := settings.timing.gracePeriod
  Stands := IsSpan
  read_of_stands h := asSpan_of_isSpan h
  usual := ⟨_, rfl, rfl⟩

/-- The path of the serial port: a text. -/
def portSetting : Setting Text where
  home := serialSection
  field := portField
  place := Settings.port
  Stands v path := v = .text path
  read_of_stands := by
    rintro _ path rfl origin lower
    exact asText_of_text origin path lower
  usual := ⟨_, rfl, rfl⟩

/-- The rate of the serial port: an integer of 32 bits. -/
def rateSetting : Setting Nat where
  home := serialSection
  field := rateField
  place := Settings.rate
  Stands v rate := v = .int rate ∧ rate < word32
  read_of_stands := by
    rintro _ rate ⟨rfl, hrate⟩ origin lower
    exact asRate_of_int hrate origin lower
  usual := ⟨_, rfl, rfl⟩

/-- The name of esptool: a text. -/
def esptoolSetting : Setting Text where
  home := loaderSection
  field := esptoolField
  place := Settings.esptool
  Stands v name := v = .text name
  read_of_stands := by
    rintro _ name rfl origin lower
    exact asText_of_text origin name lower
  usual := ⟨_, rfl, rfl⟩

namespace Setting

variable {α : Type} (x : Setting α)

/-- What a document says of a setting stands for something. -/
def WellTyped (doc : Keyed Toml.Value) : Prop :=
  ∀ v, said doc x.home x.field.key = some v → ∃ a, x.Stands v a

theorem wellTyped_of_silent {doc : Keyed Toml.Value} (h : said doc x.home x.field.key = none) :
    x.WellTyped doc :=
  fun _ hv => nomatch h.symm.trans hv

theorem wellTyped_of_stands {doc : Keyed Toml.Value} {v : Toml.Value} {a : α}
    (h : said doc x.home x.field.key = some v) (hv : x.Stands v a) : x.WellTyped doc := by
  intro v' hv'
  obtain rfl := Option.some.inj (h.symm.trans hv')
  exact ⟨a, hv⟩

/-- A setting is what the document says, or as usual if it says nothing. -/
def Follows (doc : Keyed Toml.Value) (a : α) : Prop :=
  match said doc x.home x.field.key with
  | some v => x.Stands v a
  | none => a = x.place default

/-- A well-typed setting is read, and follows the document. -/
theorem exists_follows {doc : Keyed Toml.Value} (hkeys : (Toml.Table.mk .headed doc).KeysDiffer)
    (h : x.WellTyped doc) (origin : Option Text) :
    ∃ a, x.Follows doc a ∧ x.field.ReadsIn (sectionRows origin doc x.home) a := by
  unfold Follows Field.ReadsIn
  rw [lookup_sectionRows hkeys]
  cases hsaid : said doc x.home x.field.key with
  | none => exact ⟨_, rfl, x.usual⟩
  | some v =>
    obtain ⟨a, ha⟩ := h v hsaid
    exact ⟨a, ha, _, rfl, x.read_of_stands ha origin _⟩

end Setting

/-! ## Whole documents -/

/-- A document whose settings are well-typed, whatever else it says. -/
structure WellTyped (doc : Keyed Toml.Value) : Prop extends Tabular doc where
  /-- The timeout. -/
  timeout : timeoutSetting.WellTyped doc
  /-- The poll interval. -/
  pollInterval : pollSetting.WellTyped doc
  /-- The grace period. -/
  gracePeriod : graceSetting.WellTyped doc
  /-- The path of the serial port. -/
  port : portSetting.WellTyped doc
  /-- The rate of the serial port. -/
  rate : rateSetting.WellTyped doc
  /-- The name of esptool. -/
  esptool : esptoolSetting.WellTyped doc

/-- Settings of which each follows the document. -/
structure Follow (doc : Keyed Toml.Value) (settings : Settings) : Prop where
  /-- The timeout. -/
  timeout : timeoutSetting.Follows doc settings.timing.timeout
  /-- The poll interval. -/
  pollInterval : pollSetting.Follows doc settings.timing.pollInterval
  /-- The grace period. -/
  gracePeriod : graceSetting.Follows doc settings.timing.gracePeriod
  /-- The path of the serial port. -/
  port : portSetting.Follows doc settings.port
  /-- The rate of the serial port. -/
  rate : rateSetting.Follows doc settings.rate
  /-- The name of esptool. -/
  esptool : esptoolSetting.Follows doc settings.esptool

/-- Settings that follow a document make sense. -/
theorem Follow.validate {doc : Keyed Toml.Value} {settings : Settings} (h : Follow doc settings) :
    validate settings = .ok settings := by
  have hspan : ∀ {x : Setting TimeSpan} {span : TimeSpan}, x.Follows doc span →
      (∀ {v}, x.Stands v span → span.isZero = false) → (x.place default).isZero = false →
      span.isZero = false := by
    intro x span hfollows hstands hdefault
    unfold Setting.Follows at hfollows
    split at hfollows
    · exact hstands hfollows
    · exact hfollows ▸ hdefault
  exact validate_eq_ok_iff.2 ⟨rfl, hspan h.timeout And.right rfl, hspan h.pollInterval And.right rfl⟩

/-- The rows of a section are accepted if all of its fields can be read. -/
theorem checkRows_of_reads {s : Section} {rows : Keyed Tree} (hnodup : rows.keys.Nodup)
    (h : ∀ field ∈ s.fields, ∃ t, List.lookup field.1 rows = some t ∧ field.2 t = .ok ()) :
    s.checkRows rows = .ok () := by
  refine Section.checkRows_eq_ok_iff.2 fun row hrow => ?_
  unfold Section.checkRow
  split
  · rename_i check hcheck
    obtain ⟨t, ht, hok⟩ := h _ (Keyed.mem_of_lookup hcheck)
    rw [Keyed.lookup_of_mem hnodup hrow] at ht
    rw [Option.some.inj ht]
    exact hok
  · rfl

theorem check_of_readsIn {α : Type} {f : Field α} {rows : Keyed Tree} {a : α}
    (h : f.ReadsIn rows a) : ∃ t, List.lookup f.key rows = some t ∧ f.check t = .ok () := by
  obtain ⟨t, ht, hread⟩ := h
  exact ⟨t, ht, Field.check_of_read hread⟩

/-- Well-typed settings are read, and each follows the document by itself. -/
theorem exists_read_layered {doc : Keyed Toml.Value}
    (hkeys : (Toml.Table.mk .headed doc).KeysDiffer) (h : WellTyped doc) (origin : Option Text) :
    ∃ settings, read (layered origin doc) = .ok settings ∧ Follow doc settings := by
  have hrows : ∀ {s}, s ∈ sections → _ := fun hs => lookup_layered hkeys h.toTabular origin hs
  have hnodup : ∀ {s}, s ∈ sections → _ := fun hs => nodup_sectionRows origin doc hs
  have hmonitor : monitorSection ∈ sections := .head _
  have hserial : serialSection ∈ sections := .tail _ (.head _)
  have hloader : loaderSection ∈ sections := .tail _ (.tail _ (.head _))
  obtain ⟨timeout, htimeout, readTimeout⟩ := timeoutSetting.exists_follows hkeys h.timeout origin
  obtain ⟨poll, hpoll, readPoll⟩ := pollSetting.exists_follows hkeys h.pollInterval origin
  obtain ⟨grace, hgrace, readGrace⟩ := graceSetting.exists_follows hkeys h.gracePeriod origin
  obtain ⟨port, hport, readPort⟩ := portSetting.exists_follows hkeys h.port origin
  obtain ⟨rate, hrate, readRate⟩ := rateSetting.exists_follows hkeys h.rate origin
  obtain ⟨esptool, hesptool, readEsptool⟩ := esptoolSetting.exists_follows hkeys h.esptool origin
  have checkMonitor : monitorSection.checkRows (sectionRows origin doc monitorSection) = .ok () :=
    checkRows_of_reads (hnodup hmonitor) (List.forall_mem_cons.2 ⟨check_of_readsIn readTimeout,
      List.forall_mem_cons.2 ⟨check_of_readsIn readPoll,
        List.forall_mem_singleton.2 (check_of_readsIn readGrace)⟩⟩)
  have checkSerial : serialSection.checkRows (sectionRows origin doc serialSection) = .ok () :=
    checkRows_of_reads (hnodup hserial) (List.forall_mem_cons.2 ⟨check_of_readsIn readPort,
      List.forall_mem_singleton.2 (check_of_readsIn readRate)⟩)
  have checkLoader : loaderSection.checkRows (sectionRows origin doc loaderSection) = .ok () :=
    checkRows_of_reads (hnodup hloader) (List.forall_mem_singleton.2 (check_of_readsIn readEsptool))
  refine ⟨⟨⟨timeout, poll, grace⟩, port, rate, esptool⟩, ?_,
    htimeout, hpoll, hgrace, hport, hrate, hesptool⟩
  refine read_eq_ok_iff.2 ⟨?_, ?_, ?_⟩
  · exact (readSection_eq_ok_iff (hrows hmonitor)).2
      ⟨checkMonitor, readTiming_eq_ok_iff.2 ⟨readTimeout, readPoll, readGrace⟩⟩
  · exact (readSection_eq_ok_iff (hrows hserial)).2
      ⟨checkSerial, readSerial_eq_ok_iff.2 ⟨readPort, readRate⟩⟩
  · exact (readSection_eq_ok_iff (hrows hloader)).2
      ⟨checkLoader, Section.get_eq_ok_iff.2 readEsptool⟩

end Settings

end TestWatch
