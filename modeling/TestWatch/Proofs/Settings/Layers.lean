import Mathlib.Data.List.TakeWhile
import Mathlib.Tactic.Tauto
import TestWatch.Proofs.Failing
import TestWatch.Proofs.Text.Searching
import TestWatch.Settings

/-!
# Layers of settings

What a file says is laid over the defaults.  Here is what that comes to, key by key, and what is then
read.

* A table that is laid over another gives each of its keys the value that it holds, and leaves all
  other keys alone (`lookup_overlayRows`).
* A plain key at the top of a file is a path of one step, so that a file whose keys are plain is laid
  over the defaults as one table (`setAll_eq`).
* A section that is a table is read exactly if the rows of its fields can all be read, and each field
  gets what its own row says (`readSection_eq_ok_iff`, `get_eq_ok_iff`, `checkRows_eq_ok_iff`).

Settings that can be read are loaded with a warning about the keys that mean nothing, if there are any
(`noted_load`), which names the file and each of them (`warns_warning`).
-/

namespace TestWatch

open Text

namespace Tree

/-! ## Tables over tables -/

theorem overlay_table (origin : Option Text) (rows : Keyed Tree) (lower : Tree) :
    overlay (.table origin rows) lower = .table lower.tableOrigin (overlayRows rows lower.rows) := by
  rw [overlay]

theorem overlayRows_nil (lower : Keyed Tree) : overlayRows [] lower = lower := by
  rw [overlayRows]

theorem overlayRows_cons (row : Text × Tree) (upper lower : Keyed Tree) :
    overlayRows (row :: upper) lower
      = overlayRows upper
        (Keyed.put row.1 (overlay row.2 ((List.lookup row.1 lower).getD nothing)) lower) := by
  rw [overlayRows]

/-- A key has the value of the upper table laid over that of the lower one, if the upper table has the
key at all. -/
theorem lookup_overlayRows {upper : Keyed Tree} (h : upper.keys.Nodup) (lower : Keyed Tree)
    (key : Text) :
    List.lookup key (overlayRows upper lower) = match List.lookup key upper with
      | some t => some (overlay t ((List.lookup key lower).getD nothing))
      | none => List.lookup key lower := by
  induction upper generalizing lower with
  | nil => rw [overlayRows_nil]; rfl
  | cons row upper ih =>
    rw [Keyed.keys_cons, List.nodup_cons] at h
    rw [overlayRows_cons, ih h.2, List.lookup_cons]
    by_cases hkey : key = row.1
    · subst hkey
      -- the key does not come again in the upper table
      rw [Keyed.lookup_eq_none_iff.2 h.1, beq_self_eq_true, Keyed.lookup_put_self]
    · rw [beq_eq_false_iff_ne.2 hkey, Keyed.lookup_put_of_ne hkey]

theorem mem_keys_overlayRows {upper lower : Keyed Tree} {key : Text} :
    key ∈ (overlayRows upper lower).keys ↔ key ∈ upper.keys ∨ key ∈ lower.keys := by
  induction upper generalizing lower with
  | nil => simp [overlayRows_nil, Keyed.keys]
  | cons row upper ih =>
    rw [overlayRows_cons, ih, Keyed.mem_keys_put, Keyed.keys_cons, List.mem_cons]
    tauto

theorem nodup_keys_overlayRows {upper lower : Keyed Tree} (h : lower.keys.Nodup) :
    (overlayRows upper lower).keys.Nodup := by
  induction upper generalizing lower with
  | nil => rwa [overlayRows_nil]
  | cons row upper ih =>
    rw [overlayRows_cons]
    exact ih (Keyed.nodup_keys_put h)

/-! ## Documents as trees -/

theorem keys_ofRows (origin : Option Text) (rows : Keyed Toml.Value) :
    Keyed.keys (ofRows origin rows) = rows.keys := by
  induction rows with
  | nil => rfl
  | cons row rows ih => rw [ofRows, Keyed.keys_cons, Keyed.keys_cons, ih]

theorem ofRows_append (origin : Option Text) (a b : Keyed Toml.Value) :
    ofRows origin (a ++ b) = ofRows origin a ++ ofRows origin b := by
  induction a with
  | nil => rfl
  | cons row a ih => rw [List.cons_append, ofRows, ih, ofRows, List.cons_append]

theorem lookup_ofRows (origin : Option Text) (rows : Keyed Toml.Value) (key : Text) :
    List.lookup key (ofRows origin rows) = (List.lookup key rows).map (ofValue origin) := by
  induction rows with
  | nil => rfl
  | cons row rows ih =>
    rw [ofRows, List.lookup_cons, List.lookup_cons, ih]
    cases key == row.1 <;> rfl

end Tree

/-! ## Plain keys -/

/-- A lower-case letter or a hyphen. -/
def isPlainChar (c : Char) : Bool := ('a' ≤ c && c ≤ 'z') || c == '-'

/-- A key of lower-case letters and hyphens. -/
def IsPlainKey (key : Text) : Prop := key ≠ [] ∧ ∀ c ∈ key, isPlainChar c = true

instance (key : Text) : Decidable (IsPlainKey key) :=
  @instDecidableAnd (key ≠ []) (∀ c ∈ key, isPlainChar c = true) inferInstance
    (List.decidableBAll (fun c => isPlainChar c = true) key)

/-- A plain key is a path of one step. -/
theorem steps_of_plain {key : Text} (h : IsPlainKey key) : KeyPath.steps key = [.key key] := by
  have hname : ∀ c ∈ key, KeyPath.isNameChar c = true := by
    intro c hc
    have hplain := h.2 c hc
    simp only [isPlainChar, Bool.or_eq_true, Bool.and_eq_true] at hplain
    rcases hplain with hletter | hhyphen
    · simp [KeyPath.isNameChar, hletter.1, hletter.2]
    · simp [KeyPath.isNameChar, hhyphen]
  have hread : KeyPath.readName key = some (key, []) := by
    rw [KeyPath.readName, List.takeWhile_eq_self_iff.2 hname, List.dropWhile_eq_nil_iff.2 hname,
      if_neg (by simpa using h.1)]
  simp [KeyPath.steps, hread, KeyPath.readSteps]

theorem Tree.setAll_cons (row : Text × Tree) (rows : Keyed Tree) (tree : Tree) :
    tree.setAll (row :: rows)
      = (tree.change row.2.overlay (KeyPath.steps row.1)).setAll rows := rfl

theorem Tree.setAll_append (upper more : Keyed Tree) (tree : Tree) :
    tree.setAll (upper ++ more) = (tree.setAll upper).setAll more := List.foldl_append

/-- Rows with plain keys are laid over a table as a table. -/
theorem Tree.setAll_eq {upper : Keyed Tree} (h : ∀ key ∈ upper.keys, IsPlainKey key)
    (origin : Option Text) (lower : Keyed Tree) :
    setAll upper (.table origin lower) = .table origin (overlayRows upper lower) := by
  induction upper generalizing lower with
  | nil => rw [overlayRows_nil]; rfl
  | cons row upper ih =>
    rw [Keyed.keys_cons, List.forall_mem_cons] at h
    rw [overlayRows_cons, ← ih h.2, setAll_cons, steps_of_plain h.1]
    rfl

/-! ## Reading a section that is a table -/

theorem Keyed.lookup_of_mem {α : Type} {rows : Keyed α} (h : rows.keys.Nodup) {row : Text × α}
    (hrow : row ∈ rows) : List.lookup row.1 rows = some row.2 := by
  induction rows with
  | nil => cases hrow
  | cons first rows ih =>
    rw [Keyed.keys_cons, List.nodup_cons] at h
    rw [List.lookup_cons]
    rcases List.mem_cons.1 hrow with rfl | hrow
    · rw [beq_self_eq_true]
    · have hne : row.1 ≠ first.1 := fun heq => h.1 (heq ▸ List.mem_map_of_mem hrow)
      rw [beq_eq_false_iff_ne.2 hne]
      exact ih h.2 hrow

/-- The row of a field says something that can be read. -/
def Field.ReadsIn {α : Type} (f : Field α) (rows : Keyed Tree) (a : α) : Prop :=
  ∃ t, List.lookup f.key rows = some t ∧ f.read t = .ok a

/-- A text is a span if it is read as one. -/
theorem asSpan_text_eq_ok_iff {origin : Option Text} {s : Text} {span : TimeSpan} :
    asSpan (.leaf origin (.text s)) = .ok span ↔ TimeSpan.read s = .ok span := by
  simp only [asSpan, asText, bind, Except.bind]
  cases TimeSpan.read s <;> simp

theorem Field.check_of_read {α : Type} {f : Field α} {t : Tree} {a : α} (h : f.read t = .ok a) :
    f.check t = .ok () := by
  rw [Field.check, Field.take, h]
  rfl

namespace Section

/-- The check of one row. -/
def checkRow (s : Section) (row : Text × Tree) : Except ValueError Unit :=
  match List.lookup row.1 s.fields with
  | some check => check row.2
  | none => .ok ()

theorem checkRows_cons (s : Section) (row : Text × Tree) (rows : Keyed Tree) :
    s.checkRows (row :: rows) = (s.checkRow row).bind fun _ => s.checkRows rows := rfl

/-- The rows of a section are accepted if each of them is. -/
theorem checkRows_eq_ok_iff {s : Section} {rows : Keyed Tree} :
    s.checkRows rows = .ok () ↔ ∀ row ∈ rows, s.checkRow row = .ok () := by
  induction rows with
  | nil => exact iff_of_true rfl (by simp)
  | cons row rows ih =>
    rw [checkRows_cons, List.forall_mem_cons, ← ih]
    cases s.checkRow row <;> simp [Except.bind]

theorem get_eq_ok_iff {α : Type} {s : Section} {rows : Keyed Tree} {number : Nat} {f : Field α}
    {a : α} : s.get (.rows rows) number f = .ok a ↔ f.ReadsIn rows a := by
  unfold get Field.ReadsIn
  dsimp only
  cases List.lookup f.key rows with
  | none => simp
  | some t =>
    simp only [Field.take, Option.some.injEq, exists_eq_left', mapError_eq_ok]

end Section

namespace Settings

theorem readSection_eq_ok_iff {α : Type} {tree : Tree} {s : Section} {origin : Option Text}
    {rows : Keyed Tree} (hrows : List.lookup s.key tree.rows = some (.table origin rows))
    {read : Source → Except ValueError α} {a : α} :
    readSection tree s read = .ok a ↔ s.checkRows rows = .ok () ∧ read (.rows rows) = .ok a := by
  simp only [readSection, hrows, Section.source, mapError_eq_ok]
  cases s.checkRows rows with
  | error e => simp [Except.map, bind, Except.bind]
  | ok _ => simp [Except.map, bind, Except.bind]

/-! ## Reading the sections -/

/-- The times to keep to. -/
def readTiming (source : Source) : Except ValueError Timing := do
  let timeout ← monitorSection.get source 0 timeoutField
  let pollInterval ← monitorSection.get source 1 pollField
  let gracePeriod ← monitorSection.get source 2 graceField
  .ok ⟨timeout, pollInterval, gracePeriod⟩

/-- The path and the rate of the serial port. -/
def readSerial (source : Source) : Except ValueError (Text × Nat) := do
  let port ← serialSection.get source 0 portField
  let rate ← serialSection.get source 1 rateField
  .ok (port, rate)

/-- The name of esptool. -/
def readLoader (source : Source) : Except ValueError Text :=
  loaderSection.get source 0 esptoolField

/-- The sections are read one after the other. -/
theorem read_eq (tree : Tree) :
    read tree = (readSection tree monitorSection readTiming).bind fun timing =>
      (readSection tree serialSection readSerial).bind fun serial =>
      (readSection tree loaderSection readLoader).bind fun esptool =>
        .ok ⟨timing, serial.1, serial.2, esptool⟩ := rfl

theorem read_eq_ok_iff {tree : Tree} {settings : Settings} :
    read tree = .ok settings ↔ readSection tree monitorSection readTiming = .ok settings.timing
      ∧ readSection tree serialSection readSerial = .ok (settings.port, settings.rate)
      ∧ readSection tree loaderSection readLoader = .ok settings.esptool := by
  rw [read_eq]
  constructor
  · intro h
    obtain ⟨timing, htiming, h⟩ := bind_eq_ok_iff.1 h
    obtain ⟨serial, hserial, h⟩ := bind_eq_ok_iff.1 h
    obtain ⟨esptool, hesptool, h⟩ := bind_eq_ok_iff.1 h
    obtain rfl := Except.ok.inj h
    exact ⟨htiming, hserial, hesptool⟩
  · rintro ⟨htiming, hserial, hesptool⟩
    rw [htiming, hserial, hesptool]
    rfl

theorem readTiming_eq_ok_iff {rows : Keyed Tree} {timing : Timing} :
    readTiming (.rows rows) = .ok timing ↔ timeoutField.ReadsIn rows timing.timeout
      ∧ pollField.ReadsIn rows timing.pollInterval ∧ graceField.ReadsIn rows timing.gracePeriod := by
  rw [← Section.get_eq_ok_iff, ← Section.get_eq_ok_iff, ← Section.get_eq_ok_iff]
  constructor
  · intro h
    obtain ⟨timeout, htimeout, h⟩ := bind_eq_ok_iff.1 h
    obtain ⟨poll, hpoll, h⟩ := bind_eq_ok_iff.1 h
    obtain ⟨grace, hgrace, h⟩ := bind_eq_ok_iff.1 h
    obtain rfl := Except.ok.inj h
    exact ⟨htimeout, hpoll, hgrace⟩
  · rintro ⟨htimeout, hpoll, hgrace⟩
    rw [readTiming, htimeout, hpoll, hgrace]
    rfl

theorem readSerial_eq_ok_iff {rows : Keyed Tree} {port : Text} {rate : Nat} :
    readSerial (.rows rows) = .ok (port, rate)
      ↔ portField.ReadsIn rows port ∧ rateField.ReadsIn rows rate := by
  rw [← Section.get_eq_ok_iff, ← Section.get_eq_ok_iff]
  constructor
  · intro h
    obtain ⟨port, hport, h⟩ := bind_eq_ok_iff.1 h
    obtain ⟨rate, hrate, h⟩ := bind_eq_ok_iff.1 h
    obtain ⟨rfl, rfl⟩ := Prod.mk.inj (Except.ok.inj h)
    exact ⟨hport, hrate⟩
  · rintro ⟨hport, hrate⟩
    rw [readSerial, hport, hrate]
    rfl

/-! ## Loading -/

/-- The file that settings are loaded from: the one that is asked for, or the usual one. -/
def fileFor (dir : Text) (asked : Option Text) : Text := asked.getD (inDirectory dir usualPath)

/-- What a tree comes to: settings that can be read and make sense. -/
def accept (tree : Tree) : Except SettingsFault Settings :=
  ((read tree).mapError SettingsFault.value).bind validate

theorem validate_eq_ok_iff {settings settings' : Settings} :
    validate settings = .ok settings' ↔ settings = settings' ∧ settings.timing.timeout.isZero = false
      ∧ settings.timing.pollInterval.isZero = false := by
  unfold validate
  split
  · simp_all
  · split <;> simp_all

theorem accept_eq_ok_iff {tree : Tree} {settings : Settings} :
    accept tree = .ok settings ↔ read tree = .ok settings ∧ settings.timing.timeout.isZero = false
      ∧ settings.timing.pollInterval.isZero = false := by
  simp only [accept, bind_eq_ok_iff, mapError_eq_ok]
  constructor
  · rintro ⟨found, hread, hvalid⟩
    obtain ⟨rfl, hspans⟩ := validate_eq_ok_iff.1 hvalid
    exact ⟨hread, hspans⟩
  · rintro ⟨hread, hspans⟩
    exact ⟨settings, hread, validate_eq_ok_iff.2 ⟨rfl, hspans⟩⟩

variable {files : Files} {dir : Text} {asked : Option Text} {tree : Tree} {settings : Settings}

/-- Loading is assembling a tree and seeing what it comes to. -/
theorem result_load (files : Files) (dir : Text) (asked : Option Text) :
    (load files dir asked).result
      = ((assemble files (fileFor dir asked) asked.isSome).bind accept).mapError
        (SettingsRefusal.mk (fileFor dir asked)) := by
  simp only [load, fileFor]
  cases assemble files (asked.getD (inDirectory dir usualPath)) asked.isSome with
  | error fault => rfl
  | ok tree =>
    simp only [Except.bind, accept]
    cases read tree <;> rfl

theorem result_load_eq_ok_iff : (load files dir asked).result = .ok settings ↔
    ∃ tree, assemble files (fileFor dir asked) asked.isSome = .ok tree
      ∧ accept tree = .ok settings := by
  rw [result_load, mapError_eq_ok, bind_eq_ok_iff]

/-- What is noted while settings are loaded that can be read, whether or not they make sense. -/
theorem noted_load (htree : assemble files (fileFor dir asked) asked.isSome = .ok tree)
    (hread : read tree = .ok settings) :
    (load files dir asked).strangers = strangers tree
      ∧ (load files dir asked).journal = if (strangers tree).isEmpty then []
        else [warning (fileFor dir asked) (strangers tree)] := by
  simp only [fileFor] at htree
  simp [load, fileFor, htree, hread]

/-! ## Warnings -/

/-- An entry warns about some keys of a file. -/
structure Warns (file : Text) (keys : List Text) (entry : Entry) : Prop where
  /-- It is a warning. -/
  level : entry.level = .warn
  /-- It is about settings. -/
  topic : entry.topic = .settings
  /-- It names the file. -/
  names_file : file <:+: entry.text
  /-- It names every key, at the beginning of a line. -/
  names_keys : ∀ key ∈ keys, "\n  - ".toList ++ key <:+: entry.text
  /-- If no name has a line break, all lines but the first are those of the keys, in order. -/
  lines : keys ≠ [] → '\n' ∉ file → (∀ key ∈ keys, '\n' ∉ key) →
    (entry.text.splitOn '\n').tail = keys.map ("  - ".toList ++ ·)

/-- The warning tells which keys mean nothing, and in which file. -/
theorem warns_warning (file : Text) (keys : List Text) : Warns file keys (warning file keys) := by
  have htext : (warning file keys).text
      = ("ignoring unknown configuration keys in config file ".toList ++ file ++ [':'])
        ++ '\n' :: join ['\n'] (keys.map ("  - ".toList ++ ·)) := by
    simp [warning]
  refine ⟨rfl, rfl, ?_, ?_, ?_⟩
  · rw [htext]
    exact List.IsInfix.trans ⟨_, _, rfl⟩ (List.prefix_append _ _).isInfix
  · intro key hkey
    have hfields : keys.map ("  - ".toList ++ ·) ≠ [] := by
      simpa using List.ne_nil_of_mem hkey
    have hfield : "\n  - ".toList ++ key ∈ (keys.map ("  - ".toList ++ ·)).map ('\n' :: ·) :=
      List.mem_map_of_mem (List.mem_map_of_mem hkey)
    rw [htext, cons_join '\n' hfields, List.flatMap_def]
    exact (List.infix_of_mem_flatten hfield).trans (List.suffix_append _ _).isInfix
  · intro hne hfile hkeys
    have hhead : '\n' ∉ "ignoring unknown configuration keys in config file ".toList ++ file
        ++ [':'] := by
      simp [hfile]
    have hfields : ∀ field ∈ keys.map ("  - ".toList ++ ·), '\n' ∉ field := by
      simpa using hkeys
    rw [htext, List.splitOn_append_cons_self, List.splitOn_eq_singleton hhead, join,
      List.splitOn_intercalate '\n' hfields (by simpa using hne)]
    rfl

end Settings

end TestWatch
