import TestWatch.Proofs.Settings.Layers

/-!
# What is heeded

Of a tree of settings only what stands under the key of a section is read, and of a section that is a
table only the rows of its fields.  Two trees that agree so far (`Agree`) are read alike
(`Agree.read_eq`), and laying the same rows over both keeps them in agreement (`Agree.setAll`): what
is heeded of a tree that is laid over another depends on nothing but what is heeded of the two
(`heeded_overlay`).
-/

namespace TestWatch

open Text

namespace Section

variable {s : Section}

/-! ## The rows of fields -/

/-- The rows that stand for fields. -/
def known (s : Section) (rows : Keyed Tree) : Keyed Tree :=
  rows.filter fun row => row.1 ∈ s.fields.keys

theorem known_nil (s : Section) : s.known [] = [] := rfl

theorem known_cons_field {row : Text × Tree} (h : row.1 ∈ s.fields.keys) (rows : Keyed Tree) :
    s.known (row :: rows) = row :: s.known rows :=
  List.filter_cons_of_pos (decide_eq_true h)

theorem known_cons_stranger {row : Text × Tree} (h : row.1 ∉ s.fields.keys) (rows : Keyed Tree) :
    s.known (row :: rows) = s.known rows :=
  List.filter_cons_of_neg (by simpa using h)

theorem known_append (s : Section) (a b : Keyed Tree) : s.known (a ++ b) = s.known a ++ s.known b :=
  List.filter_append a b

theorem known_eq_nil {rows : Keyed Tree} (h : ∀ key ∈ rows.keys, key ∉ s.fields.keys) :
    s.known rows = [] := by
  induction rows with
  | nil => rfl
  | cons row rows ih =>
    rw [Keyed.keys_cons, List.forall_mem_cons] at h
    rw [known_cons_stranger h.1, ih h.2]

theorem lookup_known {key : Text} (h : key ∈ s.fields.keys) (rows : Keyed Tree) :
    List.lookup key (s.known rows) = List.lookup key rows := by
  induction rows with
  | nil => rfl
  | cons row rows ih =>
    by_cases hrow : row.1 ∈ s.fields.keys
    · rw [known_cons_field hrow, List.lookup_cons, List.lookup_cons, ih]
    · have hne : (key == row.1) = false := beq_eq_false_iff_ne.2 fun heq => hrow (heq ▸ h)
      rw [known_cons_stranger hrow, List.lookup_cons, hne, ih]

theorem known_put_stranger {key : Text} (h : key ∉ s.fields.keys) (t : Tree) (rows : Keyed Tree) :
    s.known (Keyed.put key t rows) = s.known rows := by
  induction rows with
  | nil => rw [Keyed.put, known_cons_stranger h]
  | cons row rows ih =>
    unfold Keyed.put
    split
    · rename_i hrow
      rw [known_cons_stranger h, known_cons_stranger (hrow ▸ h)]
    · by_cases hfield : row.1 ∈ s.fields.keys
      · rw [known_cons_field hfield, known_cons_field hfield, ih]
      · rw [known_cons_stranger hfield, known_cons_stranger hfield, ih]

theorem known_put_field {key : Text} (h : key ∈ s.fields.keys) (t : Tree) (rows : Keyed Tree) :
    s.known (Keyed.put key t rows) = Keyed.put key t (s.known rows) := by
  induction rows with
  | nil => rw [Keyed.put, known_cons_field h]; rfl
  | cons row rows ih =>
    by_cases hrow : row.1 = key
    · rw [known_cons_field (hrow ▸ h), Keyed.put, Keyed.put, if_pos hrow, if_pos hrow,
        known_cons_field h]
    · rw [Keyed.put, if_neg hrow]
      by_cases hfield : row.1 ∈ s.fields.keys
      · rw [known_cons_field hfield, known_cons_field hfield, Keyed.put, if_neg hrow, ih]
      · rw [known_cons_stranger hfield, known_cons_stranger hfield, ih]

/-- Laying a table over another can be done on the rows of fields alone. -/
theorem known_overlayRows (upper lower : Keyed Tree) :
    s.known (Tree.overlayRows upper lower) = Tree.overlayRows (s.known upper) (s.known lower) := by
  induction upper generalizing lower with
  | nil => rw [Tree.overlayRows_nil, known_nil, Tree.overlayRows_nil]
  | cons row upper ih =>
    rw [Tree.overlayRows_cons, ih]
    by_cases hrow : row.1 ∈ s.fields.keys
    · rw [known_put_field hrow, known_cons_field hrow, Tree.overlayRows_cons, lookup_known hrow]
    · rw [known_put_stranger hrow, known_cons_stranger hrow]

/-! ## What counts in the place of a section -/

/-- What is heeded of a tree in the place of a section: of a table the rows of fields, of anything
else everything. -/
def heeded (s : Section) : Tree → Tree
  | .table origin rows => .table origin (s.known rows)
  | .leaf origin leaf => .leaf origin leaf
  | .list origin items => .list origin items

theorem rows_heeded (s : Section) (t : Tree) : (s.heeded t).rows = s.known t.rows := by
  cases t <;> rfl

theorem tableOrigin_heeded (s : Section) (t : Tree) : (s.heeded t).tableOrigin = t.tableOrigin := by
  cases t <;> rfl

theorem listOrigin_heeded (s : Section) (t : Tree) : (s.heeded t).listOrigin = t.listOrigin := by
  cases t <;> rfl

theorem items_heeded (s : Section) (t : Tree) : (s.heeded t).items = t.items := by
  cases t <;> rfl

/-- Laying over depends on nothing but what is heeded of both trees. -/
theorem heeded_overlay {upper upper' lower lower' : Tree} (hupper : s.heeded upper = s.heeded upper')
    (hlower : s.heeded lower = s.heeded lower') :
    s.heeded (Tree.overlay upper lower) = s.heeded (Tree.overlay upper' lower') := by
  have horigin : lower.tableOrigin = lower'.tableOrigin := by
    rw [← tableOrigin_heeded, hlower, tableOrigin_heeded]
  have hrows : s.known lower.rows = s.known lower'.rows := by
    rw [← rows_heeded, hlower, rows_heeded]
  cases upper <;> cases upper' <;> simp only [heeded, reduceCtorEq, Tree.table.injEq] at hupper
  case table.table =>
    rw [Tree.overlay_table, Tree.overlay_table, heeded, heeded, known_overlayRows, known_overlayRows,
      hupper.2, hrows, horigin]
  all_goals simpa [Tree.overlay, heeded] using hupper

/-- So does any change in the tree. -/
theorem heeded_change (act : Tree → Tree)
    (hact : ∀ {t t'}, s.heeded t = s.heeded t' → s.heeded (act t) = s.heeded (act t'))
    (steps : List Tree.Step) {t t' : Tree} (h : s.heeded t = s.heeded t') :
    s.heeded (Tree.change act steps t) = s.heeded (Tree.change act steps t') := by
  match steps with
  | [] => exact hact h
  | .key key :: steps =>
    have horigin : t.tableOrigin = t'.tableOrigin := by
      rw [← tableOrigin_heeded, h, tableOrigin_heeded]
    have hrows : s.known t.rows = s.known t'.rows := by rw [← rows_heeded, h, rows_heeded]
    simp only [Tree.change, heeded, horigin]
    by_cases hkey : key ∈ s.fields.keys
    · have hlookup : List.lookup key t.rows = List.lookup key t'.rows := by
        rw [← lookup_known hkey, hrows, lookup_known hkey]
      rw [known_put_field hkey, known_put_field hkey, hrows, hlookup]
    · rw [known_put_stranger hkey, known_put_stranger hkey, hrows]
  | .index index :: steps =>
    have horigin : t.listOrigin = t'.listOrigin := by rw [← listOrigin_heeded, h, listOrigin_heeded]
    have hitems : t.items = t'.items := by rw [← items_heeded s, h, items_heeded]
    simp only [Tree.change, heeded, horigin, hitems]

/-! ## Reading -/

theorem checkRows_known (s : Section) (rows : Keyed Tree) :
    s.checkRows (s.known rows) = s.checkRows rows := by
  induction rows with
  | nil => rfl
  | cons row rows ih =>
    by_cases hrow : row.1 ∈ s.fields.keys
    · rw [known_cons_field hrow, checkRows_cons, checkRows_cons, ih]
    · rw [known_cons_stranger hrow, checkRows_cons, checkRow, Keyed.lookup_eq_none_iff.2 hrow]
      exact ih

/-- A reading that asks for fields only. -/
def Heeds {α : Type} (s : Section) (read : Source → Except ValueError α) : Prop :=
  ∀ rows, read (.rows (s.known rows)) = read (.rows rows)

theorem heeds_get {α : Type} {f : Field α} (h : f.key ∈ s.fields.keys) (number : Nat) :
    s.Heeds fun source => s.get source number f := by
  intro rows
  simp only [get, lookup_known h]

theorem source_heeded {α : Type} {read : Source → Except ValueError α} (h : s.Heeds read) (t : Tree) :
    (s.source (s.heeded t)).bind read = (s.source t).bind read := by
  cases t with
  | leaf origin leaf => rfl
  | list origin items => rfl
  | table origin rows =>
    rw [heeded, source, source, checkRows_known]
    cases s.checkRows rows with
    | error e => rfl
    | ok _ => exact h rows

end Section

namespace Settings

/-! ## Trees that agree -/

/-- Two trees hold the same for the sections, as far as it is heeded. -/
def Agree (a b : Tree) : Prop :=
  ∀ s ∈ sections, (List.lookup s.key a.rows).map s.heeded = (List.lookup s.key b.rows).map s.heeded

variable {a b : Tree}

theorem readSection_congr {α : Type} {s : Section} {read : Source → Except ValueError α}
    (hread : s.Heeds read)
    (h : (List.lookup s.key a.rows).map s.heeded = (List.lookup s.key b.rows).map s.heeded) :
    readSection a s read = readSection b s read := by
  unfold readSection
  revert h
  cases List.lookup s.key a.rows <;> cases List.lookup s.key b.rows <;> intro h
  case none.none => rfl
  case some.some t t' =>
    have hsource : (s.source t).bind read = (s.source t').bind read := by
      rw [← Section.source_heeded hread, Option.some.inj h, Section.source_heeded hread]
    exact congrArg (Except.mapError (ValueError.under s.key)) hsource
  all_goals cases h

theorem heeds_readTiming : monitorSection.Heeds readTiming := by
  intro rows
  have htimeout := monitorSection.heeds_get (f := timeoutField) (by decide) 0 rows
  have hpoll := monitorSection.heeds_get (f := pollField) (by decide) 1 rows
  have hgrace := monitorSection.heeds_get (f := graceField) (by decide) 2 rows
  simp only [readTiming, htimeout, hpoll, hgrace]

theorem heeds_readSerial : serialSection.Heeds readSerial := by
  intro rows
  have hport := serialSection.heeds_get (f := portField) (by decide) 0 rows
  have hrate := serialSection.heeds_get (f := rateField) (by decide) 1 rows
  simp only [readSerial, hport, hrate]

theorem heeds_readLoader : loaderSection.Heeds readLoader :=
  Section.heeds_get (f := esptoolField) (by decide) 0

/-- Trees that agree are read alike, with the same refusal if there is one. -/
theorem Agree.read_eq (h : Agree a b) : read a = read b := by
  rw [Settings.read_eq, Settings.read_eq,
    readSection_congr heeds_readTiming (h _ (.head _)),
    readSection_congr heeds_readSerial (h _ (.tail _ (.head _))),
    readSection_congr heeds_readLoader (h _ (.tail _ (.tail _ (.head _))))]

/-! ## Changes that keep the agreement -/

/-- A path begins with a name. -/
theorem steps_eq_key_cons (key : Text) :
    ∃ name steps, KeyPath.steps key = .key name :: steps := by
  unfold KeyPath.steps
  cases KeyPath.readName key with
  | none => exact ⟨key, [], rfl⟩
  | some found =>
    cases hsteps : KeyPath.readSteps found.2.length found.2 with
    | none => exact ⟨key, [], by simp [hsteps]⟩
    | some steps => exact ⟨found.1, steps, by simp [hsteps]⟩

theorem lookup_change (act : Tree → Tree) (name : Text) (steps : List Tree.Step) (t : Tree)
    (key : Text) :
    List.lookup key (Tree.change act (.key name :: steps) t).rows = if key = name
      then some (Tree.change act steps ((List.lookup name t.rows).getD .nothing))
      else List.lookup key t.rows := by
  rw [Tree.change, Tree.rows]
  split
  · rename_i h
    rw [h, Keyed.lookup_put_self]
  · rename_i h
    rw [Keyed.lookup_put_of_ne h]

theorem heeded_getD {s : Section} (h : Agree a b) (hs : s ∈ sections) :
    s.heeded ((List.lookup s.key a.rows).getD .nothing)
      = s.heeded ((List.lookup s.key b.rows).getD .nothing) := by
  have hmap := h s hs
  revert hmap
  cases List.lookup s.key a.rows <;> cases List.lookup s.key b.rows <;> intro hmap
  case none.none => rfl
  case some.some => exact Option.some.inj hmap
  all_goals cases hmap

/-- Laying a row of a file over trees that agree keeps them in agreement. -/
theorem Agree.overlayRow (h : Agree a b) (row : Text × Tree) :
    Agree (a.change row.2.overlay (KeyPath.steps row.1))
      (b.change row.2.overlay (KeyPath.steps row.1)) := by
  obtain ⟨name, steps, hsteps⟩ := steps_eq_key_cons row.1
  rw [hsteps]
  intro s hs
  rw [lookup_change, lookup_change]
  split
  · rename_i hkey
    subst hkey
    exact congrArg some (Section.heeded_change _ (Section.heeded_overlay rfl) steps (heeded_getD h hs))
  · exact h s hs

theorem Agree.setAll (h : Agree a b) (rows : Keyed Tree) : Agree (a.setAll rows) (b.setAll rows) := by
  induction rows generalizing a b with
  | nil => exact h
  | cons row rows ih => exact ih (h.overlayRow row)

/-- Rows that do not lead into a section leave it alone. -/
theorem lookup_setAll {rows : Keyed Tree} {name : Text}
    (h : ∀ key ∈ rows.keys, (KeyPath.steps key).head? ≠ some (.key name)) (tree : Tree) :
    List.lookup name (tree.setAll rows).rows = List.lookup name tree.rows := by
  induction rows generalizing tree with
  | nil => rfl
  | cons row rows ih =>
    rw [Keyed.keys_cons, List.forall_mem_cons] at h
    obtain ⟨first, steps, hsteps⟩ := steps_eq_key_cons row.1
    have hne : name ≠ first := by
      rintro rfl
      exact h.1 (by rw [hsteps]; rfl)
    rw [Tree.setAll_cons, ih h.2, hsteps, lookup_change, if_neg hne]

end Settings

end TestWatch
