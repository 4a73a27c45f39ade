import TestWatch.Toml.Reading

/-!
# The keys of a document

No table of a TOML document has a key twice, at whatever depth it stands (`Value.KeysDiffer`).  A
table only grows by keys that it does not hold yet, and what is put under a key that it does hold
takes the place of what was there; so the property is kept by every change of a table
(`keysDiffer_change`), by every header and line (`Draft.KeysDiffer`), and `keysDiffer_read` says that
every document that is read has it.
-/

namespace TestWatch

open Text

namespace Toml

/-- No table in a value has a key twice. -/
inductive Value.KeysDiffer : Value → Prop
  /-- A text holds no table. -/
  | text {s : Text} : KeysDiffer (.text s)
  /-- An integer holds no table. -/
  | int {n : Int} : KeysDiffer (.int n)
  /-- A floating-point number holds no table. -/
  | float {x : SignedBinary64} : KeysDiffer (.float x)
  /-- A truth value holds no table. -/
  | bool {b : Bool} : KeysDiffer (.bool b)
  /-- A date or a time holds no table. -/
  | moment {s : Text} : KeysDiffer (.moment s)
  /-- An array holds tables in its items. -/
  | list {headed : Bool} {items : List Value} (h : ∀ item ∈ items, KeysDiffer item) :
    KeysDiffer (.list headed items)
  /-- A table has different keys itself. -/
  | table {form : Form} {rows : List (Text × Value)} (hkeys : (Keyed.keys rows).Nodup)
    (h : ∀ row ∈ rows, KeysDiffer row.2) : KeysDiffer (.table form rows)

/-- No table has a key twice, in a table and in what it holds. -/
structure Table.KeysDiffer (t : Table) : Prop where
  /-- The keys of the table itself. -/
  keys : t.rows.keys.Nodup
  /-- What it holds. -/
  values : ∀ row ∈ t.rows, row.2.KeysDiffer

theorem keysDiffer_table {form : Form} {rows : Keyed Value} :
    (Value.table form rows).KeysDiffer ↔ (Table.mk form rows).KeysDiffer := by
  constructor
  · rintro (_ | _ | _ | _ | _ | _ | ⟨hkeys, h⟩)
    exact ⟨hkeys, h⟩
  · rintro ⟨hkeys, h⟩
    exact .table hkeys h

theorem keysDiffer_list {headed : Bool} {items : List Value} :
    (Value.list headed items).KeysDiffer ↔ ∀ item ∈ items, item.KeysDiffer := by
  constructor
  · rintro (_ | _ | _ | _ | _ | h | _)
    exact h
  · exact .list

namespace Table

variable {t t' : Table} {key : Text} {value : Value}

theorem keysDiffer_empty (form : Form) : (empty form).KeysDiffer :=
  ⟨List.nodup_nil, by simp [empty]⟩

theorem KeysDiffer.toValue (h : t.KeysDiffer) : t.toValue.KeysDiffer := keysDiffer_table.2 h

theorem KeysDiffer.put (h : t.KeysDiffer) (key : Text) (hvalue : value.KeysDiffer) :
    KeysDiffer { t with rows := Keyed.put key value t.rows } where
  keys := Keyed.nodup_keys_put h.keys
  values := by
    intro row hrow
    rcases Keyed.mem_put hrow with rfl | hrow
    · exact hvalue
    · exact h.values row hrow

/-- A table may grow by a key that it does not hold. -/
theorem KeysDiffer.concat (h : t.KeysDiffer) (hkey : List.lookup key t.rows = none)
    (hvalue : value.KeysDiffer) :
    KeysDiffer { t with rows := t.rows ++ [(key, value)] } where
  keys := by
    have hput := @Keyed.nodup_keys_put _ key value _ h.keys
    rw [Keyed.keys_put, if_neg (Keyed.lookup_eq_none_iff.1 hkey)] at hput
    simpa [Keyed.keys] using hput
  values := by
    intro row hrow
    rcases List.mem_append.1 hrow with hrow | hrow
    · exact h.values row hrow
    · rw [List.mem_singleton.1 hrow]
      exact hvalue

theorem KeysDiffer.lookup (h : t.KeysDiffer) (hkey : List.lookup key t.rows = some value) :
    value.KeysDiffer := h.values _ (Keyed.mem_of_lookup hkey)

/-- Changing a table at a place keeps its keys different if the change itself does. -/
theorem keysDiffer_change {dotted : Bool} {act : Table → Option Table}
    (hact : ∀ u u', u.KeysDiffer → act u = some u' → u'.KeysDiffer) {path : List Text}
    (h : t.KeysDiffer) (hchange : change dotted act path t = some t') : t'.KeysDiffer := by
  induction path generalizing t t' with
  | nil => exact hact t t' h hchange
  | cons key path ih =>
    unfold change at hchange
    simp only [Option.bind_eq_bind] at hchange
    split at hchange
    · rename_i hkey
      obtain ⟨made, hmade, hmore⟩ := Option.bind_eq_some_iff.1 hchange
      obtain rfl := Option.some.inj hmore
      exact h.concat hkey (ih (keysDiffer_empty _) hmade).toValue
    · rename_i form rows hkey
      split at hchange
      · obtain ⟨inner, hinner, hmore⟩ := Option.bind_eq_some_iff.1 hchange
        obtain rfl := Option.some.inj hmore
        exact h.put key (ih (keysDiffer_table.1 (h.lookup hkey)) hinner).toValue
      · cases hchange
    · rename_i items hkey
      have hitems := keysDiffer_list.1 (h.lookup hkey)
      split at hchange
      · rename_i form rows hlast
        split at hchange
        · obtain ⟨inner, hinner, hmore⟩ := Option.bind_eq_some_iff.1 hchange
          obtain rfl := Option.some.inj hmore
          have hmem := List.mem_of_getLast? hlast
          refine h.put key (.list fun item hitem => ?_)
          rcases List.mem_append.1 hitem with hitem | hitem
          · exact hitems item (List.dropLast_subset items hitem)
          · rw [List.mem_singleton.1 hitem]
            exact (ih (keysDiffer_table.1 (hitems _ hmem)) hinner).toValue
        · cases hchange
      · cases hchange
    · cases hchange

theorem keysDiffer_addNew (h : t.KeysDiffer) (hvalue : value.KeysDiffer)
    (hadd : t.addNew key value = some t') : t'.KeysDiffer := by
  unfold addNew at hadd
  split at hadd
  · cases hadd
  · rename_i hkey
    obtain rfl := Option.some.inj hadd
    exact h.concat (Option.not_isSome_iff_eq_none.1 hkey) hvalue

theorem keysDiffer_addAt {path : List Text} (h : t.KeysDiffer) (hvalue : value.KeysDiffer)
    (hadd : t.addAt path key value = some t') : t'.KeysDiffer := by
  refine keysDiffer_change (fun u u' hu hact => ?_) h hadd
  split at hact
  · exact keysDiffer_addNew hu hvalue hact
  · cases hact

end Table

/-! ## Drafts -/

namespace Draft

/-- No table has a key twice, in what has been read of a document. -/
structure KeysDiffer (d : Draft) : Prop where
  /-- The document up to the last header. -/
  root : d.root.KeysDiffer
  /-- What has been read since then. -/
  current : d.current.KeysDiffer

variable {d d' : Draft} {t : Table}

theorem keysDiffer_start : start.KeysDiffer :=
  ⟨Table.keysDiffer_empty _, Table.keysDiffer_empty _⟩

theorem keysDiffer_place {header : Header} {finished parent t : Table} (hfinished : finished.KeysDiffer)
    (hparent : parent.KeysDiffer) (hplace : place header finished parent = some t) :
    t.KeysDiffer := by
  unfold place at hplace
  split at hplace
  · split at hplace
    · rename_i hkey
      obtain rfl := Option.some.inj hplace
      refine hparent.concat hkey (.list fun item hitem => ?_)
      rw [List.mem_singleton.1 hitem]
      exact hfinished.toValue
    · rename_i items hkey
      obtain rfl := Option.some.inj hplace
      refine hparent.put _ (.list fun item hitem => ?_)
      rcases List.mem_append.1 hitem with hitem | hitem
      · exact keysDiffer_list.1 (hparent.lookup hkey) item hitem
      · rw [List.mem_singleton.1 hitem]
        exact hfinished.toValue
    · cases hplace
  · exact Table.keysDiffer_addNew hparent hfinished.toValue hplace

theorem keysDiffer_finish (h : d.KeysDiffer) (hfinish : d.finish = some t) : t.KeysDiffer := by
  unfold finish at hfinish
  split at hfinish
  · obtain rfl := Option.some.inj hfinish
    exact h.current
  · exact Table.keysDiffer_change (fun _ _ hu hact => keysDiffer_place h.current hu hact) h.root
      hfinish

theorem keysDiffer_reopened {key : Text} {parent : Table} (h : parent.KeysDiffer)
    (hreopened : reopened key parent = some t) : t.KeysDiffer := by
  unfold reopened at hreopened
  split at hreopened
  · obtain rfl := Option.some.inj hreopened
    exact Table.keysDiffer_empty _
  · rename_i hkey
    obtain rfl := Option.some.inj hreopened
    have hrows := keysDiffer_table.1 (h.lookup hkey)
    exact ⟨hrows.keys, hrows.values⟩
  · cases hreopened

theorem keysDiffer_tableAt {path : List Text} {root : Table} (h : root.KeysDiffer)
    (htable : tableAt path root = some t) : t.KeysDiffer := by
  induction path generalizing root with
  | nil =>
    obtain rfl := Option.some.inj htable
    exact h
  | cons key path ih =>
    unfold tableAt at htable
    split at htable
    · obtain rfl := Option.some.inj htable
      exact Table.keysDiffer_empty _
    · rename_i hkey
      exact ih (keysDiffer_table.1 (h.lookup hkey)) htable
    · rename_i items hkey
      split at htable
      · rename_i hlast
        have hitems := keysDiffer_list.1 (h.lookup hkey)
        exact ih (keysDiffer_table.1 (hitems _ (List.mem_of_getLast? hlast))) htable
      · cases htable
    · cases htable

/-- A header that begins a table again takes it from where it stands. -/
theorem keysDiffer_begin_ {header : Header} (h : d.KeysDiffer)
    (hbegin : d.begin_ header = some d') : d'.KeysDiffer := by
  unfold begin_ at hbegin
  simp only [Option.bind_eq_bind] at hbegin
  obtain ⟨root, hroot, hbegin⟩ := Option.bind_eq_some_iff.1 hbegin
  have hroot := keysDiffer_finish h hroot
  split at hbegin
  · obtain rfl := Option.some.inj hbegin
    exact ⟨hroot, Table.keysDiffer_empty _⟩
  · obtain ⟨parent, hparent, hbegin⟩ := Option.bind_eq_some_iff.1 hbegin
    obtain ⟨current, hcurrent, hbegin⟩ := Option.bind_eq_some_iff.1 hbegin
    obtain ⟨left, hleft, hbegin⟩ := Option.bind_eq_some_iff.1 hbegin
    obtain rfl := Option.some.inj hbegin
    refine ⟨Table.keysDiffer_change (fun u u' hu hact => ?_) hroot hleft,
      keysDiffer_reopened (keysDiffer_tableAt hroot hparent) hcurrent⟩
    obtain rfl := Option.some.inj hact
    have hsub : (Keyed.without header.key u.rows).Sublist u.rows := List.filter_sublist
    exact ⟨hu.keys.sublist (hsub.map Prod.fst), fun row hrow => hu.values row (hsub.subset hrow)⟩

theorem keysDiffer_add {path : List Text} {key : Text} {value : Value} (h : d.KeysDiffer)
    (hvalue : value.KeysDiffer) (hadd : d.add path key value = some d') : d'.KeysDiffer := by
  unfold add at hadd
  obtain ⟨current, hcurrent, hmore⟩ := Option.bind_eq_some_iff.1 hadd
  obtain rfl := Option.some.inj hmore
  exact ⟨h.root, Table.keysDiffer_addAt h.current hvalue hcurrent⟩

end Draft

/-! ## Readers -/

/-- A reader whose values have no key twice in a table. -/
def ReadsKeysDiffer (read : ValueReader) : Prop :=
  ∀ s value rest, read s = some (value, rest) → value.KeysDiffer

theorem keysDiffer_readBare {s : Text} {value : Value} (h : readBare s = some value) :
    value.KeysDiffer := by
  unfold readBare at h
  split at h
  · obtain rfl := Option.some.inj h
    exact .bool
  · split at h
    · obtain rfl := Option.some.inj h
      exact .bool
    · rcases Option.or_eq_some_iff.1 h with h | ⟨-, h⟩
      · rcases Option.or_eq_some_iff.1 h with h | ⟨-, h⟩
        · obtain ⟨n, -, rfl⟩ := Option.map_eq_some_iff.1 h
          exact .int
        · obtain ⟨x, -, rfl⟩ := Option.map_eq_some_iff.1 h
          exact .float
      · obtain ⟨m, -, rfl⟩ := Option.map_eq_some_iff.1 h
        exact .moment

theorem keysDiffer_readFlat : ReadsKeysDiffer readFlat := by
  intro s value rest h
  have bare : ∀ {bare rest' : Text},
      (readBare bare).map (fun v => (v, rest')) = some (value, rest) → value.KeysDiffer := by
    intro bare rest' h
    obtain ⟨v, hv, heq⟩ := Option.map_eq_some_iff.1 h
    obtain ⟨rfl, -⟩ := Prod.mk.inj heq
    exact keysDiffer_readBare hv
  have quoted : ∀ {s : Text}, (readString s).map (fun found => (Value.text found.1, found.2))
      = some (value, rest) → value.KeysDiffer := by
    intro s h
    obtain ⟨found, -, heq⟩ := Option.map_eq_some_iff.1 h
    obtain ⟨rfl, -⟩ := Prod.mk.inj heq
    exact .text
  unfold readFlat at h
  split at h
  · exact quoted h
  · exact quoted h
  · unfold readBareValue at h
    dsimp only at h
    split at h
    · split at h
      · exact bare h
      · exact bare h
    · exact bare h

theorem keysDiffer_readItems {read : ValueReader} (hread : ReadsKeysDiffer read) {fuel : Nat}
    {s rest : Text} {items : List Value} (h : readItems read fuel s = some (items, rest)) :
    ∀ item ∈ items, item.KeysDiffer := by
  induction fuel generalizing s rest items with
  | zero => cases h
  | succ fuel ih =>
    unfold readItems at h
    simp only [Option.bind_eq_bind] at h
    obtain ⟨s', -, h⟩ := Option.bind_eq_some_iff.1 h
    split at h
    · obtain ⟨rfl, -⟩ := Prod.mk.inj (Option.some.inj h)
      exact fun _ hitem => absurd hitem List.not_mem_nil
    · obtain ⟨⟨item, rest'⟩, hitem, h⟩ := Option.bind_eq_some_iff.1 h
      have hitem := hread _ _ _ hitem
      obtain ⟨s'', -, h⟩ := Option.bind_eq_some_iff.1 h
      split at h
      · obtain ⟨⟨more, rest''⟩, hmore, h⟩ := Option.bind_eq_some_iff.1 h
        obtain ⟨rfl, rfl⟩ := Prod.mk.inj (Option.some.inj h)
        exact List.forall_mem_cons.2 ⟨hitem, ih hmore⟩
      · obtain ⟨rfl, -⟩ := Prod.mk.inj (Option.some.inj h)
        exact List.forall_mem_singleton.2 hitem
      · cases h

theorem keysDiffer_readRows {read : ValueReader} (hread : ReadsKeysDiffer read) {fuel : Nat}
    {s rest : Text} {t t' : Table} (ht : t.KeysDiffer)
    (h : readRows read fuel t s = some (t', rest)) : t'.KeysDiffer := by
  induction fuel generalizing s t with
  | zero => cases h
  | succ fuel ih =>
    unfold readRows at h
    simp only [Option.bind_eq_bind] at h
    obtain ⟨s', -, h⟩ := Option.bind_eq_some_iff.1 h
    split at h
    · obtain ⟨rfl, -⟩ := Prod.mk.inj (Option.some.inj h)
      exact ht
    · obtain ⟨⟨key, rest'⟩, -, h⟩ := Option.bind_eq_some_iff.1 h
      split at h
      · obtain ⟨⟨value, rest''⟩, hvalue, h⟩ := Option.bind_eq_some_iff.1 h
        obtain ⟨t₁, hadd, h⟩ := Option.bind_eq_some_iff.1 h
        have ht₁ := Table.keysDiffer_addAt ht (hread _ _ _ hvalue) hadd
        obtain ⟨s'', -, h⟩ := Option.bind_eq_some_iff.1 h
        split at h
        · exact ih ht₁ h
        · obtain ⟨rfl, -⟩ := Prod.mk.inj (Option.some.inj h)
          exact ht₁
        · cases h
      · cases h

/-- Values of every depth have no key twice in a table. -/
theorem keysDiffer_readValue (depth : Nat) : ReadsKeysDiffer (readValue depth) := by
  induction depth with
  | zero => exact keysDiffer_readFlat
  | succ depth ih =>
    intro s value rest h
    unfold readValue at h
    split at h
    · obtain ⟨⟨items, rest'⟩, hitems, heq⟩ := Option.map_eq_some_iff.1 h
      obtain ⟨rfl, -⟩ := Prod.mk.inj heq
      exact .list (keysDiffer_readItems ih hitems)
    · obtain ⟨⟨t, rest'⟩, ht, heq⟩ := Option.map_eq_some_iff.1 h
      obtain ⟨rfl, -⟩ := Prod.mk.inj heq
      exact (keysDiffer_readRows ih (Table.keysDiffer_empty _) ht).toValue
    · exact keysDiffer_readFlat _ _ _ h

/-! ## Documents -/

theorem keysDiffer_readLine {d d' : Draft} {s rest : Text} (hd : d.KeysDiffer)
    (h : readLine d s = some (d', rest)) : d'.KeysDiffer := by
  unfold readLine at h
  simp only [Option.bind_eq_bind] at h
  split at h
  · obtain ⟨⟨header, rest'⟩, -, h⟩ := Option.bind_eq_some_iff.1 h
    obtain ⟨next, hnext, h⟩ := Option.bind_eq_some_iff.1 h
    obtain ⟨rfl, -⟩ := Prod.mk.inj (Option.some.inj h)
    exact Draft.keysDiffer_begin_ hd hnext
  · obtain ⟨⟨key, rest'⟩, -, h⟩ := Option.bind_eq_some_iff.1 h
    split at h
    · obtain ⟨⟨value, rest''⟩, hvalue, h⟩ := Option.bind_eq_some_iff.1 h
      obtain ⟨rest₃, -, h⟩ := Option.bind_eq_some_iff.1 h
      obtain ⟨next, hnext, h⟩ := Option.bind_eq_some_iff.1 h
      obtain ⟨rfl, -⟩ := Prod.mk.inj (Option.some.inj h)
      exact Draft.keysDiffer_add hd (keysDiffer_readValue _ _ _ _ hvalue) hnext
    · cases h

theorem keysDiffer_readLines {fuel : Nat} {d d' : Draft} {s : Text} (hd : d.KeysDiffer)
    (h : readLines fuel d s = some d') : d'.KeysDiffer := by
  induction fuel generalizing d s with
  | zero =>
    obtain rfl := Option.some.inj h
    exact hd
  | succ fuel ih =>
    unfold readLines at h
    simp only [Option.bind_eq_bind] at h
    obtain ⟨s', -, h⟩ := Option.bind_eq_some_iff.1 h
    split at h
    · obtain rfl := Option.some.inj h
      exact hd
    · obtain ⟨⟨next, rest⟩, hnext, h⟩ := Option.bind_eq_some_iff.1 h
      exact ih (keysDiffer_readLine hd hnext) h

/-- No table of a document has a key twice. -/
theorem keysDiffer_read {s : Text} {rows : Keyed Value} (h : read s = some rows) :
    (Table.mk .headed rows).KeysDiffer := by
  unfold read at h
  simp only [Option.bind_eq_bind] at h
  split at h
  · cases h
  · obtain ⟨d, hd, h⟩ := Option.bind_eq_some_iff.1 h
    obtain ⟨t, ht, h⟩ := Option.bind_eq_some_iff.1 h
    obtain rfl := Option.some.inj h
    have hkeys := Draft.keysDiffer_finish (keysDiffer_readLines Draft.keysDiffer_start hd) ht
    exact ⟨hkeys.keys, hkeys.values⟩

end Toml

end TestWatch
