import TestWatch.Text.Basic

/-!
# Keyed values

Values under keys, in the order in which the keys came up.  A value that is put under a known key
takes the place of the old one; a new key comes last.

`lookup_put_self` and `lookup_put_of_ne` say what `put` does to a look-up, `keys_put` what it does
to the keys.
-/

namespace TestWatch

/-- Values under keys, in an order. -/
abbrev Keyed (α : Type) := List (Text × α)

namespace Keyed

variable {α : Type}

/-- The keys in their order. -/
def keys (rows : Keyed α) : List Text := rows.map Prod.fst

/-- Puts a value under a key. -/
def put (key : Text) (value : α) : Keyed α → Keyed α
  | [] => [(key, value)]
  | row :: rows => if row.1 = key then (key, value) :: rows else row :: put key value rows

/-- The rows without a key. -/
def without (key : Text) (rows : Keyed α) : Keyed α := rows.filter fun row => row.1 != key

theorem lookup_put_self (key : Text) (value : α) (rows : Keyed α) :
    List.lookup key (put key value rows) = some value := by
  induction rows with
  | nil => simp [put]
  | cons row rows ih =>
    unfold put
    split
    · simp
    · rename_i h
      have : (key == row.1) = false := by simpa using fun h' => h h'.symm
      rw [List.lookup_cons, this, ih]

theorem lookup_put_of_ne {key other : Text} (h : other ≠ key) (value : α) (rows : Keyed α) :
    List.lookup other (put key value rows) = List.lookup other rows := by
  induction rows with
  | nil =>
    have : (other == key) = false := by simpa using h
    simp [put, List.lookup_cons, this]
  | cons row rows ih =>
    unfold put
    split
    · rename_i hrow
      have : (other == key) = false := by simpa using h
      rw [List.lookup_cons, List.lookup_cons, hrow, this]
    · rw [List.lookup_cons, List.lookup_cons, ih]

theorem keys_cons (row : Text × α) (rows : Keyed α) :
    keys (row :: rows) = row.1 :: keys rows := rfl

/-- A known key keeps its place, a new one comes last. -/
theorem keys_put (key : Text) (value : α) (rows : Keyed α) :
    (put key value rows).keys = if key ∈ rows.keys then rows.keys else rows.keys ++ [key] := by
  induction rows with
  | nil => rfl
  | cons row rows ih =>
    unfold put
    by_cases h : row.1 = key
    · simp [h, keys_cons]
    · simp only [h, if_false, keys_cons, ih, List.mem_cons, Ne.symm h, false_or]
      by_cases hk : key ∈ keys rows
      · rw [if_pos hk, if_pos hk]
      · rw [if_neg hk, if_neg hk, List.cons_append]

theorem mem_keys_put {key other : Text} {value : α} {rows : Keyed α} :
    other ∈ (put key value rows).keys ↔ other = key ∨ other ∈ rows.keys := by
  rw [keys_put]
  split
  · rename_i h
    constructor
    · exact .inr
    · rintro (rfl | h')
      · exact h
      · exact h'
  · rw [List.mem_append, List.mem_singleton, or_comm]

/-- Keys that are different stay different. -/
theorem nodup_keys_put {key : Text} {value : α} {rows : Keyed α} (h : rows.keys.Nodup) :
    (put key value rows).keys.Nodup := by
  rw [keys_put]
  split
  · exact h
  · rename_i hkey
    refine List.nodup_append.2 ⟨h, List.nodup_cons.2 ⟨List.not_mem_nil, List.nodup_nil⟩, ?_⟩
    rintro other hother _ hmem rfl
    exact hkey (List.mem_singleton.1 hmem ▸ hother)

theorem mem_put {key : Text} {value : α} {rows : Keyed α} {row : Text × α}
    (h : row ∈ put key value rows) : row = (key, value) ∨ row ∈ rows := by
  induction rows with
  | nil => exact .inl (List.mem_singleton.1 h)
  | cons first rows ih =>
    unfold put at h
    split at h
    · exact (List.mem_cons.1 h).imp_right (List.mem_cons_of_mem first)
    · rcases List.mem_cons.1 h with rfl | h
      · exact .inr List.mem_cons_self
      · exact (ih h).imp_right (List.mem_cons_of_mem first)

theorem mem_of_lookup {key : Text} {value : α} {rows : Keyed α}
    (h : List.lookup key rows = some value) : (key, value) ∈ rows := by
  obtain ⟨before, after, rfl, -⟩ := List.lookup_eq_some_iff.1 h
  exact List.mem_append_right before List.mem_cons_self

theorem lookup_eq_none_iff {key : Text} {rows : Keyed α} :
    List.lookup key rows = none ↔ key ∉ rows.keys := by
  rw [List.lookup_eq_none_iff, keys, List.mem_map]
  constructor
  · rintro h ⟨row, hrow, rfl⟩
    exact absurd (h row hrow) (by simp)
  · intro h row hrow
    exact bne_iff_ne.2 fun heq => h ⟨row, hrow, heq.symm⟩

end Keyed

end TestWatch
