import Mathlib

/-!
# Keyed Tables

A relational table with a primary key, as the stores of this development use it. A
`Table κ ρ key` is a list of rows in insertion order together with the proof that no two
rows share a key, so a state that violates the primary key cannot be built. The
operations are the statements of the stores: `find?` (a `SELECT` by key), `insert` (an
`INSERT`, refused on a duplicate key), `updateWhere` (an `UPDATE`), `upsert` (an
`INSERT ... ON CONFLICT DO UPDATE`), `replace` (an `UPDATE` by key) and `deleteWhere` (a
`DELETE`).

An update may not change the key of a row; the proof of this is an argument of
`updateWhere` and `upsert`, and at every use it is `fun _ => rfl`.

## Main results

* `Table.eq_of_key_eq`: rows are determined by their keys.
* `Table.find?_eq_some_iff`: a lookup finds exactly the stored row of that key.
* `Table.insert_eq_some_iff`: an insertion succeeds exactly on a fresh key, and appends.
* `Table.find?_updateWhere`, `Table.find?_upsert_self`, `Table.find?_upsert_of_ne`: the
  lookups after a write.
-/

namespace ProjectPipeline

open List Option

/-- A table of rows `ρ` with primary key `key`: no two rows share a key. -/
structure Table (κ ρ : Type) (key : ρ → κ) where
  rows : List ρ
  nodup : (rows.map key).Nodup

namespace Table

variable {κ ρ : Type} {key : ρ → κ}

def empty : Table κ ρ key := ⟨[], List.nodup_nil⟩

@[simp] theorem rows_empty : (empty : Table κ ρ key).rows = [] := rfl

/-- Two rows with the same key are the same row. -/
theorem eq_of_key_eq (t : Table κ ρ key) {a b : ρ} (ha : a ∈ t.rows) (hb : b ∈ t.rows)
    (h : key a = key b) : a = b :=
  inj_on_of_nodup_map t.nodup ha hb h

variable {t t' : Table κ ρ key}

/-- Tables with the same rows are equal. -/
theorem ext_rows (h : t.rows = t'.rows) : t = t' := by
  cases t'
  cases h
  rfl

/-! ### Updates and deletions -/

/-- `UPDATE ... WHERE p`: rewrite the rows that satisfy `p` by `f`, which keeps keys. -/
def updateWhere (t : Table κ ρ key) (p : ρ → Bool) (f : ρ → ρ)
    (hf : ∀ r, key (f r) = key r) : Table κ ρ key where
  rows := t.rows.map fun r => if p r then f r else r
  nodup := by
    have hkey : (key ∘ fun r => if p r then f r else r) = key := by
      funext r
      simp only [Function.comp_apply]
      split
      · exact hf r
      · rfl
    rw [List.map_map, hkey]
    exact t.nodup

/-- `DELETE ... WHERE p`. -/
def deleteWhere (t : Table κ ρ key) (p : ρ → Bool) : Table κ ρ key where
  rows := t.rows.filter fun r => !p r
  nodup := t.nodup.sublist ((List.filter_sublist).map key)

/-- The rows after an update are the rewritten rows. -/
theorem mem_updateWhere {p : ρ → Bool} {f : ρ → ρ} {hf : ∀ r, key (f r) = key r} {x : ρ} :
    x ∈ (t.updateWhere p f hf).rows ↔ ∃ r ∈ t.rows, (if p r then f r else r) = x := by
  simp [updateWhere]

/-- The rows after a deletion are the rows that did not satisfy the condition. -/
theorem mem_deleteWhere {p : ρ → Bool} {x : ρ} :
    x ∈ (t.deleteWhere p).rows ↔ x ∈ t.rows ∧ p x = false := by
  simp [deleteWhere]

section Keyed

variable [DecidableEq κ]

/-! ### Lookup -/

/-- `SELECT ... WHERE key = k`. -/
def find? (t : Table κ ρ key) (k : κ) : Option ρ := t.rows.find? fun r => key r = k

@[simp] theorem find?_empty (k : κ) : (empty : Table κ ρ key).find? k = none := rfl

/-- A lookup finds exactly the stored row of that key. -/
theorem find?_eq_some_iff {k : κ} {r : ρ} : t.find? k = some r ↔ r ∈ t.rows ∧ key r = k := by
  constructor
  · intro h
    exact ⟨mem_of_find?_eq_some h, by simpa using find?_some h⟩
  · rintro ⟨hr, rfl⟩
    cases hfind : t.find? (key r) with
    | none =>
      have := find?_eq_none.mp hfind r hr
      simp at this
    | some r' =>
      have hmem : r' ∈ t.rows := mem_of_find?_eq_some hfind
      have hkey : key r' = key r := by simpa using find?_some hfind
      rw [t.eq_of_key_eq hmem hr hkey]

/-- A lookup fails exactly when no row has the key. -/
theorem find?_eq_none_iff {k : κ} : t.find? k = none ↔ ∀ r ∈ t.rows, key r ≠ k := by
  simp only [find?, find?_eq_none, decide_eq_true_eq]

section

variable (t : Table κ ρ key)

/-- Every stored row is found under its own key. -/
theorem find?_of_mem {r : ρ} (hr : r ∈ t.rows) :
    t.find? (key r) = some r :=
  find?_eq_some_iff.mpr ⟨hr, rfl⟩

/-- A condition that only rows of one key meet selects the stored row of that key. -/
theorem countP_eq_one {k : κ} {r : ρ} {p : ρ → Bool} (hfind : t.find? k = some r) (hp : p r = true)
    (hkey : ∀ x, p x = true → key x = k) : t.rows.countP p = 1 := by
  obtain ⟨hmem, hrkey⟩ := find?_eq_some_iff.mp hfind
  have hall : ∀ x ∈ t.rows.filter p, x = r := by
    intro x hx
    obtain ⟨hx, hpx⟩ := mem_filter.mp hx
    exact t.eq_of_key_eq hx hmem ((hkey x hpx).trans hrkey.symm)
  have hnd : (t.rows.filter p).Nodup := (List.Nodup.of_map key t.nodup).filter p
  rw [countP_eq_length_filter]
  have hrep := eq_replicate_of_mem hall
  have hle : (t.rows.filter p).length ≤ 1 := by
    rw [hrep] at hnd
    exact nodup_replicate.mp hnd
  have hpos : 0 < (t.rows.filter p).length :=
    length_pos_of_mem (mem_filter.mpr ⟨hmem, hp⟩)
  omega

/-- Lookups after an update. -/
theorem find?_updateWhere (p : ρ → Bool) (f : ρ → ρ) (hf : ∀ r, key (f r) = key r) (k : κ) :
    (t.updateWhere p f hf).find? k = (t.find? k).map fun r => if p r then f r else r := by
  cases hk : t.find? k with
  | none =>
    rw [map_none, find?_eq_none_iff]
    intro x hx
    obtain ⟨r, hr, rfl⟩ := mem_updateWhere.mp hx
    have hne := find?_eq_none_iff.mp hk r hr
    split
    · rwa [hf]
    · exact hne
  | some r =>
    obtain ⟨hr, hkey⟩ := find?_eq_some_iff.mp hk
    rw [map_some, find?_eq_some_iff]
    refine ⟨mem_updateWhere.mpr ⟨r, hr, rfl⟩, ?_⟩
    split
    · rw [hf, hkey]
    · exact hkey

/-! ### Insertion -/

/-- `INSERT`: append the row, or fail when its key is taken. -/
def insert (r : ρ) : Option (Table κ ρ key) :=
  if h : key r ∈ t.rows.map key then none
  else some ⟨t.rows ++ [r], by
    rw [List.map_append, List.map_singleton]
    exact t.nodup.append (List.nodup_singleton _) (List.disjoint_singleton.mpr h)⟩

end

/-- An insertion succeeds exactly on a fresh key, and then appends the row. -/
theorem insert_eq_some_iff {r : ρ} :
    t.insert r = some t' ↔ t.find? (key r) = none ∧ t'.rows = t.rows ++ [r] := by
  have hmem : key r ∈ t.rows.map key ↔ ¬ t.find? (key r) = none := by
    rw [find?_eq_none_iff, List.mem_map]
    push Not
    rfl
  rw [insert]
  split
  · rename_i h
    rw [hmem] at h
    simp [h]
  · rename_i h
    rw [hmem, not_not] at h
    simp only [some.injEq, h, true_and]
    constructor
    · rintro rfl
      rfl
    · intro hrows
      exact ext_rows hrows.symm

/-- A row with a fresh key can be inserted. -/
theorem exists_insert {r : ρ} (h : t.find? (key r) = none) : ∃ t', t.insert r = some t' := by
  have hkey : key r ∉ t.rows.map key := by
    intro hmem
    obtain ⟨x, hx, hxr⟩ := List.mem_map.mp hmem
    exact find?_eq_none_iff.mp h x hx hxr
  rw [insert, dif_neg hkey]
  exact ⟨_, rfl⟩

/-- A successful insertion finds the new row under its key and leaves the rest alone. -/
theorem find?_insert {r : ρ} (h : t.insert r = some t') (k : κ) :
    t'.find? k = if key r = k then some r else t.find? k := by
  obtain ⟨hfr, hrows⟩ := insert_eq_some_iff.mp h
  by_cases hk : key r = k
  · rw [if_pos hk, find?_eq_some_iff, hrows]
    exact ⟨mem_append_right _ (mem_singleton_self r), hk⟩
  · rw [if_neg hk, find?, hrows, find?_append]
    simp [find?, hk]

/-- An insertion leaves the stored rows alone. -/
theorem find?_insert_of_some {r x : ρ} {k : κ} (h : t.insert r = some t') (hx : t.find? k = some x) :
    t'.find? k = some x := by
  have hne : key r ≠ k := by
    rintro rfl
    rw [(insert_eq_some_iff.mp h).1] at hx
    cases hx
  rw [find?_insert h, if_neg hne, hx]

/-- `INSERT ... ON CONFLICT(key) DO UPDATE`: insert the row, or rewrite the stored row of
the same key by `merge`, which keeps keys. -/
def upsert (t : Table κ ρ key) (r : ρ) (merge : ρ → ρ)
    (hm : ∀ x, key (merge x) = key x) : Table κ ρ key :=
  (t.insert r).getD (t.updateWhere (fun x => key x = key r) merge hm)

/-- An upsert of an absent key appends the row. -/
theorem upsert_rows_of_fresh {r : ρ} {merge : ρ → ρ} {hm : ∀ x, key (merge x) = key x}
    (h : t.find? (key r) = none) : (t.upsert r merge hm).rows = t.rows ++ [r] := by
  obtain ⟨t', ht'⟩ := exists_insert h
  rw [upsert, ht', getD_some]
  exact (insert_eq_some_iff.mp ht').2

section

variable (t : Table κ ρ key) (r : ρ)

/-- After an upsert of an absent key the row itself is stored, otherwise the merged one. -/
theorem find?_upsert_self (merge : ρ → ρ) (hm : ∀ x, key (merge x) = key x) :
    (t.upsert r merge hm).find? (key r) = some ((t.find? (key r)).elim r merge) := by
  rw [upsert]
  cases hins : t.insert r with
  | none =>
    have hfind : t.find? (key r) ≠ none := by
      intro hnone
      obtain ⟨t', ht'⟩ := exists_insert hnone
      rw [hins] at ht'
      cases ht'
    obtain ⟨x, hx⟩ := ne_none_iff_exists'.mp hfind
    have hkey := (find?_eq_some_iff.mp hx).2
    simp [find?_updateWhere, hx, hkey]
  | some =>
    obtain ⟨hfr, -⟩ := insert_eq_some_iff.mp hins
    simp [find?_insert hins, hfr]

/-- An upsert leaves the other keys alone. -/
theorem find?_upsert_of_ne (merge : ρ → ρ) (hm : ∀ x, key (merge x) = key x) {k : κ}
    (hk : key r ≠ k) :
    (t.upsert r merge hm).find? k = t.find? k := by
  rw [upsert]
  cases hins : t.insert r with
  | none =>
    rw [getD_none, find?_updateWhere]
    cases hfind : t.find? k with
    | none => rfl
    | some x =>
      have hkey := (find?_eq_some_iff.mp hfind).2
      have hne : ¬ key x = key r := fun h => hk (h.symm.trans hkey)
      simp [hne]
  | some => simp [find?_insert hins, hk]

/-! ### Replacing a row -/

/-- `UPDATE ... WHERE key = ?`: put a row in the place of the stored row of its key. -/
def replace : Table κ ρ key :=
  t.updateWhere (fun x => key x = key r) (fun x => if key x = key r then r else x) (by
    intro x
    split
    · rename_i h
      exact h.symm
    · rfl)

theorem rows_replace :
    (t.replace r).rows = t.rows.map fun x => if key x = key r then r else x := by
  refine map_congr_left fun x _ => ?_
  by_cases h : key x = key r <;> simp [h]

end

/-- The rows after a replacement: the other rows, and the new one if its key was stored. -/
theorem mem_replace {r x : ρ} :
    x ∈ (t.replace r).rows ↔
      (x = r ∧ ∃ old ∈ t.rows, key old = key r) ∨ (x ∈ t.rows ∧ key x ≠ key r) := by
  rw [rows_replace, List.mem_map]
  constructor
  · rintro ⟨old, hold, rfl⟩
    by_cases h : key old = key r
    · exact .inl ⟨if_pos h, old, hold, h⟩
    · rw [if_neg h]
      exact .inr ⟨hold, h⟩
  · rintro (⟨rfl, old, hold, h⟩ | ⟨hx, h⟩)
    · exact ⟨old, hold, if_pos h⟩
    · exact ⟨x, hx, if_neg h⟩

section

variable (t : Table κ ρ key) (r : ρ) (k : κ)

/-- The lookups after a replacement. -/
theorem find?_replace :
    (t.replace r).find? k = if key r = k then (t.find? k).map (fun _ => r) else t.find? k := by
  rw [replace, find?_updateWhere]
  cases hfind : t.find? k with
  | none => simp
  | some x =>
    have hx : key x = k := (find?_eq_some_iff.mp hfind).2
    by_cases hk : key r = k
    · simp [hk, hx]
    · have hne : ¬ key x = key r := fun h => hk (h.symm.trans hx)
      simp [hk, hne]

/-- A replacement stores and loses no key. -/
theorem isSome_find?_replace :
    ((t.replace r).find? k).isSome = (t.find? k).isSome := by
  rw [find?_replace]
  split
  · rw [isSome_map]
  · rfl

/-- The lookups after a row has been put in, in the place of the stored row of its key if there is
one. -/
theorem find?_put :
    ((t.insert r).getD (t.replace r)).find? k = if key r = k then some r else t.find? k := by
  cases hinsert : t.insert r with
  | some => rw [getD_some, find?_insert hinsert]
  | none =>
    have hstd : t.find? (key r) ≠ none := by
      intro hfr
      obtain ⟨t', ht'⟩ := exists_insert hfr
      rw [hinsert] at ht'
      cases ht'
    rw [getD_none, find?_replace]
    by_cases hk : key r = k
    · obtain ⟨x, hx⟩ := ne_none_iff_exists'.mp hstd
      rw [if_pos hk, if_pos hk, ← hk, hx, map_some]
    · rw [if_neg hk, if_neg hk]

end

/-- The lookups after a deletion by key. -/
theorem find?_deleteWhere (t : Table κ ρ key) (p : κ → Bool) (k : κ) :
    (t.deleteWhere fun r => p (key r)).find? k = if p k then none else t.find? k := by
  cases hfind : (t.deleteWhere fun r => p (key r)).find? k with
  | some =>
    obtain ⟨hr, hkey⟩ := find?_eq_some_iff.mp hfind
    obtain ⟨hr, hp⟩ := mem_deleteWhere.mp hr
    rw [hkey] at hp
    rw [hp, if_neg Bool.false_ne_true]
    exact (find?_eq_some_iff.mpr ⟨hr, hkey⟩).symm
  | none =>
    split
    · rfl
    · rename_i hp
      refine (find?_eq_none_iff.mpr fun r hr hkey => ?_).symm
      refine find?_eq_none_iff.mp hfind r (mem_deleteWhere.mpr ⟨hr, ?_⟩) hkey
      rw [hkey]
      exact Bool.eq_false_iff.mpr hp

end Keyed

end Table

end ProjectPipeline
