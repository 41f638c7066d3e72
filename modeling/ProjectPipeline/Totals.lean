import ProjectPipeline.Table

/-!
# Totals over the Rows That Count

Quotas in this development are stated over the rows of a table that still count: leases
that have not lapsed, reservations that are open, spending of one scope. `totalWhere`
adds up the weights of these rows.

## Main results

* `totalWhere_mono`, `totalWhere_map_le`: totals only drop when rows stop counting, or
  are rewritten without gaining weight.
* `totalWhere_perm`: the order of the rows does not matter.
* `totalWhere_replace`: replacing a row exchanges its weight.
-/

namespace ProjectPipeline

open List

variable {ρ : Type}

section

variable (p : ρ → Bool) (weight : ρ → ℕ)

/-- The total weight of the rows that satisfy `p`. -/
def totalWhere (rows : List ρ) : ℕ :=
  ((rows.filter p).map weight).sum

@[simp] theorem totalWhere_nil :
    totalWhere p weight [] = 0 := rfl

theorem totalWhere_cons (r : ρ) (rows : List ρ) :
    totalWhere p weight (r :: rows) = (if p r then weight r else 0) + totalWhere p weight rows := by
  rw [totalWhere, totalWhere]
  by_cases h : p r <;> simp [h]

theorem totalWhere_append (xs ys : List ρ) :
    totalWhere p weight (xs ++ ys) = totalWhere p weight xs + totalWhere p weight ys := by
  simp [totalWhere]

theorem totalWhere_singleton (r : ρ) :
    totalWhere p weight [r] = if p r then weight r else 0 := by
  rw [totalWhere_cons, totalWhere_nil, Nat.add_zero]

end

variable {p : ρ → Bool} {weight : ρ → ℕ}

/-- Rows in another order have the same total. -/
theorem totalWhere_perm {xs ys : List ρ} (h : xs.Perm ys) :
    totalWhere p weight xs = totalWhere p weight ys :=
  ((h.filter p).map weight).sum_eq

variable {rows : List ρ}

/-- Rows that do not count have no weight. -/
theorem totalWhere_eq_zero (h : ∀ r ∈ rows, p r = false) : totalWhere p weight rows = 0 := by
  have hnil : rows.filter p = [] := by simpa using h
  rw [totalWhere, hnil]
  rfl

section

variable {τ : Type} (p : τ → Bool) (weight : τ → ℕ)

theorem totalWhere_map (f : ρ → τ) (rows : List ρ) :
    totalWhere p weight (rows.map f) =
      totalWhere (fun r => p (f r)) (fun r => weight (f r)) rows := by
  simp only [totalWhere, filter_map, map_map]
  rfl

/-- The total over the images of selected rows is a total over the rows. -/
theorem totalWhere_map_filter (q : ρ → Bool) (f : ρ → τ) (rows : List ρ) :
    totalWhere p weight ((rows.filter q).map f) =
      totalWhere (fun r => q r && p (f r)) (fun r => weight (f r)) rows := by
  induction rows with
  | nil => rfl
  | cons r _ ih =>
    rw [totalWhere_cons, ← ih, filter_cons]
    by_cases hq : q r = true
    · rw [if_pos hq, map_cons, totalWhere_cons, hq, Bool.true_and]
    · simp [hq]

end

/-- Fewer rows that count have a smaller total. -/
theorem totalWhere_mono {q : ρ → Bool} (h : ∀ r ∈ rows, p r = true → q r = true) :
    totalWhere p weight rows ≤ totalWhere q weight rows := by
  induction rows with
  | nil => exact le_rfl
  | cons r _ ih =>
    have hrest := ih fun x hx => h x (mem_cons_of_mem r hx)
    have hr := h r mem_cons_self
    rw [totalWhere_cons, totalWhere_cons]
    by_cases hp : p r = true
    · simp only [hp, hr hp, if_true]
      omega
    · rw [if_neg hp]
      omega

/-- Rewriting rows without letting one count anew or gain weight does not raise the
total. -/
theorem totalWhere_map_le {f : ρ → ρ}
    (h : ∀ r ∈ rows, p (f r) = true → p r = true ∧ weight (f r) ≤ weight r) :
    totalWhere p weight (rows.map f) ≤ totalWhere p weight rows := by
  induction rows with
  | nil => exact le_rfl
  | cons r _ ih =>
    have hrest := ih fun x hx => h x (mem_cons_of_mem r hx)
    have hr := h r mem_cons_self
    rw [map_cons, totalWhere_cons, totalWhere_cons]
    by_cases hp : p (f r) = true
    · obtain ⟨hpr, hw⟩ := hr hp
      simp only [hp, hpr, if_true]
      omega
    · rw [if_neg hp]
      omega

/-- Replacing a stored row exchanges its weight for that of the new row. -/
theorem totalWhere_replace {κ : Type} [DecidableEq κ] {key : ρ → κ} (p : ρ → Bool) (weight : ρ → ℕ)
    {t : Table κ ρ key} {old r : ρ} (h : t.find? (key r) = some old) :
    totalWhere p weight (t.replace r).rows + (if p old then weight old else 0) =
      totalWhere p weight t.rows + if p r then weight r else 0 := by
  obtain ⟨hmem, hkey⟩ := Table.find?_eq_some_iff.mp h
  have hnd := t.nodup
  rw [Table.rows_replace]
  generalize t.rows = rows at hmem hnd ⊢
  -- The rows before and after the one of this key are not touched.
  induction rows with
  | nil => exact absurd hmem not_mem_nil
  | cons x rows ih =>
    rw [map_cons, nodup_cons] at hnd
    rw [map_cons, totalWhere_cons, totalWhere_cons]
    rcases mem_cons.mp hmem with rfl | hmem
    · have hrest : rows.map (fun x => if key x = key r then r else x) = rows := by
        refine (map_congr_left fun y hy => if_neg fun hy' => hnd.1 ?_).trans (map_id rows)
        rw [hkey, ← hy']
        exact mem_map_of_mem hy
      rw [hrest, if_pos hkey]
      omega
    · have hx : key x ≠ key r := by
        intro hx
        refine hnd.1 ?_
        rw [hx, ← hkey]
        exact mem_map_of_mem hmem
      have hrest := ih hmem hnd.2
      rw [if_neg hx]
      omega

end ProjectPipeline
