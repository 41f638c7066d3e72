import ProjectPipeline.Totals

/-!
# Packing into Capacities

Items with a key and a weight are charged, one after another, to the usage of their keys;
some keys have a capacity, and an item that would exceed the capacity of its key is
refused. `charge` is the loop that several selectors of a scheduler share.

## Main results

* `charge_isSome_iff`: the whole list is charged exactly when, on every bounded key that
  it uses, its total fits next to the initial usage; the order does not matter.
-/

namespace ProjectPipeline

open List

namespace Packing

variable {α κ : Type} [DecidableEq κ] (key : α → κ) (weight : α → ℕ) (cap : κ → Option ℕ)

/-- The weight of the items on a key. -/
def load (items : List α) (k : κ) : ℕ := totalWhere (fun a => key a = k) weight items

/-- Charge one item to the usage, if the capacity of its key admits it. -/
def chargeOne (usage : κ → ℕ) (a : α) : Option (κ → ℕ) :=
  match cap (key a) with
  | none => some usage
  | some limit =>
    if limit < usage (key a) + weight a then none
    else some (Function.update usage (key a) (usage (key a) + weight a))

/-- Charge the items in order. -/
def charge (usage : κ → ℕ) : List α → Option (κ → ℕ)
  | [] => some usage
  | a :: items => (chargeOne key weight cap usage a).bind fun usage' => charge usage' items

/-- The items fit: on every bounded key that they use, their total does. -/
def Fits (usage : κ → ℕ) (items : List α) : Prop :=
  ∀ a ∈ items, ∀ limit, cap (key a) = some limit →
    usage (key a) + load key weight items (key a) ≤ limit

theorem load_cons (a : α) (items : List α) (k : κ) :
    load key weight (a :: items) k =
      (if key a = k then weight a else 0) + load key weight items k := by
  simp only [load, totalWhere_cons, decide_eq_true_eq]

theorem load_append (xs ys : List α) (k : κ) :
    load key weight (xs ++ ys) k = load key weight xs k + load key weight ys k :=
  totalWhere_append _ _ xs ys

variable {xs ys : List α}

theorem load_perm (h : xs.Perm ys) (k : κ) : load key weight xs k = load key weight ys k :=
  totalWhere_perm h

/-- A sublist weighs no more. -/
theorem load_le_of_sublist (h : xs.Sublist ys) (k : κ) :
    load key weight xs k ≤ load key weight ys k := by
  induction h with
  | slnil => exact le_rfl
  | cons =>
    rw [load_cons]
    omega
  | cons_cons =>
    rw [load_cons, load_cons]
    omega

variable {items : List α}

/-- An item weighs no more than all items on its key. -/
theorem weight_le_load {a : α} (h : a ∈ items) : weight a ≤ load key weight items (key a) := by
  have hsub : [a].Sublist items := singleton_sublist.mpr h
  have hle := load_le_of_sublist key weight hsub (key a)
  rw [load_cons, if_pos rfl] at hle
  omega

variable {key weight cap}

variable {usage : κ → ℕ}

/-- The first item fits next to the rest when the whole list does, and the rest then fits
next to the first. -/
theorem fits_cons_iff_of_bounded {a : α} {limit : ℕ} (hcap : cap (key a) = some limit) :
    Fits key weight cap usage (a :: items) ↔
      usage (key a) + weight a ≤ limit ∧
        Fits key weight cap (Function.update usage (key a) (usage (key a) + weight a)) items := by
  -- Moving the weight of `a` from the list to the usage changes no total.
  have hmove : ∀ k, Function.update usage (key a) (usage (key a) + weight a) k +
      load key weight items k = usage k + load key weight (a :: items) k := by
    intro k
    rw [load_cons]
    by_cases hk : key a = k
    · subst hk
      rw [Function.update_self, if_pos rfl]
      omega
    · rw [Function.update_of_ne (Ne.symm hk), if_neg hk, Nat.zero_add]
  constructor
  · intro h
    have ha := h a mem_cons_self limit hcap
    rw [load_cons, if_pos rfl] at ha
    refine ⟨by omega, fun b hb bound hbd => ?_⟩
    rw [hmove]
    exact h b (mem_cons_of_mem a hb) bound hbd
  · rintro ⟨ha, hrest⟩ b hb bound hbd
    rcases mem_cons.mp hb with rfl | hb
    · obtain rfl : limit = bound := Option.some.inj (hcap.symm.trans hbd)
      by_cases hoth : ∃ c ∈ items, key c = key b
      · obtain ⟨c, hc, hkey⟩ := hoth
        have hfit := hrest c hc limit (by rw [hkey, hcap])
        rwa [hkey, hmove] at hfit
      · have hzero : load key weight items (key b) = 0 :=
          totalWhere_eq_zero fun c hc => decide_eq_false fun hkey => hoth ⟨c, hc, hkey⟩
        rw [load_cons, if_pos rfl, hzero]
        exact ha
    · rw [← hmove]
      exact hrest b hb bound hbd

/-- An item on a key without capacity does not matter. -/
theorem fits_cons_iff_of_unbounded {a : α} (hcap : cap (key a) = none) :
    Fits key weight cap usage (a :: items) ↔ Fits key weight cap usage items := by
  have hload : ∀ b, ∀ limit, cap (key b) = some limit →
      load key weight (a :: items) (key b) = load key weight items (key b) := by
    intro b limit hlim
    have hne : key a ≠ key b := by
      intro hkey
      rw [hkey, hlim] at hcap
      cases hcap
    rw [load_cons, if_neg hne, Nat.zero_add]
  constructor
  · intro h b hb limit hlim
    rw [← hload b limit hlim]
    exact h b (mem_cons_of_mem a hb) limit hlim
  · intro h b hb limit hlim
    rw [hload b limit hlim]
    rcases mem_cons.mp hb with rfl | hb
    · rw [hcap] at hlim
      cases hlim
    · exact h b hb limit hlim

/-- **The loop charges the whole list exactly when the list fits.** -/
theorem charge_isSome_iff :
    (charge key weight cap usage items).isSome = true ↔ Fits key weight cap usage items := by
  induction items generalizing usage with
  | nil => simp [charge, Fits]
  | cons a _ ih =>
    rw [charge, chargeOne]
    cases hcap : cap (key a) with
    | none => rw [Option.bind_some, ih, fits_cons_iff_of_unbounded hcap]
    | some limit =>
      rw [fits_cons_iff_of_bounded hcap]
      by_cases hlim : limit < usage (key a) + weight a
      · simp only [if_pos hlim, Option.bind_none, Option.isSome_none, Bool.false_eq_true,
          false_iff, not_and]
        omega
      · simp only [if_neg hlim, Option.bind_some, ih]
        exact ⟨fun h => ⟨by omega, h⟩, fun h => h.2⟩

/-- Only the usage of bounded keys matters. -/
theorem Fits.congr {usage' : κ → ℕ} (h : Fits key weight cap usage items)
    (heq : ∀ k limit, cap k = some limit → usage' k = usage k) :
    Fits key weight cap usage' items := by
  intro a ha limit hlim
  rw [heq (key a) limit hlim]
  exact h a ha limit hlim

/-- A permutation of a list that fits, fits. -/
theorem Fits.perm (h : Fits key weight cap usage xs) (hperm : xs.Perm ys) :
    Fits key weight cap usage ys := by
  intro a ha limit hlim
  rw [← load_perm key weight hperm]
  exact h a (hperm.mem_iff.mpr ha) limit hlim

/-- A sublist of a list that fits, fits. -/
theorem Fits.sublist (h : Fits key weight cap usage ys) (hsub : xs.Sublist ys) :
    Fits key weight cap usage xs := by
  intro a ha limit hlim
  have hle := load_le_of_sublist key weight hsub (key a)
  have hfit := h a (hsub.subset ha) limit hlim
  omega

end Packing

end ProjectPipeline
