import ProjectPipeline.PlanSafety

/-!
# What the Selectors Select

The exhaustive search of the planner keeps the best combination that it has met; the combinations are
all sublists of the candidates in their order, so the best one is best among all safe selections. The
greedy search turns a candidate away for what it has selected so far, and what it selects later is no
reason to take the candidate after all.

## Main results

* `exact_select_optimal`: the exhaustive search selects a best safe selection, for any order of the
  candidates.
* `greedy_select_maximal`: the greedy search leaves out nothing that its selection has room for.
-/

namespace ProjectPipeline

open List

namespace SelectionContext

variable {ctx : SelectionContext} {xs ys : List SchedulerTaskProfile}

/-! ### The exhaustive search -/

/-- What a selection is worth: its utility, and then its number of lanes. -/
def worth (selected : List SchedulerTaskProfile) : ℕ ×ₗ ℕ :=
  toLex ((selected.map SchedulerTaskProfile.utilityScore).sum, selected.length)

theorem worth_perm (h : xs.Perm ys) : worth xs = worth ys := by
  rw [worth, worth, (h.map _).sum_nat, h.length_eq]

/-- The key of the search respects the worth. -/
theorem worth_le_of_keyLt (h : keyLt (comboKey xs) (comboKey ys) = true) : worth xs ≤ worth ys := by
  simp only [keyLt, Bool.or_eq_true, Bool.and_eq_true, decide_eq_true_eq, beq_iff_eq] at h
  refine Prod.Lex.toLex_le_toLex.mpr ?_
  rcases h with hmore | ⟨hsame, hlns | ⟨hlns, -⟩⟩
  · exact .inl hmore
  · exact .inr ⟨hsame, hlns.le⟩
  · exact .inr ⟨hsame, hlns.le⟩

theorem worth_le_of_not_keyLt (h : keyLt (comboKey xs) (comboKey ys) = false) :
    worth ys ≤ worth xs := by
  simp only [keyLt, Bool.or_eq_false_iff, Bool.and_eq_false_iff, decide_eq_false_iff_not,
    beq_eq_false_iff_ne] at h
  have hlt : (comboKey ys).1 < (comboKey xs).1 ∨
      (comboKey ys).1 = (comboKey xs).1 ∧ (comboKey ys).2.1 ≤ (comboKey xs).2.1 := by
    omega
  exact Prod.Lex.toLex_le_toLex.mpr hlt

/-- The better of two is worth as much as either. -/
theorem better_worth (best : Option (List SchedulerTaskProfile)) (next : List SchedulerTaskProfile) :
    (∀ old ∈ best, ∃ top ∈ ctx.better best next, worth old ≤ worth top) ∧
      (ctx.hasConflict next = false → (ctx.chargeAll next).isSome = true →
        ∃ top ∈ ctx.better best next, worth next ≤ worth top) := by
  unfold better
  split
  · rename_i hinvalid
    refine ⟨fun old hold => ⟨old, hold, le_rfl⟩, fun happart hfits => ?_⟩
    rw [happart, Bool.false_or, Option.isNone_iff_eq_none] at hinvalid
    rw [hinvalid] at hfits
    cases hfits
  cases best with
  | none => exact ⟨by simp, fun _ _ => ⟨next, rfl, le_rfl⟩⟩
  | some old =>
    cases hkey : keyLt (comboKey old) (comboKey next) with
    | true =>
      simp only [hkey, if_true, Option.mem_def, Option.some.injEq, exists_eq_left', forall_eq']
      exact ⟨worth_le_of_keyLt hkey, fun _ _ => le_rfl⟩
    | false =>
      simp only [hkey, Bool.false_eq_true, if_false, Option.mem_def, Option.some.injEq,
        exists_eq_left', forall_eq']
      exact ⟨le_rfl, fun _ _ => worth_le_of_not_keyLt hkey⟩

/-- The best of an enumeration is worth as much as any valid combination in it. -/
theorem foldl_better_worth (combos : List (List SchedulerTaskProfile))
    (best : Option (List SchedulerTaskProfile)) :
    (∀ old ∈ best, ∃ top ∈ combos.foldl ctx.better best, worth old ≤ worth top) ∧
      ∀ combo ∈ combos, ctx.hasConflict combo = false → (ctx.chargeAll combo).isSome = true →
        ∃ top ∈ combos.foldl ctx.better best, worth combo ≤ worth top := by
  induction combos generalizing best with
  | nil => exact ⟨fun old hold => ⟨old, hold, le_rfl⟩, by simp⟩
  | cons next combos ih =>
    obtain ⟨hkept, hrest⟩ := ih (ctx.better best next)
    obtain ⟨hold, hnext⟩ := ctx.better_worth best next
    have hlift : ∀ {combo}, (∃ top ∈ ctx.better best next, worth combo ≤ worth top) →
        ∃ top ∈ combos.foldl ctx.better (ctx.better best next), worth combo ≤ worth top := by
      rintro combo ⟨top, htop, hle⟩
      obtain ⟨last, hlast, hle'⟩ := hkept top htop
      exact ⟨last, hlast, hle.trans hle'⟩
    refine ⟨fun old h => hlift (hold old h), fun combo hcombo happart hfits => ?_⟩
    rcases mem_cons.mp hcombo with rfl | hcombo
    · exact hlift (hnext happart hfits)
    · exact hrest combo hcombo happart hfits

variable {candidates : List SchedulerTaskProfile}

/-- No safe selection is worth more than what the search returns. -/
theorem worth_le_exactSelect (hsub : xs <+~ candidates)
    (hsafe : ctx.Safe xs) : worth xs ≤ worth (ctx.exactSelect candidates) := by
  rw [exactSelect]
  set ordered := candidates.insertionSort fun a b => a.rankLe b with hordered
  obtain ⟨combo, hperm, hcombo⟩ := (perm_insertionSort (fun a b => a.rankLe b = true)
    candidates).subperm_left.mpr hsub
  rw [← hordered] at hcombo
  rw [← worth_perm hperm]
  have hsafe' := hsafe.perm hperm.symm
  rcases combo.length.eq_zero_or_pos with hzero | hpos
  · rw [length_eq_zero_iff.mp hzero]
    exact Prod.Lex.toLex_le_toLex.mpr
      ((Nat.eq_zero_or_pos _).symm.imp_right fun hnone => ⟨hnone.symm, Nat.zero_le _⟩)
  have hmem : combo ∈ (range' 1 (min ctx.laneLimit ordered.length)).flatMap fun size =>
      combinations size ordered := by
    refine mem_flatMap.mpr ⟨combo.length, mem_range'_1.mpr ?_, mem_combinations.mpr ⟨hcombo, rfl⟩⟩
    have hlen := hcombo.length_le
    have hwi := hsafe'.within
    omega
  obtain ⟨top, htop, hle⟩ := (foldl_better_worth _ none).2 combo hmem
    (hasConflict_eq_false_iff.mpr hsafe'.apart) (chargeAll_isSome_iff.mpr hsafe'.fits)
  rwa [Option.mem_def.mp htop]

/-- The place of a task in the order of lanes. -/
def rankKey (profile : SchedulerTaskProfile) : ℕ ×ₗ String :=
  toLex (profile.sequenceRank, profile.taskId)

theorem rankLe_iff {a b : SchedulerTaskProfile} : a.rankLe b = true ↔ rankKey a ≤ rankKey b := by
  simp [SchedulerTaskProfile.rankLe, rankKey, Prod.Lex.toLex_le_toLex, textLe_iff]

/-- Distinct tasks have one order. -/
theorem insertionSort_rankLe_eq (hperm : xs.Perm ys)
    (hnd : (ys.map SchedulerTaskProfile.taskId).Nodup) :
    (xs.insertionSort fun a b => a.rankLe b) = ys.insertionSort fun a b => a.rankLe b := by
  have : Std.Total fun a b : SchedulerTaskProfile => a.rankLe b = true :=
    ⟨fun a b => by simpa only [rankLe_iff] using le_total _ _⟩
  have : IsTrans SchedulerTaskProfile fun a b => a.rankLe b = true :=
    ⟨fun a b c => by simpa only [rankLe_iff] using le_trans⟩
  refine Perm.eq_of_pairwise (fun a b ha hb hab hba => ?_) (pairwise_insertionSort _ xs)
    (pairwise_insertionSort _ ys)
    ((perm_insertionSort _ xs).trans (hperm.trans (perm_insertionSort _ ys).symm))
  have hkey := le_antisymm (rankLe_iff.mp hab) (rankLe_iff.mp hba)
  exact inj_on_of_nodup_map hnd (hperm.mem_iff.mp ((mem_insertionSort _).mp ha))
    ((mem_insertionSort _).mp hb) (congrArg Prod.snd (toLex.injective hkey))

/-- **The exhaustive search is optimal.** For distinct candidates it returns a safe selection that is
worth as much as any other, which is empty only if every safe selection is, and the same for every
order of the candidates. -/
theorem exact_select_optimal (ctx : SelectionContext) (candidates : List SchedulerTaskProfile)
    (hnd : (candidates.map SchedulerTaskProfile.taskId).Nodup) :
    (ctx.Safe (ctx.exactSelect candidates) ∧ ctx.exactSelect candidates <+~ candidates) ∧
    (∀ other, other <+~ candidates → ctx.Safe other →
      worth other ≤ worth (ctx.exactSelect candidates) ∧
        (ctx.exactSelect candidates = [] → other = [])) ∧
    ∀ reordered : List SchedulerTaskProfile, reordered.Perm candidates →
      ctx.exactSelect reordered = ctx.exactSelect candidates := by
  obtain ⟨hsafe, hsub⟩ := ctx.exactSelect_safe candidates
  refine ⟨⟨hsafe, (perm_insertionSort _ _).subperm_left.mp hsub.subperm⟩, ?_, ?_⟩
  · intro other hoth hsafe
    have hle := worth_le_exactSelect hoth hsafe
    refine ⟨hle, fun hemp => ?_⟩
    rw [hemp, worth, worth, Prod.Lex.toLex_le_toLex] at hle
    have hnothing : (other.map SchedulerTaskProfile.utilityScore).sum = 0 ∧ other = [] := by
      simpa using hle
    exact hnothing.2
  · intro reordered hperm
    rw [exactSelect, exactSelect, insertionSort_rankLe_eq hperm hnd]

/-- Three lanes next to used units of a GPU. -/
def gpuContext (used : ℕ) : SelectionContext := ⟨[], gpuRegistry.poolOf, fun _ => used, 3⟩

/-- With the GPU free, nothing is worth more than what is selected, both tasks included. -/
theorem exact_select_optimal_pair :
    worth (gpuProfiles [gpuClaim .shared] (by decide)) ≤
      worth ((gpuContext 0).exactSelect (gpuProfiles [gpuClaim .shared] (by decide))) :=
  ((exact_select_optimal (gpuContext 0) _ (by decide)).2.1 _ (Subperm.refl _)
    (selectionIsValid_iff.mp (by decide +kernel))).1

/-! ### The greedy search -/

variable {candidate : SchedulerTaskProfile} {selected added : List SchedulerTaskProfile}

/-- What is compatible with more is compatible with less. -/
theorem compatible_of_append (h : ctx.compatible candidate (selected ++ added) = true) :
    ctx.compatible candidate selected = true := by
  rw [compatible, all_append, Bool.and_eq_true] at h
  exact h.1

/-- What fits next to more fits next to less. -/
theorem fitsCapacity_of_append (h : ctx.fitsCapacity candidate (selected ++ added) = true) :
    ctx.fitsCapacity candidate selected = true := by
  refine all_eq_true.mpr fun claim hcl => ?_
  have hfits := all_eq_true.mp h claim hcl
  cases hpool : ctx.poolOf claim.resourceKey with
  | none => rfl
  | some =>
    simp only [hpool, decide_eq_true_eq, flatMap_append, claimedUnits, Packing.load_append] at hfits ⊢
    omega

/-- A selection with room to spare and the candidates that the loop has left out. -/
theorem greedyLoop_maximal (hroom : (ctx.greedyLoop candidates selected).length < ctx.laneLimit) :
    ∃ left, (ctx.greedyLoop candidates selected ++ left).Perm (selected ++ candidates) ∧
      ∀ candidate ∈ left,
        ctx.compatible candidate (ctx.greedyLoop candidates selected) = false ∨
          ctx.fitsCapacity candidate (ctx.greedyLoop candidates selected) = false := by
  induction candidates generalizing selected with
  | nil => exact ⟨[], .refl _, by simp⟩
  | cons candidate rest ih =>
    rw [greedyLoop] at hroom ⊢
    split at hroom
    · omega
    rename_i hlane
    rw [if_neg hlane]
    split at hroom
    · rename_i htaken
      rw [if_pos htaken]
      obtain ⟨left, hperm, hleft⟩ := ih hroom
      refine ⟨left, ?_, hleft⟩
      rwa [append_assoc, singleton_append] at hperm
    · rename_i hrefused
      rw [if_neg hrefused]
      obtain ⟨left, hperm, hleft⟩ := ih hroom
      refine ⟨candidate :: left, ?_, forall_mem_cons.mpr ⟨?_, hleft⟩⟩
      · exact perm_middle.trans ((hperm.cons candidate).trans perm_middle.symm)
      · -- The reason of the refusal is still there at the end.
        obtain ⟨added, hadd, -⟩ := ctx.greedyLoop_append rest selected
        rw [hadd, ← Bool.not_eq_true, ← Bool.not_eq_true, ← not_and_or]
        rintro ⟨hcomp, hfits⟩
        rw [Bool.and_eq_true] at hrefused
        exact hrefused ⟨compatible_of_append hcomp, fitsCapacity_of_append hfits⟩

/-- **The greedy search is maximal.** If lanes are left, every candidate that was left out is adjacent
to a selected task or does not fit next to the whole selection. -/
theorem greedy_select_maximal (ctx : SelectionContext) (candidates : List SchedulerTaskProfile)
    (hroom : (ctx.greedySelect candidates).length < ctx.laneLimit) :
    ∃ left, (ctx.greedySelect candidates ++ left).Perm candidates ∧
      ∀ candidate ∈ left,
        (∃ item ∈ ctx.greedySelect candidates,
          hasEdge ctx.edges candidate.taskId item.taskId = true) ∨
        ctx.fitsCapacity candidate (ctx.greedySelect candidates) = false := by
  obtain ⟨left, hperm, hleft⟩ := greedyLoop_maximal hroom
  refine ⟨left, hperm.trans (perm_insertionSort _ _), fun candidate hcand => ?_⟩
  refine (hleft candidate hcand).imp_left fun hadjacent => ?_
  simpa [compatible, greedySelect] using hadjacent

/-- With the GPU in use, the task that claims it is left out. -/
theorem greedy_select_maximal_gpu :
    ∃ left, ((gpuContext 2).greedySelect (gpuProfiles [gpuClaim .shared] (by decide)) ++ left).Perm
      (gpuProfiles [gpuClaim .shared] (by decide)) ∧ left.length = 1 := by
  obtain ⟨left, hperm, -⟩ := greedy_select_maximal (gpuContext 2)
    (gpuProfiles [gpuClaim .shared] (by decide)) (by decide +kernel)
  refine ⟨left, hperm, ?_⟩
  have hlen := hperm.length_eq
  have hone : ((gpuContext 2).greedySelect
      (gpuProfiles [gpuClaim .shared] (by decide))).length = 1 := by
    decide +kernel
  rw [length_append, hone, gpuProfiles, length_cons, length_singleton] at hlen
  omega

end SelectionContext

end ProjectPipeline
