import ProjectPipeline.Planner

/-!
# Safety of a Plan

A selection of tasks is safe when no two of them are adjacent in the conflict graph, when
it has at most `lane_limit` members and when, on every pool, all claims together fit next
to the usage of the active leases. The exhaustive search and the revalidation of the
optimizer's answer accumulate every claim; `_fits_capacity`, which the greedy search uses,
looks at each claim of the next task alone.

## Main results

* `plan_returns_iff`: a plan is returned exactly when the ready tasks are distinct.
* `SelectionContext.exactSelect_safe`: the exhaustive search selects safely.
* `SelectionContext.greedyLoop_safe_iff`: the greedy search does when it never meets a task
  whose claims fit one by one but not together.
* `plan_safe_iff`: which plans are safe.
-/

namespace ProjectPipeline

open SelectionContext List SchedulerTaskProfile PlanInput IdentifierKind

variable {candidate : SchedulerTaskProfile} {snapshotId : String} {p : SchedulerPlan}

namespace SelectionContext

variable {ctx : SelectionContext}

/-! ### Safe selections -/

/-- All claims of the tasks fit next to the base usage. -/
def Fits (ctx : SelectionContext) (selected : List SchedulerTaskProfile) : Prop :=
  Packing.Fits ResourceClaim.resourceKey ResourceClaim.quantity ctx.cap ctx.baseUsage
    (selected.flatMap SchedulerTaskProfile.claims)

/-- What the lanes of a plan should satisfy. -/
structure Safe (ctx : SelectionContext) (selected : List SchedulerTaskProfile) : Prop where
  apart : selected.Pairwise fun a b => hasEdge ctx.edges a.taskId b.taskId = false
  within : selected.length ≤ ctx.laneLimit
  fits : ctx.Fits selected

variable {selected xs ys : List SchedulerTaskProfile}

/-- The usage loops decide `Fits`. -/
theorem chargeAll_isSome_iff : (ctx.chargeAll selected).isSome = true ↔ ctx.Fits selected :=
  Packing.charge_isSome_iff

theorem Fits.sublist (h : ctx.Fits ys) (hsub : xs.Sublist ys) : ctx.Fits xs :=
  Packing.Fits.sublist h (hsub.flatMap claims)

theorem Fits.perm (h : ctx.Fits xs) (hperm : xs.Perm ys) : ctx.Fits ys :=
  Packing.Fits.perm h (hperm.flatMap_right claims)

theorem hasConflict_eq_false_iff :
    ctx.hasConflict selected = false ↔
      selected.Pairwise fun a b => hasEdge ctx.edges a.taskId b.taskId = false := by
  induction selected with
  | nil => simp [hasConflict]
  | cons _ _ ih =>
    rw [hasConflict, Bool.or_eq_false_iff, ih, pairwise_cons, any_eq_false]
    simp

/-- The graph has no direction. -/
theorem hasEdge_comm (edges : List ConflictEdge) (a b : String) :
    hasEdge edges a b = hasEdge edges b a := by
  simp only [hasEdge, Bool.or_comm]

theorem safe_nil (ctx : SelectionContext) : ctx.Safe [] :=
  ⟨List.Pairwise.nil, Nat.zero_le _, fun _ h => absurd h not_mem_nil⟩

/-- Safety does not depend on the order. -/
theorem Safe.perm (h : ctx.Safe xs) (hperm : xs.Perm ys) :
    ctx.Safe ys where
  apart := h.apart.perm hperm fun {a b} hab => (hasEdge_comm _ b.taskId a.taskId).trans hab
  within := hperm.length_eq ▸ h.within
  fits := h.fits.perm hperm

/-- `_selection_is_valid` decides safety. -/
theorem selectionIsValid_iff : ctx.selectionIsValid selected = true ↔ ctx.Safe selected := by
  simp only [selectionIsValid, Bool.and_eq_true, decide_eq_true_eq, Bool.not_eq_true',
    hasConflict_eq_false_iff, chargeAll_isSome_iff]
  exact ⟨fun ⟨⟨hwi, hap⟩, hfits⟩ => ⟨hap, hwi, hfits⟩,
    fun h => ⟨⟨h.within, h.apart⟩, h.fits⟩⟩

/-! ### The exhaustive search -/

theorem mem_combinations {α : Type} {size : ℕ} {items combo : List α} :
    combo ∈ combinations size items ↔ combo.Sublist items ∧ combo.length = size := by
  induction items generalizing size combo with
  | nil =>
    cases size with
    | zero => simp [combinations, sublist_nil]
    | succ =>
      simp only [combinations, not_mem_nil, sublist_nil, false_iff, not_and]
      rintro rfl hlen
      cases hlen
  | cons a _ ih =>
    cases size with
    | zero =>
      simp only [combinations, mem_singleton, length_eq_zero_iff]
      exact ⟨fun h => ⟨h ▸ nil_sublist _, h⟩, fun h => h.2⟩
    | succ =>
      simp only [combinations, mem_append, mem_map, ih]
      constructor
      · rintro (⟨tail, ⟨hsub, hlen⟩, rfl⟩ | ⟨hsub, hlen⟩)
        · exact ⟨hsub.cons_cons a, by rw [length_cons, hlen]⟩
        · exact ⟨hsub.cons a, hlen⟩
      · rintro ⟨hsub, hlen⟩
        rcases hsub with _ | ⟨_, hsub⟩ | ⟨_, hsub⟩
        · exact .inr ⟨hsub, hlen⟩
        · exact .inl ⟨_, ⟨hsub, Nat.succ.inj hlen⟩, rfl⟩

section

variable (ctx : SelectionContext)

/-- A predicate of the best combination so far that every valid combination satisfies. -/
theorem foldl_better_invariant {P : List SchedulerTaskProfile → Prop}
    (combos : List (List SchedulerTaskProfile)) (best : Option (List SchedulerTaskProfile))
    (hbest : ∀ combo ∈ best, P combo)
    (hstep : ∀ combo ∈ combos, ctx.hasConflict combo = false →
      (ctx.chargeAll combo).isSome = true → P combo) :
    ∀ combo ∈ combos.foldl ctx.better best, P combo := by
  induction combos generalizing best with
  | nil => exact hbest
  | cons next _ ih =>
    refine ih _ ?_ fun combo hcombo => hstep combo (mem_cons_of_mem next hcombo)
    intro combo hcombo
    simp only [better] at hcombo
    split at hcombo
    · exact hbest combo hcombo
    · rename_i hval
      rw [Bool.or_eq_true, not_or, Bool.not_eq_true, Option.isNone_iff_eq_none] at hval
      have hnext : P next := hstep next mem_cons_self hval.1 (Option.isSome_iff_ne_none.mpr hval.2)
      split at hcombo
      · cases hcombo
        exact hnext
      · split at hcombo <;> cases hcombo
        · exact hnext
        · exact hbest _ rfl

/-- **The exhaustive search selects safely**, among the candidates. -/
theorem exactSelect_safe (candidates : List SchedulerTaskProfile) :
    ctx.Safe (ctx.exactSelect candidates) ∧
      (ctx.exactSelect candidates).Sublist (candidates.insertionSort fun a b => a.rankLe b) := by
  rw [exactSelect]
  set ordered := candidates.insertionSort fun a b => a.rankLe b
  set combos := (range' 1 (min ctx.laneLimit ordered.length)).flatMap fun size =>
    combinations size ordered
  have hval : ∀ combo ∈ combos, ctx.hasConflict combo = false →
      (ctx.chargeAll combo).isSome = true → ctx.Safe combo ∧ combo.Sublist ordered := by
    intro combo hcombo hap hchg
    obtain ⟨size, hsize, hmem⟩ := mem_flatMap.mp hcombo
    rw [mem_range'_1] at hsize
    obtain ⟨hsub, hlen⟩ := mem_combinations.mp hmem
    exact ⟨⟨hasConflict_eq_false_iff.mp hap, by omega, chargeAll_isSome_iff.mp hchg⟩, hsub⟩
  have hinv := foldl_better_invariant ctx combos none (by simp) hval
  cases hfold : combos.foldl ctx.better none with
  | none => exact ⟨safe_nil ctx, nil_sublist _⟩
  | some combo => exact hinv combo hfold

/-! ### The greedy search -/

/-- The greedy search passes the accumulated check of the other selectors: walk through the
candidates, keep those that are compatible and fit together with what is kept, and stop with
`false` at a candidate whose claims fit one by one but not together. -/
def meetsNoSplitClaims (ctx : SelectionContext) :
    List SchedulerTaskProfile → List SchedulerTaskProfile → Bool
  | [], _ => true
  | candidate :: rest, kept =>
    if ctx.laneLimit ≤ kept.length then true
    else if !ctx.compatible candidate kept then ctx.meetsNoSplitClaims rest kept
    else if (ctx.chargeAll (kept ++ [candidate])).isSome then
      ctx.meetsNoSplitClaims rest (kept ++ [candidate])
    else !ctx.fitsCapacity candidate kept && ctx.meetsNoSplitClaims rest kept

/-- The greedy search appends a part of the candidates. -/
theorem greedyLoop_append (candidates selected : List SchedulerTaskProfile) :
    ∃ added, ctx.greedyLoop candidates selected = selected ++ added ∧ added.Sublist candidates := by
  induction candidates generalizing selected with
  | nil => exact ⟨[], by simp [greedyLoop]⟩
  | cons candidate _ ih =>
    rw [greedyLoop]
    split
    · exact ⟨[], by simp⟩
    split
    · obtain ⟨added, hadd, hsub⟩ := ih (selected ++ [candidate])
      exact ⟨candidate :: added, by rw [hadd, append_assoc, singleton_append], hsub.cons_cons candidate⟩
    · obtain ⟨added, hadd, hsub⟩ := ih selected
      exact ⟨added, hadd, hsub.cons candidate⟩

end

/-- A task that fits in total fits claim by claim. -/
theorem fitsCapacity_of_fits (h : ctx.Fits (selected ++ [candidate])) :
    ctx.fitsCapacity candidate selected = true := by
  rw [Fits, flatMap_append, flatMap_singleton] at h
  refine all_eq_true.mpr fun claim hcl => ?_
  cases hpool : ctx.poolOf claim.resourceKey with
  | none => rfl
  | some pool =>
    have hfit := h claim (mem_append_right _ hcl) pool.allocatableUnits
      (by rw [cap, hpool, Option.map_some])
    have hquantity := Packing.weight_le_load ResourceClaim.resourceKey ResourceClaim.quantity hcl
    rw [Packing.load_append] at hfit
    exact decide_eq_true (by rw [claimedUnits]; omega)

theorem apart_append (h : selected.Pairwise fun a b => hasEdge ctx.edges a.taskId b.taskId = false)
    (hcomp : ctx.compatible candidate selected = true) :
    (selected ++ [candidate]).Pairwise
      fun a b => hasEdge ctx.edges a.taskId b.taskId = false := by
  rw [pairwise_append]
  refine ⟨h, pairwise_singleton _ _, fun item hitem other hoth => ?_⟩
  obtain rfl := mem_singleton.mp hoth
  have hfree := all_eq_true.mp hcomp item hitem
  rwa [hasEdge_comm, ← Bool.not_eq_true']

/-- A compatible task that fits in total can be added while there is a lane. -/
theorem Safe.append (h : ctx.Safe selected) (hcomp : ctx.compatible candidate selected = true)
    (hlane : selected.length < ctx.laneLimit) (hfits : ctx.Fits (selected ++ [candidate])) :
    ctx.Safe (selected ++ [candidate]) where
  apart := apart_append h.apart hcomp
  within := by
    rw [length_append, length_singleton]
    omega
  fits := hfits

variable {candidates : List SchedulerTaskProfile}

/-- **The greedy search from a safe selection stays safe exactly when it meets no task whose
claims fit one by one but not together.** -/
theorem greedyLoop_safe_iff (h : ctx.Safe selected) :
    ctx.Safe (ctx.greedyLoop candidates selected) ↔
      ctx.meetsNoSplitClaims candidates selected = true := by
  induction candidates generalizing selected with
  | nil => simpa [greedyLoop, meetsNoSplitClaims] using h
  | cons candidate rest ih =>
    rw [greedyLoop, meetsNoSplitClaims]
    by_cases hfull : ctx.laneLimit ≤ selected.length
    · simpa [hfull] using h
    cases hcomp : ctx.compatible candidate selected with
    | false => simpa [hfull] using ih h
    | true =>
      by_cases hchg : (ctx.chargeAll (selected ++ [candidate])).isSome = true
      · have hfits := chargeAll_isSome_iff.mp hchg
        have hsafe := h.append hcomp (Nat.lt_of_not_le hfull) hfits
        simpa [hfull, hchg, fitsCapacity_of_fits hfits] using ih hsafe
      cases hone : ctx.fitsCapacity candidate selected with
      | false => simpa [hfull, hchg] using ih h
      | true =>
        -- The loop takes the task, and whatever it adds later, the total stays too big.
        obtain ⟨added, hadd, _⟩ := ctx.greedyLoop_append rest (selected ++ [candidate])
        have hunsafe : ¬ ctx.Safe (ctx.greedyLoop rest (selected ++ [candidate])) := by
          intro hsafe
          rw [hadd] at hsafe
          exact hchg (chargeAll_isSome_iff.mpr (hsafe.fits.sublist (sublist_append_left _ _)))
        simpa [hfull, hchg] using hunsafe

/-- Apart from capacity, the greedy search is safe: it uses no more lanes than there are, for
tasks that are not adjacent. -/
theorem greedyLoop_apart
    (happart : selected.Pairwise fun a b => hasEdge ctx.edges a.taskId b.taskId = false)
    (hwi : selected.length ≤ ctx.laneLimit) :
    (ctx.greedyLoop candidates selected).Pairwise
        (fun a b => hasEdge ctx.edges a.taskId b.taskId = false) ∧
      (ctx.greedyLoop candidates selected).length ≤ ctx.laneLimit := by
  induction candidates generalizing selected with
  | nil => exact ⟨happart, hwi⟩
  | cons _ _ ih =>
    rw [greedyLoop]
    split
    · exact ⟨happart, hwi⟩
    · split
      · rename_i htaken
        rw [Bool.and_eq_true] at htaken
        refine ih (apart_append happart htaken.1) ?_
        rw [length_append, length_singleton]
        omega
      · exact ih happart hwi

end SelectionContext

/-! ### The selection of a plan -/

namespace PlanInput

variable {input : PlanInput} {ctx : SelectionContext}

/-- The run reaches the greedy search: there is a lane, there are more admissible candidates
than the exhaustive search takes, and the optimizer gives no valid answer. -/
def usesGreedy (input : PlanInput) (ctx : SelectionContext) : Bool :=
  !(ctx.laneLimit == 0 || input.prelim.isEmpty) &&
    !decide (input.prelim.length ≤ input.exactCandidateLimit) &&
      !(input.optimizer.available && input.optimizer.selected.any fun taskIds =>
        ctx.selectionIsValid (input.prelim.filter fun item => taskIds.contains item.taskId))

/-- The greedy search of this run meets no task whose claims fit one by one but not
together. -/
def claimsAccumulate (input : PlanInput) (ctx : SelectionContext) : Bool :=
  ctx.meetsNoSplitClaims (input.prelim.insertionSort fun a b => a.utilityLe b) []

theorem select_of_usesGreedy (h : input.usesGreedy ctx = true) :
    (input.select ctx).2 = ctx.greedySelect input.prelim := by
  simp only [usesGreedy, Bool.and_eq_true, Bool.not_eq_true', decide_eq_false_iff_not] at h
  obtain ⟨⟨hlane, hfew⟩, hans⟩ := h
  simp only [select, hlane, Bool.false_eq_true, if_false, if_neg hfew]
  cases havailable : input.optimizer.available with
  | false => simp
  | true =>
    cases hsel : input.optimizer.selected with
    | none => simp
    | some taskIds =>
      have hval : ctx.selectionIsValid
          (input.prelim.filter fun item => taskIds.contains item.taskId) = false := by
        simpa [havailable, hsel] using hans
      simp only [if_true, hval, Bool.false_eq_true, if_false]

/-- Without the greedy search the selection is safe, and a part of the candidates. -/
theorem select_of_not_usesGreedy (h : input.usesGreedy ctx = false) :
    ctx.Safe (input.select ctx).2 ∧ (input.select ctx).2.Subperm input.prelim := by
  simp only [select]
  split
  · exact ⟨safe_nil ctx, nil_subperm⟩
  rename_i hlane
  split
  · obtain ⟨hsafe, hsub⟩ := ctx.exactSelect_safe input.prelim
    exact ⟨hsafe, hsub.subperm.trans (perm_insertionSort _ _).subperm⟩
  rename_i hfew
  have hans : (input.optimizer.available && input.optimizer.selected.any fun taskIds =>
      ctx.selectionIsValid (input.prelim.filter fun item => taskIds.contains item.taskId)) =
        true := by
    simpa [usesGreedy, hlane, hfew] using h
  rw [Bool.and_eq_true] at hans
  obtain ⟨havailable, hval⟩ := hans
  cases hsel : input.optimizer.selected with
  | none => simp [hsel] at hval
  | some =>
    rw [hsel, Option.any_some] at hval
    simp only [havailable, if_true, if_pos hval]
    exact ⟨selectionIsValid_iff.mp hval, filter_sublist.subperm⟩

/-- **Which selections are safe.** -/
theorem select_safe_iff :
    ctx.Safe (input.select ctx).2 ↔
      (input.usesGreedy ctx = true → input.claimsAccumulate ctx = true) := by
  cases hgreedy : input.usesGreedy ctx with
  | false => simp [(select_of_not_usesGreedy hgreedy).1]
  | true =>
    rw [select_of_usesGreedy hgreedy, claimsAccumulate, greedySelect,
      greedyLoop_safe_iff (safe_nil ctx)]
    simp

/-- The selection is a part of the admissible candidates. -/
theorem select_subperm (input : PlanInput) (ctx : SelectionContext) :
    (input.select ctx).2.Subperm input.prelim := by
  cases hgreedy : input.usesGreedy ctx with
  | false => exact (select_of_not_usesGreedy hgreedy).2
  | true =>
    obtain ⟨added, hadd, hsub⟩ :=
      ctx.greedyLoop_append (input.prelim.insertionSort fun a b => a.utilityLe b) []
    rw [select_of_usesGreedy hgreedy, greedySelect, hadd, nil_append]
    exact hsub.subperm.trans (perm_insertionSort _ _).subperm

/-- The selection is safe as soon as it fits. -/
theorem select_apart (input : PlanInput) (ctx : SelectionContext) :
    (input.select ctx).2.Pairwise (fun a b => hasEdge ctx.edges a.taskId b.taskId = false) ∧
      (input.select ctx).2.length ≤ ctx.laneLimit := by
  cases hgreedy : input.usesGreedy ctx with
  | false =>
    have hsafe := (select_of_not_usesGreedy hgreedy).1
    exact ⟨hsafe.apart, hsafe.within⟩
  | true =>
    rw [select_of_usesGreedy hgreedy, greedySelect]
    exact greedyLoop_apart List.Pairwise.nil (Nat.zero_le _)

end PlanInput

/-! ### What a plan is made of -/

def LaneAssignment.work (lane : LaneAssignment) : String × List ResourceClaim :=
  (lane.taskId, lane.claims)

def SchedulerTaskProfile.work (profile : SchedulerTaskProfile) : String × List ResourceClaim :=
  (profile.taskId, profile.claims)

theorem assignLane_eq_ok {sha : Sha256} {rank : ℕ} {hrank : 1 ≤ rank} {item : SchedulerTaskProfile}
    {lane : LaneAssignment} (h : assignLane sha snapshotId rank hrank item = .ok lane) :
    lane.work = item.work := by
  rw [assignLane] at h
  split at h
  · cases h
  · cases h
    rfl

theorem assignLanes_eq_ok {sha : Sha256} {items : List SchedulerTaskProfile} {rank : ℕ}
    {hrank : 1 ≤ rank} {lanes : List LaneAssignment}
    (h : assignLanes sha snapshotId rank hrank items = .ok lanes) :
    lanes.map LaneAssignment.work = items.map work := by
  induction items generalizing rank lanes with
  | nil =>
    cases h
    rfl
  | cons _ _ ih =>
    rw [assignLanes, bind_eq_ok] at h
    obtain ⟨lane, hlane, h⟩ := h
    obtain ⟨tail, htail, h⟩ := bind_eq_ok.mp h
    cases h
    rw [map_cons, map_cons, assignLane_eq_ok hlane, ih htail]

theorem assignLane_returns (sha : Sha256) (hid : Visible snapshotId) (rank : ℕ) (hrank : 1 ≤ rank)
    (item : SchedulerTaskProfile) :
    ∃ lane, assignLane sha snapshotId rank hrank item = .ok lane := by
  have hparts : ∀ part ∈ [snapshotId, item.taskId, toString rank], Visible part := by
    have htask := issue.inked_pattern.visible item.taskId_valid
    simpa using ⟨hid, htask, visible_toString rank⟩
  have hok := schedulerIdentifier_of_visible sha .lane _ (by simp) hparts
  rw [assignLane]
  split
  · rename_i herr
    rw [hok] at herr
    cases herr
  · exact ⟨_, rfl⟩

theorem assignLanes_returns (sha : Sha256) (hid : Visible snapshotId) (rank : ℕ) (hrank : 1 ≤ rank)
    (items : List SchedulerTaskProfile) :
    ∃ lanes, assignLanes sha snapshotId rank hrank items = .ok lanes := by
  induction items generalizing rank with
  | nil => exact ⟨[], rfl⟩
  | cons item _ ih =>
    obtain ⟨lane, hlane⟩ := assignLane_returns sha hid rank hrank item
    obtain ⟨lanes, hlns⟩ := ih (rank + 1) (Nat.le_add_left 1 rank)
    refine ⟨lane :: lanes, ?_⟩
    rw [assignLanes, hlane]
    simp only [bind, Except.bind, hlns, pure, Except.pure]

variable {profiles : List SchedulerTaskProfile}

/-- The conflict graph is built exactly for distinct tasks. -/
theorem buildConflictGraph_returns_iff :
    (∃ edges, buildConflictGraph profiles = .ok edges) ↔ (profiles.map taskId).Nodup := by
  have hperm := ((profiles.perm_insertionSort fun a b => textLe a.taskId b.taskId).map
    taskId).nodup_iff
  rw [buildConflictGraph]
  split
  · rename_i h
    exact ⟨fun _ => hperm.mp h, fun _ => ⟨_, rfl⟩⟩
  · rename_i h
    exact ⟨fun ⟨_, herr⟩ => (nomatch herr), fun hnd => absurd (hperm.mpr hnd) h⟩

theorem ControlSnapshot.visible_snapshotId (control : ControlSnapshot) :
    Visible control.snapshotId := by
  refine Inked.visible ?_ control.snapshotId_valid.1
  exact ((inked_literal (visible_of_any (by decide))).mul_left _).mul_right _

namespace PlanInput

variable {input : PlanInput} {env : PlannerEnv} {edges : List ConflictEdge}
  {method : SelectionMethod} {selectedIds : List String} {lanes : List LaneAssignment}

theorem finish_eq_ok (h : input.finish env edges method selectedIds lanes = .ok p) :
    p.conflicts = edges ∧ p.laneLimit = input.laneLimit env ∧ p.lanes = lanes ∧
      p.admissions = (input.candidates.insertionSort fun a b => textLe a.taskId b.taskId).map
        (input.admission edges selectedIds) := by
  rw [finish] at h
  split at h
  · cases h
  split at h
  · split at h
    · cases h
      exact ⟨rfl, rfl, rfl, rfl⟩
    · cases h
  · cases h

/-- The parts of a plan's identifier are not blank. -/
theorem finish_returns (edges : List ConflictEdge) (method : SelectionMethod)
    (selectedIds : List String) (hnd : (lanes.map LaneAssignment.taskId).Nodup)
    (hwi : lanes.length ≤ input.laneLimit env) :
    ∃ p, input.finish env edges method selectedIds lanes = .ok p := by
  have hlns : Visible (if pyJoin "," (lanes.map LaneAssignment.taskId) == "" then "none"
      else pyJoin "," (lanes.map LaneAssignment.taskId)) := by
    cases lanes with
    | nil => exact visible_of_any (by decide)
    | cons lane rest =>
      have hjoin := (issue.inked_pattern.visible lane.taskId_valid).pyJoin ","
        (rest.map LaneAssignment.taskId)
      split
      · exact visible_of_any (by decide)
      · exact hjoin
  have hmode : Visible input.decision.mode.value := by
    cases input.decision.mode <;> exact visible_of_any (by decide)
  have hregistry : Visible input.registry.registryId := by
    refine Inked.visible ?_ input.registry.registryId_valid
    exact (inked_oneOf (by decide)).mul_right _
  have hparts := schedulerIdentifier_of_visible env.sha .sched
    [input.control.snapshotId, input.registry.registryId, input.decision.mode.value,
      toString (input.laneLimit env), _] (by simp)
    (by simpa using ⟨input.control.visible_snapshotId, hregistry, hmode,
      visible_toString (input.laneLimit env), hlns⟩)
  rw [finish]
  split
  · rename_i herr
    rw [hparts] at herr
    cases herr
  · rw [dif_pos hnd, dif_pos hwi]
    exact ⟨_, rfl⟩

end PlanInput

section

variable {env : PlannerEnv} {input : PlanInput}

/-- The tasks and claims of a plan are those of the selection. -/
theorem plan_eq_ok (h : plan env input = .ok p) :
    ∃ edges, buildConflictGraph input.candidates = .ok edges ∧ p.conflicts = edges ∧
      p.laneLimit = input.laneLimit env ∧
      p.lanes.map LaneAssignment.work =
        ((input.select (input.context env edges)).2.insertionSort fun a b => a.rankLe b).map
          work := by
  rw [plan, bind_eq_ok] at h
  obtain ⟨edges, heds, h⟩ := h
  obtain ⟨lanes, hlns, h⟩ := bind_eq_ok.mp h
  obtain ⟨hconflicts, hlim, rfl, _⟩ := finish_eq_ok h
  exact ⟨edges, heds, hconflicts, hlim, assignLanes_eq_ok hlns⟩

/-- No task is selected twice. -/
theorem PlanInput.select_nodup {input : PlanInput} (h : (input.candidates.map taskId).Nodup)
    (ctx : SelectionContext) :
    ((input.select ctx).2.map taskId).Nodup := by
  have hprelim : (input.prelim.map taskId).Nodup :=
    h.sublist (filter_sublist.map _)
  obtain ⟨part, hperm, hsub⟩ := input.select_subperm ctx
  exact (hperm.map _).nodup_iff.mp (hprelim.sublist (hsub.map _))

/-- **A plan is returned exactly when the ready tasks are distinct.** -/
theorem plan_returns_iff :
    (∃ p, plan env input = .ok p) ↔ (input.candidates.map taskId).Nodup := by
  constructor
  · rintro ⟨p, h⟩
    obtain ⟨edges, heds, _⟩ := plan_eq_ok h
    exact buildConflictGraph_returns_iff.mp ⟨edges, heds⟩
  · intro hnd
    obtain ⟨edges, heds⟩ := buildConflictGraph_returns_iff.mpr hnd
    set selected := (input.select (input.context env edges)).2
    set sorted := selected.insertionSort fun a b => a.rankLe b
    have hperm : sorted.Perm selected := perm_insertionSort _ _
    obtain ⟨lanes, hlns⟩ := assignLanes_returns env.sha input.control.visible_snapshotId 1
      le_rfl sorted
    have hwork := assignLanes_eq_ok hlns
    have hids : lanes.map LaneAssignment.taskId = sorted.map taskId := by
      simpa [LaneAssignment.work, work, Function.comp_def] using congrArg (map Prod.fst) hwork
    have hdist : (lanes.map LaneAssignment.taskId).Nodup := by
      rw [hids, (hperm.map _).nodup_iff]
      exact input.select_nodup hnd _
    have hlen : lanes.length ≤ input.laneLimit env := by
      have hle := (input.select_apart (input.context env edges)).2
      have heq := congrArg length hids
      rw [length_map, length_map, hperm.length_eq] at heq
      exact heq ▸ hle
    obtain ⟨p, hp⟩ := finish_returns edges (input.select (input.context env edges)).1
      (selected.map taskId) hdist hlen
    refine ⟨p, ?_⟩
    rw [plan, heds]
    simp only [bind, Except.bind]
    rw [hlns]
    exact hp

/-! ### The records of a plan

Edges and admission decisions are built without their checks here; the checks of their
constructors hold. -/

/-- `validate_edge`. -/
def ConflictEdge.Valid (edge : ConflictEdge) : Prop :=
  fullmatch IdentifierKind.issue.pattern edge.leftTaskId = true ∧
    fullmatch IdentifierKind.issue.pattern edge.rightTaskId = true ∧
      textLt edge.leftTaskId edge.rightTaskId = true ∧ edge.reasons ≠ []

/-- `validate_decision`. -/
def AdmissionDecision.Valid (decision : AdmissionDecision) : Prop :=
  fullmatch IdentifierKind.issue.pattern decision.taskId = true ∧
    (decision.admitted = true ↔ decision.state = .admitted) ∧
      (decision.admitted = false → decision.reasons ≠ [])

theorem conflictEdge_valid {left right : SchedulerTaskProfile} {edge : ConflictEdge}
    (hne : left.taskId ≠ right.taskId) (h : conflictEdge left right = some edge) :
    edge.Valid := by
  simp only [conflictEdge] at h
  split at h
  · cases h
  rename_i hrsns
  rw [List.isEmpty_iff] at hrsns
  split at h
  · rename_i hle
    cases h
    have hlt := textLt_iff.mpr (lt_of_le_of_ne (textLe_iff.mp hle) hne)
    exact ⟨left.taskId_valid, right.taskId_valid, hlt, hrsns⟩
  · rename_i hle
    cases h
    have hlt : textLt right.taskId left.taskId = true := by simpa [textLe] using hle
    exact ⟨right.taskId_valid, left.taskId_valid, hlt, hrsns⟩

theorem conflictEdges_valid (h : (profiles.map taskId).Nodup) :
    ∀ edge ∈ conflictEdges profiles, edge.Valid := by
  induction profiles with
  | nil => simp [conflictEdges]
  | cons _ _ ih =>
    rw [map_cons, nodup_cons] at h
    intro edge hedge
    rw [conflictEdges, mem_append, mem_filterMap] at hedge
    rcases hedge with ⟨right, hright, hedge⟩ | hedge
    · refine conflictEdge_valid (fun heq => h.1 ?_) hedge
      rw [heq]
      exact mem_map_of_mem hright
    · exact ih h.2 edge hedge

/-- A rejection names its reasons. -/
theorem preAdmission_valid {decision : BackpressureDecision} {registry : ResourceRegistrySnapshot}
    {now : Instant} {rejected : AdmissionDecision}
    (h : preAdmission decision registry now candidate = some rejected) : rejected.Valid := by
  have hid := candidate.taskId_valid
  simp only [preAdmission] at h
  split at h
  · cases h
    exact ⟨hid, by simp, by simp⟩
  split at h
  · cases h
    exact ⟨hid, by simp, by simp⟩
  split at h
  · cases h
    exact ⟨hid, by simp, by simp⟩
  split at h
  · cases h
    exact ⟨hid, by simp, by simp⟩
  split at h
  · rename_i hrsns
    cases h
    refine ⟨hid, ?_, fun _ => by simpa using hrsns⟩
    split <;> simp
  · cases h

theorem PlanInput.admission_valid (input : PlanInput) (edges : List ConflictEdge)
    (selectedIds : List String) (candidate : SchedulerTaskProfile) :
    (input.admission edges selectedIds candidate).Valid := by
  have hid := candidate.taskId_valid
  rw [admission]
  split
  · rename_i h
    exact preAdmission_valid h
  split
  · exact ⟨hid, by simp, by simp⟩
  simp only []
  split
  · rename_i hconflict
    exact ⟨hid, by simp, fun _ => by simpa using hconflict⟩
  · exact ⟨hid, by simp, by simp⟩

end

/-! ### Safe plans -/

/-- The lanes of a plan are pairwise not adjacent in its conflict graph, they are at most as
many as its limit, and on every pool that one of them claims, all their claims fit next to
the usage of the active leases. -/
structure SchedulerPlan.Safe (p : SchedulerPlan) (registry : ResourceRegistrySnapshot)
    (now : Instant) : Prop where
  apart : p.lanes.Pairwise fun a b => hasEdge p.conflicts a.taskId b.taskId = false
  within : p.lanes.length ≤ p.laneLimit
  fits : ∀ lane ∈ p.lanes, ∀ claim ∈ lane.claims, ∀ pool,
    registry.poolOf claim.resourceKey = some pool →
      registry.capacityUsage now claim.resourceKey +
        claimedUnits (p.lanes.flatMap LaneAssignment.claims) claim.resourceKey ≤
          pool.allocatableUnits

variable {sorted : List SchedulerTaskProfile}

/-- The lanes of a plan claim what the profiles that they are made of do. -/
theorem SchedulerPlan.flatMap_claims (hwork : p.lanes.map LaneAssignment.work = sorted.map work) :
    p.lanes.flatMap LaneAssignment.claims = sorted.flatMap claims := by
  simpa [flatMap_map, LaneAssignment.work, work] using congrArg (flatMap Prod.snd) hwork

/-- A plan is safe when its selection is. -/
theorem SchedulerPlan.safe_iff {env : PlannerEnv} {input : PlanInput} {edges : List ConflictEdge} (hconflicts : p.conflicts = edges)
    (hlim : p.laneLimit = input.laneLimit env)
    (hwork : p.lanes.map LaneAssignment.work = sorted.map work) :
    p.Safe input.registry input.now ↔ (input.context env edges).Safe sorted := by
  have hcls := p.flatMap_claims hwork
  have happart : (p.lanes.Pairwise fun a b => hasEdge p.conflicts a.taskId b.taskId = false) ↔
      sorted.Pairwise fun a b => hasEdge edges a.taskId b.taskId = false := by
    have hmap := congrArg (List.Pairwise fun a b => hasEdge edges a.1 b.1 = false) hwork
    rw [pairwise_map, pairwise_map] at hmap
    rw [hconflicts]
    exact hmap.to_iff
  have hlen : p.lanes.length = sorted.length := by simpa using congrArg length hwork
  constructor
  · rintro ⟨hp, hwi, hfits⟩
    rw [hlen, hlim] at hwi
    refine ⟨happart.mp hp, hwi, ?_⟩
    intro claim hcl limit hcap
    obtain ⟨pool, hpool, rfl⟩ := Option.map_eq_some_iff.mp hcap
    rw [← hcls] at hcl ⊢
    obtain ⟨lane, hlane, hmem⟩ := mem_flatMap.mp hcl
    exact hfits lane hlane claim hmem pool hpool
  · rintro ⟨hp, hwi, hfits⟩
    refine ⟨happart.mpr hp, by rwa [hlen, hlim], ?_⟩
    intro lane hlane claim hmem pool hpool
    rw [hcls]
    refine hfits claim ?_ pool.allocatableUnits (Option.map_eq_some_iff.mpr ⟨pool, hpool, rfl⟩)
    rw [← hcls]
    exact mem_flatMap.mpr ⟨lane, hlane, hmem⟩

/-- The run does not reach the greedy search, or the greedy search meets no task whose claims
on a pool fit one by one but not together. -/
def PlanInput.greedyAccumulates (input : PlanInput) (env : PlannerEnv) : Bool :=
  match buildConflictGraph input.candidates with
  | .error _ => true
  | .ok edges =>
    !input.usesGreedy (input.context env edges) || input.claimsAccumulate (input.context env edges)

theorem PlanInput.select_safe_iff_of_graph {env : PlannerEnv} {input : PlanInput}
    {edges : List ConflictEdge} (h : buildConflictGraph input.candidates = .ok edges) :
    (input.context env edges).Safe (input.select (input.context env edges)).2 ↔
      input.greedyAccumulates env = true := by
  rw [select_safe_iff, greedyAccumulates, h]
  cases hgreedy : input.usesGreedy (input.context env edges) <;> simp [hgreedy]

/-- **Which plans are safe.** The exhaustive search and the optimizer's answers are safe; the
greedy search is as long as it meets no task whose claims fit one by one but not together. -/
theorem plan_safe_iff (env : PlannerEnv) (input : PlanInput) (p : SchedulerPlan)
    (h : plan env input = .ok p) :
    p.Safe input.registry input.now ↔ input.greedyAccumulates env = true := by
  obtain ⟨edges, heds, hconflicts, hlim, hwork⟩ := plan_eq_ok h
  have hperm := perm_insertionSort (fun a b => a.rankLe b)
    (input.select (input.context env edges)).2
  rw [SchedulerPlan.safe_iff hconflicts hlim hwork, ← select_safe_iff_of_graph heds]
  exact ⟨fun hsafe => hsafe.perm hperm, fun hsafe => hsafe.perm hperm.symm⟩

/-- A claim on two units of a GPU. -/
def gpuClaim (accessMode : AccessMode) : ResourceClaim :=
  { resourceKey := "gpu:0", resourceType := .gpu, accessMode := accessMode, quantity := 2,
    key_valid := ⟨"gpu:0", by decide⟩, quantity_valid := two_units_valid }

/-- A registry with a pool of three GPU units and no leases. -/
def gpuRegistry : ResourceRegistrySnapshot where
  registryId := String.ofList (Sha256.polynomial.hexdigest "")
  pools := [{ resourceKey := "gpu:0", resourceType := .gpu, capacityUnits := 3,
              key_valid := by decide, reserve_valid := by decide }]
  activeLeases := []
  observedAtUtc := 0
  registryId_valid := Sha256.polynomial.hexdigest_registryId ""
  pools_nodup := by decide

def readyPair : ControlSnapshot where
  snapshotId := "CTRL-0123456789ABCDEF0123"
  projectId := "PROJECT-PIPELINE"
  readyWork := ["PP-TASK-000001", "PP-TASK-000002"]
  snapshotId_valid := by decide
  projectId_valid := by decide

theorem first_task_valid : fullmatch issue.pattern "PP-TASK-000001" = true := by
  decide

theorem first_rank_valid : 1 ≤ 1 := le_rfl

/-- The first task with the claims that are given, and a second one without claims. -/
def gpuProfiles (claims : List ResourceClaim)
    (h : (claims.map ResourceClaim.identity).Nodup) : List SchedulerTaskProfile :=
  [{ taskId := "PP-TASK-000001", sequenceRank := 1, utilityScore := 5, claims := claims,
     taskId_valid := first_task_valid, rank_valid := first_rank_valid, claims_valid := h },
    { taskId := "PP-TASK-000002", sequenceRank := 2, utilityScore := 3,
      taskId_valid := by decide, rank_valid := by decide, claims_valid := by decide }]

/-- The planner with an exact product. -/
def exactEnv : PlannerEnv where
  sha := .polynomial
  floorProduct lanes fraction := ((lanes : ℚ) * fraction).floor.toNat

/-- Planning the two tasks greedily: the exhaustive search takes one candidate only, and the
optimizer is not available. -/
def gpuInput (claims : List ResourceClaim) (h : (claims.map ResourceClaim.identity).Nodup) :
    PlanInput where
  control := readyPair
  profiles := gpuProfiles claims h
  registry := gpuRegistry
  now := 0
  exactCandidateLimit := 1
  optimizer := { available := false, selected := none }

/-- A task with a shared and an exclusive claim on two units each is planned on three. -/
theorem plan_oversubscribes :
    ∃ p, plan exactEnv (gpuInput [gpuClaim .shared, gpuClaim .exclusive] (by decide)) = .ok p ∧
      ¬ p.Safe gpuRegistry 0 := by
  have hreturns : ∃ p, plan exactEnv
      (gpuInput [gpuClaim .shared, gpuClaim .exclusive] (by decide)) = .ok p :=
    plan_returns_iff.mpr (by decide)
  obtain ⟨p, hp⟩ := hreturns
  obtain ⟨edges, heds, hconflicts, hlim, hwork⟩ := plan_eq_ok hp
  obtain rfl : [] = edges := Except.ok.inj heds
  refine ⟨p, hp, (SchedulerPlan.safe_iff hconflicts hlim hwork).not.mpr ?_⟩
  rw [← selectionIsValid_iff]
  decide +kernel

/-- One shared claim fits. -/
theorem plan_safe_gpu :
    ∃ p, plan exactEnv (gpuInput [gpuClaim .shared] (by decide)) = .ok p ∧
      p.Safe gpuRegistry 0 := by
  have hreturns : ∃ p, plan exactEnv (gpuInput [gpuClaim .shared] (by decide)) = .ok p :=
    plan_returns_iff.mpr (by decide)
  obtain ⟨p, hp⟩ := hreturns
  exact ⟨p, hp, (plan_safe_iff _ _ p hp).mpr (by decide +kernel)⟩

end ProjectPipeline
