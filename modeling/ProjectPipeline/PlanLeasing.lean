import ProjectPipeline.Leasing
import ProjectPipeline.PlanSafety

/-!
# Leasing the Lanes of a Plan

A plan is made on a snapshot of the lease store; afterwards the tasks of its lanes acquire
their claims from that store, each for a fresh holder. Planner and store decide the same
question twice. The conflict graph keeps the claims of different lanes apart and the
admission keeps them apart from the active leases, but the claims of one task are never
compared with each other by the planner, while `acquire_bundle` refuses a claim without a
pool that conflicts with an earlier one of the same bundle.

## Main results

* `Reachable.coherent`: in every store that the calls produce, a row that reads as active
  holds an active lease, and tokens are positive.
* `PlannedOn.acquireAll_iff`: which plans can be leased, in any order of their lanes.
* `lanes_leasable_iff`: for which profiles every plan can be leased.
-/

namespace ProjectPipeline

open SchedulerStore List LaneAssignment PlanInput

/-! ### The states of the store -/

/-- The stores that the calls produce. A renewal or a release may have read the lease in any
earlier state, so that overlapping calls are covered. -/
inductive Reachable (sha : Sha256) : SchedulerStore → Prop
  | empty : Reachable sha ⟨.empty, .empty, .empty⟩
  | registerPools {s : SchedulerStore} (pools : List ResourcePool) :
      Reachable sha s → Reachable sha (s.registerPools pools)
  | acquire {s : SchedulerStore} (req : AcquireRequest) :
      Reachable sha s → Reachable sha (s.acquireBundle sha req).2
  | renew {read s : SchedulerStore} {req : RenewRequest} {renewed : ResourceLease} :
      Reachable sha read → read.renewRead req = .ok renewed →
        Reachable sha s → Reachable sha (s.renewWrite req.leaseId renewed)
  | release {read s : SchedulerStore} {req : ReleaseRequest} {released : ResourceLease} :
      Reachable sha read → read.releaseRead req = .ok (.release released) →
        Reachable sha s → Reachable sha (s.releaseWrite req.leaseId req.now released)

/-- A row that reads as active holds an active lease, and the next tokens are positive. -/
structure Coherent (s : SchedulerStore) : Prop where
  active : ∀ row ∈ s.leases.rows, ∀ t, row.activeAt t = true → row.payload.activeAt t = true
  tokens : ∀ key, 1 ≤ s.nextToken key

variable {s s' : SchedulerStore} {left right : SchedulerTaskProfile}

section

variable (h : Coherent s)
include h

/-- A leased claim keeps the store coherent. -/
theorem Coherent.created {req : AcquireRequest} {claim : ResourceClaim} {lease : ResourceLease} (hnew : SchedulerStore.Created s req claim lease s') : Coherent s' where
  active := by
    rw [hnew.rows, forall_mem_append, forall_mem_singleton]
    exact ⟨h.active, fun t hact => hact⟩
  tokens key := by
    rw [nextToken_congr hnew.fencingTokens, nextToken_storeToken]
    have hle := h.tokens key
    split <;> omega

theorem Coherent.acquire (sha : Sha256) (req : AcquireRequest) :
    Coherent (s.acquireBundle sha req).2 := by
  rcases s.acquireBundle_cases sha req with hsame | ⟨active, created, s', _, hloop, hs'⟩
  · rwa [hsame]
  · rw [hs']
    exact acquireClaims_inv (P := fun _ s => Coherent s)
      (fun _ _ _ _ _ _ hP => hP) (fun _ _ _ _ _ _ _ hnew hP => hP.created (createLease_eq_ok hnew)) h hloop

/-- A renewal writes expiry and lease together. -/
theorem Coherent.renew {read : SchedulerStore} {req : RenewRequest} {renewed : ResourceLease} (hread : read.renewRead req = .ok renewed) :
    Coherent (s.renewWrite req.leaseId renewed) where
  active row hrow t hact := by
    rw [renewWrite, Table.mem_updateWhere] at hrow
    obtain ⟨old, hold, rfl⟩ := hrow
    split at hact
    · rename_i hid
      obtain ⟨stored, _, _, hlive, _, _, hrenewed⟩ := renewRead_eq_ok hread
      have hrel : renewed.releasedAtUtc = none := by
        rw [hrenewed]
        exact (ResourceLease.activeAt_iff.mp hlive).1
      rw [if_pos hid]
      rw [LeaseRow.activeAt, Bool.and_eq_true, decide_eq_true_eq] at hact
      exact ResourceLease.activeAt_iff.mpr ⟨hrel, hact.2⟩
    · rename_i hid
      rw [if_neg hid]
      exact h.active old hold t hact
  tokens := h.tokens

/-- A released row is not active. -/
theorem Coherent.release (leaseId : String) (now : Instant)
    (released : ResourceLease) : Coherent (s.releaseWrite leaseId now released) where
  active row hrow t hact := by
    rw [releaseWrite, Table.mem_updateWhere] at hrow
    obtain ⟨old, hold, rfl⟩ := hrow
    split at hact
    · cases hact
    · rename_i hid
      rw [if_neg hid]
      exact h.active old hold t hact
  tokens := h.tokens

end

/-- **Every store that the calls produce is coherent.** -/
theorem Reachable.coherent {sha : Sha256} (h : Reachable sha s) : Coherent s := by
  induction h with
  | empty =>
    refine ⟨by simp, fun key => ?_⟩
    rw [nextToken, Table.find?_eq_none_iff.mpr (by simp)]
  | registerPools pools _ ih =>
    refine ⟨?_, fun key => ?_⟩
    · rw [registerPools_leases]
      exact ih.active
    · rw [nextToken_congr (registerPools_fencingTokens _ pools)]
      exact ih.tokens key
  | acquire req _ ih => exact ih.acquire sha req
  | renew _ hread _ _ ih => exact ih.renew hread
  | release _ _ _ _ ih => exact ih.release _ _ _

/-! ### What the planner compares -/

theorem hasEdge_append (xs ys : List ConflictEdge) (a b : String) :
    hasEdge (xs ++ ys) a b = (hasEdge xs a b || hasEdge ys a b) :=
  any_append

/-- Tasks with conflicting claims have an edge. -/
theorem exists_conflictEdge {a b : ResourceClaim} (ha : a ∈ left.claims) (hb : b ∈ right.claims)
    (h : a.conflictsWith b = true) :
    ∃ edge, conflictEdge left right = some edge ∧
      hasEdge [edge] left.taskId right.taskId = true := by
  have hrsns : conflictReasons left right ≠ [] := by
    rw [conflictReasons, ne_eq, sortedSet_eq_nil_iff]
    refine List.ne_nil_of_mem (a := conflictReason a b) ?_
    exact List.mem_flatMap.mpr ⟨a, ha, List.mem_map.mpr ⟨b, List.mem_filter.mpr ⟨hb, h⟩, rfl⟩⟩
  simp only [conflictEdge, List.isEmpty_iff, if_neg hrsns]
  split
  · exact ⟨_, rfl, by simp [hasEdge]⟩
  · exact ⟨_, rfl, by simp [hasEdge]⟩

/-- Conflicting claims of different tasks make the tasks adjacent. -/
theorem hasEdge_conflictEdges {profiles : List SchedulerTaskProfile} (hleft : left ∈ profiles)
    (hright : right ∈ profiles) (hne : left.taskId ≠ right.taskId) {a b : ResourceClaim}
    (ha : a ∈ left.claims) (hb : b ∈ right.claims) (h : a.conflictsWith b = true) :
    hasEdge (conflictEdges profiles) left.taskId right.taskId = true := by
  -- The edge is made when the loop reaches the first of the two tasks.
  have hfst : ∀ {first other : SchedulerTaskProfile} {rest : List SchedulerTaskProfile}
      {c d : ResourceClaim}, other ∈ rest → c ∈ first.claims → d ∈ other.claims →
      c.conflictsWith d = true →
      hasEdge (rest.filterMap (conflictEdge first)) first.taskId other.taskId = true := by
    intro first other rest c d hoth hc hd hcd
    obtain ⟨edge, hedge, hhas⟩ := exists_conflictEdge hc hd hcd
    obtain ⟨e, he, hmt⟩ := any_eq_true.mp hhas
    obtain rfl := mem_singleton.mp he
    exact any_eq_true.mpr ⟨e, mem_filterMap.mpr ⟨other, hoth, hedge⟩, hmt⟩
  induction profiles with
  | nil => exact absurd hleft not_mem_nil
  | cons _ _ ih =>
    rw [conflictEdges, hasEdge_append, Bool.or_eq_true]
    rcases mem_cons.mp hleft with rfl | hl
    · rcases mem_cons.mp hright with rfl | hr
      · exact absurd rfl hne
      · exact .inl (hfst hr ha hb h)
    · rcases mem_cons.mp hright with rfl | hr
      · left
        rw [SelectionContext.hasEdge_comm]
        exact hfst hl hb ha (by rw [ResourceClaim.conflictsWith_comm]; exact h)
      · exact .inr (ih hl hr)

/-- Tasks that are not adjacent in the conflict graph have no conflicting claims. -/
theorem conflictsWith_of_not_hasEdge {profiles : List SchedulerTaskProfile}
    {edges : List ConflictEdge} (heds : buildConflictGraph profiles = .ok edges)
    (hleft : left ∈ profiles) (hright : right ∈ profiles) (hne : left.taskId ≠ right.taskId)
    (hap : hasEdge edges left.taskId right.taskId = false) :
    ∀ a ∈ left.claims, ∀ b ∈ right.claims, a.conflictsWith b = false := by
  intro a ha b hb
  by_contra hconflict
  rw [Bool.not_eq_false] at hconflict
  rw [buildConflictGraph] at heds
  split at heds
  · cases heds
    set ordered := profiles.insertionSort fun a b => textLe a.taskId b.taskId
    have hperm : ordered.Perm profiles := perm_insertionSort _ _
    have hedge := hasEdge_conflictEdges (hperm.mem_iff.mpr hleft) (hperm.mem_iff.mpr hright) hne ha
      hb hconflict
    obtain ⟨edge, hmem, hmt⟩ := any_eq_true.mp hedge
    refine absurd hmt (any_eq_false.mp hap edge ?_)
    exact (mem_insertionSort _).mpr hmem
  · cases heds

/-- What the admission loop checks of a task, apart from backpressure. -/
def SchedulerTaskProfile.admissible (profile : SchedulerTaskProfile)
    (registry : ResourceRegistrySnapshot) (now : Instant) : Bool :=
  let pathClaims := (profile.claims.filter fun claim => claim.resourceType = .path).map
    ResourceClaim.resourceKey
  profile.policyEligible && profile.workspaceIsolated &&
    (pathClaims.isEmpty || claimIsAdmissible pathClaims) &&
      (registry.admissionReasons now profile.claims).isEmpty

theorem preAdmission_eq_none_iff {decision : BackpressureDecision}
    {registry : ResourceRegistrySnapshot} {now : Instant} {profile : SchedulerTaskProfile} :
    preAdmission decision registry now profile = none ↔
      decision.admitNewWork = true ∧ profile.admissible registry now = true := by
  simp only [preAdmission, SchedulerTaskProfile.admissible]
  cases decision.admitNewWork <;> cases profile.policyEligible <;>
    cases profile.workspaceIsolated <;> simp
  split <;> grind

/-- An admissible task does not conflict with an active lease. -/
theorem SchedulerTaskProfile.admissible_apart {profile : SchedulerTaskProfile}
    {registry : ResourceRegistrySnapshot} {now : Instant}
    (h : profile.admissible registry now = true) :
    ∀ claim ∈ profile.claims, registry.poolOf claim.resourceKey = none →
      ∀ lease ∈ registry.leasesAt now, claim.conflictsWith lease.claim = false := by
  intro claim hcl hpool lease hls
  simp only [SchedulerTaskProfile.admissible, Bool.and_eq_true, List.isEmpty_iff] at h
  have hrsns := List.flatMap_eq_nil_iff.mp (sortedSet_eq_nil_iff.mp h.2) claim hcl
  rw [ResourceRegistrySnapshot.claimReasons, hpool] at hrsns
  simp only at hrsns
  split at hrsns
  · cases hrsns
  · rw [List.map_eq_nil_iff, List.filter_eq_nil_iff] at hrsns
    simpa using hrsns lease hls

/-! ### The store that a plan was made on -/

/-- What a snapshot says about the store: the active leases, and the pools by key. -/
structure Reflects (registry : ResourceRegistrySnapshot) (store : SchedulerStore) (now : Instant)
    (active : List ResourceLease) : Prop where
  read : store.listActiveLeases now = .ok active
  pools : ∀ key, registry.poolOf key = store.pools.find? key
  leases : (registry.leasesAt now).Perm active

/-- A snapshot reflects the store that it leaves behind. -/
theorem Reachable.reflects {sha : Sha256} (hs : Reachable sha s)
    {registryText : List ResourcePool → List ResourceLease → String} {machine : MachineFacts}
    {now : Instant} {registry : ResourceRegistrySnapshot}
    (h : s.registrySnapshot sha registryText machine now = .ok registry) :
    ∃ active, Reflects registry (s.withPools machine) now active := by
  obtain ⟨hpls, active, hact, hperm⟩ := registrySnapshot_eq_ok h
  refine ⟨active, hact, fun key => ?_, ?_⟩
  · refine Option.ext fun pool => ?_
    have hfind : registry.poolOf key = some pool ↔ pool ∈ registry.pools ∧ pool.resourceKey = key :=
      Table.find?_eq_some_iff (t := ⟨registry.pools, registry.pools_nodup⟩)
    rw [hfind, Table.find?_eq_some_iff, hpls.mem_iff]
  · have hall : registry.leasesAt now = registry.activeLeases := by
      rw [ResourceRegistrySnapshot.leasesAt, filter_eq_self]
      intro lease hls
      obtain ⟨row, hrow, hrowactive, rfl⟩ :=
        (mem_listActiveLeases hact).mp (hperm.mem_iff.mp hls)
      rw [(withPools_frame ..).1] at hrow
      exact hs.coherent.active row hrow now hrowactive
    rwa [hall]

/-- The input plans the profiles on the snapshot, at this time. -/
structure PlannedOn (input : PlanInput) (profiles : List SchedulerTaskProfile)
    (registry : ResourceRegistrySnapshot) (now : Instant) : Prop where
  profiles : input.profiles = profiles
  registry : input.registry = registry
  now : input.now = now

/-- The bundles that the lanes acquire: the tasks that have claims, with their claims. -/
def bundles (lanes : List LaneAssignment) : List (String × List ResourceClaim) :=
  (lanes.map LaneAssignment.work).filter fun work => !work.2.isEmpty

theorem mem_bundles {lanes : List LaneAssignment} {task : String × List ResourceClaim} :
    task ∈ bundles lanes ↔ (∃ lane ∈ lanes, lane.work = task) ∧ task.2 ≠ [] := by
  simp [bundles, mem_filter, mem_map]

theorem flatMap_bundles (lanes : List LaneAssignment) :
    (bundles lanes).flatMap Prod.snd = lanes.flatMap claims := by
  induction lanes with
  | nil => rfl
  | cons lane _ ih =>
    rw [bundles, map_cons, filter_cons]
    split
    · exact congrArg (lane.claims ++ ·) ih
    · rename_i hemp
      have hnil : lane.claims = [] := by simpa [work] using hemp
      rw [flatMap_cons, hnil, nil_append]
      exact ih

/-- The claims of the profiles, each with its task. -/
def claimedWork (profiles : List SchedulerTaskProfile) : List (String × ResourceClaim) :=
  profiles.flatMap fun profile => profile.claims.map fun claim => (profile.taskId, claim)

theorem PlanInput.mem_profiles_of_mem_candidates {input : PlanInput}
    {profile : SchedulerTaskProfile} (h : profile ∈ input.candidates) :
    profile ∈ input.profiles := by
  obtain ⟨taskId, _, hprof⟩ := mem_filterMap.mp h
  exact mem_reverse.mp (mem_of_find?_eq_some hprof)

/-- A lane of a plan is of a selected profile. -/
theorem exists_selected_of_lane {p : SchedulerPlan} {selected : List SchedulerTaskProfile}
    (hwork : p.lanes.map work =
      (selected.insertionSort fun a b => a.rankLe b).map SchedulerTaskProfile.work)
    {lane : LaneAssignment} (hlane : lane ∈ p.lanes) :
    ∃ profile ∈ selected, profile.taskId = lane.taskId ∧ profile.claims = lane.claims := by
  have hmem := mem_map_of_mem (f := work) hlane
  rw [hwork] at hmem
  obtain ⟨profile, hprof, heq⟩ := mem_map.mp hmem
  exact ⟨profile, (mem_insertionSort _).mp hprof, congrArg Prod.fst heq, congrArg Prod.snd heq⟩

section Plan

variable {env : PlannerEnv} {input : PlanInput} {p : SchedulerPlan} {store : SchedulerStore}
  {profiles : List SchedulerTaskProfile} {registry : ResourceRegistrySnapshot} {now : Instant}
  {active : List ResourceLease}

section

variable (hinp : PlannedOn input profiles registry now)
include hinp

/-- The planner's accumulated check is the capacity that the store has left. -/
theorem PlannedOn.fits_iff (hreflects : Reflects registry store now active) (env : PlannerEnv)
    (edges : List ConflictEdge) (selected : List SchedulerTaskProfile) :
    (input.context env edges).Fits selected ↔
      store.FitsNextTo (active.map ResourceLease.claim)
        (selected.flatMap SchedulerTaskProfile.claims) := by
  have hcap : (input.context env edges).cap = store.cap := by
    funext key
    rw [SelectionContext.cap, cap, ← hreflects.pools key, ← hinp.registry]
    rfl
  have husage : (input.context env edges).baseUsage =
      claimedUnits (active.map ResourceLease.claim) := by
    funext key
    rw [show (input.context env edges).baseUsage key =
      input.registry.capacityUsage input.now key from rfl, hinp.registry, hinp.now,
      ResourceRegistrySnapshot.capacityUsage, usedUnits_eq]
    exact Packing.load_perm _ _ (hreflects.leases.map _) key
  rw [SelectionContext.Fits, SchedulerStore.FitsNextTo, hcap, husage]

/-- The claims of a plan conflict neither with an active lease nor across lanes. -/
theorem PlannedOn.lanes_apart (hreflects : Reflects registry store now active)
    (hp : plan env input = .ok p) :
    (∀ lane ∈ p.lanes, ∀ claim ∈ lane.claims, ∀ other ∈ active.map ResourceLease.claim,
      store.Compatible other claim) ∧
    ∀ a ∈ p.lanes, ∀ b ∈ p.lanes, a.taskId ≠ b.taskId →
      ∀ first ∈ a.claims, ∀ second ∈ b.claims, store.Compatible first second := by
  obtain ⟨edges, heds, _, _, hwork⟩ := plan_eq_ok hp
  have hsub := input.select_subperm (input.context env edges)
  constructor
  · intro lane hlane claim hcl other hoth hpool
    obtain ⟨profile, hprof, _, hcls⟩ := exists_selected_of_lane hwork hlane
    obtain ⟨_, hadm⟩ := mem_filter.mp (hsub.subset hprof)
    rw [Option.isNone_iff_eq_none, preAdmission_eq_none_iff, hinp.registry, hinp.now] at hadm
    obtain ⟨lease, hls, rfl⟩ := mem_map.mp hoth
    exact SchedulerTaskProfile.admissible_apart hadm.2 claim (hcls ▸ hcl)
      ((hreflects.pools _).trans hpool) lease
      (hreflects.leases.mem_iff.mpr hls)
  · intro a ha b hb hne first hfst second hsnd _
    obtain ⟨pa, hpa, hida, hclaimsa⟩ := exists_selected_of_lane hwork ha
    obtain ⟨pb, hpb, hidb, hclaimsb⟩ := exists_selected_of_lane hwork hb
    rw [← hida, ← hidb] at hne
    have hsymm : Std.Symm fun a b : SchedulerTaskProfile =>
        hasEdge (input.context env edges).edges a.taskId b.taskId = false :=
      ⟨fun x y hxy => (SelectionContext.hasEdge_comm _ y.taskId x.taskId).trans hxy⟩
    have hap := (input.select_apart (input.context env edges)).1.forall hpb hpa
      fun heq => hne (by rw [heq])
    have hmem : ∀ {profile}, profile ∈ (input.select (input.context env edges)).2 →
        profile ∈ input.candidates := fun h => (mem_filter.mp (hsub.subset h)).1
    exact conflictsWith_of_not_hasEdge heds (hmem hpb) (hmem hpa) hne.symm hap second
      (hclaimsb ▸ hsnd) first (hclaimsa ▸ hfst)

/-- The lanes of a plan claim no more than the profiles do. -/
theorem PlannedOn.length_claims_le (hp : plan env input = .ok p) :
    (p.lanes.flatMap claims).length ≤ (claimedWork profiles).length := by
  obtain ⟨edges, heds, _, _, hwork⟩ := plan_eq_ok hp
  set selected := (input.select (input.context env edges)).2 with hsel
  have hnd : selected.Nodup :=
    (input.select_nodup (buildConflictGraph_returns_iff.mp ⟨edges, heds⟩) _).of_map _
  have hsubset : selected ⊆ profiles := by
    intro profile hprof
    have hmem := (input.select_subperm (input.context env edges)).subset hprof
    rw [← hinp.profiles]
    exact mem_profiles_of_mem_candidates (mem_filter.mp hmem).1
  obtain ⟨part, hperm, hsub⟩ := hnd.subperm hsubset
  have hlen : (claimedWork profiles).length =
      (profiles.flatMap SchedulerTaskProfile.claims).length := by
    simp [claimedWork, length_flatMap]
  rw [hlen, p.flatMap_claims hwork,
    ((perm_insertionSort _ selected).flatMap_right SchedulerTaskProfile.claims).length_eq,
    ← (hperm.flatMap_right SchedulerTaskProfile.claims).length_eq]
  exact (hsub.flatMap SchedulerTaskProfile.claims).length_le

/-- **Which plans can be leased**, in any order of the lanes: those whose greedy search, if it
was used, accumulates, and whose lanes have no conflicts among their own claims. -/
theorem PlannedOn.acquireAll_iff (hreflects : Reflects registry store now active)
    (htoks : ∀ key, 1 ≤ store.nextToken key) {holder : String → String}
    (hfr : store.FreshHolders env.sha holder (claimedWork profiles)) (hp : plan env input = .ok p)
    {order : List LaneAssignment} (hord : order.Perm p.lanes) :
    store.acquireAll env.sha holder now (bundles order) = true ↔
      input.greedyAccumulates env = true ∧ ∀ lane ∈ p.lanes, lane.claims ≠ [] →
        (∃ expires, leaseExpiry now 900 = .ok expires) ∧ lane.claims.Pairwise store.Compatible := by
  obtain ⟨edges, heds, _, _, hwork⟩ := plan_eq_ok hp
  set selected := (input.select (input.context env edges)).2 with hsel
  obtain ⟨hheld, hcross⟩ := hinp.lanes_apart hreflects hp
  have hcls : (order.flatMap claims).Perm (selected.flatMap SchedulerTaskProfile.claims) := by
    refine (hord.flatMap_right claims).trans ?_
    rw [p.flatMap_claims hwork]
    exact (perm_insertionSort _ selected).flatMap_right _
  have hdist : (order.map taskId).Nodup :=
    (hord.map _).nodup_iff.mpr p.lanes_nodup
  -- The bundles meet what `acquireAll_iff` asks of the tasks.
  have hnd : ((bundles order).map Prod.fst).Nodup := by
    refine List.Nodup.sublist ?_ hdist
    have hsub := (filter_sublist (l := order.map work)
      (p := fun work => !work.2.isEmpty)).map Prod.fst
    rwa [map_map] at hsub
  have hval : ∀ task ∈ bundles order, fullmatch IdentifierKind.issue.pattern task.1 = true := by
    intro task htask
    obtain ⟨⟨lane, _, rfl⟩, _⟩ := mem_bundles.mp htask
    exact lane.taskId_valid
  have hitems : ∀ task ∈ bundles order, ∀ claim ∈ task.2,
      (task.1, claim) ∈ claimedWork profiles := by
    intro task htask claim hcl
    obtain ⟨⟨lane, hlane, rfl⟩, _⟩ := mem_bundles.mp htask
    obtain ⟨profile, hprof, hid, hpc⟩ :=
      exists_selected_of_lane hwork (hord.mem_iff.mp hlane)
    have hmem := (input.select_subperm (input.context env edges)).subset hprof
    refine mem_flatMap.mpr ⟨profile, ?_, mem_map.mpr ⟨claim, hpc ▸ hcl, ?_⟩⟩
    · rw [← hinp.profiles]
      exact mem_profiles_of_mem_candidates (mem_filter.mp hmem).1
    · rw [hid]
      rfl
  have hlen : ([] : List ResourceLease).length +
      ((bundles order).flatMap Prod.snd).length ≤ (claimedWork profiles).length := by
    rw [flatMap_bundles, (hord.flatMap_right claims).length_eq, length_nil, Nat.zero_add]
    exact hinp.length_claims_le hp
  rw [(SchedulerStore.Leased.refl store env.sha holder now).acquireAll_iff hfr htoks
    hreflects.read hnd (by simp) (fun task htask => (mem_bundles.mp htask).2) hval (by simp)
    hitems hlen, append_nil, flatMap_bundles, leasable_iff]
  -- The three parts of being leasable, one by one.
  have hfits : store.FitsNextTo (active.map ResourceLease.claim)
      (order.flatMap claims) ↔ input.greedyAccumulates env = true := by
    rw [← select_safe_iff_of_graph heds]
    have hiff := hinp.fits_iff hreflects env edges selected
    obtain ⟨happart, hwi⟩ := input.select_apart (input.context env edges)
    constructor
    · exact fun hf => ⟨happart, hwi, hiff.mpr (Packing.Fits.perm hf hcls)⟩
    · exact fun hsafe => Packing.Fits.perm (hiff.mp hsafe.fits) hcls.symm
  have hpairs : (order.flatMap claims).Pairwise store.Compatible ↔
      ∀ lane ∈ p.lanes, lane.claims.Pairwise store.Compatible := by
    rw [pairwise_flatMap]
    refine ⟨fun h lane hlane => h.1 lane (hord.mem_iff.mpr hlane), fun h => ⟨fun lane hlane =>
      h lane (hord.mem_iff.mp hlane), ?_⟩⟩
    refine (pairwise_map.mp hdist).imp_of_mem fun {a b} ha hb hne => ?_
    exact hcross a (hord.mem_iff.mp ha) b (hord.mem_iff.mp hb) hne
  have hoths : ∀ claim ∈ order.flatMap claims,
      ∀ other ∈ active.map ResourceLease.claim, store.Compatible other claim := by
    intro claim hcl
    obtain ⟨lane, hlane, hmem⟩ := mem_flatMap.mp hcl
    exact hheld lane (hord.mem_iff.mp hlane) claim hmem
  constructor
  · rintro ⟨⟨hfit, _, hpairwise⟩, hexpires⟩
    refine ⟨hfits.mp hfit, fun lane hlane hne => ⟨hexpires ?_, hpairs.mp hpairwise lane hlane⟩⟩
    exact ne_nil_of_mem (mem_bundles.mpr ⟨⟨lane, hord.mem_iff.mpr hlane, rfl⟩, hne⟩)
  · rintro ⟨hgreedy, hlns⟩
    refine ⟨⟨hfits.mpr hgreedy, hoths, hpairs.mpr fun lane hlane => ?_⟩, fun hne => ?_⟩
    · by_cases hemp : lane.claims = []
      · rw [hemp]
        exact List.Pairwise.nil
      · exact (hlns lane hlane hemp).2
    · obtain ⟨task, htask⟩ := exists_mem_of_ne_nil _ hne
      obtain ⟨⟨lane, hlane, rfl⟩, hcl⟩ := mem_bundles.mp htask
      exact (hlns lane (hord.mem_iff.mp hlane) hcl).1

end

end Plan

/-! ### Planning one task -/

def readyOne (taskId : String) : ControlSnapshot where
  snapshotId := "CTRL-0123456789ABCDEF0123"
  projectId := "PROJECT-PIPELINE"
  readyWork := [taskId]
  snapshotId_valid := readyPair.snapshotId_valid
  projectId_valid := readyPair.projectId_valid

/-- Planning with one ready task and no further arguments. -/
def planOne (profiles : List SchedulerTaskProfile) (registry : ResourceRegistrySnapshot)
    (now : Instant) (taskId : String) : PlanInput where
  control := readyOne taskId
  profiles := profiles
  registry := registry
  now := now
  optimizer := { available := false, selected := none }

/-- The claims of a profile fit the pools of a registry, next to its active leases. -/
def SchedulerTaskProfile.fits (profile : SchedulerTaskProfile) (registry : ResourceRegistrySnapshot)
    (now : Instant) : Bool :=
  (Packing.charge ResourceClaim.resourceKey ResourceClaim.quantity
    (fun key => (registry.poolOf key).map ResourcePool.allocatableUnits)
    (registry.capacityUsage now) profile.claims).isSome

section One

variable {profiles : List SchedulerTaskProfile} {registry : ResourceRegistrySnapshot}
  {now : Instant} {profile : SchedulerTaskProfile}

theorem candidates_planOne
    (h : (profiles.reverse.find? fun other => other.taskId = profile.taskId) = some profile) :
    (planOne profiles registry now profile.taskId).candidates = [profile] := by
  rw [PlanInput.candidates]
  simp only [planOne, readyOne, filterMap_cons, filterMap_nil, profileById, h]

theorem SelectionContext.exactSelect_singleton {ctx : SelectionContext} (hlane : ctx.laneLimit = 1)
    (hchg : (ctx.chargeAll [profile]).isSome = true) : ctx.exactSelect [profile] = [profile] := by
  have hsizes : range' 1 (min ctx.laneLimit [profile].length) = [1] := by
    rw [hlane]
    rfl
  have hbetter : ctx.better none [profile] = some [profile] := by
    simp only [better, hasConflict, any_nil, Bool.or_false, Bool.false_or,
      Option.isNone_iff_eq_none]
    rw [if_neg (Option.isSome_iff_ne_none.mp hchg)]
  rw [exactSelect]
  simp only [insertionSort_cons, insertionSort_nil, orderedInsert_nil, hsizes,
    flatMap_singleton, combinations, map_singleton, append_nil, foldl_cons,
    foldl_nil, hbetter, Option.getD_some]

/-- A ready task alone is planned if it is admissible and fits. -/
theorem select_planOne (env : PlannerEnv)
    (h : (profiles.reverse.find? fun other => other.taskId = profile.taskId) = some profile)
    (hadmissible : profile.admissible registry now = true)
    (hfits : profile.fits registry now = true) (edges : List ConflictEdge) :
    ((planOne profiles registry now profile.taskId).select
      ((planOne profiles registry now profile.taskId).context env edges)).2 = [profile] := by
  set input := planOne profiles registry now profile.taskId with hinp
  have hcandidates : input.candidates = [profile] := candidates_planOne h
  have hdec : input.decision = evaluateBackpressure { queueDepth := 1 } {} := by
    rw [decision, hcandidates]
    rfl
  have hopen : input.decision.admitNewWork = true := by
    rw [hdec]
    decide +kernel
  have hlane : input.laneLimit env = 1 := by
    have hnatural : input.naturalLimit = 1 := by
      rw [naturalLimit, hcandidates]
      rfl
    have hfraction : 0 < input.decision.laneFraction := by
      rw [hdec]
      decide +kernel
    rw [laneLimit, hnatural, hopen]
    rcases Nat.eq_zero_or_pos (env.floorProduct 1 input.decision.laneFraction) with hzero | hpos
    · simp [hzero, hfraction]
    · have hmin : min 1 (env.floorProduct 1 input.decision.laneFraction) = 1 := by omega
      simp [hmin]
  have hprelim : input.prelim = [profile] := by
    rw [prelim, hcandidates, filter_cons, if_pos]
    · rfl
    · rw [Option.isNone_iff_eq_none, preAdmission_eq_none_iff]
      exact ⟨hopen, hadmissible⟩
  have hchg : ((input.context env edges).chargeAll [profile]).isSome = true := by
    rw [SelectionContext.chargeAll, flatMap_singleton]
    exact hfits
  have hcontext : (input.context env edges).laneLimit = 1 := hlane
  have hfew : [profile].length ≤ input.exactCandidateLimit := show 1 ≤ 18 by decide
  simp only [select, hprelim, hcontext, if_pos hfew,
    SelectionContext.exactSelect_singleton hcontext hchg]
  rfl

end One

/-! ### Leasing every plan -/

def smallMachine : MachineFacts where
  cpuCount := 4
  diskMb := 1000
  diskReserve := 50
  memoryMb := none
  memoryReserve := 0
  disk_pos := by decide

def directoryClaim : ResourceClaim :=
  { resourceKey := "src", resourceType := .path, key_valid := ⟨"src", by decide⟩ }

def fileClaim : ResourceClaim :=
  { resourceKey := "src/app.py", resourceType := .path, key_valid := ⟨"src/app.py", by decide⟩ }

/-- A task with the claims that are given. -/
def pathProfile (claims : List ResourceClaim)
    (h : (claims.map ResourceClaim.identity).Nodup) : SchedulerTaskProfile :=
  { taskId := "PP-TASK-000001", sequenceRank := 1, utilityScore := 5, claims := claims,
    taskId_valid := first_task_valid, rank_valid := first_rank_valid, claims_valid := h }

def emptyStore : SchedulerStore := ⟨.empty, .empty, .empty⟩

def localRegistry : ResourceRegistrySnapshot where
  registryId := String.ofList (Sha256.polynomial.hexdigest "")
  pools := (localResourcePools smallMachine).insertionSort
    fun a b => textLe a.resourceKey b.resourceKey
  activeLeases := []
  observedAtUtc := 0
  registryId_valid := Sha256.polynomial.hexdigest_registryId ""
  pools_nodup := by decide

theorem emptyStore_snapshot :
    emptyStore.registrySnapshot .polynomial (fun _ _ => "") smallMachine 0 = .ok localRegistry := by
  rfl

/-- With one profile there is no greedy search. -/
theorem PlanInput.greedyAccumulates_of_singleton {env : PlannerEnv} {input : PlanInput}
    {profile : SchedulerTaskProfile} (h : input.profiles = [profile]) :
    input.greedyAccumulates env = true := by
  rw [greedyAccumulates]
  cases hgraph : buildConflictGraph input.candidates with
  | error => rfl
  | ok edges =>
    have hnd : input.candidates.Nodup :=
      (buildConflictGraph_returns_iff.mp ⟨edges, hgraph⟩).of_map _
    have hsubset : input.candidates ⊆ [profile] := by
      intro candidate hcand
      rw [← h]
      exact mem_profiles_of_mem_candidates hcand
    have hlen : input.prelim.length ≤ input.exactCandidateLimit :=
      (length_filter_le _ _).trans
        ((hnd.subperm hsubset).length_le.trans input.exactCandidateLimit_pos)
    simp [usesGreedy, hlen]

end ProjectPipeline
