import ProjectPipeline.Registry

/-!
# Leasing to Fresh Holders

What decides whether a sequence of `acquire_bundle` calls succeeds, when every task comes
with a holder that the store has not seen. A claim is admitted next to the claims that are
held already, so the calls succeed exactly when the claims of all tasks, one after another,
are admitted (`Leasable`): on a pool the totals decide, and any other claim must not conflict
with what is held before it.

Lease identifiers are digests. That the identifiers drawn in the course of the calls are new
is an assumption on the digest function (`FreshHolders`), restricted to those identifiers.

## Main results

* `SchedulerStore.leasable_iff`: being leasable one after another, in terms of totals and
  pairs of claims.
* `SchedulerStore.Leased.acquireAll_iff`: the calls succeed exactly when the claims are leasable and
  the expiry of a lease can be represented.
-/

namespace ProjectPipeline

open SchedulerStore List LeaseRow IdentifierKind

/-! ### Claims one after another -/

def ResourceLease.work (lease : ResourceLease) : String × ResourceClaim :=
  (lease.taskId, lease.claim)

namespace SchedulerStore

variable {s : SchedulerStore}

/-- The capacity of a key, if it has a pool. -/
def cap (s : SchedulerStore) (resourceKey : String) : Option ℕ :=
  (s.pools.find? resourceKey).map ResourcePool.allocatableUnits

/-- A claim without a pool does not conflict with an earlier one. -/
def Compatible (s : SchedulerStore) (earlier later : ResourceClaim) : Prop :=
  s.pools.find? later.resourceKey = none → later.conflictsWith earlier = false

instance (s : SchedulerStore) (earlier later : ResourceClaim) :
    Decidable (s.Compatible earlier later) :=
  inferInstanceAs (Decidable (_ → _))

/-- A claim is admitted next to the claims that are held. -/
def Admits (s : SchedulerStore) (held : List ResourceClaim) (claim : ResourceClaim) : Prop :=
  (∀ limit, s.cap claim.resourceKey = some limit →
    claimedUnits held claim.resourceKey + claim.quantity ≤ limit) ∧
  ∀ other ∈ held, s.Compatible other claim

/-- The claims are admitted one after another, each next to those before it. -/
def Leasable (s : SchedulerStore) : List ResourceClaim → List ResourceClaim → Prop
  | _, [] => True
  | held, claim :: claims => s.Admits held claim ∧ s.Leasable (held ++ [claim]) claims

theorem usedUnits_eq (resourceKey : String) (leases : List ResourceLease) :
    usedUnits resourceKey leases = claimedUnits (leases.map ResourceLease.claim) resourceKey := by
  rw [usedUnits, claimedUnits, Packing.load, totalWhere_map]
  rfl

/-- The store refuses nothing that is admitted. -/
theorem refusal_eq_none_iff_admits {held : List ResourceLease} {claim : ResourceClaim} :
    s.refusal held claim = none ↔ s.Admits (held.map ResourceLease.claim) claim := by
  rw [refusal_eq_none_iff, Admits]
  refine and_congr ?_ ?_
  · rw [usedUnits_eq, cap]
    simp only [Option.map_eq_some_iff]
    constructor
    · rintro h _ ⟨pool, hpool, rfl⟩
      exact h pool hpool
    · intro h pool hpool
      exact h _ ⟨pool, hpool, rfl⟩
  · simp only [forall_mem_map, Compatible]
    exact ⟨fun h lease hls hpool => h hpool lease hls,
      fun h hpool lease hls => h lease hls hpool⟩

variable {held claims held' : List ResourceClaim}

theorem Admits.perm {claim : ResourceClaim} (h : s.Admits held claim)
    (hperm : held.Perm held') : s.Admits held' claim := by
  refine ⟨fun limit hlim => ?_, fun other hoth => h.2 other (hperm.mem_iff.mpr hoth)⟩
  rw [claimedUnits, ← Packing.load_perm _ _ hperm]
  exact h.1 limit hlim

/-- The order of what is held does not matter. -/
theorem Leasable.perm (h : s.Leasable held claims)
    (hperm : held.Perm held') : s.Leasable held' claims := by
  induction claims generalizing held held' with
  | nil => trivial
  | cons claim _ ih => exact ⟨h.1.perm hperm, ih h.2 (hperm.append_right [claim])⟩

theorem leasable_append {xs ys : List ResourceClaim} :
    s.Leasable held (xs ++ ys) ↔ s.Leasable held xs ∧ s.Leasable (held ++ xs) ys := by
  induction xs generalizing held with
  | nil => simp [Leasable]
  | cons _ _ ih =>
    rw [cons_append, Leasable, Leasable, ih, append_assoc, singleton_append, and_assoc]

/-- The claims fit next to what is held. -/
def FitsNextTo (s : SchedulerStore) (held claims : List ResourceClaim) : Prop :=
  Packing.Fits ResourceClaim.resourceKey ResourceClaim.quantity s.cap (claimedUnits held) claims

/-- The first claim of a list that fits can be moved to what is held. -/
theorem fitsNextTo_cons_iff {claim : ResourceClaim} :
    s.FitsNextTo held (claim :: claims) ↔
      (∀ limit, s.cap claim.resourceKey = some limit →
        claimedUnits held claim.resourceKey + claim.quantity ≤ limit) ∧
      s.FitsNextTo (held ++ [claim]) claims := by
  have hmoved : ∀ k, claimedUnits (held ++ [claim]) k =
      claimedUnits held k + if claim.resourceKey = k then claim.quantity else 0 := by
    intro k
    rw [claimedUnits, Packing.load_append, Packing.load_cons]
    rfl
  cases hcap : s.cap claim.resourceKey with
  | none =>
    have hsame : ∀ k limit, s.cap k = some limit →
        claimedUnits (held ++ [claim]) k = claimedUnits held k := by
      intro k limit hlim
      have hne : claim.resourceKey ≠ k := by
        rintro rfl
        rw [hcap] at hlim
        cases hlim
      rw [hmoved, if_neg hne, Nat.add_zero]
    rw [FitsNextTo, Packing.fits_cons_iff_of_unbounded hcap]
    simp only [reduceCtorEq, false_implies, implies_true, true_and]
    exact ⟨fun h => h.congr hsame, fun h => h.congr fun k limit hk => (hsame k limit hk).symm⟩
  | some =>
    have hsame : ∀ k, claimedUnits (held ++ [claim]) k =
        Function.update (claimedUnits held) claim.resourceKey
          (claimedUnits held claim.resourceKey + claim.quantity) k := by
      intro k
      rw [hmoved]
      by_cases hk : claim.resourceKey = k
      · subst hk
        rw [if_pos rfl, Function.update_self]
      · rw [if_neg hk, Function.update_of_ne (Ne.symm hk), Nat.add_zero]
    rw [FitsNextTo, Packing.fits_cons_iff_of_bounded hcap, FitsNextTo, funext hsame]
    simp

/-- **What decides whether claims can be leased one after another**: the totals on the
pools, and no conflict of a claim without a pool with what is held before it. -/
theorem leasable_iff :
    s.Leasable held claims ↔
      s.FitsNextTo held claims ∧ (∀ claim ∈ claims, ∀ other ∈ held, s.Compatible other claim) ∧
        claims.Pairwise s.Compatible := by
  induction claims generalizing held with
  | nil => simp [Leasable, FitsNextTo, Packing.Fits]
  | cons _ _ ih =>
    rw [Leasable, Admits, ih, fitsNextTo_cons_iff, pairwise_cons, forall_mem_cons]
    simp only [forall_mem_append, forall_mem_singleton]
    constructor
    · rintro ⟨⟨hfit, hheld⟩, hfits, hcomp, hpairs⟩
      exact ⟨⟨hfit, hfits⟩, ⟨hheld, fun c hc => (hcomp c hc).1⟩,
        fun c hc => (hcomp c hc).2, hpairs⟩
    · rintro ⟨⟨hfit, hfits⟩, ⟨hheld, hoths⟩, hfst, hpairs⟩
      exact ⟨⟨hfit, hheld⟩, hfits, fun c hc => ⟨hoths c hc, hfst c hc⟩, hpairs⟩

/-! ### Fresh holders -/

/-- The identifier of the lease of a task on a key under the `drawn`-th next token. -/
def leaseIdFor (s : SchedulerStore) (sha : Sha256) (holder : String → String) (taskId : String)
    (resourceKey : String) (drawn : ℕ) : Except PyError String :=
  schedulerIdentifier sha .lease
    [taskId, holder taskId, resourceKey, toString (s.nextToken resourceKey + drawn)]

/-- The holders of the tasks are valid, the store holds no lease of them, and the identifiers
of the leases that may be drawn for the `work` are new and distinct. -/
structure FreshHolders (s : SchedulerStore) (sha : Sha256) (holder : String → String)
    (work : List (String × ResourceClaim)) : Prop where
  visible : ∀ item ∈ work, Visible (holder item.1)
  short : ∀ item ∈ work, (holder item.1).length ≤ 191
  unseen : ∀ item ∈ work, ∀ row ∈ s.leases.rows, row.payload.holderId ≠ holder item.1
  unused : ∀ item ∈ work, ∀ drawn < work.length, ∀ row ∈ s.leases.rows,
    s.leaseIdFor sha holder item.1 item.2.resourceKey drawn ≠ .ok row.leaseId
  distinct : ∀ item ∈ work, ∀ item' ∈ work, ∀ drawn < work.length, ∀ drawn' < work.length,
    s.leaseIdFor sha holder item.1 item.2.resourceKey drawn =
        s.leaseIdFor sha holder item'.1 item'.2.resourceKey drawn' →
      item.1 = item'.1 ∧ item.2.resourceKey = item'.2.resourceKey ∧ drawn = drawn'

/-- How many of the leases are on a key. -/
def drawnOn (leases : List ResourceLease) (resourceKey : String) : ℕ :=
  leases.countP fun lease => lease.claim.resourceKey = resourceKey

/-- The store `w` results from `s` by leasing `new`, in this order. -/
structure Leased (s : SchedulerStore) (sha : Sha256) (holder : String → String) (now : Instant)
    (new : List ResourceLease) (w : SchedulerStore) : Prop where
  pools : w.pools = s.pools
  tokens : ∀ key, w.nextToken key = s.nextToken key + drawnOn new key
  rows : w.leases.rows = s.leases.rows ++ new.map LeaseRow.ofLease
  ids : ∀ lease ∈ new, ∃ drawn < drawnOn new lease.claim.resourceKey,
    s.leaseIdFor sha holder lease.taskId lease.claim.resourceKey drawn = .ok lease.leaseId
  active : ∀ lease ∈ new, lease.activeAt now = true
  valid : ∀ lease ∈ new, lease.validate = .ok lease

theorem Leased.refl (s : SchedulerStore) (sha : Sha256) (holder : String → String)
    (now : Instant) : Leased s sha holder now [] s where
  pools := rfl
  tokens key := by simp [drawnOn]
  rows := by simp
  ids := by simp
  active := by simp
  valid := by simp

theorem drawnOn_append (xs ys : List ResourceLease) (key : String) :
    drawnOn (xs ++ ys) key = drawnOn xs key + drawnOn ys key :=
  countP_append

theorem drawnOn_singleton (lease : ResourceLease) (key : String) :
    drawnOn [lease] key = if lease.claim.resourceKey = key then 1 else 0 := by
  simp [drawnOn, countP_cons]

/-- Storing a token moves the next one on, for this key only. -/
theorem nextToken_storeToken (s : SchedulerStore) (key key' : String) :
    (s.storeToken key (s.nextToken key)).nextToken key' =
      s.nextToken key' + if key = key' then 1 else 0 := by
  by_cases hkey : key = key'
  · subst hkey
    have hself := s.fencingTokens.find?_upsert_self ⟨key, s.nextToken key⟩
      (fun row => { row with currentToken := s.nextToken key }) (fun _ => rfl)
    rw [if_pos rfl, nextToken, storeToken, hself]
    cases s.fencingTokens.find? (FencingToken.mk key (s.nextToken key)).resourceKey <;> rfl
  · have hoth := s.fencingTokens.find?_upsert_of_ne ⟨key, s.nextToken key⟩
      (fun row => { row with currentToken := s.nextToken key }) (fun _ => rfl) hkey
    rw [if_neg hkey, add_zero, nextToken, storeToken, hoth, nextToken]

theorem nextToken_congr {s s' : SchedulerStore} (h : s'.fencingTokens = s.fencingTokens)
    (key : String) : s'.nextToken key = s.nextToken key := by
  rw [nextToken, nextToken, h]

/-! ### Leasing one claim -/

section Fresh

variable {w : SchedulerStore} {sha : Sha256} {holder : String → String} {now : Instant}
  {work : List (String × ResourceClaim)} {new active : List ResourceLease}
  {req : AcquireRequest} {claim : ResourceClaim}

/-- A further claim can be leased: its identifier is new. -/
theorem Leased.fresh (h : Leased s sha holder now new w) (hfr : FreshHolders s sha holder work)
    (hwork : ∀ lease ∈ new, lease.work ∈ work) (hlength : new.length < work.length)
    {taskId leaseId : String} (hitem : (taskId, claim) ∈ work)
    (hid : s.leaseIdFor sha holder taskId claim.resourceKey (drawnOn new claim.resourceKey) =
      .ok leaseId) :
    w.leases.find? leaseId = none := by
  have hdrawn : ∀ key, drawnOn new key < work.length := fun key =>
    lt_of_le_of_lt countP_le_length hlength
  rw [Table.find?_eq_none_iff, h.rows]
  intro row hrow hrid
  rcases mem_append.mp hrow with hold | hnew
  · refine hfr.unused _ hitem _ (hdrawn claim.resourceKey) row hold ?_
    rw [hid, ← hrid]
  · obtain ⟨lease, hls, rfl⟩ := mem_map.mp hnew
    obtain ⟨drawn, hlt, hidl⟩ := h.ids lease hls
    obtain ⟨_, hkey, rfl⟩ := hfr.distinct _ (hwork lease hls) _ hitem drawn
      (hlt.trans (hdrawn _)) _ (hdrawn _) (by rw [hid, ← hrid]; exact hidl)
    rw [show lease.work.2 = lease.claim from rfl] at hkey
    rw [hkey] at hlt
    exact absurd hlt (lt_irrefl _)

/-- An admitted claim of a fresh holder is leased when its expiry can be represented. -/
theorem Leased.createLease (h : Leased s sha holder now new w)
    (hfr : FreshHolders s sha holder work) (htoks : ∀ key, 1 ≤ s.nextToken key)
    (hwork : ∀ lease ∈ new, lease.work ∈ work) (hlength : new.length < work.length)
    (hnow : req.now = now) (hhdr : req.holderId = holder req.taskId)
    (htask : fullmatch issue.pattern req.taskId = true) (hitem : (req.taskId, claim) ∈ work)
    {expires : Instant} (hexpires : leaseExpiry req.now req.ttlSeconds = .ok expires) :
    ∃ lease w', w.createLease sha req claim = .ok (lease, w') ∧
      lease.work = (req.taskId, claim) ∧ Leased s sha holder now (new ++ [lease]) w' := by
  have htok := h.tokens claim.resourceKey
  have hvisible : ∀ part ∈ [req.taskId, holder req.taskId, claim.resourceKey,
      toString (w.nextToken claim.resourceKey)], Visible part := by
    simpa using ⟨issue.inked_pattern.visible htask, hfr.visible _ hitem,
      claim.key_valid.visible, visible_toString_int _⟩
  have hid := schedulerIdentifier_of_visible sha .lease _ (by simp) hvisible
  set leaseId := SchedulerIdKind.lease.tag ++ "-" ++ String.ofList
    (sha.shortDigest (pyJoin unitSeparator ([req.taskId, holder req.taskId, claim.resourceKey,
      toString (w.nextToken claim.resourceKey)].map pyStrip))) with hlid
  set lease : ResourceLease :=
    { leaseId := leaseId, taskId := req.taskId, holderId := req.holderId, claim := claim,
      fencingToken := w.nextToken claim.resourceKey, acquiredAtUtc := req.now,
      expiresAtUtc := expires } with hls
  have hval : lease.validate = .ok lease := by
    refine ResourceLease.validate_of_new (schedulerIdentifier_wellFormed hid) htask ?_ ?_
      (lt_of_leaseExpiry hexpires) rfl rfl
    · rw [show lease.holderId = holder req.taskId from hhdr]
      obtain ⟨c, hc, _⟩ := hfr.visible _ hitem
      have hne : (holder req.taskId).length ≠ 0 := by
        intro hzero
        rw [← String.length_toList, length_eq_zero_iff] at hzero
        rw [hzero] at hc
        exact absurd hc not_mem_nil
      exact ⟨Nat.one_le_iff_ne_zero.mpr hne, hfr.short _ hitem⟩
    · have hle := htoks claim.resourceKey
      rw [show lease.fencingToken = w.nextToken claim.resourceKey from rfl, htok]
      omega
  have hidfor : s.leaseIdFor sha holder req.taskId claim.resourceKey
      (drawnOn new claim.resourceKey) = .ok leaseId := by
    rw [leaseIdFor, ← htok]
    exact hid
  have hnone : (w.storeToken claim.resourceKey (w.nextToken claim.resourceKey)).leases.find?
      (ofLease lease).leaseId = none :=
    h.fresh hfr hwork hlength hitem hidfor
  obtain ⟨leases, hlss⟩ := Table.exists_insert hnone
  refine ⟨lease, { w.storeToken claim.resourceKey (w.nextToken claim.resourceKey) with
    leases := leases }, ?_, rfl, ?_⟩
  · rw [hhdr] at hls
    simp only [SchedulerStore.createLease, hhdr, hid, hexpires, bind, Except.bind, ← hls,
      hval, insertLease, pure, Except.pure]
    rw [show ({ ofLease lease with releasedAtUtc := none } : LeaseRow) =
      ofLease lease from rfl, hlss]
  · have hlive : lease.activeAt now = true :=
      ResourceLease.activeAt_iff.mpr ⟨rfl, hnow ▸ lt_of_leaseExpiry hexpires⟩
    refine ⟨h.pools, fun key => ?_, ?_, ?_, ?_, ?_⟩
    · rw [drawnOn_append, drawnOn_singleton]
      have hnext := nextToken_storeToken w claim.resourceKey key
      rw [h.tokens key] at hnext
      have hcast : ((if lease.claim.resourceKey = key then 1 else 0 : ℕ) : ℤ) =
          if claim.resourceKey = key then 1 else 0 := by
        split <;> rfl
      rw [Int.natCast_add, hcast, ← add_assoc]
      exact hnext
    · rw [(Table.insert_eq_some_iff.mp hlss).2, map_append, ← append_assoc]
      exact congrArg (· ++ [ofLease lease]) h.rows
    · rw [forall_mem_append, forall_mem_singleton]
      constructor
      · intro other hoth
        obtain ⟨drawn, hlt, hidother⟩ := h.ids other hoth
        refine ⟨drawn, ?_, hidother⟩
        rw [drawnOn_append]
        omega
      · refine ⟨drawnOn new claim.resourceKey, ?_, hidfor⟩
        rw [drawnOn_append, drawnOn_singleton, if_pos rfl]
        exact Nat.lt_succ_self _
    · rw [forall_mem_append, forall_mem_singleton]
      exact ⟨h.active, hlive⟩
    · rw [forall_mem_append, forall_mem_singleton]
      exact ⟨h.valid, hval⟩

/-! ### Leasing the claims of one task -/

theorem refusal_congr (h : w.pools = s.pools) (held : List ResourceLease)
    (claim : ResourceClaim) : w.refusal held claim = s.refusal held claim := by
  rw [refusal, refusal, h]

variable {created : List ResourceLease}

/-- The loop leases leasable claims of a fresh holder. -/
theorem Leased.acquireClaims (h : Leased s sha holder now new w)
    (hfr : FreshHolders s sha holder work) (htoks : ∀ key, 1 ≤ s.nextToken key)
    (hnow : req.now = now) (hhdr : req.holderId = holder req.taskId)
    (htask : fullmatch issue.pattern req.taskId = true) {expires : Instant}
    (hexpires : leaseExpiry req.now req.ttlSeconds = .ok expires)
    (hsame : ∀ claim ∈ claims, existingSame req active claim = none)
    (hwork : ∀ lease ∈ new, lease.work ∈ work)
    (hitems : ∀ claim ∈ claims, (req.taskId, claim) ∈ work)
    (hlength : new.length + claims.length ≤ work.length)
    (hleasable : s.Leasable ((active ++ created).map ResourceLease.claim) claims) :
    ∃ added w', acquireClaims sha req active claims created w = .ok (.ok (created ++ added, w')) ∧
      added.map ResourceLease.work = claims.map (fun claim => (req.taskId, claim)) ∧
        Leased s sha holder now (new ++ added) w' := by
  induction claims generalizing new created w with
  | nil => exact ⟨[], w, by rw [acquireClaims, append_nil], rfl, by simpa⟩
  | cons claim claims ih =>
    rw [forall_mem_cons] at hsame hitems
    rw [length_cons] at hlength
    obtain ⟨lease, w₁, hcr, hls, h₁⟩ := h.createLease hfr htoks hwork (by omega)
      hnow hhdr htask hitems.1 hexpires
    have hcl : lease.claim = claim := congrArg Prod.snd hls
    have hrest : s.Leasable ((active ++ (created ++ [lease])).map ResourceLease.claim) claims := by
      rw [← append_assoc, map_append, map_singleton, hcl]
      exact hleasable.2
    obtain ⟨added, w', hloop, hadd, hw'⟩ := ih h₁ hsame.2
      (by rw [forall_mem_append, forall_mem_singleton, hls]; exact ⟨hwork, hitems.1⟩)
      hitems.2 (by rw [length_append, length_singleton]; omega) hrest
    refine ⟨lease :: added, w', ?_, ?_, ?_⟩
    · have hadm : w.refusal (active ++ created) claim = none := by
        rw [refusal_congr h.pools, refusal_eq_none_iff_admits]
        exact hleasable.1
      rw [acquireClaims, hsame.1]
      simp only [hadm, hcr, hloop]
      rw [append_assoc, singleton_append]
    · rw [map_cons, map_cons, hadd, hls]
    · rwa [append_assoc, singleton_append] at hw'

/-- Claims that the loop has leased were leasable, and their expiry can be represented. -/
theorem leasable_of_acquireClaims {result : List ResourceLease × SchedulerStore}
    (hpls : w.pools = s.pools) (hsame : ∀ claim ∈ claims, existingSame req active claim = none)
    (h : acquireClaims sha req active claims created w = .ok (.ok result)) :
    s.Leasable ((active ++ created).map ResourceLease.claim) claims ∧
      (claims ≠ [] → ∃ expires, leaseExpiry req.now req.ttlSeconds = .ok expires) := by
  induction claims generalizing created w with
  | nil => exact ⟨trivial, fun hne => absurd rfl hne⟩
  | cons claim _ ih =>
    rw [forall_mem_cons] at hsame
    rw [acquireClaims, hsame.1] at h
    cases hrefusal : w.refusal (active ++ created) claim with
    | some =>
      simp only [hrefusal] at h
      cases h
    | none =>
      simp only [hrefusal] at h
      cases hcr : w.createLease sha req claim with
      | error =>
        simp only [hcr] at h
        cases h
      | ok pair =>
        simp only [hcr] at h
        have hnew := createLease_eq_ok hcr
        obtain ⟨hrest, _⟩ := ih (hnew.pools.trans hpls) hsame.2 h
        rw [← append_assoc, map_append, map_singleton, hnew.claim] at hrest
        rw [refusal_congr hpls, refusal_eq_none_iff_admits] at hrefusal
        exact ⟨⟨hrefusal, hrest⟩, fun _ => ⟨_, hnew.expires⟩⟩

/-- The new leases are active next to the old ones. -/
theorem Leased.listActiveLeases (h : Leased s sha holder now new w)
    (hact : s.listActiveLeases now = .ok active) :
    ∃ active', w.listActiveLeases now = .ok active' ∧ active'.Perm (active ++ new) := by
  have hnew : (new.map ofLease).filter (·.activeAt now) = new.map ofLease := by
    rw [filter_eq_self, forall_mem_map]
    exact h.active
  have hrows : w.leases.rows.filter (·.activeAt now) =
      s.leases.rows.filter (·.activeAt now) ++ new.map ofLease := by
    rw [h.rows, filter_append, hnew]
  have hval : ∀ row ∈ w.activeLeaseRows now, row.payload.validate = .ok row.payload := by
    intro row hrow
    rw [activeLeaseRows, mem_insertionSort, hrows, mem_append] at hrow
    rcases hrow with hold | hrow
    · refine (mapM_validate_eq_ok_iff.mp hact).1 row ?_
      rwa [activeLeaseRows, mem_insertionSort]
    · obtain ⟨lease, hls, rfl⟩ := mem_map.mp hrow
      exact h.valid lease hls
  have hread : w.listActiveLeases now = .ok ((w.activeLeaseRows now).map payload) :=
    mapM_validate_eq_ok_iff.mpr ⟨hval, rfl⟩
  refine ⟨_, hread, ?_⟩
  have hperm := listActiveLeases_perm hread
  rw [hrows, map_append, map_map] at hperm
  have hpay : new.map (payload ∘ ofLease) = new := map_id new
  rw [hpay] at hperm
  exact hperm.trans ((listActiveLeases_perm hact).symm.append_right new)

/-! ### Leasing the claims of several tasks -/

/-- The bundle was returned, and it was acquired. -/
def isAcquired : Except PyError LeaseBundle → Bool
  | .ok bundle => bundle.acquired
  | .error _ => false

/-- Call `acquire_bundle` for the listed tasks and claims, one after another, each for the
holder of the task; whether every call returns an acquired bundle. -/
def acquireAll (s : SchedulerStore) (sha : Sha256) (holder : String → String) (now : Instant) :
    List (String × List ResourceClaim) → Bool
  | [] => true
  | (taskId, claims) :: rest =>
    let result := s.acquireBundle sha
      { taskId := taskId, holderId := holder taskId, claims := claims, now := now }
    isAcquired result.1 && result.2.acquireAll sha holder now rest

theorem acquireBundle_of_acquireClaims {w' : SchedulerStore} (hcls : req.claims ≠ [])
    (htask : fullmatch issue.pattern req.taskId = true)
    (hact : w.listActiveLeases req.now = .ok active)
    (hloop : acquireClaims sha req active req.claims [] w = .ok (.ok (created, w')))
    (hcreated : created ≠ []) :
    isAcquired (w.acquireBundle sha req).1 = true ∧ (w.acquireBundle sha req).2 = w' := by
  rw [acquireBundle, if_neg (by simpa using hcls), hact]
  simp [hloop, isAcquired, LeaseBundle.validate, htask, hcreated]

theorem exists_acquireClaims_of_isAcquired (hcls : req.claims ≠ [])
    (hact : w.listActiveLeases req.now = .ok active)
    (h : isAcquired (w.acquireBundle sha req).1 = true) :
    ∃ result, acquireClaims sha req active req.claims [] w = .ok (.ok result) := by
  rw [acquireBundle, if_neg (by simpa using hcls), hact] at h
  cases hloop : acquireClaims sha req active req.claims [] w with
  | error => simp [hloop, isAcquired] at h
  | ok outcome =>
    cases outcome with
    | error =>
      simp only [hloop, LeaseBundle.validate] at h
      split at h
      · simp [isAcquired] at h
      · simp [isAcquired] at h
    | ok result => exact ⟨result, rfl⟩

/-- One call for a fresh holder: it acquires the bundle exactly when the claims are leasable
and the expiry can be represented, and then it adds a lease for each of them. -/
theorem Leased.acquireBundle (h : Leased s sha holder now new w) (req : AcquireRequest)
    (hfr : FreshHolders s sha holder work) (htoks : ∀ key, 1 ≤ s.nextToken key)
    (hact : s.listActiveLeases now = .ok active) (hnow : req.now = now)
    (hhdr : req.holderId = holder req.taskId) (htask : fullmatch issue.pattern req.taskId = true)
    (hcls : req.claims ≠ []) (hoth : ∀ lease ∈ new, lease.taskId ≠ req.taskId)
    (hwork : ∀ lease ∈ new, lease.work ∈ work)
    (hitems : ∀ claim ∈ req.claims, (req.taskId, claim) ∈ work)
    (hlength : new.length + req.claims.length ≤ work.length) :
    (isAcquired (w.acquireBundle sha req).1 = true ↔
      s.Leasable ((active ++ new).map ResourceLease.claim) req.claims ∧
        ∃ expires, leaseExpiry req.now req.ttlSeconds = .ok expires) ∧
    (isAcquired (w.acquireBundle sha req).1 = true →
      ∃ added, added.map ResourceLease.work = req.claims.map (fun claim => (req.taskId, claim)) ∧
        Leased s sha holder now (new ++ added) (w.acquireBundle sha req).2) := by
  obtain ⟨active', hact', hperm⟩ := h.listActiveLeases hact
  rw [← hnow] at hact'
  -- No active lease is of this task and this holder.
  have hsame : ∀ claim ∈ req.claims, existingSame req active' claim = none := by
    intro claim hcl
    rw [existingSame, find?_eq_none]
    intro lease hls hsame
    simp only [Bool.and_eq_true, beq_iff_eq] at hsame
    rcases mem_append.mp (hperm.mem_iff.mp hls) with hold | hadd
    · obtain ⟨row, hrow, _, rfl⟩ := (mem_listActiveLeases hact).mp hold
      exact hfr.unseen _ (hitems claim hcl) row hrow (hsame.1.2.trans hhdr)
    · exact hoth lease hadd hsame.1.1
  have hheld : s.Leasable ((active' ++ []).map ResourceLease.claim) req.claims ↔
      s.Leasable ((active ++ new).map ResourceLease.claim) req.claims := by
    rw [append_nil]
    exact ⟨fun hl => hl.perm (hperm.map _), fun hl => hl.perm (hperm.symm.map _)⟩
  have hready : isAcquired (w.acquireBundle sha req).1 = true →
      s.Leasable ((active ++ new).map ResourceLease.claim) req.claims ∧
        ∃ expires, leaseExpiry req.now req.ttlSeconds = .ok expires := by
    intro hacq
    obtain ⟨result, hloop⟩ := exists_acquireClaims_of_isAcquired hcls hact' hacq
    obtain ⟨hleasable, hexpires⟩ := leasable_of_acquireClaims h.pools hsame hloop
    exact ⟨hheld.mp hleasable, hexpires hcls⟩
  have hserve : s.Leasable ((active ++ new).map ResourceLease.claim) req.claims →
      (∃ expires, leaseExpiry req.now req.ttlSeconds = .ok expires) →
      ∃ added, added.map ResourceLease.work = req.claims.map (fun claim => (req.taskId, claim)) ∧
        isAcquired (w.acquireBundle sha req).1 = true ∧
          Leased s sha holder now (new ++ added) (w.acquireBundle sha req).2 := by
    rintro hleasable ⟨expires, hexpires⟩
    obtain ⟨added, w', hloop, hadd, hw'⟩ := h.acquireClaims hfr htoks hnow hhdr htask
      hexpires hsame hwork hitems hlength (hheld.mpr hleasable)
    have hne : [] ++ added ≠ [] := by
      rintro rfl
      exact hcls (map_eq_nil_iff.mp hadd.symm)
    obtain ⟨hacq, rfl⟩ := acquireBundle_of_acquireClaims hcls htask hact' hloop hne
    exact ⟨added, hadd, hacq, hw'⟩
  refine ⟨⟨hready, fun ⟨hleasable, hexpires⟩ => ?_⟩, fun hacq => ?_⟩
  · obtain ⟨_, _, hacq, _⟩ := hserve hleasable hexpires
    exact hacq
  · obtain ⟨added, hadd, _, hw'⟩ := hserve (hready hacq).1 (hready hacq).2
    exact ⟨added, hadd, hw'⟩

/-- **When the calls succeed.** For fresh holders of distinct tasks, every call acquires its
bundle exactly when the claims of all tasks are leasable one after another and, if there is
any task, the expiry of a lease can be represented. -/
theorem Leased.acquireAll_iff {tasks : List (String × List ResourceClaim)}
    (h : Leased s sha holder now new w) (hfr : FreshHolders s sha holder work)
    (htoks : ∀ key, 1 ≤ s.nextToken key) (hact : s.listActiveLeases now = .ok active)
    (hnd : (tasks.map Prod.fst).Nodup) (hnew : ∀ lease ∈ new, lease.taskId ∉ tasks.map Prod.fst)
    (hcls : ∀ task ∈ tasks, task.2 ≠ [])
    (hval : ∀ task ∈ tasks, fullmatch issue.pattern task.1 = true)
    (hwork : ∀ lease ∈ new, lease.work ∈ work)
    (hitems : ∀ task ∈ tasks, ∀ claim ∈ task.2, (task.1, claim) ∈ work)
    (hlength : new.length + (tasks.flatMap Prod.snd).length ≤ work.length) :
    w.acquireAll sha holder now tasks = true ↔
      s.Leasable ((active ++ new).map ResourceLease.claim) (tasks.flatMap Prod.snd) ∧
        (tasks ≠ [] → ∃ expires, leaseExpiry now 900 = .ok expires) := by
  induction tasks generalizing new w with
  | nil => simp [acquireAll, Leasable]
  | cons task tasks ih =>
    obtain ⟨taskId, claims⟩ := task
    rw [forall_mem_cons] at hcls hval hitems
    rw [map_cons, nodup_cons] at hnd
    rw [flatMap_cons, length_append] at hlength
    simp only [map_cons, mem_cons, not_or] at hnew hlength
    obtain ⟨hiff, hstep⟩ := h.acquireBundle ⟨taskId, holder taskId, claims, 900, now⟩ hfr
      htoks hact rfl rfl hval.1 hcls.1 (fun lease hl => (hnew lease hl).1) hwork
      hitems.1 (by simp only; omega)
    set result := w.acquireBundle sha ⟨taskId, holder taskId, claims, 900, now⟩ with hres
    -- The other tasks find the leases of this one held as well.
    have hrest : isAcquired result.1 = true → (result.2.acquireAll sha holder now tasks = true ↔
        s.Leasable ((active ++ new).map ResourceLease.claim ++ claims) (tasks.flatMap Prod.snd) ∧
          (tasks ≠ [] → ∃ expires, leaseExpiry now 900 = .ok expires)) := by
      intro hacq
      obtain ⟨added, hadd, hw'⟩ := hstep hacq
      have hmem : ∀ lease ∈ added, lease.taskId = taskId ∧ lease.work ∈ work := by
        intro lease hls
        have hlw := mem_map_of_mem (f := ResourceLease.work) hls
        rw [hadd] at hlw
        obtain ⟨claim, hcl, heq⟩ := mem_map.mp hlw
        exact ⟨(congrArg Prod.fst heq).symm, heq ▸ hitems.1 claim hcl⟩
      have hlen : added.length = claims.length := by simpa using congrArg length hadd
      have hcl : added.map ResourceLease.claim = claims := by
        simpa [ResourceLease.work, Function.comp_def] using congrArg (map Prod.snd) hadd
      have hiff' := ih hw' hnd.2
        (forall_mem_append.mpr ⟨fun lease hl => (hnew lease hl).2,
          fun lease hl => (hmem lease hl).1 ▸ hnd.1⟩)
        hcls.2 hval.2
        (forall_mem_append.mpr ⟨hwork, fun lease hl => (hmem lease hl).2⟩) hitems.2
        (by rw [length_append, hlen]; omega)
      rwa [← append_assoc, map_append, hcl] at hiff'
    rw [acquireAll, Bool.and_eq_true, flatMap_cons, leasable_append]
    simp only [ne_eq, reduceCtorEq, not_false_eq_true, forall_const]
    constructor
    · rintro ⟨hacq, hoths⟩
      obtain ⟨hleasable, hexpires⟩ := hiff.mp hacq
      exact ⟨⟨hleasable, ((hrest hacq).mp hoths).1⟩, hexpires⟩
    · rintro ⟨⟨hleasable, hoths⟩, hexpires⟩
      have hacq := hiff.mpr ⟨hleasable, hexpires⟩
      exact ⟨hacq, (hrest hacq).mpr ⟨hoths, fun _ => hexpires⟩⟩

end Fresh

end SchedulerStore

end ProjectPipeline
