import ProjectPipeline.SchedulerStore

/-!
# Mutual Exclusion and Capacity of Leases

Two guarantees of the lease store over whole runs of `acquire_bundle`, `renew_lease` and
`release_lease` calls, refused and failing calls included:

* leases on keys without a pool exclude each other: no two that are active at one time
  conflict (`leases_exclusive`);
* leases on a pooled key stay within the allocatable units of the pool
  (`leases_within_capacity`).

Both are clocked invariants. The acquisition has one specification, `Grants`: the rows it
appends, and what was checked for each of them. Renewals and releases rewrite rows in
place (`Rewrites`): they never make a lease active that was not active at the time of the
call, which is what both invariants need of them.
-/

namespace ProjectPipeline

open List LeaseCall

variable {new : List ResourceLease} {now : Instant} {req : AcquireRequest} {s s' : SchedulerStore}

namespace SchedulerStore

/-! ### Acquisitions -/

/-- The units of a key that the rows active at a time hold, by the columns of the rows. -/
def activeUnits (s : SchedulerStore) (resourceKey : String) (when : Instant) : ℕ :=
  totalWhere (fun row => row.activeAt when && row.payload.claim.resourceKey == resourceKey)
    (fun row => row.payload.claim.quantity) s.leases.rows

/-- The claims may be held at one time as far as conflicts go: they do not conflict, or a
pool governs one of the keys. -/
def Apart (s : SchedulerStore) (a b : ResourceClaim) : Prop :=
  s.pools.find? a.resourceKey = none → s.pools.find? b.resourceKey = none →
    a.conflictsWith b = false

instance (s : SchedulerStore) (a b : ResourceClaim) : Decidable (s.Apart a b) :=
  inferInstanceAs (Decidable (_ → _ → _))

theorem Apart.symm {a b : ResourceClaim} (h : s.Apart a b) : s.Apart b a := by
  intro hb ha
  rw [ResourceClaim.conflictsWith_comm]
  exact h ha hb

/-- What an acquisition does to the store: it appends rows for `new` leases of requested
claims, which were checked against the active rows and against each other. -/
structure Grants (s : SchedulerStore) (req : AcquireRequest) (new : List ResourceLease)
    (s' : SchedulerStore) : Prop where
  pools : s'.pools = s.pools
  rows : s'.leases.rows = s.leases.rows ++ new.map LeaseRow.ofLease
  requested : ∀ lease ∈ new, lease.claim ∈ req.claims
  unreleased : ∀ lease ∈ new, lease.releasedAtUtc = none
  apartFromActive : ∀ lease ∈ new, ∀ row ∈ s.leases.rows, row.activeAt req.now = true →
    s.Apart lease.claim row.payload.claim
  apart : new.Pairwise fun a b => s.Apart a.claim b.claim
  fits : ∀ lease ∈ new, ∀ pool, s.pools.find? lease.claim.resourceKey = some pool →
    s.activeUnits lease.claim.resourceKey req.now + usedUnits lease.claim.resourceKey new ≤
      pool.allocatableUnits

/-- An acquisition that appends nothing. -/
theorem Grants.nothing (s : SchedulerStore) (req : AcquireRequest) : Grants s req [] s where
  pools := rfl
  rows := by simp
  requested := by simp
  unreleased := by simp
  apartFromActive := by simp
  apart := List.Pairwise.nil
  fits := by simp

/-- Distinct new leases are apart, in either order. -/
theorem Grants.apart_of_ne (h : Grants s req new s') {a b : ResourceLease} (ha : a ∈ new)
    (hb : b ∈ new) (hne : a ≠ b) : s.Apart a.claim b.claim := by
  have : Std.Symm fun a b : ResourceLease => s.Apart a.claim b.claim := ⟨fun _ _ => Apart.symm⟩
  exact h.apart.forall ha hb hne

/-- The active leases that were read hold the units of the active rows. -/
theorem usedUnits_listActiveLeases {when : Instant} {active : List ResourceLease}
    (h : s.listActiveLeases when = .ok active) (key : String) :
    usedUnits key active = s.activeUnits key when := by
  rw [usedUnits, totalWhere_perm (listActiveLeases_perm h), totalWhere_map_filter]
  rfl

/-- One more leased claim. The loop checks it against the active leases and all leases
`created` so far, among them every new one. -/
theorem Grants.snoc {w w' : SchedulerStore} {active created : List ResourceLease}
    {claim : ResourceClaim} {lease : ResourceLease}
    (hactive : s.listActiveLeases req.now = .ok active) (hgr : Grants s req new w)
    (hsub : ∀ l ∈ new, l ∈ created) (hunits : ∀ key, usedUnits key new ≤ usedUnits key created)
    (hcl : claim ∈ req.claims) (hadm : w.refusal (active ++ created) claim = none)
    (hnew : Created w req claim lease w') : Grants s req (new ++ [lease]) w' := by
  obtain ⟨hcapacity, hconflict⟩ := refusal_eq_none_iff.mp hadm
  rw [hgr.pools] at hcapacity hconflict
  rw [← hnew.claim] at hcapacity hconflict hcl
  refine ⟨hnew.pools.trans hgr.pools, ?_, ?_, ?_, ?_, ?_, ?_⟩
  · rw [hnew.rows, hgr.rows, map_append, append_assoc, map_singleton]
  · intro l hl
    rcases mem_append.mp hl with hl | hl
    · exact hgr.requested l hl
    · rw [mem_singleton.mp hl]
      exact hcl
  · intro l hl
    rcases mem_append.mp hl with hl | hl
    · exact hgr.unreleased l hl
    · rw [mem_singleton.mp hl]
      exact hnew.released
  · intro l hl row hrow hact
    rcases mem_append.mp hl with hl | hl
    · exact hgr.apartFromActive l hl row hrow hact
    · rw [mem_singleton.mp hl]
      intro hfree _
      refine hconflict hfree row.payload (mem_append_left _ ?_)
      exact (mem_listActiveLeases hactive).mpr ⟨row, hrow, hact, rfl⟩
  · refine pairwise_append.mpr ⟨hgr.apart, pairwise_singleton _ _, ?_⟩
    intro a ha b hb
    rw [mem_singleton.mp hb]
    refine Apart.symm fun hfree _ => ?_
    exact hconflict hfree a (mem_append_right _ (hsub a ha))
  · intro l hl pool hpool
    rw [usedUnits_append, usedUnits_singleton]
    by_cases hkey : lease.claim.resourceKey = l.claim.resourceKey
    · rw [if_pos hkey]
      rw [← hkey] at hpool ⊢
      have hfit := hcapacity pool hpool
      rw [usedUnits_append, usedUnits_listActiveLeases hactive] at hfit
      have := hunits lease.claim.resourceKey
      omega
    · rw [if_neg hkey, Nat.add_zero]
      rcases mem_append.mp hl with hl | hl
      · exact hgr.fits l hl pool hpool
      · rw [mem_singleton.mp hl] at hkey
        exact absurd rfl hkey

/-- **Specification of `acquire_bundle`**, for every outcome: the rows it appends. -/
theorem acquireBundle_grants (s : SchedulerStore) (sha : Sha256) (req : AcquireRequest) :
    ∃ new, Grants s req new (s.acquireBundle sha req).2 := by
  rcases acquireBundle_cases s sha req with h | ⟨active, created, s', hactive, hloop, h⟩
  · rw [h]
    exact ⟨[], .nothing s req⟩
  · rw [h]
    -- A returned existing lease is counted by the loop although it adds no row, so the
    -- new leases hold at most what `created` holds.
    let P (created : List ResourceLease) (w : SchedulerStore) : Prop :=
      ∃ new, Grants s req new w ∧ (∀ l ∈ new, l ∈ created) ∧
        ∀ key, usedUnits key new ≤ usedUnits key created
    have hend : P created s' := by
      refine acquireClaims_inv (P := P) ?_ ?_ ⟨[], .nothing s req, by simp, by simp⟩ hloop
      · rintro created w claim - lease - ⟨new, hgr, hsub, hunits⟩
        refine ⟨new, hgr, fun l hl => mem_append_left _ (hsub l hl), fun key => ?_⟩
        rw [usedUnits_append]
        exact (hunits key).trans (Nat.le_add_right _ _)
      · rintro created w claim hcl lease w' hadm hnew ⟨new, hgr, hsub, hunits⟩
        refine ⟨new ++ [lease], hgr.snoc hactive hsub hunits hcl hadm
          (createLease_eq_ok hnew), ?_, ?_⟩
        · intro l hl
          rcases mem_append.mp hl with hl | hl
          · exact mem_append_left _ (hsub l hl)
          · exact mem_append_right _ hl
        · intro key
          rw [usedUnits_append, usedUnits_append]
          exact Nat.add_le_add_right (hunits key) _
    obtain ⟨new, hgr, -, -⟩ := hend
    exact ⟨new, hgr⟩

/-! ### Renewals and releases -/

/-- The columns of every row mirror its payload. -/
def Mirrored (s : SchedulerStore) : Prop :=
  ∀ row ∈ s.leases.rows, row = LeaseRow.ofLease row.payload

/-- What renewals and releases do at the time `now`: they rewrite rows in place, keep the
claims, and activate nothing. -/
structure Rewrites (now : Instant) (s s' : SchedulerStore) : Prop where
  pools : s'.pools = s.pools
  rows : ∃ rewrite : LeaseRow → LeaseRow, s'.leases.rows = s.leases.rows.map rewrite ∧
    ∀ row ∈ s.leases.rows, (rewrite row).leaseId = row.leaseId ∧
      rewrite row = LeaseRow.ofLease (rewrite row).payload ∧
      (rewrite row).payload.claim = row.payload.claim ∧
      ((rewrite row).payload.activeAt now = true → row.payload.activeAt now = true)

/-- A store that is left alone. -/
theorem Rewrites.refl (hmirror : Mirrored s) (now : Instant) :
    Rewrites now s s where
  pools := rfl
  rows := ⟨id, by simp, fun row hrow => ⟨rfl, hmirror row hrow, rfl, id⟩⟩

/-- Rewriting the one row of a lease by a row that mirrors a lease with the same
identifier and claim, active only if the old one was. -/
theorem Rewrites.of_update {row₀ : LeaseRow} (lease : ResourceLease) (f : LeaseRow → LeaseRow)
    (hmirror : Mirrored s) (hrow₀ : row₀ ∈ s.leases.rows) (hf : f row₀ = LeaseRow.ofLease lease)
    (hid : lease.leaseId = row₀.leaseId) (hcl : lease.claim = row₀.payload.claim)
    (hactive : lease.activeAt now = true → row₀.payload.activeAt now = true)
    (hpls : s'.pools = s.pools) (hrows : s'.leases.rows =
      s.leases.rows.map fun row => if row.leaseId == row₀.leaseId then f row else row) :
    Rewrites now s s' := by
  refine ⟨hpls, _, hrows, fun row hrow => ?_⟩
  by_cases hrid : row.leaseId = row₀.leaseId
  · -- The identifier is the key of the table, so this is the row that was read.
    obtain rfl : row = row₀ := s.leases.eq_of_key_eq hrow hrow₀ hrid
    simp only [beq_self_eq_true, if_true, hf]
    exact ⟨hid, rfl, hcl, hactive⟩
  · have hne : ¬ (row.leaseId == row₀.leaseId) = true := by simpa using hrid
    rw [if_neg hne]
    exact ⟨rfl, hmirror row hrow, rfl, id⟩

/-- A renewal keeps a lease alive that was active at the time of the call. -/
theorem renewLease_rewrites (hmirror : Mirrored s) (req : RenewRequest) :
    Rewrites req.now s (s.renewLease req).2 := by
  rcases renewLease_cases s req with h | ⟨renewed, hread, h⟩
  · rw [h]
    exact .refl hmirror req.now
  · obtain ⟨row, hrow, hid, hactive, -, -, hrenewed⟩ := renewRead_eq_ok hread
    have hmir := hmirror row hrow
    have hsame : renewed.leaseId = row.leaseId := by rw [hmir, hrenewed]; rfl
    rw [h, ← hid]
    refine .of_update renewed
      (fun row => { row with expiresAtUtc := renewed.expiresAtUtc, payload := renewed })
      hmirror hrow ?_ hsame ?_ (fun _ => hactive) rfl rfl
    · rw [hmir, hrenewed]
      rfl
    · rw [hrenewed]

/-- A release ends a lease. -/
theorem releaseLease_rewrites (hmirror : Mirrored s) (req : ReleaseRequest) :
    Rewrites req.now s (s.releaseLease req).2 := by
  rcases releaseLease_cases s req with h | ⟨released, hread, h⟩
  · rw [h]
    exact .refl hmirror req.now
  · obtain ⟨row, hrow, hid, hrel⟩ := releaseRead_eq_release hread
    have hmir := hmirror row hrow
    have hsame : released.leaseId = row.leaseId := by rw [hmir, hrel]; rfl
    have hinactive : released.activeAt req.now = true → row.payload.activeAt req.now = true := by
      intro hact
      rw [hrel, ResourceLease.activeAt_iff] at hact
      exact absurd hact.1 (by simp)
    rw [h, ← hid]
    refine .of_update released
      (fun row => { row with releasedAtUtc := some req.now, payload := released })
      hmirror hrow ?_ hsame ?_ hinactive rfl rfl
    · rw [hmir, hrel]
      rfl
    · rw [hrel]

/-- Acquired rows mirror their leases. -/
theorem Grants.mirrored (hgr : Grants s req new s') (hmirror : Mirrored s) : Mirrored s' := by
  intro row hrow
  rw [hgr.rows] at hrow
  rcases mem_append.mp hrow with hrow | hrow
  · exact hmirror row hrow
  · obtain ⟨lease, -, rfl⟩ := mem_map.mp hrow
    rfl

/-- Rewritten rows mirror their leases. -/
theorem Rewrites.mirrored (hrewrites : Rewrites now s s') : Mirrored s' := by
  obtain ⟨rewrite, hrows, hrewrite⟩ := hrewrites.rows
  intro row' hrow'
  rw [hrows] at hrow'
  obtain ⟨row, hrow, rfl⟩ := mem_map.mp hrow'
  exact (hrewrite row hrow).2.1

end SchedulerStore

open SchedulerStore

/-! ### Mutual exclusion -/

/-- No two distinct rows whose leases are active at `t` conflict on keys without pools. -/
structure Exclusive (t : Instant) (s : SchedulerStore) : Prop where
  mirrored : s.Mirrored
  apart : ∀ a ∈ s.leases.rows, ∀ b ∈ s.leases.rows, a ≠ b →
    a.payload.activeAt t = true → b.payload.activeAt t = true →
    s.Apart a.payload.claim b.payload.claim

/-- An empty lease table is exclusive. -/
theorem Exclusive.of_empty (h : s.leases.rows = []) (t : Instant) : Exclusive t s := by
  constructor
  · intro row hrow
    rw [h] at hrow
    cases hrow
  · intro a ha
    rw [h] at ha
    cases ha

/-- Leases only lapse as time passes. -/
theorem Exclusive.later {t t' : Instant} (ht : t ≤ t') (h : Exclusive t s) : Exclusive t' s := by
  refine ⟨h.mirrored, fun a ha b hb hne hacta hactb => ?_⟩
  exact h.apart a ha b hb hne (ResourceLease.activeAt_anti ht hacta)
    (ResourceLease.activeAt_anti ht hactb)

/-- Acquisitions keep exclusion: a new lease was checked against every active one. -/
theorem Exclusive.grants (h : Exclusive req.now s) (hgr : Grants s req new s') :
    Exclusive req.now s' := by
  refine ⟨hgr.mirrored h.mirrored, ?_⟩
  have hcolumns : ∀ row ∈ s.leases.rows, row.payload.activeAt req.now = true →
      row.activeAt req.now = true := fun row hrow hact => by
    rwa [LeaseRow.activeAt_of_mirrors (h.mirrored row hrow)]
  have hpls : ∀ {a b}, s.Apart a b → s'.Apart a b := fun hab => by rwa [Apart, hgr.pools]
  rw [hgr.rows]
  intro a ha b hb hne hacta hactb
  rcases mem_append.mp ha with ha | ha <;> rcases mem_append.mp hb with hb | hb
  · exact hpls (h.apart a ha b hb hne hacta hactb)
  · obtain ⟨lease, hls, rfl⟩ := mem_map.mp hb
    exact hpls (hgr.apartFromActive lease hls a ha (hcolumns a ha hacta)).symm
  · obtain ⟨lease, hls, rfl⟩ := mem_map.mp ha
    exact hpls (hgr.apartFromActive lease hls b hb (hcolumns b hb hactb))
  · obtain ⟨x, hx, rfl⟩ := mem_map.mp ha
    obtain ⟨y, hy, rfl⟩ := mem_map.mp hb
    have hxy : x ≠ y := fun e => hne (congrArg LeaseRow.ofLease e)
    exact hpls (hgr.apart_of_ne hx hy hxy)

/-- Renewals and releases keep exclusion: they activate no lease. -/
theorem Exclusive.rewrites (h : Exclusive now s) (hrewrites : Rewrites now s s') :
    Exclusive now s' := by
  refine ⟨hrewrites.mirrored, ?_⟩
  obtain ⟨rewrite, hrows, hrewrite⟩ := hrewrites.rows
  rw [hrows]
  intro a ha b hb hne hacta hactb
  obtain ⟨x, hx, rfl⟩ := mem_map.mp ha
  obtain ⟨y, hy, rfl⟩ := mem_map.mp hb
  obtain ⟨-, -, hclaimx, hactx⟩ := hrewrite x hx
  obtain ⟨-, -, hclaimy, hacty⟩ := hrewrite y hy
  have hxy : x ≠ y := fun e => hne (congrArg rewrite e)
  rw [hclaimx, hclaimy, Apart, hrewrites.pools]
  exact h.apart x hx y hy hxy (hactx hacta) (hacty hactb)

variable (sha : Sha256)

/-- Exclusion is kept by time and by every call. -/
theorem exclusive_invariant :
    ClockedInvariant (fun _ _ => True) (LeaseCall.step sha) LeaseCall.now Exclusive where
  later := Exclusive.later
  step := by
    intro s c _ h
    cases c with
    | acquire req =>
      obtain ⟨new, hgr⟩ := acquireBundle_grants s sha req
      exact h.grants hgr
    | renew req => exact h.rewrites (renewLease_rewrites h.mirrored req)
    | release req => exact h.rewrites (releaseLease_rewrites h.mirrored req)

/-- The calls never touch the pools. -/
theorem LeaseCall.step_pools (s : SchedulerStore) (c : LeaseCall) :
    (c.step sha s).pools = s.pools := by
  cases c with
  | acquire req =>
    obtain ⟨new, hgr⟩ := acquireBundle_grants s sha req
    exact hgr.pools
  | renew req =>
    rcases renewLease_cases s req with h | ⟨renewed, -, h⟩
    · rw [step, h]
    · rw [step, h, renewWrite]
  | release req =>
    rcases releaseLease_cases s req with h | ⟨released, -, h⟩
    · rw [step, h]
    · rw [step, h, releaseWrite]

theorem runCalls_pools (s : SchedulerStore) (calls : List LeaseCall) :
    (runCalls (step sha) s calls).pools = s.pools := by
  induction calls generalizing s with
  | nil => rfl
  | cons _ _ ih => rw [runCalls_cons, ih, step_pools]

/-- **Mutual exclusion.** From an empty lease table, after any sequence of calls whose
clock does not go back, at any time from the last call on: no two distinct stored leases
that are both active, on keys without a pool, conflict. -/
theorem leases_exclusive (sha : Sha256) (s : SchedulerStore) (calls : List LeaseCall) (t : Instant)
    (hemp : s.leases.rows = []) (hclk : ClockOrdered LeaseCall.now calls)
    (ht : ∀ c ∈ calls, c.now ≤ t) :
    ∀ a ∈ (runCalls (LeaseCall.step sha) s calls).leases.rows,
    ∀ b ∈ (runCalls (LeaseCall.step sha) s calls).leases.rows,
      a ≠ b → a.payload.activeAt t = true → b.payload.activeAt t = true →
      s.pools.find? a.payload.claim.resourceKey = none →
      s.pools.find? b.payload.claim.resourceKey = none →
      a.payload.claim.conflictsWith b.payload.claim = false := by
  have hend : Exclusive t (runCalls (LeaseCall.step sha) s calls) :=
    (exclusive_invariant sha).run (Exclusive.of_empty hemp 0) (Nat.zero_le t)
      (fun c _ => Nat.zero_le c.now) hclk ht (Along.of_mem (fun _ _ => trivial) s)
  intro a ha b hb hne hacta hactb
  have hap := hend.apart a ha b hb hne hacta hactb
  rwa [Apart, runCalls_pools] at hap

/-- An exclusive claim on a path of the source tree. -/
def sourceClaim : ResourceClaim :=
  { resourceKey := "src/app", resourceType := .path, key_valid := ⟨"src/app", by decide⟩ }

def docsClaim : ResourceClaim :=
  { resourceKey := "docs", resourceType := .path, key_valid := ⟨"docs/", by decide⟩ }

/-- A claim on two of the machine's processor slots. -/
def cpuClaim : ResourceClaim :=
  { resourceKey := "machine:local/cpu_slots", resourceType := .cpuSlot, accessMode := .shared,
    quantity := 2, key_valid := ⟨"machine:local/cpu_slots", by decide⟩,
    quantity_valid := two_units_valid }

theorem cpu_slots_valid : 1 ≤ "machine:local/cpu_slots".length ∧
    "machine:local/cpu_slots".length ≤ 512 := by
  decide

/-- Four processor slots, one of them reserved. -/
def cpuPool : ResourcePool :=
  { resourceKey := "machine:local/cpu_slots", resourceType := .cpuSlot, capacityUnits := 4,
    reservedUnits := 1, key_valid := cpu_slots_valid, reserve_valid := by decide }

def idleStore : SchedulerStore where
  pools := ⟨[cpuPool], by decide⟩
  fencingTokens := .empty
  leases := .empty

/-- Two workers: each holds a path, the second one also holds processor slots, and the
first one is refused two more of them. -/
def workerCalls : List LeaseCall :=
  [.acquire
      { taskId := "PP-TASK-000001", holderId := "worker-1", claims := [sourceClaim], now := 0 },
    .acquire
      { taskId := "PP-TASK-000002", holderId := "worker-2", claims := [docsClaim, cpuClaim],
        now := 1 },
    .acquire { taskId := "PP-TASK-000001", holderId := "worker-1", claims := [cpuClaim], now := 2 }]

theorem leases_exclusive_workers :
    ∃ a ∈ (runCalls (LeaseCall.step .polynomial) idleStore workerCalls).leases.rows,
    ∃ b ∈ (runCalls (LeaseCall.step .polynomial) idleStore workerCalls).leases.rows,
      a.payload.claim = sourceClaim ∧ b.payload.claim = docsClaim ∧
        a.payload.claim.conflictsWith b.payload.claim = false := by
  have hstd :
      ∃ a ∈ (runCalls (step .polynomial) idleStore workerCalls).leases.rows,
      ∃ b ∈ (runCalls (step .polynomial) idleStore workerCalls).leases.rows,
        (a.payload.claim = sourceClaim ∧ a.payload.activeAt 3 = true) ∧
          b.payload.claim = docsClaim ∧ b.payload.activeAt 3 = true := by
    decide +kernel
  obtain ⟨a, ha, b, hb, ⟨hclaima, hacta⟩, hclaimb, hactb⟩ := hstd
  have hne : a ≠ b := by
    rintro rfl
    rw [hclaima] at hclaimb
    exact absurd hclaimb (by decide)
  refine ⟨a, ha, b, hb, hclaima, hclaimb, ?_⟩
  exact leases_exclusive .polynomial idleStore workerCalls 3 rfl (by decide) (by decide)
    a ha b hb hne hacta hactb (by rw [hclaima]; decide) (by rw [hclaimb]; decide)

/-! ### Capacity -/

/-- The units of a key that the stored leases active at a time hold. -/
def SchedulerStore.heldUnits (s : SchedulerStore) (resourceKey : String) (t : Instant) : ℕ :=
  totalWhere
    (fun row => row.payload.activeAt t && row.payload.claim.resourceKey == resourceKey)
    (fun row => row.payload.claim.quantity) s.leases.rows

/-- The leases active at `t` stay within every pool. -/
structure WithinCapacity (t : Instant) (s : SchedulerStore) : Prop where
  mirrored : s.Mirrored
  bounded : ∀ key pool, s.pools.find? key = some pool → s.heldUnits key t ≤ pool.allocatableUnits

/-- An empty lease table holds nothing. -/
theorem WithinCapacity.of_empty (h : s.leases.rows = []) (t : Instant) : WithinCapacity t s := by
  constructor
  · intro row hrow
    rw [h] at hrow
    cases hrow
  · intro key pool _
    rw [heldUnits, h]
    exact Nat.zero_le _

/-- Leases only lapse as time passes. -/
theorem WithinCapacity.later {t t' : Instant} (ht : t ≤ t') (h : WithinCapacity t s) :
    WithinCapacity t' s := by
  refine ⟨h.mirrored, fun key pool hpool => le_trans ?_ (h.bounded key pool hpool)⟩
  refine totalWhere_mono fun row _ hrow => ?_
  rw [Bool.and_eq_true] at hrow ⊢
  exact ⟨ResourceLease.activeAt_anti ht hrow.1, hrow.2⟩

/-- In a mirrored store the columns and the payloads count the same units. -/
theorem heldUnits_eq_activeUnits (h : s.Mirrored) (key : String) (t : Instant) :
    s.heldUnits key t = s.activeUnits key t := by
  rw [heldUnits, activeUnits, totalWhere, totalWhere]
  congr 2
  refine filter_congr fun row hrow => ?_
  rw [LeaseRow.activeAt_of_mirrors (h row hrow)]

/-- The units held after an acquisition: at most the old ones and the new leases. -/
theorem SchedulerStore.Grants.heldUnits_le (hgr : Grants s req new s') (key : String)
    (t : Instant) : s'.heldUnits key t ≤ s.heldUnits key t + usedUnits key new := by
  rw [heldUnits, hgr.rows, totalWhere_append, totalWhere_map]
  refine Nat.add_le_add_left (totalWhere_mono fun lease _ hls => ?_) _
  rw [Bool.and_eq_true] at hls
  exact hls.2

/-- Acquisitions stay within the pools. -/
theorem WithinCapacity.grants (h : WithinCapacity req.now s) (hgr : Grants s req new s') :
    WithinCapacity req.now s' := by
  refine ⟨hgr.mirrored h.mirrored, fun key pool hpool => ?_⟩
  rw [hgr.pools] at hpool
  have hle := hgr.heldUnits_le key req.now
  by_cases hnew : ∃ lease ∈ new, lease.claim.resourceKey = key
  · obtain ⟨lease, hls, rfl⟩ := hnew
    have hfits := hgr.fits lease hls pool hpool
    rw [← heldUnits_eq_activeUnits h.mirrored] at hfits
    omega
  · -- No new lease is on this key, so the bound is the old one.
    have hzero : usedUnits key new = 0 := by
      refine totalWhere_eq_zero fun lease hls => ?_
      simpa using fun hkey => hnew ⟨lease, hls, hkey⟩
    have := h.bounded key pool hpool
    omega

/-- Renewals and releases stay within the pools. -/
theorem WithinCapacity.rewrites (h : WithinCapacity now s) (hrewrites : Rewrites now s s') :
    WithinCapacity now s' := by
  refine ⟨hrewrites.mirrored, fun key pool hpool => ?_⟩
  rw [hrewrites.pools] at hpool
  obtain ⟨rewrite, hrows, hrewrite⟩ := hrewrites.rows
  refine le_trans ?_ (h.bounded key pool hpool)
  rw [heldUnits, hrows]
  refine totalWhere_map_le fun row hrow hcnt => ?_
  obtain ⟨-, -, hcl, hact⟩ := hrewrite row hrow
  rw [Bool.and_eq_true, hcl] at hcnt
  rw [Bool.and_eq_true, hcl]
  exact ⟨⟨hact hcnt.1, hcnt.2⟩, le_rfl⟩

/-- Capacity is kept by time and by every call. -/
theorem withinCapacity_invariant :
    ClockedInvariant (fun _ _ => True) (LeaseCall.step sha) LeaseCall.now WithinCapacity where
  later := WithinCapacity.later
  step := by
    intro s c _ h
    cases c with
    | acquire req =>
      obtain ⟨new, hgr⟩ := acquireBundle_grants s sha req
      exact h.grants hgr
    | renew req => exact h.rewrites (renewLease_rewrites h.mirrored req)
    | release req => exact h.rewrites (releaseLease_rewrites h.mirrored req)

end ProjectPipeline
