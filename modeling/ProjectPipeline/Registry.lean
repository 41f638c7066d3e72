import ProjectPipeline.Packing
import ProjectPipeline.SchedulerStore

/-!
# The Resource Registry

The pool half of `SchedulerStore` (`scheduler/persistence.py`) and the snapshot of pools
and active leases that the planner works on (`ResourceRegistrySnapshot` and
`local_resource_pools` in `domain/scheduler.py`).

A registry is identified by the digest of a canonical JSON text of its pools and leases.
The rendering of that text is a parameter, `registryText`.

## Main results

* `registrySnapshot_eq_ok`: a snapshot holds the pools of the store it leaves behind and
  the leases that are active at its time.
-/

namespace ProjectPipeline

open Regex List

/-- The units that claims take of a key. -/
abbrev claimedUnits (claims : List ResourceClaim) (resourceKey : String) : ℕ :=
  Packing.load ResourceClaim.resourceKey ResourceClaim.quantity claims resourceKey

/-! ### Local pools -/

/-- What `local_resource_pools` observes of the machine: processors, the memory and the free
disk space in MB, and the float products `int(disk_mb * 0.05)`, `int(memory_mb * 0.15)`. -/
structure MachineFacts where
  cpuCount : ℕ
  diskMb : ℕ
  diskReserve : ℕ
  memoryMb : Option ℕ
  memoryReserve : ℕ
  disk_pos : 0 < diskMb

def localMachine : Option String := some "machine:local"

theorem localMachine_valid : ∀ text ∈ localMachine, text.length ≤ 191 := by
  decide

theorem reserve_lt {total reserve : ℕ} (h : 1 < total) :
    max 1 (min (total - 1) reserve) < total := by
  omega

def localResourcePools (machine : MachineFacts) : List ResourcePool :=
  let cpuCapacity := max 2 (max 1 machine.cpuCount)
  [{ resourceKey := "machine:local/cpu_slots", resourceType := .cpuSlot,
      capacityUnits := cpuCapacity, reservedUnits := 1, machineId := localMachine,
      key_valid := by decide, reserve_valid := by simp [cpuCapacity],
      machineId_valid := localMachine_valid },
    { resourceKey := "machine:local/process_slots", resourceType := .processSlot,
      capacityUnits := max 2 (min 64 (cpuCapacity * 2)), reservedUnits := 1,
      machineId := localMachine, key_valid := by decide, reserve_valid := by simp,
      machineId_valid := localMachine_valid },
    { resourceKey := "machine:local/disk_mb", resourceType := .diskMb,
      capacityUnits := machine.diskMb,
      reservedUnits :=
        if 1 < machine.diskMb then max 1 (min (machine.diskMb - 1) machine.diskReserve) else 0,
      machineId := localMachine, key_valid := by decide,
      reserve_valid := by split; exacts [reserve_lt ‹_›, machine.disk_pos],
      machineId_valid := localMachine_valid }] ++
  match machine.memoryMb with
  | none => []
  | some memoryMb =>
    if h : 1 < memoryMb then
      [{ resourceKey := "machine:local/memory_mb", resourceType := .memoryMb,
          capacityUnits := memoryMb,
          reservedUnits := max 1 (min (memoryMb - 1) machine.memoryReserve),
          machineId := localMachine, key_valid := by decide, reserve_valid := reserve_lt h,
          machineId_valid := localMachine_valid }]
    else []

/-! ### Pools of the store -/

namespace SchedulerStore

variable (s : SchedulerStore)

/-- One upsert of `register_pools`. -/
def registerPool (pool : ResourcePool) : SchedulerStore :=
  { s with
    pools := s.pools.upsert pool
      (fun row => { pool with resourceKey := row.resourceKey, key_valid := row.key_valid })
      (fun _ => rfl) }

variable (pools : List ResourcePool)

def registerPools : SchedulerStore :=
  pools.foldl registerPool s

/-- `list_pools`: the pools by key. -/
def listPools : List ResourcePool :=
  s.pools.rows.insertionSort fun a b => textLe a.resourceKey b.resourceKey

theorem listPools_perm : s.listPools.Perm s.pools.rows :=
  perm_insertionSort _ _

theorem registerPools_leases :
    (s.registerPools pools).leases = s.leases := by
  induction pools generalizing s with
  | nil => rfl
  | cons pool _ ih => exact ih (s.registerPool pool)

theorem registerPools_fencingTokens :
    (s.registerPools pools).fencingTokens = s.fencingTokens := by
  induction pools generalizing s with
  | nil => rfl
  | cons pool _ ih => exact ih (s.registerPool pool)

/-- Pools with new and distinct keys are appended. -/
theorem registerPools_rows {s : SchedulerStore} {pools : List ResourcePool}
    (h : ((s.pools.rows ++ pools).map ResourcePool.resourceKey).Nodup) :
    (s.registerPools pools).pools.rows = s.pools.rows ++ pools := by
  induction pools generalizing s with
  | nil => simp [registerPools]
  | cons pool pools ih =>
    have hfr : s.pools.find? pool.resourceKey = none := by
      rw [Table.find?_eq_none_iff]
      intro row hrow hkey
      rw [map_append, nodup_append] at h
      exact h.2.2 row.resourceKey (mem_map_of_mem hrow) pool.resourceKey
        (mem_map_of_mem mem_cons_self) hkey
    have hrows : (s.registerPool pool).pools.rows = s.pools.rows ++ [pool] :=
      Table.upsert_rows_of_fresh hfr
    have hnext : (((s.registerPool pool).pools.rows ++ pools).map
        ResourcePool.resourceKey).Nodup := by
      rwa [hrows, append_assoc, singleton_append]
    have hrest := ih hnext
    rw [hrows, append_assoc, singleton_append] at hrest
    exact hrest

end SchedulerStore

/-! ### Snapshots -/

/-- `[a-f0-9]{64}`. -/
def registryIdPattern : RegularExpression Char := times (oneOf hexAlphabet) 64

/-- The pools and the active leases at a time. -/
structure ResourceRegistrySnapshot where
  registryId : String
  pools : List ResourcePool
  activeLeases : List ResourceLease
  observedAtUtc : Instant
  registryId_valid : fullmatch registryIdPattern registryId = true
  pools_nodup : (pools.map ResourcePool.resourceKey).Nodup

/-- A digest has the form of a registry identifier. -/
theorem Sha256.hexdigest_registryId (sha : Sha256) (text : String) :
    fullmatch registryIdPattern (String.ofList (sha.hexdigest text)) = true := by
  rw [fullmatch, String.toList_ofList, accepts_iff, registryIdPattern, ← sha.length_hexdigest text]
  exact mem_times_oneOf (sha.hex_hexdigest text)

def ResourceRegistrySnapshot.create (sha : Sha256)
    (registryText : List ResourcePool → List ResourceLease → String) (pools : List ResourcePool)
    (activeLeases : List ResourceLease) (observedAtUtc : Instant) :
    Except PyError ResourceRegistrySnapshot :=
  let poolTuple := pools.insertionSort fun a b => textLe a.resourceKey b.resourceKey
  let leaseTuple := activeLeases.insertionSort fun a b => textLe a.leaseId b.leaseId
  if h : (poolTuple.map ResourcePool.resourceKey).Nodup then
    .ok
      { registryId := String.ofList (sha.hexdigest (registryText poolTuple leaseTuple))
        pools := poolTuple
        activeLeases := leaseTuple
        observedAtUtc := observedAtUtc
        registryId_valid := sha.hexdigest_registryId _
        pools_nodup := h }
  else
    .error (.validationError "ResourceRegistrySnapshot"
      [("", "Value error, resource registry contains duplicate pool keys")])

section

variable (s : SchedulerStore) (machine : MachineFacts)

/-- The store that `registry_snapshot` leaves behind: an empty pool table is filled with the
local pools. -/
def SchedulerStore.withPools : SchedulerStore :=
  if s.listPools.isEmpty then s.registerPools (localResourcePools machine) else s

/-- `registry_snapshot`: the snapshot, of the store that it leaves behind. -/
def SchedulerStore.registrySnapshot (s : SchedulerStore) (sha : Sha256)
    (registryText : List ResourcePool → List ResourceLease → String) (machine : MachineFacts)
    (when : Instant) : Except PyError ResourceRegistrySnapshot := do
  let pools := if s.listPools.isEmpty then localResourcePools machine else s.listPools
  let activeLeases ← (s.withPools machine).listActiveLeases when
  ResourceRegistrySnapshot.create sha registryText pools activeLeases when

/-! ### What a snapshot holds -/

/-- The local pools have distinct keys. -/
theorem localResourcePools_nodup (machine : MachineFacts) :
    ((localResourcePools machine).map ResourcePool.resourceKey).Nodup := by
  rw [localResourcePools]
  cases machine.memoryMb with
  | none =>
    show ["machine:local/cpu_slots", "machine:local/process_slots", "machine:local/disk_mb"].Nodup
    decide
  | some memoryMb =>
    by_cases h : 1 < memoryMb
    · simp only [dif_pos h]
      show ["machine:local/cpu_slots", "machine:local/process_slots", "machine:local/disk_mb",
        "machine:local/memory_mb"].Nodup
      decide
    · simp only [dif_neg h]
      show ["machine:local/cpu_slots", "machine:local/process_slots", "machine:local/disk_mb"].Nodup
      decide

/-- The pools of a snapshot are those of the store that is left behind. -/
theorem SchedulerStore.withPools_perm :
    (if s.listPools.isEmpty then localResourcePools machine else s.listPools).Perm
      (s.withPools machine).pools.rows := by
  rw [withPools]
  split
  · rename_i hemp
    have hnil : s.pools.rows = [] := by
      have hperm := s.listPools_perm
      rw [isEmpty_iff.mp hemp] at hperm
      exact hperm.symm.eq_nil
    have hnd : ((s.pools.rows ++ localResourcePools machine).map
        ResourcePool.resourceKey).Nodup := by
      rw [hnil, nil_append]
      exact localResourcePools_nodup machine
    rw [registerPools_rows hnd, hnil, nil_append]
  · exact s.listPools_perm

/-- Registering pools changes neither leases nor tokens. -/
theorem SchedulerStore.withPools_frame :
    (s.withPools machine).leases = s.leases ∧
      (s.withPools machine).fencingTokens = s.fencingTokens := by
  rw [withPools]
  split
  · exact ⟨registerPools_leases s _, registerPools_fencingTokens s _⟩
  · exact ⟨rfl, rfl⟩

end

variable {registryText : List ResourcePool → List ResourceLease → String}
  {registry : ResourceRegistrySnapshot} {when : Instant}

theorem ResourceRegistrySnapshot.create_eq_ok {sha : Sha256} {pools : List ResourcePool}
    {activeLeases : List ResourceLease}
    (h : create sha registryText pools activeLeases when = .ok registry) :
    registry.pools.Perm pools ∧ registry.activeLeases.Perm activeLeases := by
  simp only [create] at h
  split at h
  · cases h
    exact ⟨perm_insertionSort _ _, perm_insertionSort _ _⟩
  · cases h

/-- **A snapshot holds the pools of the store that is left behind and the leases that are
active at its time.** -/
theorem SchedulerStore.registrySnapshot_eq_ok {s : SchedulerStore} {sha : Sha256} {machine : MachineFacts}
    (h : s.registrySnapshot sha registryText machine when = .ok registry) :
    registry.pools.Perm (s.withPools machine).pools.rows ∧
      ∃ active, (s.withPools machine).listActiveLeases when = .ok active ∧
        registry.activeLeases.Perm active := by
  rw [registrySnapshot, bind_eq_ok] at h
  obtain ⟨active, hact, h⟩ := h
  obtain ⟨hpls, hlss⟩ := ResourceRegistrySnapshot.create_eq_ok h
  exact ⟨hpls.trans (s.withPools_perm machine), active, hact, hlss⟩

end ProjectPipeline
