import ProjectPipeline.Registry

/-!
# Machines of the Fleet

What a dispatch reads of the machine it goes to: whether the machine is eligible at a time,
which machine is selected, and the claims on the machine's resources that a job makes. Claims
are constructed from texts and numbers of the caller, so the constructor may reject them.

The pools of a machine are data here. They are computed from its measured capacity in floating
point arithmetic.
-/

namespace ProjectPipeline

open List

/-! ### The constructor of a claim -/

/-- The fields of a claim that the constructor rejects, with their messages. -/
def claimErrors (rawKey : String) (quantity : ℤ) (machineId purpose : Option String) :
    List (String × String) :=
  (if rawKey.length < 1 then [("resource_key", "String should have at least 1 character")]
    else if 512 < rawKey.length then
      [("resource_key", "String should have at most 512 characters")]
    else
      match normalizeResourceKey rawKey with
      | .ok _ => []
      | .error (.valueError message) => [("resource_key", "Value error, " ++ message)]
      | .error _ => [("resource_key", "Value error")]) ++
  (if quantity < 1 then [("quantity", "Input should be greater than or equal to 1")]
    else if 10000000 < quantity then
      [("quantity", "Input should be less than or equal to 10000000")]
    else []) ++
  (if machineId.any (191 < ·.length) then
      [("machine_id", "String should have at most 191 characters")]
    else []) ++
  (if purpose.any (1000 < ·.length) then
      [("purpose", "String should have at most 1000 characters")]
    else [])

/-- The fields of a claim without errors are as the claim needs them. -/
theorem claimErrors_eq_nil {rawKey : String} {quantity : ℤ} {machineId purpose : Option String}
    (h : claimErrors rawKey quantity machineId purpose = []) :
    (∃ key, normalizeResourceKey rawKey = .ok key ∧ IsResourceKey key) ∧
      (1 ≤ quantity.toNat ∧ quantity.toNat ≤ 10000000) ∧
      (∀ text ∈ machineId, text.length ≤ 191) ∧ ∀ text ∈ purpose, text.length ≤ 1000 := by
  obtain ⟨h, hpurpose⟩ := append_eq_nil_iff.mp h
  obtain ⟨h, hmachine⟩ := append_eq_nil_iff.mp h
  obtain ⟨hkey, hquantity⟩ := append_eq_nil_iff.mp h
  refine ⟨?_, ?_, ?_, ?_⟩
  · split at hkey
    · cases hkey
    split at hkey
    · cases hkey
    split at hkey
    · rename_i hshort hlong _ key hnormal
      exact ⟨key, hnormal, rawKey, by omega, by omega, hnormal⟩
    · cases hkey
    · cases hkey
  · split at hquantity
    · cases hquantity
    split at hquantity
    · cases hquantity
    omega
  · intro text htext
    rw [Option.mem_def.mp htext] at hmachine
    by_contra hlong
    simp [not_le.mp hlong] at hmachine
  · intro text htext
    rw [Option.mem_def.mp htext] at hpurpose
    by_contra hlong
    simp [not_le.mp hlong] at hpurpose

/-- `ResourceClaim(...)`. -/
def ResourceClaim.create (rawKey : String) (resourceType : ResourceType) (accessMode : AccessMode)
    (quantity : ℤ) (machineId purpose : Option String) :
    Except PyError ResourceClaim :=
  if h : claimErrors rawKey quantity machineId purpose = [] then do
    let ⟨key, hkey⟩ ← returned (normalizeResourceKey rawKey)
    pure
      { resourceKey := key
        resourceType := resourceType
        accessMode := accessMode
        quantity := quantity.toNat
        machineId := machineId
        purpose := purpose
        key_valid := by
          obtain ⟨key', hkey', hvalid⟩ := (claimErrors_eq_nil h).1
          rw [hkey] at hkey'
          exact Except.ok.inj hkey' ▸ hvalid
        quantity_valid := (claimErrors_eq_nil h).2.1
        machineId_valid := (claimErrors_eq_nil h).2.2.1
        purpose_valid := (claimErrors_eq_nil h).2.2.2 }
  else .error (.validationError "ResourceClaim" (claimErrors rawKey quantity machineId purpose))

/-- A shared claim on a resource of a machine. -/
def machineClaim (machineId resource : String) (resourceType : ResourceType) (quantity : ℤ)
    (purpose : String) : Except PyError ResourceClaim :=
  ResourceClaim.create (machineId ++ "/" ++ resource) resourceType .shared quantity
    (some machineId) (some purpose)

def physicalClaimsForMachine (machineId : String) (cpu : ℤ := 1) (memoryMb : ℤ := 256)
    (diskMb : ℤ := 256) (processes : ℤ := 1) : Except PyError (List ResourceClaim) := do
  let cpuClaim ← machineClaim machineId "cpu_slots" .cpuSlot cpu "machine-qualified CPU"
  let memoryClaim ← machineClaim machineId "memory_mb" .memoryMb memoryMb "machine-qualified RAM"
  let diskClaim ← machineClaim machineId "disk_mb" .diskMb diskMb "machine-qualified disk"
  let processClaim ←
    machineClaim machineId "process_slots" .processSlot processes "machine-qualified process"
  pure [cpuClaim, memoryClaim, diskClaim, processClaim]

/-! ### Profiles and placement -/

inductive HostState where
  | ready | stale | offline | drained | quarantined | enrollmentPending
  deriving DecidableEq, Repr

def HostState.value : HostState → String
  | ready => "READY"
  | stale => "STALE"
  | offline => "OFFLINE"
  | drained => "DRAINED"
  | quarantined => "QUARANTINED"
  | enrollmentPending => "ENROLLMENT_PENDING"

structure MachineProfile where
  machineId : String
  role : String
  state : HostState := .ready
  observedAtUtc : Instant
  ttlSeconds : ℕ := 300
  isaFlags : List String := []
  cudaComputeCapability : Option ℚ := none
  diskMb : ℕ
  principal : String := "worker"
  modernCudaEligible : Bool := false
  observationKind : String := "MEASURED"
  physicalPools : List ResourcePool := []

namespace MachineProfile

variable (profile : MachineProfile)

/-- The capacity was declared and not measured. -/
def unmeasured : Bool :=
  ["DECLARED", "HOSTNAME_ONLY", "PARTIAL"].contains profile.observationKind

/-- `fresh_at`. An observation may lie 120 seconds in the future. -/
def freshAt (when : Instant) : Bool :=
  !profile.unmeasured && decide (profile.observedAtUtc ≤ when + 120000000) &&
    decide (max when profile.observedAtUtc ≤ profile.observedAtUtc + profile.ttlSeconds * 1000000)

/-- `eligibility_reasons`. Flags are compared in lower case. -/
def eligibilityReasons (when : Instant) (requireAvx2 requireModernCuda : Bool) : List String :=
  (if profile.state ≠ .ready then ["host_state:" ++ profile.state.value] else []) ++
  (if profile.unmeasured then ["measurement_incomplete"] else []) ++
  (if !profile.freshAt when then ["stale_capacity"] else []) ++
  (if requireAvx2 && !(profile.isaFlags.map String.toLower).contains "avx2" then
      ["unsupported_isa:avx2"]
    else []) ++
  (if requireModernCuda && (!profile.modernCudaEligible ||
        !profile.cudaComputeCapability.any fun capability => decide (5 ≤ capability)) then
      ["unsupported_gpu:modern_cuda"]
    else [])

/-- The order in which the machines are looked at. -/
def byId (a b : MachineProfile) : Prop := textLe a.machineId b.machineId = true

/-- The order of preference: most disk first, then the identifier. -/
def byDisk (a b : MachineProfile) : Prop :=
  b.diskMb < a.diskMb ∨ a.diskMb = b.diskMb ∧ textLe a.machineId b.machineId = true

instance : DecidableRel byId := fun a b =>
  inferInstanceAs (Decidable (textLe a.machineId b.machineId = true))

instance : DecidableRel byDisk := fun a b =>
  inferInstanceAs (Decidable
    (b.diskMb < a.diskMb ∨ a.diskMb = b.diskMb ∧ textLe a.machineId b.machineId = true))

end MachineProfile

/-- Why a machine is passed over by `select_target`. -/
def denial (when : Instant) (requireAvx2 requireModernCuda : Bool) (profile : MachineProfile) :
    Option String :=
  let reasons := profile.eligibilityReasons when requireAvx2 requireModernCuda
  if reasons ≠ [] then some (profile.machineId ++ ":" ++ pyJoin "|" reasons)
  else if profile.role ∉ ["CPU_WORKER", "MEMORY_HEAVY_BATCH_WORKER", "PRIMARY_CONTROL_CANDIDATE"]
  then some (profile.machineId ++ ":role:" ++ profile.role)
  else none

/-- `select_target`, with the default of `prefer_roles`. -/
def selectTarget (profiles : List MachineProfile) (when : Instant)
    (requireAvx2 requireModernCuda : Bool) : Option MachineProfile × List String :=
  let sorted := profiles.insertionSort MachineProfile.byId
  let denials := sorted.filterMap (denial when requireAvx2 requireModernCuda)
  let eligible := sorted.filter fun profile =>
    (denial when requireAvx2 requireModernCuda profile).isNone
  let workers := eligible.filter fun profile => profile.role ≠ "PRIMARY_CONTROL_CANDIDATE"
  let pool := if workers = [] then eligible else workers
  ((pool.insertionSort MachineProfile.byDisk).head?, denials)

def SchedulerStore.ensureMachinePools (s : SchedulerStore) (pools : List ResourcePool) :
    SchedulerStore :=
  s.registerPools pools

end ProjectPipeline
