import ProjectPipeline.Identifiers

/-!
# Resource Claims, Pools and Leases

The scheduler's resource records (`domain/scheduler.py`). A record whose constructor
validates its fields is a structure that carries the validated facts: a `ResourceClaim`
has a normalized key and a quantity in range, a `ResourcePool` leaves at least one unit
to allocate. A `ResourceLease` is a plain record with an explicit `validate`, because the
program also builds leases by `model_copy`, which checks nothing, and validates them only
when they are read back.

## Main results

* `ResourceClaim.conflictsWith_comm`: claim conflicts are symmetric.
* `ResourceLease.activeAt_anti`: a lease that is active at a time was active before.
-/

namespace ProjectPipeline

/-! ### Claims -/

inductive ResourceType where
  | path | symbol | module | database | schema | apiContract | configuration
  | infrastructure | docker | environment | release | fixture | service | port | gpu
  | gpuMemoryMb | cpuSlot | memoryMb | diskMb | networkSlot | processSlot | concurrencySlot
  | providerSlot | reviewSlot
  deriving DecidableEq, Repr

def ResourceType.value : ResourceType → String
  | path => "PATH"
  | symbol => "SYMBOL"
  | module => "MODULE"
  | database => "DATABASE"
  | schema => "SCHEMA"
  | apiContract => "API_CONTRACT"
  | configuration => "CONFIGURATION"
  | infrastructure => "INFRASTRUCTURE"
  | docker => "DOCKER"
  | environment => "ENVIRONMENT"
  | release => "RELEASE"
  | fixture => "FIXTURE"
  | service => "SERVICE"
  | port => "PORT"
  | gpu => "GPU"
  | gpuMemoryMb => "GPU_MEMORY_MB"
  | cpuSlot => "CPU_SLOT"
  | memoryMb => "MEMORY_MB"
  | diskMb => "DISK_MB"
  | networkSlot => "NETWORK_SLOT"
  | processSlot => "PROCESS_SLOT"
  | concurrencySlot => "CONCURRENCY_SLOT"
  | providerSlot => "PROVIDER_SLOT"
  | reviewSlot => "REVIEW_SLOT"

/-- Whether a claim can be shared. -/
inductive AccessMode where
  | shared | exclusive
  deriving DecidableEq, Repr

def AccessMode.value : AccessMode → String
  | shared => "SHARED"
  | exclusive => "EXCLUSIVE"

/-- `re.match(r"^[A-Za-z]:/", value)`. -/
def isDrivePath (value : String) : Bool :=
  match value.toList with
  | letter :: ':' :: '/' :: _ => letter.isAlpha
  | _ => false

/-- `ResourceClaim.normalize_resource_key`. -/
def normalizeResourceKey (value : String) : Except PyError String :=
  let value := replaceChar '\\' '/' (pyStrip value)
  if value == "" || value.toList.contains (Char.ofNat 0) then
    .error (.valueError "resource key must be non-empty and contain no NUL bytes")
  else if startsWith value "/" || isDrivePath value then
    .error (.valueError "resource keys must be logical or repository-relative, not absolute paths")
  else if (pySplit '/' value).contains ".." then
    .error (.valueError "resource keys cannot escape their logical root")
  else
    let key := String.ofList ((collapseRuns '/' value.toList).rdropWhile (· == '/'))
    .ok (if key == "" then "." else key)

/-- The raw texts that `resource_key` accepts and the key they are stored under. -/
def IsResourceKey (key : String) : Prop :=
  ∃ raw : String, 1 ≤ raw.length ∧ raw.length ≤ 512 ∧ normalizeResourceKey raw = .ok key

/-- A resource key is not blank. -/
theorem IsResourceKey.visible {key : String} (h : IsResourceKey key) : Visible key := by
  obtain ⟨raw, _, _, hkey⟩ := h
  simp only [normalizeResourceKey] at hkey
  set value := replaceChar '\\' '/' (pyStrip raw) with hvl
  split at hkey
  · cases hkey
  rename_i hemp
  split at hkey
  · cases hkey
  rename_i habsolute
  split at hkey
  · cases hkey
  obtain rfl := Except.ok.inj hkey
  split
  · exact visible_of_any (by decide)
  -- The first code point of the stripped text is neither blank nor a slash, so it stays.
  cases hstrip : (pyStrip raw).toList with
  | nil =>
    have hnil : pyStrip raw = "" := String.toList_inj.mp hstrip
    simp [hvl, hnil, replaceChar] at hemp
  | cons c rest =>
    have hlist : value.toList = (if c = '\\' then '/' else c) ::
        rest.map fun c => if c = '\\' then '/' else c := by
      rw [hvl, replaceChar, String.toList_ofList, hstrip, List.map_cons]
    have hslash : (if c = '\\' then '/' else c) ≠ '/' := by
      intro heq
      rw [heq] at hlist
      simp [startsWith, hlist] at habsolute
    have hc : c ≠ '\\' := fun heq => hslash (if_pos heq)
    rw [if_neg hc] at hlist hslash
    refine ⟨c, ?_, isSpace_head_pyStrip hstrip⟩
    rw [String.toList_ofList]
    refine mem_rdropWhile_of_not (mem_collapseRuns ?_ hslash) (by simpa using hslash)
    rw [hlist]
    exact List.mem_cons_self

theorem one_unit_valid : 1 ≤ 1 ∧ 1 ≤ 10000000 := by decide

theorem two_units_valid : 1 ≤ 2 ∧ 2 ≤ 10000000 := by decide

theorem no_machineId_valid : ∀ text ∈ (none : Option String), text.length ≤ 191 := by simp

theorem no_purpose_valid : ∀ text ∈ (none : Option String), text.length ≤ 1000 := by simp

structure ResourceClaim where
  resourceKey : String
  resourceType : ResourceType
  accessMode : AccessMode := .exclusive
  quantity : ℕ := 1
  machineId : Option String := none
  purpose : Option String := none
  key_valid : IsResourceKey resourceKey
  quantity_valid : 1 ≤ quantity ∧ quantity ≤ 10000000 := by exact one_unit_valid
  machineId_valid : ∀ text ∈ machineId, text.length ≤ 191 := by exact no_machineId_valid
  purpose_valid : ∀ text ∈ purpose, text.length ≤ 1000 := by exact no_purpose_valid
  deriving DecidableEq

namespace ResourceClaim

variable (a b : ResourceClaim)

/-- The keys of two claims overlap: equal, or one path below the other. -/
def overlaps : Bool :=
  if a.resourceType = .path ∧ b.resourceType = .path then
    a.resourceKey == b.resourceKey || startsWith a.resourceKey (b.resourceKey ++ "/") ||
      startsWith b.resourceKey (a.resourceKey ++ "/")
  else a.resourceKey == b.resourceKey

/-- `conflicts_with`: the keys overlap and one of the claims is exclusive. -/
def conflictsWith : Bool :=
  a.overlaps b && (a.accessMode = .exclusive || b.accessMode = .exclusive)

theorem overlaps_comm : a.overlaps b = b.overlaps a := by
  have hkey : (a.resourceKey == b.resourceKey) = (b.resourceKey == a.resourceKey) :=
    Bool.beq_comm
  rw [overlaps, overlaps]
  by_cases h : a.resourceType = .path ∧ b.resourceType = .path
  · rw [if_pos h, if_pos h.symm, hkey, Bool.or_right_comm]
  · rw [if_neg h, if_neg fun h' => h h'.symm, hkey]

/-- Conflicts are symmetric. -/
theorem conflictsWith_comm : a.conflictsWith b = b.conflictsWith a := by
  rw [conflictsWith, conflictsWith, overlaps_comm, Bool.or_comm]

end ResourceClaim

/-! ### Pools -/

structure ResourcePool where
  resourceKey : String
  resourceType : ResourceType
  capacityUnits : ℕ
  reservedUnits : ℕ := 0
  machineId : Option String := none
  key_valid : 1 ≤ resourceKey.length ∧ resourceKey.length ≤ 512
  reserve_valid : reservedUnits < capacityUnits
  machineId_valid : ∀ text ∈ machineId, text.length ≤ 191 := by exact no_machineId_valid
  deriving DecidableEq

def ResourcePool.allocatableUnits (pool : ResourcePool) : ℕ :=
  pool.capacityUnits - pool.reservedUnits

/-! ### Leases -/

/-- A lease of a claim to a holder. -/
structure ResourceLease where
  leaseId : String
  taskId : String
  holderId : String
  claim : ResourceClaim
  fencingToken : ℤ
  acquiredAtUtc : Instant
  expiresAtUtc : Instant
  renewedAtUtc : Option Instant := none
  releasedAtUtc : Option Instant := none
  deriving DecidableEq

namespace ResourceLease

variable (lease : ResourceLease)

def activeAt (when : Instant) : Bool :=
  lease.releasedAtUtc.isNone && decide (when < lease.expiresAtUtc)

/-- The fields of the record that the constructor rejects, with their messages. -/
def fieldErrors : List (String × String) :=
  (if isSchedulerId .lease lease.leaseId then []
    else [("lease_id", "Value error, invalid resource lease identifier: " ++ lease.leaseId)]) ++
  (if fullmatch IdentifierKind.issue.pattern lease.taskId then []
    else [("task_id", "Value error, Invalid issue identifier: " ++ lease.taskId)]) ++
  (if lease.holderId.length < 1 then
      [("holder_id", "String should have at least 1 character")]
    else if 191 < lease.holderId.length then
      [("holder_id", "String should have at most 191 characters")]
    else []) ++
  (if lease.fencingToken < 1 then
      [("fencing_token", "Input should be greater than or equal to 1")]
    else [])

/-- `validate_lifecycle`. -/
def lifecycleErrors : List (String × String) :=
  if lease.expiresAtUtc ≤ lease.acquiredAtUtc then
    [("", "Value error, lease expiry must be later than acquisition")]
  else if lease.renewedAtUtc.any (· < lease.acquiredAtUtc) then
    [("", "Value error, lease renewal cannot precede acquisition")]
  else if lease.releasedAtUtc.any (· < lease.acquiredAtUtc) then
    [("", "Value error, lease release cannot precede acquisition")]
  else []

/-- What the constructor reports: the fields are checked first, and the lifecycle once
they are right. -/
def errors : List (String × String) :=
  if lease.fieldErrors.isEmpty then lease.lifecycleErrors else lease.fieldErrors

/-- The construction of a lease, and the reading of a stored one. -/
def validate : Except PyError ResourceLease :=
  if lease.errors.isEmpty then .ok lease
  else .error (.validationError "ResourceLease" lease.errors)

section

variable {lease : ResourceLease}

/-- The order of times that a valid lease has. -/
theorem validate_iff :
    lease.validate = .ok lease ↔ lease.fieldErrors = [] ∧
      lease.acquiredAtUtc < lease.expiresAtUtc ∧
      (∀ t ∈ lease.renewedAtUtc, lease.acquiredAtUtc ≤ t) ∧
      ∀ t ∈ lease.releasedAtUtc, lease.acquiredAtUtc ≤ t := by
  have hlifecycle : lease.lifecycleErrors = [] ↔ lease.acquiredAtUtc < lease.expiresAtUtc ∧
      (∀ t ∈ lease.renewedAtUtc, lease.acquiredAtUtc ≤ t) ∧
      ∀ t ∈ lease.releasedAtUtc, lease.acquiredAtUtc ≤ t := by
    rw [lifecycleErrors]
    cases lease.renewedAtUtc <;> cases lease.releasedAtUtc <;> simp [ite_eq_iff]
  rw [← hlifecycle]
  by_cases hflds : lease.fieldErrors = [] <;> simp [validate, errors, hflds]

/-- What a new lease has to satisfy. -/
theorem validate_of_new (hid : isSchedulerId .lease lease.leaseId = true)
    (htask : fullmatch IdentifierKind.issue.pattern lease.taskId = true)
    (hhdr : 1 ≤ lease.holderId.length ∧ lease.holderId.length ≤ 191) (htok : 1 ≤ lease.fencingToken)
    (hexpires : lease.acquiredAtUtc < lease.expiresAtUtc) (hrenewed : lease.renewedAtUtc = none)
    (hrel : lease.releasedAtUtc = none) :
    lease.validate = .ok lease := by
  refine validate_iff.mpr ⟨?_, hexpires, by simp [hrenewed], by simp [hrel]⟩
  rw [fieldErrors, if_pos hid, if_pos htask, if_neg (by omega), if_neg (by omega),
    if_neg (by omega)]
  rfl

/-- A validated lease is the lease that was read. -/
theorem validate_eq_ok {lease lease' : ResourceLease} (h : lease.validate = .ok lease') :
    lease' = lease := by
  rw [validate] at h
  split at h
  · exact (Except.ok.inj h).symm
  · cases h

theorem activeAt_iff {t : Instant} :
    lease.activeAt t = true ↔ lease.releasedAtUtc = none ∧ t < lease.expiresAtUtc := by
  simp [activeAt]

/-- A lease that is active at a time was active before, as far as expiry goes. -/
theorem activeAt_anti {t t' : Instant} (h : t ≤ t')
    (hact : lease.activeAt t' = true) : lease.activeAt t = true := by
  rw [activeAt_iff] at hact ⊢
  exact ⟨hact.1, h.trans_lt hact.2⟩

end

end ResourceLease

def leaseExpiry (now : Instant) (ttlSeconds : ℤ) : Except PyError Instant :=
  if ttlSeconds ≤ 0 then .error (.valueError "lease TTL must be positive")
  else addSeconds now ttlSeconds

/-- A lease expires after it is acquired. -/
theorem lt_of_leaseExpiry {now expires : Instant} {ttlSeconds : ℤ}
    (h : leaseExpiry now ttlSeconds = .ok expires) : now < expires := by
  rw [leaseExpiry] at h
  split at h
  · cases h
  · have hsum := addSeconds_eq_ok h
    have hlt : (now : ℤ) < (expires : ℤ) := by omega
    exact Int.ofNat_lt.mp hlt

structure LeaseBundle where
  taskId : String
  holderId : String
  leases : List ResourceLease
  acquired : Bool
  reasons : List String := []
  deriving DecidableEq

/-- `LeaseBundle.validate_bundle`, the check of the constructor. -/
def LeaseBundle.validate (bundle : LeaseBundle) : Except PyError LeaseBundle :=
  if !fullmatch IdentifierKind.issue.pattern bundle.taskId then
    .error (.validationError "LeaseBundle"
      [("", "Value error, Invalid issue identifier: " ++ bundle.taskId)])
  else if bundle.acquired && bundle.leases.isEmpty then
    .error (.validationError "LeaseBundle"
      [("", "Value error, acquired lease bundle must contain leases")])
  else if !bundle.acquired && bundle.reasons.isEmpty then
    .error (.validationError "LeaseBundle"
      [("", "Value error, failed lease bundle must include reasons")])
  else .ok bundle

end ProjectPipeline
