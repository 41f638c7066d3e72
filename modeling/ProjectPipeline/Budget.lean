import ProjectPipeline.Identifiers
import ProjectPipeline.Runs
import ProjectPipeline.Totals

/-!
# The Budget Store

`BudgetStore` (`budget/persistence.py`) with the records it keeps (`domain/budget.py`):
limits and quotas, the ledger of what was spent, and the leases that reserve spending in
advance. `reserve` checks the caps and inserts a lease inside of one transaction;
`settle_lease` books the ledger entry and closes the lease in another; the remaining calls
move a lease from one state to the next.

The records carry what their constructors check. Updates are made with `model_copy`, which
does not check again; that the updated record would pass is a proof obligation of the
structure here, so reading a stored payload never fails. Columns that only repeat a part of
the payload and are never read are left out.

## Main results

* `BudgetStore.reserve_cases`, `BudgetStore.settleLease_cases`, `BudgetStore.moveLease_cases`:
  what a call can do to the store.
-/

namespace ProjectPipeline

/-! ### Records -/

inductive BudgetScopeType where
  | global | portfolio | project | phase | task | provider | resource
  deriving DecidableEq, Repr

def BudgetScopeType.value : BudgetScopeType → String
  | global => "GLOBAL"
  | portfolio => "PORTFOLIO"
  | project => "PROJECT"
  | phase => "PHASE"
  | task => "TASK"
  | provider => "PROVIDER"
  | resource => "RESOURCE"

inductive LedgerDirection where
  | debit | credit
  deriving DecidableEq, Repr

inductive SpendLeaseState where
  | reserved | settled | released | expired | cancelled | unknownOutcome | overspent
  deriving DecidableEq, Repr

/-- The reasons for which the protected reserve may be used. -/
inductive ReserveReason where
  | p0FailureRecovery | criticalPath | releaseBlocker | security | productionRecovery
  | criticalArchitecture | deadlineProtection | requiredVerification
  deriving DecidableEq, Repr

inductive PressureMode where
  | green | yellow | orange | red | hardStop
  deriving DecidableEq, Repr

/-- `validate_scope_keys` leaves the keys as they are: stripped, sorted, without
duplicates, and at least one. -/
def IsScopeKeys (scopeKeys : List String) : Prop :=
  scopeKeys ≠ [] ∧ sortedSet ((scopeKeys.map pyStrip).filter (· != "")) = scopeKeys

instance (scopeKeys : List String) : Decidable (IsScopeKeys scopeKeys) :=
  inferInstanceAs (Decidable (_ ∧ _))

/-- `Field(min_length=1, max_length=longest)`. -/
def HasLength (longest : ℕ) (text : String) : Prop := 1 ≤ text.length ∧ text.length ≤ longest

instance (longest : ℕ) (text : String) : Decidable (HasLength longest text) :=
  inferInstanceAs (Decidable (_ ∧ _))

/-- `mapping.get(key, 0)`. -/
def unitsOf (mapping : List (String × ℕ)) (key : String) : ℕ :=
  ((mapping.find? fun item => item.1 == key).map Prod.snd).getD 0

/-- A cap on the spending of one scope in one cycle. -/
structure BudgetLimit (sha : Sha256) where
  limitId : String
  scopeType : BudgetScopeType
  scopeId : String
  cycleId : String
  hardCapMicrounits : ℕ
  softCapMicrounits : Option ℕ := none
  protectedReserveMicrounits : ℕ := 0
  enabled : Bool := true
  limitId_valid : budgetIdentifier sha .limit
    [scopeType.value ++ ":" ++ scopeId, cycleId] = .ok limitId
  scopeId_valid : HasLength 191 scopeId
  cycleId_valid : HasLength 100 cycleId
  softCap_valid : ∀ softCap ∈ softCapMicrounits, softCap ≤ hardCapMicrounits := by simp
  reserve_valid : protectedReserveMicrounits ≤ hardCapMicrounits

def BudgetLimit.scopeKey {sha : Sha256} (limit : BudgetLimit sha) : String :=
  limit.scopeType.value ++ ":" ++ limit.scopeId

def BudgetLimit.normalCapMicrounits {sha : Sha256} (limit : BudgetLimit sha) : ℕ :=
  limit.hardCapMicrounits - limit.protectedReserveMicrounits

structure QuotaLimit (sha : Sha256) where
  quotaId : String
  scopeKey : String
  providerId : String
  quotaName : String
  capacityUnits : ℕ
  protectedUnits : ℕ := 0
  maxShadowCostMicrounits : ℕ := 0
  enabled : Bool := true
  quotaId_valid : budgetIdentifier sha .quota [scopeKey, providerId, quotaName] = .ok quotaId
  scopeKey_valid : 3 ≤ scopeKey.length ∧ scopeKey.length ≤ 250
  providerId_valid : HasLength 191 providerId
  quotaName_valid : HasLength 100 quotaName
  capacity_valid : 0 < capacityUnits
  protected_valid : protectedUnits ≤ capacityUnits

/-- A booking. `details` stands for the fields that are only compared. -/
structure BudgetLedgerEntry (sha : Sha256) where
  entryId : String
  idempotencyKey : String
  projectId : String
  taskId : Option String
  direction : LedgerDirection := .debit
  cashMicrounits : ℕ := 0
  shadowCostMicrounits : ℕ := 0
  quotaUnits : List (String × ℕ) := []
  usageDimensions : List (String × ℕ) := []
  scopeKeys : List String
  observedAtUtc : Instant
  details : String := ""
  entryId_valid : budgetIdentifier sha .entry [idempotencyKey] = .ok entryId
  idempotencyKey_valid : HasLength 300 idempotencyKey
  projectId_valid : HasLength 191 projectId
  scopeKeys_valid : IsScopeKeys scopeKeys
  recorded : cashMicrounits ≠ 0 ∨ quotaUnits ≠ [] ∨ usageDimensions ≠ []
  deriving DecidableEq

structure SpendLease (sha : Sha256) where
  leaseId : String
  idempotencyKey : String
  projectId : String
  taskId : String
  providerId : Option String
  scopeKeys : List String
  maximumMicrounits : ℕ
  reservedMicrounits : ℕ
  consumedMicrounits : ℕ := 0
  quotaReservations : List (String × ℕ)
  state : SpendLeaseState := .reserved
  reserveReason : Option ReserveReason
  reservationEvidence : List String
  createdAtUtc : Instant
  expiresAtUtc : Instant
  updatedAtUtc : Instant
  reconciliationRequired : Bool := false
  leaseId_valid : budgetIdentifier sha .lease [idempotencyKey] = .ok leaseId
  idempotencyKey_valid : HasLength 300 idempotencyKey
  projectId_valid : HasLength 191 projectId
  taskId_valid : HasLength 191 taskId
  scopeKeys_valid : IsScopeKeys scopeKeys
  reserved_valid : reservedMicrounits ≤ maximumMicrounits
  expires_valid : createdAtUtc < expiresAtUtc
  unknown_valid : state = .unknownOutcome → reconciliationRequired = true
  deriving DecidableEq

/-- What `list_active_leases` counts: an unknown outcome, or a reservation that has not
lapsed. -/
def SpendLease.activeAt {sha : Sha256} (lease : SpendLease sha) (now : Instant) : Bool :=
  lease.state == .unknownOutcome || (lease.state == .reserved && decide (now < lease.expiresAtUtc))

structure BudgetAdmissionRequest where
  projectId : String
  taskId : String
  taskClass : String
  providerId : Option String := none
  scopeKeys : List String
  estimatedP50Microunits : ℕ
  estimatedP90Microunits : ℕ
  quotaRequirements : List (String × ℕ) := []
  priority : String := "P2"
  risk : String := "MEDIUM"
  criticalPath : Bool := false
  requiredVerification : Bool := false
  paidIncremental : Bool := true
  localOrSubscriptionAlternative : Bool := false
  reserveReason : Option ReserveReason := none
  deadlineAtUtc : Option Instant := none
  projectId_valid : HasLength 191 projectId
  taskId_valid : HasLength 191 taskId
  taskClass_valid : HasLength 100 taskClass
  scopeKeys_valid : IsScopeKeys scopeKeys
  estimate_valid : estimatedP50Microunits ≤ estimatedP90Microunits

/-- The decision that a reservation refers to. -/
structure BudgetAdmissionDecision where
  decisionId : String
  taskId : String
  admitted : Bool
  pressureMode : PressureMode
  authorizedMicrounits : ℕ
  reserveAuthorized : Bool := false
  allowedPaidIncremental : Bool := true
  quotaShadowCostMicrounits : ℕ := 0
  reasons : List String := []
  preferredExecutionModes : List String := []
  generatedAtUtc : Instant
  deriving DecidableEq

/-- The policy fields that admission and `reserve` read. -/
structure BudgetPolicy where
  yellowProjectedRatioMilli : ℕ := 800
  orangeProjectedRatioMilli : ℕ := 900
  redProjectedRatioMilli : ℕ := 975
  yellowPaceRatioMilli : ℕ := 1100
  orangePaceRatioMilli : ℕ := 1250
  redPaceRatioMilli : ℕ := 1500
  leaseTtlSeconds : ℕ := 3600
  reserveReasons : List ReserveReason :=
    [.p0FailureRecovery, .criticalPath, .releaseBlocker, .security, .productionRecovery,
      .criticalArchitecture, .deadlineProtection, .requiredVerification]
  projected_valid : 1 ≤ yellowProjectedRatioMilli ∧
    yellowProjectedRatioMilli < orangeProjectedRatioMilli ∧
    orangeProjectedRatioMilli < redProjectedRatioMilli ∧ redProjectedRatioMilli < 1000 := by decide
  pace_valid : 1000 ≤ yellowPaceRatioMilli ∧ yellowPaceRatioMilli < orangePaceRatioMilli ∧
    orangePaceRatioMilli < redPaceRatioMilli := by decide
  ttl_valid : 30 ≤ leaseTtlSeconds ∧ leaseTtlSeconds ≤ 604800 := by decide

def BudgetPolicy.standard : BudgetPolicy := {}

structure ReserveCall where
  request : BudgetAdmissionRequest
  decision : BudgetAdmissionDecision
  cycleId : String
  idempotencyKey : String
  policy : BudgetPolicy := .standard
  now : Instant

structure BudgetStore (sha : Sha256) where
  limits : Table String (BudgetLimit sha) BudgetLimit.limitId
  quotaLimits : Table String (QuotaLimit sha) QuotaLimit.quotaId
  ledger : Table String (BudgetLedgerEntry sha) BudgetLedgerEntry.entryId
  leases : Table String (SpendLease sha) SpendLease.leaseId

variable {sha : Sha256}

/-! ### Reading -/

namespace BudgetStore

section

variable (s : BudgetStore sha)

/-- `list_limits`, of one cycle. -/
def listLimits (cycleId : String) : List (BudgetLimit sha) :=
  (s.limits.rows.filter fun limit => limit.cycleId == cycleId).insertionSort
    fun a b => textLe a.scopeKey b.scopeKey

def listQuotaLimits : List (QuotaLimit sha) :=
  s.quotaLimits.rows.insertionSort fun a b => textLe a.quotaId b.quotaId

def listLedger : List (BudgetLedgerEntry sha) :=
  s.ledger.rows.insertionSort fun a b =>
    a.observedAtUtc < b.observedAtUtc ∨
      (a.observedAtUtc = b.observedAtUtc ∧ textLe a.entryId b.entryId = true)

def allLeases : List (SpendLease sha) :=
  s.leases.rows.insertionSort fun a b =>
    a.createdAtUtc < b.createdAtUtc ∨
      (a.createdAtUtc = b.createdAtUtc ∧ textLe a.leaseId b.leaseId = true)

def listActiveLeases (now : Instant) : List (SpendLease sha) :=
  s.allLeases.filter fun lease => lease.activeAt now

def cashTotal (direction : LedgerDirection) (scopeKey : String) : ℕ :=
  totalWhere (fun entry => entry.scopeKeys.contains scopeKey && entry.direction == direction)
    (fun entry => entry.cashMicrounits) s.listLedger

variable (scopeKey : String) (now : Instant)

def committed : ℕ :=
  totalWhere (fun lease => lease.scopeKeys.contains scopeKey)
    (fun lease => lease.reservedMicrounits) (s.listActiveLeases now)

/-- What counts against a cap: `max(0, debits - credits)` and the active reservations. -/
def exposure : ℕ :=
  (s.cashTotal .debit scopeKey - s.cashTotal .credit scopeKey) + s.committed scopeKey now

end

/-! ### Reserving -/

end BudgetStore

/-- `requested_reservation`. -/
def ReserveCall.requested (call : ReserveCall) : ℕ :=
  if call.request.paidIncremental then call.request.estimatedP90Microunits else 0

def ReserveCall.newLease {sha : Sha256} (call : ReserveCall) (leaseId : String) (expires : Instant)
    (hid : budgetIdentifier sha .lease [call.idempotencyKey] = .ok leaseId)
    (hmax : call.requested ≤ call.decision.authorizedMicrounits)
    (hexpires : addSeconds call.now call.policy.leaseTtlSeconds = .ok expires)
    (hkey : HasLength 300 call.idempotencyKey) : SpendLease sha where
  leaseId := leaseId
  idempotencyKey := call.idempotencyKey
  projectId := call.request.projectId
  taskId := call.request.taskId
  providerId := call.request.providerId
  scopeKeys := call.request.scopeKeys
  maximumMicrounits := call.decision.authorizedMicrounits
  reservedMicrounits := call.requested
  quotaReservations := call.request.quotaRequirements
  reserveReason := if call.decision.reserveAuthorized then call.request.reserveReason else none
  reservationEvidence := [call.decision.decisionId]
  createdAtUtc := call.now
  expiresAtUtc := expires
  updatedAtUtc := call.now
  leaseId_valid := hid
  idempotencyKey_valid := hkey
  projectId_valid := call.request.projectId_valid
  taskId_valid := call.request.taskId_valid
  scopeKeys_valid := call.request.scopeKeys_valid
  reserved_valid := hmax
  expires_valid := by
    have hsum := addSeconds_eq_ok hexpires
    have httl := call.policy.ttl_valid
    have hlt : (call.now : ℤ) < (expires : ℤ) := by omega
    exact Int.ofNat_lt.mp hlt
  unknown_valid := by simp

/-- The lease that `reserve` is going to insert, or the error before its transaction. -/
def ReserveCall.candidate (sha : Sha256) (call : ReserveCall) :
    Except PyError (SpendLease sha) := do
  raiseIf (call.decision.admitted = false)
    (.valueError "cannot reserve spend for a denied budget decision")
  let leaseId ← returned (budgetIdentifier sha .lease [call.idempotencyKey])
  if hmax : call.requested ≤ call.decision.authorizedMicrounits then
    let expires ← returned (addSeconds call.now call.policy.leaseTtlSeconds)
    if hkey : HasLength 300 call.idempotencyKey then
      .ok (call.newLease leaseId.val expires.val leaseId.property hmax expires.property hkey)
    else
      .error (.validationError "SpendLease"
        [("idempotency_key", "String should have at most 300 characters")])
  else .error (.valueError "decision does not authorize the requested reservation")

/-- The largest integer that a column of SQLite holds. -/
def maxSqliteInteger : ℕ := 2 ^ 63 - 1

/-- Binding integers to the parameters of a statement. -/
def bindIntegers (values : List ℕ) : Except PyError Unit :=
  raiseIf (∃ value ∈ values, maxSqliteInteger < value)
    (.overflowError "Python int too large to convert to SQLite INTEGER")

namespace BudgetStore

section

variable (s : BudgetStore sha)

section

variable (call : ReserveCall)

def applicableLimits : List (BudgetLimit sha) :=
  (s.listLimits call.cycleId).filter fun limit =>
    limit.enabled && call.request.scopeKeys.contains limit.scopeKey

/-- The cap that applies: the protected reserve is only for authorized requests. -/
def capFor (limit : BudgetLimit sha) : ℕ :=
  if call.decision.reserveAuthorized then limit.hardCapMicrounits else limit.normalCapMicrounits

/-- The check of one quota: an error, or `none`. -/
def quotaError (requirement : String × ℕ) :
    Option PyError :=
  match s.listQuotaLimits.find? fun limit => limit.enabled && limit.quotaId == requirement.1 with
  | none => some (.valueError ("quota limit unavailable: " ++ requirement.1))
  | some limit =>
    let used := (s.listLedger.map fun entry => unitsOf entry.quotaUnits requirement.1).sum
    let reserved := ((s.listActiveLeases call.now).map fun lease =>
      unitsOf lease.quotaReservations requirement.1).sum
    let protectedUnits := if call.decision.reserveAuthorized then 0 else limit.protectedUnits
    if limit.capacityUnits - protectedUnits < used + reserved + requirement.2 then
      some (.valueError ("atomic quota reservation would exceed " ++ requirement.1))
    else none

/-- The checks of `reserve` inside of its transaction. -/
def checkReservation : Except PyError Unit :=
  if call.request.paidIncremental && (s.applicableLimits call).isEmpty then
    .error (.valueError "no applicable budget limit is configured")
  else
    match (s.applicableLimits call).find? fun limit =>
        capFor call limit < s.exposure limit.scopeKey call.now + call.requested with
    | some limit =>
      .error (.valueError ("atomic budget reservation would exceed " ++ limit.scopeKey))
    | none =>
      match call.request.quotaRequirements.findSome? (s.quotaError call) with
      | some err => .error err
      | none => .ok ()

def insertLease (lease : SpendLease sha) :
    Except PyError (BudgetStore sha) := do
  bindIntegers [lease.reservedMicrounits, lease.consumedMicrounits]
  match s.leases.insert lease with
  | none => .error (.integrityError "UNIQUE constraint failed: budget_spend_leases.lease_id")
  | some leases => .ok { s with leases := leases }

def reserve :
    Except PyError (SpendLease sha) × BudgetStore sha :=
  match call.candidate sha with
  | .error err => (.error err, s)
  | .ok candidate =>
    match s.leases.rows.find? fun lease => lease.idempotencyKey == call.idempotencyKey with
    | some existing =>
      if existing.projectId ≠ call.request.projectId ∨
          existing.taskId ≠ call.request.taskId then
        (.error (.valueError "budget lease idempotency collision"), s)
      else (.ok existing, s)
    | none =>
      match s.checkReservation call with
      | .error err => (.error err, s)
      | .ok () =>
        match s.insertLease candidate with
        | .error err => (.error err, s)
        | .ok s' => (.ok candidate, s')

end

/-! ### Settling and closing -/

/-- `_insert_ledger`: an entry that is stored already must be the same. -/
def insertLedger (entry : BudgetLedgerEntry sha) :
    Except PyError (BudgetStore sha) :=
  match s.ledger.find? entry.entryId with
  | some existing =>
    if existing ≠ entry then
      .error (.valueError ("budget ledger idempotency collision: " ++ entry.entryId))
    else .ok s
  | none => do
      bindIntegers [entry.cashMicrounits, entry.shadowCostMicrounits]
      match s.ledger.insert entry with
      | none => .error (.integrityError "UNIQUE constraint failed: budget_ledger.entry_id")
      | some ledger => .ok { s with ledger := ledger }

def updateLease (lease : SpendLease sha) : BudgetStore sha :=
  { s with leases := s.leases.replace lease }

def settled (entry : BudgetLedgerEntry sha) (now : Instant) (lease : SpendLease sha) :
    SpendLease sha :=
  { lease with
    consumedMicrounits := entry.cashMicrounits
    state := if lease.maximumMicrounits < entry.cashMicrounits then .overspent else .settled
    reconciliationRequired := false
    updatedAtUtc := now
    unknown_valid := by split <;> simp }

variable (leaseId : String)

def settleLease (entry : BudgetLedgerEntry sha)
    (now : Instant) : Except PyError (SpendLease sha) × BudgetStore sha :=
  match s.leases.find? leaseId with
  | none => (.error (.keyError ("unknown budget lease: " ++ leaseId)), s)
  | some lease =>
    if lease.state ≠ .reserved ∧ lease.state ≠ .unknownOutcome then
      (.error (.valueError "lease is not settleable"), s)
    else if entry.projectId ≠ lease.projectId ∨ entry.taskId ≠ some lease.taskId then
      (.error (.valueError "settlement ledger entry does not match lease task/project"), s)
    else
      match s.insertLedger entry with
      | .error err => (.error err, s)
      | .ok s' => (.ok (settled entry now lease), s'.updateLease (settled entry now lease))

/-- The calls that move a lease from one state to another without a booking. `move` is
the decision on the stored lease: an error, the lease to store, or `none` to leave it. -/
def moveLease (move : SpendLease sha → Except PyError (Option (SpendLease sha))) :
    Except PyError (SpendLease sha) × BudgetStore sha :=
  match s.leases.find? leaseId with
  | none => (.error (.keyError ("unknown budget lease: " ++ leaseId)), s)
  | some lease =>
    match move lease with
    | .error err => (.error err, s)
    | .ok none => (.ok lease, s)
    | .ok (some updated) => (.ok updated, s.updateLease updated)

def markUnknownOutcome (now : Instant) :
    Except PyError (SpendLease sha) × BudgetStore sha :=
  s.moveLease leaseId fun lease =>
    if lease.state ≠ .reserved then
      .error (.valueError "only a reserved lease can become unknown outcome")
    else
      .ok (some { lease with
        state := .unknownOutcome
        reconciliationRequired := true
        updatedAtUtc := now
        unknown_valid := fun _ => rfl })

def resolveUnknownNoEffect (now : Instant) :
    Except PyError (SpendLease sha) × BudgetStore sha :=
  s.moveLease leaseId fun lease =>
    if lease.state ≠ .unknownOutcome then
      .error (.valueError "lease is not awaiting unknown-outcome reconciliation")
    else
      .ok (some { lease with
        state := .released
        reconciliationRequired := false
        updatedAtUtc := now
        unknown_valid := by simp })

/-- `release_lease`: a lease that is closed already is returned as it is. -/
def releaseLease (cancelled : Bool) (now : Instant) :
    Except PyError (SpendLease sha) × BudgetStore sha :=
  s.moveLease leaseId fun lease =>
    if lease.state = .unknownOutcome then
      .error (.valueError "unknown-outcome reservation cannot be released before reconciliation")
    else if lease.state ≠ .reserved then .ok none
    else
      .ok (some { lease with
        state := if cancelled then .cancelled else .released
        updatedAtUtc := now
        unknown_valid := by cases cancelled <;> simp })

/-- The copy of a lapsed lease that the sweep stores. -/
def expired (now : Instant) (lease : SpendLease sha) : SpendLease sha :=
  { lease with
    state := .expired
    updatedAtUtc := now
    unknown_valid := by simp }

def expireStaleLeases (now : Instant) :
    List (SpendLease sha) × BudgetStore sha :=
  let updates := (s.allLeases.filter fun lease =>
    lease.state == .reserved && decide (lease.expiresAtUtc ≤ now)).map (expired now)
  (updates, updates.foldl updateLease s)

end

end BudgetStore

/-! ### Calls -/

/-- The calls of the store that write leases. -/
inductive BudgetCall (sha : Sha256) where
  | reserve (call : ReserveCall)
  | settle (leaseId : String) (entry : BudgetLedgerEntry sha) (now : Instant)
  | release (leaseId : String) (cancelled : Bool) (now : Instant)
  | markUnknownOutcome (leaseId : String) (now : Instant)
  | resolveUnknownNoEffect (leaseId : String) (now : Instant)
  | expireStale (now : Instant)

namespace BudgetCall

def now : BudgetCall sha → Instant
  | reserve call => call.now
  | settle _ _ now => now
  | release _ _ now => now
  | markUnknownOutcome _ now => now
  | resolveUnknownNoEffect _ now => now
  | expireStale now => now

/-- The store after a call. A call that raises has rolled back. -/
def step (s : BudgetStore sha) : BudgetCall sha → BudgetStore sha
  | reserve call => (s.reserve call).2
  | settle leaseId entry now => (s.settleLease leaseId entry now).2
  | release leaseId cancelled now => (s.releaseLease leaseId cancelled now).2
  | markUnknownOutcome leaseId now => (s.markUnknownOutcome leaseId now).2
  | resolveUnknownNoEffect leaseId now => (s.resolveUnknownNoEffect leaseId now).2
  | expireStale now => (s.expireStaleLeases now).2

end BudgetCall

/-! ### What the calls do -/

namespace BudgetStore

/-- The totals of the ledger are those of its rows. -/
theorem cashTotal_eq (s : BudgetStore sha) (direction : LedgerDirection) (scopeKey : String) :
    s.cashTotal direction scopeKey =
      totalWhere (fun entry => entry.scopeKeys.contains scopeKey && entry.direction == direction)
        (fun entry => entry.cashMicrounits) s.ledger.rows :=
  totalWhere_perm (List.perm_insertionSort _ _)

/-- The active reservations are those of the rows. -/
theorem committed_eq (s : BudgetStore sha) (scopeKey : String) (now : Instant) :
    s.committed scopeKey now =
      totalWhere (fun lease => lease.activeAt now && lease.scopeKeys.contains scopeKey)
        (fun lease => lease.reservedMicrounits) s.leases.rows := by
  have hperm : (s.listActiveLeases now).Perm (s.leases.rows.filter fun lease => lease.activeAt now) :=
    (List.perm_insertionSort _ _).filter _
  rw [committed, totalWhere_perm hperm]
  simpa using totalWhere_map_filter (fun lease : SpendLease sha => lease.scopeKeys.contains scopeKey)
    (fun lease => lease.reservedMicrounits) (fun lease => lease.activeAt now) id s.leases.rows

variable {call : ReserveCall} {s : BudgetStore sha}

/-- The checks inside of the transaction pass exactly if every limit and every quota has room. -/
theorem checkReservation_eq_ok_iff :
    s.checkReservation call = .ok () ↔
      (call.request.paidIncremental = true → s.applicableLimits call ≠ []) ∧
      (∀ limit ∈ s.applicableLimits call,
        s.exposure limit.scopeKey call.now + call.requested ≤ capFor call limit) ∧
      ∀ requirement ∈ call.request.quotaRequirements, s.quotaError call requirement = none := by
  constructor
  · intro h
    rw [checkReservation] at h
    split at h
    · cases h
    rename_i hlims
    split at h
    · cases h
    rename_i hroom
    split at h
    · cases h
    rename_i hquotas
    refine ⟨fun hpaid hnil => hlims (by simp [hpaid, hnil]), fun limit hlim => ?_,
      List.findSome?_eq_none_iff.mp hquotas⟩
    simpa using List.find?_eq_none.mp hroom limit hlim
  · rintro ⟨hsome, hroom, hquotas⟩
    have hlims : ¬ (call.request.paidIncremental && (s.applicableLimits call).isEmpty) = true := by
      rw [Bool.and_eq_true, List.isEmpty_iff]
      exact fun h => hsome h.1 h.2
    have hfind : (s.applicableLimits call).find? (fun limit => decide
        (capFor call limit < s.exposure limit.scopeKey call.now + call.requested)) = none :=
      List.find?_eq_none.mpr fun limit hlim => by simpa using hroom limit hlim
    rw [checkReservation, if_neg hlims, hfind]
    rw [List.findSome?_eq_none_iff.mpr hquotas]

theorem mem_applicableLimits {limit : BudgetLimit sha} :
    limit ∈ s.applicableLimits call ↔
      limit ∈ s.limits.rows ∧ limit.cycleId = call.cycleId ∧ limit.enabled = true ∧
        limit.scopeKey ∈ call.request.scopeKeys := by
  simp only [applicableLimits, listLimits, List.mem_filter, List.mem_insertionSort,
    Bool.and_eq_true, beq_iff_eq, List.contains_iff_mem, and_assoc]

/-- No request is checked against more than the hard cap. -/
theorem capFor_le (call : ReserveCall) (limit : BudgetLimit sha) :
    capFor call limit ≤ limit.hardCapMicrounits := by
  rw [capFor]
  split
  · exact le_rfl
  · exact Nat.sub_le _ _

variable {lease : SpendLease sha}

/-- A lease that is going to be inserted is the new one. -/
theorem candidate_eq_newLease (h : call.candidate sha = .ok lease) :
    ∃ leaseId expires hid hmax hexpires hkey,
      call.newLease leaseId expires hid hmax hexpires hkey = lease := by
  obtain ⟨-, -, h⟩ := bind_eq_ok.mp h
  obtain ⟨leaseId, -, h⟩ := bind_eq_ok.mp h
  split at h
  · obtain ⟨expires, -, h⟩ := bind_eq_ok.mp h
    split at h
    · exact ⟨_, _, _, _, _, _, Except.ok.inj h⟩
    · cases h
  · cases h

/-- The fields of a new lease that the totals read. -/
theorem candidate_eq_ok (h : call.candidate sha = .ok lease) :
    lease.scopeKeys = call.request.scopeKeys ∧ lease.reservedMicrounits = call.requested := by
  obtain ⟨_, _, _, _, _, _, rfl⟩ := candidate_eq_newLease h
  exact ⟨rfl, rfl⟩

/-- An insertion only appends the lease. -/
theorem insertLease_eq_ok {s' : BudgetStore sha} (h : s.insertLease lease = .ok s') :
    s'.limits = s.limits ∧ s'.ledger = s.ledger ∧ s'.leases.rows = s.leases.rows ++ [lease] := by
  obtain ⟨-, -, h⟩ := bind_eq_ok.mp h
  split at h
  · cases h
  · rename_i leases hins
    cases h
    exact ⟨rfl, rfl, (Table.insert_eq_some_iff.mp hins).2⟩

/-- A reservation leaves the store as it is, or appends a lease that was checked. -/
theorem reserve_cases (s : BudgetStore sha) (call : ReserveCall) :
    (s.reserve call).2 = s ∨
      ∃ lease, (s.reserve call).1 = .ok lease ∧ call.candidate sha = .ok lease ∧
        s.checkReservation call = .ok () ∧ s.insertLease lease = .ok (s.reserve call).2 := by
  rw [reserve]
  split
  · exact Or.inl rfl
  · rename_i lease hls
    split
    · split <;> exact Or.inl rfl
    · split
      · exact Or.inl rfl
      · rename_i hchk
        split
        · exact Or.inl rfl
        · rename_i s' hins
          exact Or.inr ⟨lease, rfl, hls, hchk, hins⟩

/-- A booking is stored already, or appended. -/
theorem insertLedger_eq_ok {s' : BudgetStore sha} {entry : BudgetLedgerEntry sha}
    (h : s.insertLedger entry = .ok s') :
    s'.limits = s.limits ∧ s'.leases = s.leases ∧
      (s'.ledger.rows = s.ledger.rows ∨ s'.ledger.rows = s.ledger.rows ++ [entry]) := by
  rw [insertLedger] at h
  split at h
  · split at h
    · cases h
    · cases h
      exact ⟨rfl, rfl, Or.inl rfl⟩
  · obtain ⟨-, -, h⟩ := bind_eq_ok.mp h
    split at h
    · cases h
    · rename_i ledger hins
      cases h
      exact ⟨rfl, rfl, Or.inr (Table.insert_eq_some_iff.mp hins).2⟩

/-- A settlement leaves the store as it is, or books the entry and closes an open lease. -/
theorem settleLease_cases (s : BudgetStore sha) (leaseId : String) (entry : BudgetLedgerEntry sha)
    (now : Instant) :
    (s.settleLease leaseId entry now).2 = s ∨
      ∃ lease s', s.leases.find? leaseId = some lease ∧
        (lease.state = .reserved ∨ lease.state = .unknownOutcome) ∧
        s.insertLedger entry = .ok s' ∧
        (s.settleLease leaseId entry now).2 = s'.updateLease (settled entry now lease) := by
  rw [settleLease]
  split
  · exact Or.inl rfl
  · rename_i lease hls
    split
    · exact Or.inl rfl
    · rename_i hopen
      split
      · exact Or.inl rfl
      · split
        · exact Or.inl rfl
        · rename_i s' hled
          refine Or.inr ⟨lease, s', hls, ?_, hled, rfl⟩
          by_contra hclosed
          exact hopen (not_or.mp hclosed)

/-- A move leaves the store as it is, or stores the lease that was decided on. -/
theorem moveLease_cases (s : BudgetStore sha) (leaseId : String)
    (move : SpendLease sha → Except PyError (Option (SpendLease sha))) :
    (s.moveLease leaseId move).2 = s ∨
      ∃ lease updated, s.leases.find? leaseId = some lease ∧ move lease = .ok (some updated) ∧
        (s.moveLease leaseId move).2 = s.updateLease updated := by
  rw [moveLease]
  split
  · exact Or.inl rfl
  · rename_i lease hls
    split
    · exact Or.inl rfl
    · exact Or.inl rfl
    · rename_i updated hmove
      exact Or.inr ⟨lease, updated, hls, hmove, rfl⟩

end BudgetStore

end ProjectPipeline
