import ProjectPipeline.BudgetCap
import ProjectPipeline.Json

/-!
# Admission and Reservation

`BudgetGovernor.admit` (`budget/service.py`) takes snapshots of the limits that apply to a
request and lets `BudgetEvaluator.evaluate` (`budget/policy.py`) decide; `BudgetStore.reserve`
computes the usage again and checks the caps by its own rules.

The evaluator compares with what remains of a cap, which is never negative, and does not look at
the caps for a request that costs nothing. `reserve` compares the sum with the cap in every case.
So a request of zero units is admitted on a scope that is over its cap and then refused
(`admitted_request_refused`); otherwise the two agree (`admitted_reservation_succeeds_iff`).

A second call of `reserve` under one idempotency key returns the lease of the first. It is the
lease of the request only if it is still active, on the same scopes and large enough
(`returned_lease_serves_iff`).

The forecast and the pace are not negative: `BudgetSnapshot` refuses other values. The table of
decisions is only written and left out.

## Main results

* `evaluate_admitted`: what an admission says about the caps and the quotas.
* `reserve_ok_iff`: when a reservation under a fresh key succeeds.
-/

namespace ProjectPipeline

open BudgetStore List

/-! ### Pressure -/

/-- `_PRESSURE_ORDER`. -/
def PressureMode.order : PressureMode → ℕ
  | green => 0
  | yellow => 1
  | orange => 2
  | red => 3
  | hardStop => 4

/-- `max(first, second, key=_PRESSURE_ORDER)`. -/
def PressureMode.max (first second : PressureMode) : PressureMode :=
  if first.order < second.order then second else first

/-- The level of a ratio, by the thresholds of yellow, orange and red. -/
def PressureMode.ofRatio (ratio yellowFrom orangeFrom redFrom : ℕ) : PressureMode :=
  if redFrom ≤ ratio then .red
  else if orangeFrom ≤ ratio then .orange
  else if yellowFrom ≤ ratio then .yellow
  else .green

def determinePressure (policy : BudgetPolicy) (hardCap protectedReserve : ℕ) (softCap : Option ℕ)
    (spent credited committed forecastP90 paceRatioMilli : ℕ) :
    PressureMode :=
  let committedTotal := (spent - credited) + committed
  if hardCap = 0 then
    if 0 < committedTotal then .hardStop else .green
  else if hardCap ≤ committedTotal then .hardStop
  else
    let normalCap := hardCap - protectedReserve
    let projected := committedTotal + forecastP90
    let configuredSoft := (softCap.map fun cap => min normalCap cap).getD normalCap
    let denominator :=
      if 0 < configuredSoft then configuredSoft else if 0 < normalCap then normalCap else hardCap
    let projectedRatio := projected * 1000 / max 1 denominator
    let mode : PressureMode :=
      if 1000 ≤ projectedRatio then .red
      else .ofRatio projectedRatio policy.yellowProjectedRatioMilli
        policy.orangeProjectedRatioMilli policy.redProjectedRatioMilli
    mode.max (.ofRatio paceRatioMilli policy.yellowPaceRatioMilli policy.orangePaceRatioMilli
      policy.redPaceRatioMilli)

/-! ### Snapshots -/

structure BudgetSnapshot where
  scopeKey : String
  hardCapMicrounits : ℕ
  softCapMicrounits : ℕ
  protectedReserveMicrounits : ℕ
  spentMicrounits : ℕ
  creditedMicrounits : ℕ
  committedMicrounits : ℕ
  remainingNormalMicrounits : ℕ
  remainingTotalMicrounits : ℕ
  forecastP90Microunits : ℕ
  paceRatioMilli : ℕ
  pressureMode : PressureMode
  observedAtUtc : Instant

def buildSnapshot (scopeKey : String) (hardCap protectedReserve : ℕ) (softCap : Option ℕ)
    (spent credited committed forecastP90 paceRatioMilli : ℕ) (policy : BudgetPolicy)
    (observedAtUtc : Instant) : BudgetSnapshot :=
  let used := (spent - credited) + committed
  let normalCap := hardCap - protectedReserve
  { scopeKey := scopeKey
    hardCapMicrounits := hardCap
    softCapMicrounits := min normalCap (softCap.getD normalCap)
    protectedReserveMicrounits := protectedReserve
    spentMicrounits := spent
    creditedMicrounits := credited
    committedMicrounits := committed
    remainingNormalMicrounits := normalCap - used
    remainingTotalMicrounits := hardCap - used
    forecastP90Microunits := forecastP90
    paceRatioMilli := paceRatioMilli
    pressureMode := determinePressure policy hardCap protectedReserve softCap spent credited
      committed forecastP90 paceRatioMilli
    observedAtUtc := observedAtUtc }

namespace BudgetStore

variable {sha : Sha256}

def snapshot (s : BudgetStore sha) (limit : BudgetLimit sha) (policy : BudgetPolicy)
    (forecastP90 paceRatioMilli : ℕ) (now : Instant) : BudgetSnapshot :=
  buildSnapshot limit.scopeKey limit.hardCapMicrounits limit.protectedReserveMicrounits
    limit.softCapMicrounits (s.cashTotal .debit limit.scopeKey)
    (s.cashTotal .credit limit.scopeKey) (s.committed limit.scopeKey now) forecastP90
    paceRatioMilli policy now

def snapshotsForRequest (s : BudgetStore sha) (request : BudgetAdmissionRequest) (cycleId : String)
    (policy : BudgetPolicy) (forecastP90 paceRatioMilli : ℕ) (now : Instant) :
    List BudgetSnapshot :=
  ((s.listLimits cycleId).filter fun limit =>
      limit.enabled && request.scopeKeys.contains limit.scopeKey).map fun limit =>
    s.snapshot limit policy forecastP90 paceRatioMilli now

def quotaUsedOrReserved (s : BudgetStore sha) (quotaId : String) (now : Instant) : ℕ :=
  (s.listLedger.map fun entry => unitsOf entry.quotaUnits quotaId).sum +
    ((s.listActiveLeases now).map fun lease => unitsOf lease.quotaReservations quotaId).sum

end BudgetStore

/-! ### The evaluator -/

def ReserveReason.value : ReserveReason → String
  | p0FailureRecovery => "P0_FAILURE_RECOVERY"
  | criticalPath => "CRITICAL_PATH"
  | releaseBlocker => "RELEASE_BLOCKER"
  | security => "SECURITY"
  | productionRecovery => "PRODUCTION_RECOVERY"
  | criticalArchitecture => "CRITICAL_ARCHITECTURE"
  | deadlineProtection => "DEADLINE_PROTECTION"
  | requiredVerification => "REQUIRED_VERIFICATION"

/-- What admission needs of the library: the digest, and the text of a time in a JSON dump. -/
structure AdmissionEnv where
  sha : Sha256
  jsonTime : Instant → String

namespace BudgetAdmissionRequest

/-- `request.model_dump(mode="json")`. -/
def modelDump (env : AdmissionEnv) (request : BudgetAdmissionRequest) : JsonObject :=
  let jsonBool : Bool → String := fun b => if b then "true" else "false"
  let orNull : Option String → String := fun text => (text.map jsonString).getD "null"
  [("schema_version", jsonString "1.0.0"), ("project_id", jsonString request.projectId),
    ("task_id", jsonString request.taskId), ("task_class", jsonString request.taskClass),
    ("provider_id", orNull request.providerId),
    ("scope_keys", "[" ++ pyJoin "," (request.scopeKeys.map jsonString) ++ "]"),
    ("estimated_p50_microunits", toString request.estimatedP50Microunits),
    ("estimated_p90_microunits", toString request.estimatedP90Microunits),
    ("quota_requirements", canonicalJson
      (request.quotaRequirements.map fun item => (item.1, toString item.2))),
    ("priority", jsonString request.priority), ("risk", jsonString request.risk),
    ("critical_path", jsonBool request.criticalPath),
    ("required_verification", jsonBool request.requiredVerification),
    ("paid_incremental", jsonBool request.paidIncremental),
    ("local_or_subscription_alternative", jsonBool request.localOrSubscriptionAlternative),
    ("reserve_reason", orNull (request.reserveReason.map ReserveReason.value)),
    ("deadline_at_utc", orNull (request.deadlineAtUtc.map env.jsonTime))]

section

variable (policy : BudgetPolicy) (request : BudgetAdmissionRequest)

/-- The reason of the request is one that the policy accepts. -/
def reasonAuthorized : Bool :=
  match request.reserveReason with
  | none => false
  | some reason => policy.reserveReasons.contains reason

/-- The work for which the protected reserve is kept. -/
def critical (request : BudgetAdmissionRequest) : Bool :=
  request.criticalPath || request.requiredVerification ||
    ["P0", "P1"].contains request.priority ||
    (request.reserveReason == some .deadlineProtection && request.deadlineAtUtc.isSome)

/-- `reserve_authorized`, as the evaluator decides it. -/
def reserveAuthorized : Bool :=
  request.reasonAuthorized policy && request.critical

def reserveReasons : List String :=
  (if request.reserveReason.isSome && !request.reasonAuthorized policy then
    ["reserve_reason_not_authorized"] else []) ++
  (if request.reasonAuthorized policy && !request.critical then
    ["protected_reserve_requires_critical_work"] else [])

end

end BudgetAdmissionRequest

def quotaShadowCost {sha : Sha256} (limit : QuotaLimit sha) (usedOrReservedUnits : ℕ) : ℕ :=
  let used := min usedOrReservedUnits limit.capacityUnits
  let remaining := limit.capacityUnits - used
  let depletionMilli := 1000 - remaining * 1000 / limit.capacityUnits
  limit.maxShadowCostMicrounits * depletionMilli * depletionMilli / 1000000

namespace BudgetEvaluator

variable {sha : Sha256}

/-- The pressure of a request: the highest one of its snapshots. -/
def pressure (snapshots : List BudgetSnapshot) : PressureMode :=
  (snapshots.map BudgetSnapshot.pressureMode).foldl PressureMode.max .green

/-- What a snapshot leaves for the request. -/
def available (reserveAuthorized : Bool) (snapshot : BudgetSnapshot) : ℕ :=
  if reserveAuthorized then snapshot.remainingTotalMicrounits
  else snapshot.remainingNormalMicrounits

section

variable (policy : BudgetPolicy) (request : BudgetAdmissionRequest) (snapshots : List BudgetSnapshot)

def monetaryAuthorized : ℕ :=
  if request.paidIncremental = false ∨ snapshots = [] then 0
  else (snapshots.map (available (request.reserveAuthorized policy))).foldl min
    request.estimatedP90Microunits

/-- Red pressure stops paid work that is neither critical nor a required verification. -/
def stoppedByRed : Bool :=
  pressure snapshots == .red && request.paidIncremental &&
    !(request.reserveAuthorized policy || request.requiredVerification)

def paidAllowed : Bool :=
  request.paidIncremental && !snapshots.isEmpty && pressure snapshots != .hardStop &&
    !stoppedByRed policy request snapshots

def monetaryReasons : List String :=
  (if request.paidIncremental then
    if snapshots.isEmpty then ["budget_limit_missing"]
    else if monetaryAuthorized policy request snapshots < request.estimatedP90Microunits then
      ["insufficient_budget_for_p90"]
    else []
  else []) ++
  (if pressure snapshots == .hardStop && request.paidIncremental then
    ["hard_stop_blocks_incremental_paid_work"]
  else if stoppedByRed policy request snapshots then
    ["red_pressure_requires_reserve_or_required_verification"]
  else [])

end

/-- One turn of the loop over the quotas: whether there are enough units, their shadow cost, and
the reasons. -/
def quotaTurn (policy : BudgetPolicy) (request : BudgetAdmissionRequest)
    (quotaLimits : List (QuotaLimit sha)) (quotaUsed : List (String × ℕ))
    (requirement : String × ℕ) : Bool × ℕ × List String :=
  match quotaLimits.find? fun limit => limit.quotaId == requirement.1 with
  | none => (false, 0, ["quota_limit_missing:" ++ requirement.1])
  | some limit =>
    if limit.enabled = false then (false, 0, ["quota_limit_missing:" ++ requirement.1])
    else
      let used := unitsOf quotaUsed requirement.1
      let protectedUnits := if request.reserveAuthorized policy then 0 else limit.protectedUnits
      let allocatable := limit.capacityUnits - protectedUnits - used
      let shadow := quotaShadowCost limit (used + requirement.2)
      if allocatable < requirement.2 then
        (false, shadow, ["quota_insufficient:" ++ requirement.1])
      else (true, shadow, [])

def preferredModes : PressureMode → List String
  | .green => ["BEST_CAPABLE"]
  | .yellow => ["LOWER_COST_CAPABLE", "SUBSCRIPTION", "LOCAL"]
  | .orange => ["SUBSCRIPTION", "LOCAL", "LOWER_COST_CAPABLE"]
  | .red | .hardStop => ["LOCAL", "SUBSCRIPTION"]

def evaluate (env : AdmissionEnv) (policy : BudgetPolicy) (request : BudgetAdmissionRequest)
    (snapshots : List BudgetSnapshot) (quotaLimits : List (QuotaLimit sha))
    (quotaUsed : List (String × ℕ)) (now : Instant) : Except PyError BudgetAdmissionDecision := do
  let turns := request.quotaRequirements.map (quotaTurn policy request quotaLimits quotaUsed)
  let reasons := request.reserveReasons policy ++ monetaryReasons policy request snapshots ++
    turns.flatMap fun turn => turn.2.2
  let monetaryOk := !request.paidIncremental ||
    (paidAllowed policy request snapshots &&
      decide (request.estimatedP90Microunits ≤ monetaryAuthorized policy request snapshots))
  let quotaOk := turns.all fun turn => turn.1
  let admitted := monetaryOk && quotaOk && !(reasons.contains "reserve_reason_not_authorized")
  let reasons := reasons ++
    (if !admitted && request.localOrSubscriptionAlternative then
      ["retry_with_local_or_subscription_alternative"] else [])
  let fingerprint := String.ofList (env.sha.hexdigest (canonicalJson (request.modelDump env)))
  let decisionId ← budgetIdentifier env.sha .admission [request.taskId, fingerprint]
  return {
    decisionId := decisionId
    taskId := request.taskId
    admitted := admitted
    pressureMode := pressure snapshots
    authorizedMicrounits :=
      if admitted && request.paidIncremental then monetaryAuthorized policy request snapshots
      else 0
    reserveAuthorized := request.reserveAuthorized policy && admitted
    allowedPaidIncremental := paidAllowed policy request snapshots && admitted
    quotaShadowCostMicrounits := (turns.map fun turn => turn.2.1).sum
    reasons := sortedSet reasons
    preferredExecutionModes := preferredModes (pressure snapshots)
    generatedAtUtc := now }

end BudgetEvaluator

def BudgetGovernor.admit (env : AdmissionEnv) (policy : BudgetPolicy) (s : BudgetStore env.sha)
    (request : BudgetAdmissionRequest) (cycleId : String) (forecastP90 paceRatioMilli : ℕ)
    (now : Instant) : Except PyError BudgetAdmissionDecision :=
  BudgetEvaluator.evaluate env policy request
    (s.snapshotsForRequest request cycleId policy forecastP90 paceRatioMilli now)
    s.listQuotaLimits
    (request.quotaRequirements.map fun requirement =>
      (requirement.1, s.quotaUsedOrReserved requirement.1 now)) now

/-! ### What an admission says -/

/-- A lower bound of a minimum. -/
theorem le_foldl_min_iff {x a : ℕ} {l : List ℕ} :
    x ≤ l.foldl min a ↔ x ≤ a ∧ ∀ b ∈ l, x ≤ b := by
  induction l generalizing a with
  | nil => simp
  | cons _ _ ih => rw [foldl_cons, ih, Nat.le_min, forall_mem_cons, and_assoc]

namespace BudgetEvaluator

variable {sha : Sha256} {env : AdmissionEnv} {policy : BudgetPolicy}
  {request : BudgetAdmissionRequest} {snapshots : List BudgetSnapshot}
  {quotaLimits : List (QuotaLimit sha)} {quotaUsed : List (String × ℕ)} {now : Instant}
  {decision : BudgetAdmissionDecision}

/-- An admission authorizes the whole estimate of a paid request, which every snapshot has left,
and every quota has enough units. -/
theorem evaluate_admitted
    (h : evaluate env policy request snapshots quotaLimits quotaUsed now = .ok decision)
    (hadm : decision.admitted = true) :
    decision.reserveAuthorized = request.reserveAuthorized policy ∧
      (request.paidIncremental = true → snapshots ≠ [] ∧
        request.estimatedP90Microunits ≤ decision.authorizedMicrounits ∧
        ∀ snapshot ∈ snapshots, request.estimatedP90Microunits ≤
          available (request.reserveAuthorized policy) snapshot) ∧
      ∀ requirement ∈ request.quotaRequirements,
        (quotaTurn policy request quotaLimits quotaUsed requirement).1 = true := by
  obtain ⟨decisionId, -, h⟩ := bind_eq_ok.mp h
  cases h
  dsimp only at hadm ⊢
  rw [hadm, Bool.and_true, Bool.true_and]
  rw [Bool.and_eq_true, Bool.and_eq_true] at hadm
  obtain ⟨⟨hmoney, hquotas⟩, -⟩ := hadm
  refine ⟨rfl, fun hpaid => ?_, fun requirement hreqm => ?_⟩
  · rw [hpaid, Bool.not_true, Bool.false_or, Bool.and_eq_true, decide_eq_true_eq] at hmoney
    obtain ⟨halw, hle⟩ := hmoney
    have hsome : snapshots ≠ [] := by
      rintro rfl
      simp [paidAllowed] at halw
    rw [if_pos hpaid]
    refine ⟨hsome, hle, fun snapshot hsnap => ?_⟩
    rw [monetaryAuthorized, if_neg (by simp [hpaid, hsome])] at hle
    exact (le_foldl_min_iff.mp hle).2 _ (mem_map_of_mem hsnap)
  · exact all_eq_true.mp hquotas _ (mem_map_of_mem hreqm)

/-- Enough units: the quota is enabled, and has them left beside the protected ones. -/
theorem quotaTurn_eq_true {requirement : String × ℕ}
    (h : (quotaTurn policy request quotaLimits quotaUsed requirement).1 = true) :
    ∃ limit, quotaLimits.find? (fun limit => limit.quotaId == requirement.1) = some limit ∧
      limit.enabled = true ∧
      requirement.2 ≤ limit.capacityUnits -
        (if request.reserveAuthorized policy then 0 else limit.protectedUnits) -
        unitsOf quotaUsed requirement.1 := by
  rw [quotaTurn] at h
  cases hfind : quotaLimits.find? fun limit => limit.quotaId == requirement.1 with
  | none =>
    simp only [hfind] at h
    cases h
  | some limit =>
    simp only [hfind] at h
    split at h
    · cases h
    · rename_i henabled
      refine ⟨limit, rfl, by simpa using henabled, ?_⟩
      by_contra hroom
      rw [if_pos (not_le.mp hroom)] at h
      cases h

end BudgetEvaluator

/-! ### When a reservation succeeds -/

/-- A new lease can be written down: the key names one that is not stored, its expiry is a date,
and SQLite holds the amount. -/
structure ReserveCall.Recordable {sha : Sha256} (s : BudgetStore sha) (call : ReserveCall) :
    Prop where
  key_visible : pyStrip call.idempotencyKey ≠ ""
  key_short : call.idempotencyKey.length ≤ 300
  id_unused : ∀ lease ∈ s.leases.rows,
    budgetIdentifier sha .lease [call.idempotencyKey] ≠ .ok lease.leaseId
  expiry : call.now + call.policy.leaseTtlSeconds * 1000000 ≤ maxInstant
  amount : call.requested ≤ maxSqliteInteger

/-- A single part has an identifier exactly if it is not blank. -/
theorem budgetIdentifier_singleton_isOk_iff {sha : Sha256} {kind : BudgetIdKind} {part : String} :
    (∃ value, budgetIdentifier sha kind [part] = .ok value) ↔ pyStrip part ≠ "" := by
  rw [budgetIdentifier, digestIdentifier]
  by_cases hblank : pyStrip part = "" <;> simp [hblank]

/-- A time in the future is a date up to the year 9999. -/
theorem addSeconds_isOk_iff {now : Instant} {seconds : ℕ} :
    (∃ t, addSeconds now seconds = .ok t) ↔ now + seconds * 1000000 ≤ maxInstant := by
  rw [addSeconds, addMicros]
  by_cases hbounds : 0 ≤ (now : ℤ) + (seconds : ℤ) * 1000000 ∧
      (now : ℤ) + (seconds : ℤ) * 1000000 ≤ maxInstant
  · rw [if_pos hbounds]
    exact ⟨fun _ => by exact_mod_cast hbounds.2, fun _ => ⟨_, rfl⟩⟩
  · rw [if_neg hbounds]
    refine ⟨by rintro ⟨_, ⟨⟩⟩, fun h => absurd ⟨?_, ?_⟩ hbounds⟩
    · omega
    · exact_mod_cast h

namespace BudgetStore

variable {sha : Sha256} {s : BudgetStore sha} {call : ReserveCall}

/-- A quota has room: it is enabled, and the units fit beside what is used and protected. -/
theorem quotaError_eq_none_iff {requirement : String × ℕ} :
    s.quotaError call requirement = none ↔
      ∃ limit, s.listQuotaLimits.find? (fun limit =>
          limit.enabled && limit.quotaId == requirement.1) = some limit ∧
        s.quotaUsedOrReserved requirement.1 call.now + requirement.2 ≤ limit.capacityUnits -
          (if call.decision.reserveAuthorized then 0 else limit.protectedUnits) := by
  rw [quotaError]
  cases hfind : s.listQuotaLimits.find? fun limit =>
      limit.enabled && limit.quotaId == requirement.1 with
  | none => simp
  | some limit =>
    simp only [Option.some.injEq, exists_eq_left', quotaUsedOrReserved, ite_eq_right_iff,
      reduceCtorEq, imp_false, not_lt]

/-- The constructor of the lease accepts an admitted request exactly if the key and the expiry
are in order. -/
theorem candidate_isOk_iff (hadm : call.decision.admitted = true)
    (hmax : call.requested ≤ call.decision.authorizedMicrounits) :
    (∃ lease, call.candidate sha = .ok lease) ↔
      pyStrip call.idempotencyKey ≠ "" ∧ call.idempotencyKey.length ≤ 300 ∧
        call.now + call.policy.leaseTtlSeconds * 1000000 ≤ maxInstant := by
  rw [← @budgetIdentifier_singleton_isOk_iff sha .lease, ← addSeconds_isOk_iff]
  constructor
  · rintro ⟨lease, h⟩
    obtain ⟨-, -, h⟩ := bind_eq_ok.mp h
    obtain ⟨leaseId, -, h⟩ := bind_eq_ok.mp h
    rw [dif_pos hmax] at h
    obtain ⟨expires, -, h⟩ := bind_eq_ok.mp h
    split at h
    · rename_i hkey
      exact ⟨⟨_, leaseId.property⟩, hkey.2, _, expires.property⟩
    · cases h
  · rintro ⟨⟨leaseId, hid⟩, hshort, expires, hexpires⟩
    have hvisible := budgetIdentifier_singleton_isOk_iff.mp ⟨leaseId, hid⟩
    have hkey : HasLength 300 call.idempotencyKey := by
      refine ⟨Nat.one_le_iff_ne_zero.mpr fun hzero => hvisible ?_, hshort⟩
      rw [String.length_eq_zero_iff.mp hzero]
      decide
    refine ⟨call.newLease leaseId expires hid hmax hexpires hkey, ?_⟩
    refine bind_eq_ok.mpr ⟨(), raiseIf_eq_ok.mpr (by simp [hadm]), ?_⟩
    refine bind_eq_ok.mpr ⟨_, returned_of_ok hid, ?_⟩
    rw [dif_pos hmax]
    refine bind_eq_ok.mpr ⟨_, returned_of_ok hexpires, ?_⟩
    rw [dif_pos hkey]

/-- The lease is inserted exactly if SQLite holds its amounts and its id is not stored. -/
theorem insertLease_isOk_iff {lease : SpendLease sha} :
    (∃ s', s.insertLease lease = .ok s') ↔
      (lease.reservedMicrounits ≤ maxSqliteInteger ∧ lease.consumedMicrounits ≤ maxSqliteInteger) ∧
      s.leases.find? lease.leaseId = none := by
  have hbind : bindIntegers [lease.reservedMicrounits, lease.consumedMicrounits] = .ok () ↔
      lease.reservedMicrounits ≤ maxSqliteInteger ∧
        lease.consumedMicrounits ≤ maxSqliteInteger := by
    simp [bindIntegers, raiseIf_eq_ok]
  rw [← hbind]
  constructor
  · rintro ⟨s', h⟩
    obtain ⟨⟨⟩, hbd, h⟩ := bind_eq_ok.mp h
    split at h
    · cases h
    · rename_i leases hins
      exact ⟨hbd, (Table.insert_eq_some_iff.mp hins).1⟩
  · rintro ⟨hbd, hfr⟩
    obtain ⟨leases, hins⟩ := Table.exists_insert hfr
    refine ⟨{ s with leases := leases }, ?_⟩
    rw [insertLease, hins]
    exact bind_eq_ok.mpr ⟨(), hbd, rfl⟩

/-- Under a fresh key, a reservation succeeds exactly if it is checked and written down. -/
theorem reserve_ok_iff (hadm : call.decision.admitted = true)
    (hmax : call.requested ≤ call.decision.authorizedMicrounits)
    (hfr : ∀ lease ∈ s.leases.rows, lease.idempotencyKey ≠ call.idempotencyKey) :
    (∃ lease s', s.reserve call = (.ok lease, s')) ↔
      s.checkReservation call = .ok () ∧ call.Recordable s := by
  have hnone : s.leases.rows.find? (fun lease => lease.idempotencyKey == call.idempotencyKey) =
      none := find?_eq_none.mpr fun lease hls => by simpa using hfr lease hls
  constructor
  · rintro ⟨lease, s', h⟩
    rw [reserve, hnone] at h
    cases hcand : call.candidate sha with
    | error => simp only [hcand, Prod.mk.injEq, reduceCtorEq, false_and] at h
    | ok candidate =>
      simp only [hcand] at h
      cases hchk : s.checkReservation call with
      | error => simp only [hchk, Prod.mk.injEq, reduceCtorEq, false_and] at h
      | ok =>
        simp only [hchk] at h
        cases hins : s.insertLease candidate with
        | error => simp only [hins, Prod.mk.injEq, reduceCtorEq, false_and] at h
        | ok s'' =>
          obtain ⟨hvisible, hshort, hexpiry⟩ :=
            (candidate_isOk_iff hadm hmax).mp ⟨candidate, hcand⟩
          obtain ⟨⟨hamount, -⟩, hunused⟩ := insertLease_isOk_iff.mp ⟨s'', hins⟩
          obtain ⟨leaseId, _, hid, _, _, _, rfl⟩ := candidate_eq_newLease hcand
          refine ⟨rfl, hvisible, hshort, fun row hrow hsame => ?_, hexpiry, hamount⟩
          rw [hid] at hsame
          exact Table.find?_eq_none_iff.mp hunused row hrow (Except.ok.inj hsame).symm
  · rintro ⟨hchk, hrecordable⟩
    obtain ⟨candidate, hcand⟩ := (@candidate_isOk_iff sha call hadm hmax).mpr
      ⟨hrecordable.key_visible, hrecordable.key_short, hrecordable.expiry⟩
    have hins : ∃ s', s.insertLease candidate = .ok s' := by
      obtain ⟨leaseId, _, hid, _, _, _, rfl⟩ := candidate_eq_newLease hcand
      refine insertLease_isOk_iff.mpr ⟨⟨hrecordable.amount, Nat.zero_le _⟩, ?_⟩
      refine Table.find?_eq_none_iff.mpr fun row hrow hsame => hrecordable.id_unused row hrow ?_
      rw [hid]
      exact congrArg Except.ok hsame.symm
    obtain ⟨s', hins⟩ := hins
    refine ⟨candidate, s', ?_⟩
    rw [reserve, hnone]
    simp only [hcand, hchk, hins]

end BudgetStore

/-! ### The two rules agree -/

/-- The limits that are looked at for a request. -/
def BudgetLimit.AppliesTo {sha : Sha256} (limit : BudgetLimit sha)
    (request : BudgetAdmissionRequest) (cycleId : String) : Prop :=
  limit.cycleId = cycleId ∧ limit.enabled = true ∧ limit.scopeKey ∈ request.scopeKeys

/-- The cap for which a request is authorized. -/
def BudgetLimit.capUnder {sha : Sha256} (limit : BudgetLimit sha) (policy : BudgetPolicy)
    (request : BudgetAdmissionRequest) : ℕ :=
  if request.reserveAuthorized policy then limit.hardCapMicrounits else limit.normalCapMicrounits

/-- The units of a quota for which a request is authorized. -/
def QuotaLimit.capacityUnder {sha : Sha256} (limit : QuotaLimit sha) (policy : BudgetPolicy)
    (request : BudgetAdmissionRequest) : ℕ :=
  limit.capacityUnits - if request.reserveAuthorized policy then 0 else limit.protectedUnits

/-- Before the request, no limit that applies to it is exceeded, and no quota that it needs. -/
structure BudgetStore.WithinLimits {sha : Sha256} (s : BudgetStore sha) (policy : BudgetPolicy)
    (request : BudgetAdmissionRequest) (cycleId : String) (now : Instant) : Prop where
  limits : ∀ limit ∈ s.limits.rows, limit.AppliesTo request cycleId →
    s.exposure limit.scopeKey now ≤ limit.capUnder policy request
  quotas : ∀ requirement ∈ request.quotaRequirements, ∀ limit ∈ s.quotaLimits.rows,
    limit.quotaId = requirement.1 →
      s.quotaUsedOrReserved requirement.1 now ≤ limit.capacityUnder policy request

/-- The first hit of a search is the first one with a property that it has. -/
theorem find?_and {α : Type} {p q : α → Bool} {l : List α} {a : α} (h : l.find? p = some a)
    (hq : q a = true) : l.find? (fun x => q x && p x) = some a := by
  obtain ⟨hp, before, after, rfl, hbef⟩ := find?_eq_some_iff_append.mp h
  refine find?_eq_some_iff_append.mpr ⟨?_, before, after, rfl, fun x hx => ?_⟩
  · rw [hq, hp]
    rfl
  · have hnot : p x = false := by simpa using hbef x hx
    rw [hnot, Bool.and_false]
    rfl

/-- The dictionary of the usages has those of the required quotas. -/
theorem unitsOf_map {f : String → ℕ} {requirement : String × ℕ} {requirements : List (String × ℕ)}
    (h : requirement ∈ requirements) :
    unitsOf (requirements.map fun item => (item.1, f item.1)) requirement.1 = f requirement.1 := by
  rw [unitsOf]
  cases hfind : (requirements.map fun item => (item.1, f item.1)).find? fun item =>
      item.1 == requirement.1 with
  | none =>
    have hall := find?_eq_none.mp hfind (requirement.1, f requirement.1)
      (mem_map.mpr ⟨requirement, h, rfl⟩)
    simp at hall
  | some item =>
    have hkey : item.1 = requirement.1 := by simpa using find?_some hfind
    obtain ⟨other, -, rfl⟩ := mem_map.mp (mem_of_find?_eq_some hfind)
    exact congrArg f hkey

section Agreement

variable {env : AdmissionEnv} {policy : BudgetPolicy} {s : BudgetStore env.sha}
  {request : BudgetAdmissionRequest} {cycleId : String} {forecastP90 paceRatioMilli : ℕ}
  {now : Instant} {decision : BudgetAdmissionDecision}

theorem BudgetStore.mem_snapshotsForRequest {snapshot : BudgetSnapshot} :
    snapshot ∈ s.snapshotsForRequest request cycleId policy forecastP90 paceRatioMilli now ↔
      ∃ limit ∈ s.limits.rows, limit.AppliesTo request cycleId ∧
        s.snapshot limit policy forecastP90 paceRatioMilli now = snapshot := by
  simp only [snapshotsForRequest, listLimits, mem_map, mem_filter,
    mem_insertionSort, BudgetLimit.AppliesTo, Bool.and_eq_true, beq_iff_eq,
    contains_iff_mem, and_assoc]

/-- A snapshot leaves what the exposure leaves of the cap. -/
theorem BudgetStore.available_snapshot (limit : BudgetLimit env.sha) :
    BudgetEvaluator.available (request.reserveAuthorized policy)
        (s.snapshot limit policy forecastP90 paceRatioMilli now) =
      limit.capUnder policy request - s.exposure limit.scopeKey now := by
  rw [BudgetEvaluator.available, BudgetLimit.capUnder]
  split <;> rfl

/-- What an admission says about the store. -/
structure AdmittedOn (s : BudgetStore env.sha) (policy : BudgetPolicy)
    (request : BudgetAdmissionRequest) (cycleId : String) (now : Instant)
    (decision : BudgetAdmissionDecision) : Prop where
  reserve : decision.reserveAuthorized = request.reserveAuthorized policy
  authorized : request.paidIncremental = true →
    request.estimatedP90Microunits ≤ decision.authorizedMicrounits
  limited : request.paidIncremental = true →
    ∃ limit ∈ s.limits.rows, limit.AppliesTo request cycleId
  room : request.paidIncremental = true →
    ∀ limit ∈ s.limits.rows, limit.AppliesTo request cycleId →
      request.estimatedP90Microunits ≤ limit.capUnder policy request - s.exposure limit.scopeKey now
  quotas : ∀ requirement ∈ request.quotaRequirements, ∃ limit,
    s.listQuotaLimits.find? (fun limit => limit.quotaId == requirement.1) = some limit ∧
      limit.enabled = true ∧
      requirement.2 ≤ limit.capacityUnder policy request - s.quotaUsedOrReserved requirement.1 now

theorem BudgetGovernor.admit_admitted
    (h : BudgetGovernor.admit env policy s request cycleId forecastP90 paceRatioMilli now =
      .ok decision) (hadm : decision.admitted = true) :
    AdmittedOn s policy request cycleId now decision := by
  obtain ⟨hreserve, hpaid, hquotas⟩ := BudgetEvaluator.evaluate_admitted h hadm
  refine ⟨hreserve, fun hp => (hpaid hp).2.1, fun hp => ?_, fun hp limit hlim happlies => ?_,
    fun requirement hreqm => ?_⟩
  · obtain ⟨snapshot, hsnap⟩ := exists_mem_of_ne_nil _ (hpaid hp).1
    obtain ⟨limit, hlim, happlies, -⟩ := mem_snapshotsForRequest.mp hsnap
    exact ⟨limit, hlim, happlies⟩
  · have hroom := (hpaid hp).2.2 _ (mem_snapshotsForRequest.mpr ⟨limit, hlim, happlies, rfl⟩)
    rwa [available_snapshot] at hroom
  · obtain ⟨limit, hfind, henabled, hroom⟩ :=
      BudgetEvaluator.quotaTurn_eq_true (hquotas requirement hreqm)
    rw [unitsOf_map (f := fun quotaId => s.quotaUsedOrReserved quotaId now) hreqm] at hroom
    exact ⟨limit, hfind, henabled, hroom⟩

/-- For an admitted request, the checks of `reserve` only add that no cap is exceeded yet. -/
theorem AdmittedOn.checkReservation_iff {idempotencyKey : String}
    (h : AdmittedOn s policy request cycleId now decision) :
    s.checkReservation { request, decision, cycleId, idempotencyKey, policy, now } = .ok () ↔
      s.WithinLimits policy request cycleId now := by
  have hcap : ∀ limit : BudgetLimit env.sha,
      capFor { request, decision, cycleId, idempotencyKey, policy, now } limit =
        limit.capUnder policy request := by
    intro limit
    rw [capFor, BudgetLimit.capUnder, h.reserve]
  rw [checkReservation_eq_ok_iff]
  constructor
  · rintro ⟨-, hroom, hquotas⟩
    refine ⟨fun limit hlim happlies => ?_, fun requirement hreqm limit hlim hid => ?_⟩
    · have hfits := hroom limit (mem_applicableLimits.mpr ⟨hlim, happlies⟩)
      rw [hcap] at hfits
      exact (Nat.le_add_right _ _).trans hfits
    · obtain ⟨stored, hfind, hfits⟩ :=
        quotaError_eq_none_iff.mp (hquotas requirement hreqm)
      -- The quota that was found is the only one of its id.
      have hstd : stored ∈ s.quotaLimits.rows :=
        (mem_insertionSort _).mp (mem_of_find?_eq_some hfind)
      have hstoredId : stored.quotaId = requirement.1 := by
        have hboth := find?_some hfind
        rw [Bool.and_eq_true, beq_iff_eq] at hboth
        exact hboth.2
      obtain rfl := s.quotaLimits.eq_of_key_eq hlim hstd (hid.trans hstoredId.symm)
      rw [h.reserve] at hfits
      exact (Nat.le_add_right _ _).trans hfits
  · rintro ⟨hlims, hquotas⟩
    refine ⟨fun hpaid => ?_, fun limit hlim => ?_, fun requirement hreqm => ?_⟩
    · obtain ⟨limit, hlim, happlies⟩ := h.limited hpaid
      exact ne_nil_of_mem (mem_applicableLimits.mpr ⟨hlim, happlies⟩)
    · obtain ⟨hlim, happlies⟩ := mem_applicableLimits.mp hlim
      have hwi := hlims limit hlim happlies
      rw [hcap, ReserveCall.requested]
      dsimp only
      split
      · rename_i hpaid
        have hroom := h.room hpaid limit hlim happlies
        omega
      · exact hwi
    · obtain ⟨limit, hfind, henabled, hroom⟩ := h.quotas requirement hreqm
      have hlim : limit ∈ s.quotaLimits.rows :=
        (mem_insertionSort _).mp (mem_of_find?_eq_some hfind)
      have hid : limit.quotaId = requirement.1 := by simpa using find?_some hfind
      have hwi := hquotas requirement hreqm limit hlim hid
      refine quotaError_eq_none_iff.mpr ⟨limit, find?_and hfind henabled, ?_⟩
      dsimp only
      rw [h.reserve]
      rw [QuotaLimit.capacityUnder] at hwi hroom
      omega

end Agreement

/-- **Admission and reservation.** Any store, request, clock and cycle; a request that is admitted
and an idempotency key under which no lease is stored. The reservation succeeds exactly if no cap
or quota that it is checked against is exceeded before, and the lease can be written down. -/
theorem admitted_reservation_succeeds_iff (env : AdmissionEnv) (policy : BudgetPolicy)
    (s : BudgetStore env.sha) (request : BudgetAdmissionRequest) (cycleId : String)
    (forecastP90 paceRatioMilli : ℕ) (now : Instant) (decision : BudgetAdmissionDecision)
    (idempotencyKey : String)
    ( hadmit : BudgetGovernor.admit env policy s request cycleId forecastP90 paceRatioMilli now =
      .ok decision) (hadm : decision.admitted = true)
    (hfr : ∀ lease ∈ s.leases.rows, lease.idempotencyKey ≠ idempotencyKey) :
    (∃ lease s', s.reserve { request, decision, cycleId, idempotencyKey, policy, now } =
        (.ok lease, s')) ↔
      s.WithinLimits policy request cycleId now ∧
        ReserveCall.Recordable s { request, decision, cycleId, idempotencyKey, policy, now } := by
  have hadmission := BudgetGovernor.admit_admitted hadmit hadm
  have hmax : ReserveCall.requested
      { request, decision, cycleId, idempotencyKey, policy, now } ≤
        decision.authorizedMicrounits := by
    rw [ReserveCall.requested]
    split
    · rename_i hpaid
      exact hadmission.authorized hpaid
    · exact Nat.zero_le _
  rw [reserve_ok_iff hadm hmax hfr, hadmission.checkReservation_iff]

def byteAdmission : AdmissionEnv where
  sha := .bytePolynomial
  jsonTime := toString

/-- A cap of one hundred on a project, of which fifty are protected. -/
def guardedLimit : BudgetLimit byteAdmission.sha :=
  { limitId :=
      ((budgetIdentifier .bytePolynomial .limit ["PROJECT:alpha", "2026-07"]).toOption).getD ""
    scopeType := .project
    scopeId := "alpha"
    cycleId := "2026-07"
    hardCapMicrounits := 100
    protectedReserveMicrounits := 50
    limitId_valid := by decide +kernel
    scopeId_valid := projectLimit.scopeId_valid
    cycleId_valid := projectLimit.cycleId_valid
    softCap_valid := projectLimit.softCap_valid
    reserve_valid := by decide }

/-- A booking of sixty: ten of the protected units are spent. -/
def emergencySpending : BudgetLedgerEntry byteAdmission.sha :=
  { entryId := ((budgetIdentifier .bytePolynomial .entry ["settle-1"]).toOption).getD ""
    idempotencyKey := "settle-1"
    projectId := "alpha"
    taskId := some "PP-TASK-000001"
    cashMicrounits := 60
    scopeKeys := ["PROJECT:alpha"]
    observedAtUtc := 0
    entryId_valid := by decide +kernel
    idempotencyKey_valid := fullSettlement.idempotencyKey_valid
    projectId_valid := fullSettlement.projectId_valid
    scopeKeys_valid := fullSettlement.scopeKeys_valid
    recorded := by decide }

/-- The limit, and nothing spent. -/
def guardedBudget : BudgetStore byteAdmission.sha where
  limits := ⟨[guardedLimit], by decide⟩
  quotaLimits := .empty
  ledger := .empty
  leases := .empty

/-- The limit, and the protected reserve in use. -/
def strainedBudget : BudgetStore byteAdmission.sha :=
  { guardedBudget with ledger := ⟨[emergencySpending], by decide⟩ }

def alphaRequest (paidIncremental : Bool) (estimate : ℕ) : BudgetAdmissionRequest where
  projectId := "alpha"
  taskId := "PP-TASK-000002"
  taskClass := "build"
  scopeKeys := ["PROJECT:alpha"]
  estimatedP50Microunits := estimate
  estimatedP90Microunits := estimate
  paidIncremental := paidIncremental
  projectId_valid := fullSettlement.projectId_valid
  taskId_valid := by decide
  taskClass_valid := by decide
  scopeKeys_valid := fullSettlement.scopeKeys_valid
  estimate_valid := le_rfl

/-- Work that costs nothing is admitted while the protected reserve is in use, and then cannot
be reserved. -/
theorem admitted_request_refused :
    ∃ decision, BudgetGovernor.admit byteAdmission {} strainedBudget (alphaRequest false 0)
        "2026-07" 0 1000 0 = .ok decision ∧ decision.admitted = true ∧
      strainedBudget.leases.rows = [] ∧
      (strainedBudget.reserve
        { request := alphaRequest false 0
          decision := decision
          cycleId := "2026-07"
          idempotencyKey := "run-1"
          now := 0 }).1 =
        .error (.valueError "atomic budget reservation would exceed PROJECT:alpha") := by
  exact exists_ok (by decide +kernel) fun _ _ hfa => hfa

theorem admitted_reservation_succeeds_iff_paid :
    ∃ decision, BudgetGovernor.admit byteAdmission {} guardedBudget (alphaRequest true 40)
        "2026-07" 0 1000 0 = .ok decision ∧ decision.admitted = true ∧
      ((∃ lease s', guardedBudget.reserve
          { request := alphaRequest true 40
            decision := decision
            cycleId := "2026-07"
            idempotencyKey := "run-1"
            policy := {}
            now := 0 } = (.ok lease, s')) ↔
        guardedBudget.WithinLimits {} (alphaRequest true 40) "2026-07" 0 ∧
          ReserveCall.Recordable guardedBudget
            { request := alphaRequest true 40
              decision := decision
              cycleId := "2026-07"
              idempotencyKey := "run-1"
              policy := {}
              now := 0 }) := by
  refine exists_ok (P := fun decision => decision.admitted = true) (by decide +kernel)
    fun decision hadmit hadm => ⟨hadm, ?_⟩
  exact admitted_reservation_succeeds_iff byteAdmission {} guardedBudget (alphaRequest true 40)
    "2026-07" 0 1000 0 decision "run-1" hadmit hadm fun _ hls =>
      absurd hls not_mem_nil

/-! ### The lease that is returned -/

/-- A lease stored under a key is the only one. -/
theorem BudgetStore.find?_idempotencyKey {sha : Sha256} {s : BudgetStore sha} {key : String}
    {stored : SpendLease sha} (hstd : stored ∈ s.leases.rows) (hkey : stored.idempotencyKey = key) :
    s.leases.rows.find? (fun lease => lease.idempotencyKey == key) = some stored := by
  cases hfind : s.leases.rows.find? fun lease => lease.idempotencyKey == key with
  | none =>
    have hne := find?_eq_none.mp hfind stored hstd
    exact absurd hkey (by simpa using hne)
  | some lease =>
    have hsame : lease.idempotencyKey = key := by simpa using find?_some hfind
    have hid := lease.leaseId_valid
    rw [hsame, ← hkey, stored.leaseId_valid] at hid
    rw [s.leases.eq_of_key_eq (mem_of_find?_eq_some hfind) hstd (Except.ok.inj hid).symm]

/-- A new lease is active, on the scopes of the request and for the requested amount. -/
theorem BudgetStore.candidate_serves {sha : Sha256} {call : ReserveCall} {lease : SpendLease sha}
    (h : call.candidate sha = .ok lease) :
    lease.activeAt call.now = true ∧ lease.scopeKeys = call.request.scopeKeys ∧
      call.requested ≤ lease.reservedMicrounits := by
  obtain ⟨leaseId, expires, hid, hmax, hexpires, hkey, rfl⟩ := candidate_eq_newLease h
  refine ⟨SpendLease.activeAt_of_open (Or.inl rfl) fun _ => ?_, rfl, le_rfl⟩
  exact (call.newLease leaseId expires hid hmax hexpires hkey).expires_valid

/-- A call of `reserve` that returns has found a lease under its key, or inserted a new one. -/
theorem BudgetStore.reserve_returned {sha : Sha256} {s : BudgetStore sha} {call : ReserveCall}
    {lease : SpendLease sha} (h : (s.reserve call).1 = .ok lease) :
    (lease ∈ s.leases.rows ∧ lease.idempotencyKey = call.idempotencyKey) ∨
      ((∀ stored ∈ s.leases.rows, stored.idempotencyKey ≠ call.idempotencyKey) ∧
        call.candidate sha = .ok lease) := by
  rw [reserve] at h
  cases hcand : call.candidate sha with
  | error =>
    rw [hcand] at h
    cases h
  | ok =>
    simp only [hcand] at h
    cases hfind : s.leases.rows.find? fun lease =>
        lease.idempotencyKey == call.idempotencyKey with
    | some existing =>
      simp only [hfind] at h
      split at h
      · cases h
      · cases h
        exact Or.inl ⟨mem_of_find?_eq_some hfind, by simpa using find?_some hfind⟩
    | none =>
      simp only [hfind] at h
      refine Or.inr ⟨fun stored hstd => ?_, ?_⟩
      · simpa using find?_eq_none.mp hfind stored hstd
      · split at h
        · cases h
        · split at h
          · cases h
          · exact h

/-- **The returned lease.** Any store and call of `reserve` that returns a lease. The lease is
active at the clock, on the scopes of the request and for at least the requested amount, exactly
if a lease that is stored under the idempotency key has an unknown outcome or is reserved and has
not lapsed, on the same scopes and for at least this amount. -/
theorem returned_lease_serves_iff {sha : Sha256} (s : BudgetStore sha) (call : ReserveCall)
    (lease : SpendLease sha) (h : (s.reserve call).1 = .ok lease) :
    (lease.activeAt call.now = true ∧ lease.scopeKeys = call.request.scopeKeys ∧
        call.requested ≤ lease.reservedMicrounits) ↔
      ∀ stored ∈ s.leases.rows, stored.idempotencyKey = call.idempotencyKey →
        (stored.state = .unknownOutcome ∨
          (stored.state = .reserved ∧ call.now < stored.expiresAtUtc)) ∧
        stored.scopeKeys = call.request.scopeKeys ∧
        call.requested ≤ stored.reservedMicrounits := by
  have hact : ∀ l : SpendLease sha, l.activeAt call.now = true ↔
      l.state = .unknownOutcome ∨ (l.state = .reserved ∧ call.now < l.expiresAtUtc) := by
    intro l
    rw [SpendLease.activeAt, Bool.or_eq_true, Bool.and_eq_true, beq_iff_eq, beq_iff_eq,
      decide_eq_true_eq]
  rcases reserve_returned h with ⟨hls, hkey⟩ | ⟨hfr, hcand⟩
  · have honly : ∀ stored ∈ s.leases.rows, stored.idempotencyKey = call.idempotencyKey →
        stored = lease := by
      intro stored hstd hsame
      have hfind := find?_idempotencyKey hstd hsame
      rw [find?_idempotencyKey hls hkey] at hfind
      exact (Option.some.inj hfind).symm
    constructor
    · rintro hserves stored hstd hsame
      rw [honly stored hstd hsame, ← hact]
      exact hserves
    · intro hstd
      rw [hact]
      exact hstd lease hls hkey
  · exact ⟨fun _ stored hstd hsame => absurd hsame (hfr stored hstd),
      fun _ => candidate_serves hcand⟩

/-- A reservation of forty of the fifty units that are not protected. -/
def alphaReservation (now : Instant) : ReserveCall where
  request := alphaRequest true 40
  decision :=
    { decisionId := "decision-1"
      taskId := "PP-TASK-000002"
      admitted := true
      pressureMode := .green
      authorizedMicrounits := 40
      generatedAtUtc := 0 }
  cycleId := "2026-07"
  idempotencyKey := "run-1"
  now := now

def alphaLeaseId : String :=
  ((budgetIdentifier .bytePolynomial .lease ["run-1"]).toOption).getD ""

/-- The reservation is made and released; made again, it returns the released lease, which holds
nothing. -/
theorem released_lease_returned :
    ∃ lease, ((runCalls BudgetCall.step guardedBudget
        [.reserve (alphaReservation 0), .release alphaLeaseId false 1]).reserve
          (alphaReservation 2)).1 = .ok lease ∧
      lease.state = .released ∧ lease.activeAt 2 = false := by
  exact exists_ok (by decide +kernel) fun _ _ hfa => hfa

theorem returned_lease_serves_iff_fresh :
    ∃ lease, (guardedBudget.reserve (alphaReservation 0)).1 = .ok lease ∧
      lease.activeAt 0 = true ∧ lease.scopeKeys = ["PROJECT:alpha"] ∧
      40 ≤ lease.reservedMicrounits := by
  refine exists_ok (P := fun _ => True) (by decide +kernel) fun lease hreserve _ => ?_
  exact (returned_lease_serves_iff guardedBudget (alphaReservation 0) lease hreserve).mpr
    fun _ hstd => absurd hstd not_mem_nil

end ProjectPipeline
