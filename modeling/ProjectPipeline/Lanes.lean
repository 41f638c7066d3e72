import ProjectPipeline.Blocks
import ProjectPipeline.Digest
import ProjectPipeline.Json
import ProjectPipeline.Table

/-!
# The Lane Registry

`LaneRegistry` (`autonomy_runtime/lanes.py`) hands out logical lanes to workers. A lane that
is claimed gets an attempt, a lease with a fencing token and an expiry, and a claim on each of
its resources. Workers renew and release leases, send heartbeats and record the result of an
attempt; leases that are due are fenced at the start of every operation.

The tables are SQLite tables with their primary keys, unique columns and foreign keys. An
operation is a block (`Prog` with a `Verdict`) of single statements: `with self._conn` commits
when its body returns, and `record_result` begins, commits and rolls back by hand. The text
columns with times hold instants, whose texts are ordered as the instants are.

The clock and `uuid.uuid4()` are inputs of a call (`LaneInputs`): every reading may be any
value. So are the string functions of the library that depend on the platform or on Unicode
(`LaneEnv`).
-/

namespace ProjectPipeline

/-! ### Outside of the program -/

/-- The functions of the library that the registry uses. -/
structure LaneEnv where
  sha : Sha256
  isoformat : Instant → String
  normpath : String → String
  casefold : String → String

/-- What one call reads from the clock and from `uuid.uuid4()`: the time at its start, the
times and identifiers of the fences and incidents that it records, in order, and the
identifiers of the attempt it creates. -/
structure LaneInputs where
  now : Instant
  fencedAt : ℕ → Instant
  incidentAt : ℕ → Instant
  incidentUuid : ℕ → String
  attemptUuid : String := ""
  tokenUuid : String := ""

/-! ### Resources -/

/-- `text.partition(":")`, if the separator occurs. -/
def partitionColon (text : String) : Option (String × String) :=
  if text.toList.contains ':' then
    some (String.ofList (text.toList.takeWhile (· != ':')),
      String.ofList ((text.toList.dropWhile (· != ':')).drop 1))
  else none

/-- The path of a `PATH` resource, as it is stored. -/
def canonicalizePath (env : LaneEnv) (remainder : String) : Except PyError String :=
  let normalized := String.ofList (collapseRuns '\\'
    (env.casefold (replaceChar '/' '\\' (env.normpath remainder))).toList)
  if normalized = "" ∨ normalized = "." ∨ normalized = "\\" then
    .error (.valueError "PATH resource must not resolve to an empty or root path")
  else .ok ("PATH:" ++ normalized)

def canonicalizeResource (env : LaneEnv) (resource : String) : Except PyError String :=
  let item := pyStrip resource
  if item = "" then .error (.valueError "resource key must be non-empty")
  else
    match partitionColon item with
    | some (head, remainder) =>
      if pyUpper head = "PATH" then canonicalizePath env remainder else .ok item
    | none => .ok item

def canonicalizeResources (env : LaneEnv) (resources : List String) :
    Except PyError (List String) := do
  let normalized ← (resources.filter fun item => pyStrip item != "").mapM
    (canonicalizeResource env)
  raiseIf (normalized = []) (.valueError "lane claim requires at least one non-empty resource key")
  raiseIf (¬ normalized.Nodup)
    (.valueError "lane claim contains duplicate or conflicting resource keys")
  pure (sortedSet normalized)

/-! ### Tables -/

inductive LaneAttemptState where
  | active | fenced | completed | blockedExternal
  deriving DecidableEq, Repr

/-- A row of `lane_attempts`. -/
structure LaneAttempt where
  attemptId : String
  logicalLaneId : String
  attemptNumber : ℕ
  workerId : String
  fencingToken : String
  state : LaneAttemptState
  resources : List String
  createdAtUtc : Instant
  expiresAtUtc : Instant
  fencedAtUtc : Option Instant := none
  deriving DecidableEq

/-- A row of `lane_leases`. -/
structure LaneLeaseRow where
  logicalLaneId : String
  attemptId : String
  workerId : String
  fencingToken : String
  expiresAtUtc : Instant
  deriving DecidableEq

/-- A row of `lane_claims`. -/
structure LaneClaim where
  resourceKey : String
  logicalLaneId : String
  attemptId : String
  deriving DecidableEq

/-- A row of `lane_results`. -/
structure LaneResult where
  attemptId : String
  logicalLaneId : String
  fencingToken : String
  resultFingerprint : String
  createdAtUtc : Instant
  deriving DecidableEq

/-- A row of `lane_heartbeats`. -/
structure LaneHeartbeat where
  attemptId : String
  logicalLaneId : String
  workerId : String
  fencingToken : String
  intent : JsonObject
  recordedAtUtc : Instant
  deriving DecidableEq

/-- A row of `lane_incidents`, and the record of it. -/
structure LaneIncident where
  incidentId : String
  logicalLaneId : String
  attemptId : Option String
  reason : String
  disposition : String
  failureFingerprint : String
  retryDecision : Option String
  createdAtUtc : Instant
  deriving DecidableEq

structure LaneDb where
  attempts : Table String LaneAttempt LaneAttempt.attemptId := .empty
  leases : Table String LaneLeaseRow LaneLeaseRow.logicalLaneId := .empty
  claims : Table String LaneClaim LaneClaim.resourceKey := .empty
  results : Table String LaneResult LaneResult.attemptId := .empty
  heartbeats : List LaneHeartbeat := []
  incidents : Table String LaneIncident LaneIncident.incidentId := .empty

namespace LaneDb

/-! ### Queries -/

variable (db : LaneDb)

def selectDue (now : Instant) : List LaneLeaseRow :=
  db.leases.rows.filter fun lease => lease.expiresAtUtc ≤ now

/-- `_attempt_count`. -/
def countAttempts (laneId : String) : ℕ :=
  (db.attempts.rows.filter fun attempt => attempt.logicalLaneId == laneId).length

/-- `_authorized_lease`, and the query of `record_result` without a worker. -/
def selectAuthorized (laneId : String) (workerId : Option String) (token : String)
    (now : Instant) : Option LaneLeaseRow :=
  (db.leases.find? laneId).filter fun lease =>
    workerId.all (· == lease.workerId) && lease.fencingToken == token &&
      decide (now < lease.expiresAtUtc)

/-- The attempt of a lane with the highest number. -/
def selectLatest (laneId : String) : Option LaneAttempt :=
  ((db.attempts.rows.filter fun attempt => attempt.logicalLaneId == laneId).insertionSort
    fun a b => b.attemptNumber ≤ a.attemptNumber).head?

/-! ### Statements that write

An insertion fails, and changes nothing, if a key, a unique column or a foreign key is
violated. -/

variable (attemptId : String)

/-- Fence an attempt that is active. -/
def fenceAttempt (fencedAt : Instant) : LaneDb :=
  { db with
    attempts := db.attempts.updateWhere
      (fun attempt => attempt.attemptId == attemptId && attempt.state == .active)
      (fun attempt => { attempt with state := .fenced, fencedAtUtc := some fencedAt })
      (fun _ => rfl) }

def deleteLease (laneId : String) : LaneDb :=
  { db with leases := db.leases.deleteWhere fun lease => lease.logicalLaneId == laneId }

def deleteClaims : LaneDb :=
  { db with claims := db.claims.deleteWhere fun claim => claim.attemptId == attemptId }

def insertIncident (row : LaneIncident) : Option LaneDb :=
  (db.incidents.insert row).map fun incidents => { db with incidents := incidents }

def insertAttempt (row : LaneAttempt) : Option LaneDb :=
  if db.attempts.rows.any fun attempt => attempt.fencingToken == row.fencingToken ||
      (attempt.logicalLaneId == row.logicalLaneId &&
        attempt.attemptNumber == row.attemptNumber) then none
  else (db.attempts.insert row).map fun attempts => { db with attempts := attempts }

def insertLease (row : LaneLeaseRow) : Option LaneDb :=
  if (db.leases.rows.any fun lease => lease.attemptId == row.attemptId ||
      lease.fencingToken == row.fencingToken) || (db.attempts.find? row.attemptId).isNone then none
  else (db.leases.insert row).map fun leases => { db with leases := leases }

def insertClaim (row : LaneClaim) : Option LaneDb :=
  if (db.attempts.find? row.attemptId).isNone then none
  else (db.claims.insert row).map fun claims => { db with claims := claims }

def insertResult (row : LaneResult) : Option LaneDb :=
  if (db.attempts.find? row.attemptId).isNone then none
  else (db.results.insert row).map fun results => { db with results := results }

def insertHeartbeat (row : LaneHeartbeat) : Option LaneDb :=
  if (db.attempts.find? row.attemptId).isNone then none
  else some { db with heartbeats := db.heartbeats ++ [row] }

/-- The new expiry of a lease that its worker may renew. -/
def renewLease (laneId workerId token : String) (expiresAt now : Instant) :
    LaneDb :=
  { db with
    leases := db.leases.updateWhere
      (fun lease => lease.logicalLaneId == laneId && lease.workerId == workerId &&
        lease.fencingToken == token && decide (now < lease.expiresAtUtc))
      (fun lease => { lease with expiresAtUtc := expiresAt }) (fun _ => rfl) }

/-- The new expiry of an active attempt. -/
def renewAttempt (token : String) (expiresAt : Instant) : LaneDb :=
  { db with
    attempts := db.attempts.updateWhere
      (fun attempt => attempt.fencingToken == token && attempt.state == .active)
      (fun attempt => { attempt with expiresAtUtc := expiresAt }) (fun _ => rfl) }

/-- Complete an attempt, in whatever state it is. -/
def completeAttempt : LaneDb :=
  { db with
    attempts := db.attempts.updateWhere (fun attempt => attempt.attemptId == attemptId)
      (fun attempt => { attempt with state := .completed }) (fun _ => rfl) }

end LaneDb

/-! ### Statements -/

/-- The statements of the registry. A `deleteLease` carries the attempt that is fenced with
it; the statement itself has only the lane. -/
inductive LaneSql where
  | selectDue (now : Instant)
  | selectLease (laneId : String)
  | countAttempts (laneId : String)
  | selectAuthorized (laneId : String) (workerId : Option String) (token : String) (now : Instant)
  | selectResult (attemptId : String)
  | selectLatest (laneId : String)
  | beginImmediate
  | fenceAttempt (attemptId : String) (fencedAt : Instant)
  | deleteLease (laneId : String) (fenced : String)
  | deleteClaims (attemptId : String)
  | insertIncident (row : LaneIncident)
  | insertAttempt (row : LaneAttempt)
  | insertLease (row : LaneLeaseRow)
  | insertClaim (row : LaneClaim)
  | insertResult (row : LaneResult)
  | insertHeartbeat (row : LaneHeartbeat)
  | renewLease (laneId workerId token : String) (expiresAt now : Instant)
  | renewAttempt (token : String) (expiresAt : Instant)
  | completeAttempt (attemptId : String)

namespace LaneSql

def exec : LaneSql → LaneDb → LaneDb
  | fenceAttempt attemptId fencedAt, db => db.fenceAttempt attemptId fencedAt
  | deleteLease laneId _, db => db.deleteLease laneId
  | deleteClaims attemptId, db => db.deleteClaims attemptId
  | insertIncident row, db => (db.insertIncident row).getD db
  | insertAttempt row, db => (db.insertAttempt row).getD db
  | insertLease row, db => (db.insertLease row).getD db
  | insertClaim row, db => (db.insertClaim row).getD db
  | insertResult row, db => (db.insertResult row).getD db
  | insertHeartbeat row, db => (db.insertHeartbeat row).getD db
  | renewLease laneId workerId token expiresAt now, db =>
    db.renewLease laneId workerId token expiresAt now
  | renewAttempt token expiresAt, db => db.renewAttempt token expiresAt
  | completeAttempt attemptId, db => db.completeAttempt attemptId
  | _, db => db

/-- The statements that need the write lock. -/
def writes : LaneSql → Bool
  | selectDue _ | selectLease _ | countAttempts _ | selectAuthorized .. | selectResult _
  | selectLatest _ => false
  | _ => true

end LaneSql

/-! ### Fences and incidents -/

/-- What an incident says. -/
structure LaneIncidentKind where
  reason : String
  disposition : String
  retryDecision : Option String

namespace LaneIncidentKind

def leaseExpired : LaneIncidentKind := ⟨"LEASE_EXPIRED", "RECOVERED", some "ALLOW_REPLACEMENT"⟩

def leaseReleased : LaneIncidentKind := ⟨"LEASE_RELEASED", "RECOVERED", some "ALLOW_REPLACEMENT"⟩

def workerLoss : LaneIncidentKind := ⟨"WORKER_LOSS", "RECOVERED", some "ALLOW_REPLACEMENT"⟩

def retryExhausted : LaneIncidentKind := ⟨"RETRY_EXHAUSTED", "BLOCKED_EXTERNAL", some "DENY"⟩

def unresolved : LaneIncidentKind :=
  ⟨"UNRESOLVED_STALE_OR_UNKNOWN_LEASE", "BLOCKED_EXTERNAL", some "DENY"⟩

def unsolvable : LaneIncidentKind :=
  ⟨"UNSOLVABLE_LIVE_LEASE_WITHOUT_MATCHING_FENCE", "BLOCKED_EXTERNAL", some "DENY"⟩

def alreadyBlocked : LaneIncidentKind :=
  ⟨"ALREADY_BLOCKED_EXTERNAL", "BLOCKED_EXTERNAL", some "DENY"⟩

end LaneIncidentKind

abbrev LaneProg (α : Type) := Prog LaneSql LaneDb α

namespace Lane

/-- A statement that cannot fail. -/
def perform (instr : LaneSql) : LaneProg Unit := .call instr fun _ => .ok ()

/-- A statement that fails if it violates a constraint. -/
def insert (instr : LaneSql) (after : LaneDb → Option LaneDb) : LaneProg Unit :=
  .call instr fun db =>
    if (after db).isSome then .ok () else .error (.integrityError "constraint failed")

def jsonOption (text : Option String) : String := (text.map jsonString).getD "null"

def incident (env : LaneEnv) (uuid : String) (time : Instant) (laneId : String)
    (attemptId : Option String) (kind : LaneIncidentKind) : LaneIncident where
  incidentId := "INC-" ++ uuid
  logicalLaneId := laneId
  attemptId := attemptId
  reason := kind.reason
  disposition := kind.disposition
  failureFingerprint := String.ofList (env.sha.hexdigest (canonicalJson
    [("logical_lane_id", jsonString laneId), ("attempt_id", jsonOption attemptId),
      ("reason", jsonString kind.reason), ("disposition", jsonString kind.disposition),
      ("retry_decision", jsonOption kind.retryDecision),
      ("created_at_utc", jsonString (env.isoformat time))]))
  retryDecision := kind.retryDecision
  createdAtUtc := time

/-- `_record_incident_conn`, for the incident with the given number of the call. -/
def recordIncident (env : LaneEnv) (inputs : LaneInputs) (number : ℕ) (laneId : String)
    (attemptId : Option String) (kind : LaneIncidentKind) : LaneProg LaneIncident := do
  let row := incident env (inputs.incidentUuid number) (inputs.incidentAt number) laneId attemptId
    kind
  insert (.insertIncident row) fun db => db.insertIncident row
  pure row

/-- `_fence_attempt_conn`. The lease is deleted by its lane, the claims by their attempt. -/
def fenceAttempt (env : LaneEnv) (inputs : LaneInputs) (number : ℕ) (attemptId laneId : String)
    (kind : LaneIncidentKind) : LaneProg LaneIncident := do
  perform (.fenceAttempt attemptId (inputs.fencedAt number))
  perform (.deleteLease laneId attemptId)
  perform (.deleteClaims attemptId)
  recordIncident env inputs number laneId (some attemptId) kind

/-- The loop of `_expire_due_leases_conn`. -/
def expireLeases (env : LaneEnv) (inputs : LaneInputs) :
    ℕ → List LaneLeaseRow → LaneProg Unit
  | _, [] => pure ()
  | number, row :: rows => do
      let _ ← fenceAttempt env inputs number row.attemptId row.logicalLaneId .leaseExpired
      expireLeases env inputs (number + 1) rows

/-- `_expire_due_leases_conn`. Returns the number of leases that were due. -/
def expireDueLeases (env : LaneEnv) (inputs : LaneInputs) : LaneProg ℕ := do
  let rows ← Prog.call (.selectDue inputs.now) fun db => .ok (db.selectDue inputs.now)
  expireLeases env inputs 0 rows
  pure rows.length

def activeLease (laneId : String) : LaneProg (Option LaneLeaseRow) :=
  .call (.selectLease laneId) fun db => .ok (db.leases.find? laneId)

def attemptCount (laneId : String) : LaneProg ℕ :=
  .call (.countAttempts laneId) fun db => .ok (db.countAttempts laneId)

def authorizedLease (laneId : String) (workerId : Option String) (token : String)
    (now : Instant) : LaneProg (Option LaneLeaseRow) :=
  .call (.selectAuthorized laneId workerId token now) fun db =>
    .ok (db.selectAuthorized laneId workerId token now)

/-! ### Operations -/

def insertClaims (laneId attemptId : String) : List String → LaneProg Unit
  | [] => pure ()
  | resource :: resources => do
      let row : LaneClaim := ⟨resource, laneId, attemptId⟩
      insert (.insertClaim row) fun db => db.insertClaim row
      insertClaims laneId attemptId resources

end Lane

structure LaneLease where
  laneId : String
  workerId : String
  fencingToken : String
  expiresAtUtc : Instant
  resources : List String
  attemptId : String
  attemptNumber : ℕ
  deriving DecidableEq

namespace Lane

/-- A new attempt with its lease and its claims. -/
def insertAttempt (attempt : LaneAttempt) : LaneProg LaneLease := do
  insert (.insertAttempt attempt) fun db => db.insertAttempt attempt
  let lease : LaneLeaseRow :=
    ⟨attempt.logicalLaneId, attempt.attemptId, attempt.workerId, attempt.fencingToken,
      attempt.expiresAtUtc⟩
  insert (.insertLease lease) fun db => db.insertLease lease
  insertClaims attempt.logicalLaneId attempt.attemptId attempt.resources
  pure ⟨attempt.logicalLaneId, attempt.workerId, attempt.fencingToken, attempt.expiresAtUtc,
    attempt.resources, attempt.attemptId, attempt.attemptNumber⟩

def claim (env : LaneEnv) (maxAttempts : ℕ) (laneId workerId : String) (resources : List String)
    (leaseSeconds : ℤ) (inputs : LaneInputs) : LaneProg (Option LaneLease) := do
  let expired ← expireDueLeases env inputs
  let active ← activeLease laneId
  if active.isSome then pure none
  else
    let count ← attemptCount laneId
    if maxAttempts < count + 1 then
      let _ ← recordIncident env inputs expired laneId none .retryExhausted
      pure none
    else
      let expiresAt ← Prog.ofExcept (addSeconds inputs.now leaseSeconds)
      let lease ← insertAttempt
        { attemptId := "ATT-" ++ inputs.attemptUuid
          logicalLaneId := laneId
          attemptNumber := count + 1
          workerId := workerId
          fencingToken := inputs.tokenUuid
          state := .active
          resources := resources
          createdAtUtc := inputs.now
          expiresAtUtc := expiresAt }
      pure (some lease)

variable (env : LaneEnv) (laneId workerId token : String)

def renew (expiresAt : Instant) (inputs : LaneInputs) : LaneProg Bool := do
  let _ ← expireDueLeases env inputs
  let renewed ← Prog.call (.renewLease laneId workerId token expiresAt inputs.now) fun db =>
    .ok (db.selectAuthorized laneId (some workerId) token inputs.now).isSome
  if renewed then
    perform (.renewAttempt token expiresAt)
    pure true
  else pure false

def release (inputs : LaneInputs) :
    LaneProg Bool := do
  let expired ← expireDueLeases env inputs
  let lease ← authorizedLease laneId (some workerId) token inputs.now
  match lease with
  | none => pure false
  | some lease =>
    let _ ← fenceAttempt env inputs expired lease.attemptId laneId .leaseReleased
    pure true

def heartbeat (intent : JsonObject) (inputs : LaneInputs) : LaneProg Bool := do
  let _ ← expireDueLeases env inputs
  let lease ← authorizedLease laneId (some workerId) token inputs.now
  match lease with
  | none => pure false
  | some lease =>
    let row : LaneHeartbeat := ⟨lease.attemptId, laneId, workerId, token, intent, inputs.now⟩
    insert (.insertHeartbeat row) fun db => db.insertHeartbeat row
    pure true

/-- `record_result`, which begins, commits and rolls back by hand. -/
def recordResult (env : LaneEnv) (laneId token fingerprint : String) (workerId : Option String)
    (inputs : LaneInputs) : LaneProg (Verdict Bool) := do
  perform .beginImmediate
  let _ ← expireDueLeases env inputs
  let lease ← authorizedLease laneId workerId token inputs.now
  match lease with
  | none => pure (.rollback false)
  | some lease =>
    let existing ← Prog.call (.selectResult lease.attemptId) fun db =>
      .ok (db.results.find? lease.attemptId)
    match existing with
    | some existing => pure (.rollback (existing.resultFingerprint == fingerprint))
    | none =>
      let row : LaneResult := ⟨lease.attemptId, laneId, token, fingerprint, inputs.now⟩
      insert (.insertResult row) fun db => db.insertResult row
      perform (.completeAttempt lease.attemptId)
      pure (.commit true)

/-- The part of `recover_lost_worker` for a lane without a lease. -/
def recoverUnleased (env : LaneEnv) (laneId : String) (inputs : LaneInputs) (expired : ℕ) :
    LaneProg LaneIncident := do
  let latest ← Prog.call (.selectLatest laneId) fun db => .ok (db.selectLatest laneId)
  match latest with
  | none => recordIncident env inputs expired laneId none .unresolved
  | some latest =>
    if latest.state = .blockedExternal then
      pure
        { incidentId := "existing"
          logicalLaneId := laneId
          attemptId := some latest.attemptId
          reason := LaneIncidentKind.alreadyBlocked.reason
          disposition := LaneIncidentKind.alreadyBlocked.disposition
          failureFingerprint := latest.attemptId
          retryDecision := LaneIncidentKind.alreadyBlocked.retryDecision
          createdAtUtc := inputs.now }
    else recordIncident env inputs expired laneId (some latest.attemptId) .unresolved

def recoverLostWorker (env : LaneEnv) (laneId staleToken : String) (staleWorkerId : Option String)
    (inputs : LaneInputs) : LaneProg LaneIncident := do
  let expired ← expireDueLeases env inputs
  let lease ← activeLease laneId
  match lease with
  | none => recoverUnleased env laneId inputs expired
  | some lease =>
    if lease.fencingToken = staleToken ∧ staleWorkerId.all (· == lease.workerId) then
      fenceAttempt env inputs expired lease.attemptId laneId .workerLoss
    else recordIncident env inputs expired laneId (some lease.attemptId) .unsolvable

end Lane

/-! ### Calls -/

/-- The operations of the registry, with their arguments. -/
inductive LaneCall where
  | claim (laneId workerId : String) (resources : List String) (leaseSeconds : ℤ)
      (inputs : LaneInputs)
  | renew (laneId workerId token : String) (leaseSeconds : ℤ) (inputs : LaneInputs)
  | release (laneId workerId token : String) (inputs : LaneInputs)
  | heartbeat (laneId workerId token : String) (intent : JsonObject) (inputs : LaneInputs)
  | recordResult (laneId token fingerprint : String) (workerId : Option String)
      (inputs : LaneInputs)
  | recoverLostWorker (laneId staleToken : String) (staleWorkerId : Option String)
      (inputs : LaneInputs)

inductive LaneReply where
  | lease (lease : Option LaneLease)
  | flag (value : Bool)
  | incident (incident : LaneIncident)
  deriving DecidableEq

namespace LaneCall

/-- The arguments that `claim` has checked before its block. -/
def checkClaim (env : LaneEnv) (resources : List String) (leaseSeconds : ℤ) :
    Except PyError (List String) := do
  raiseIf (leaseSeconds < 1) (.valueError "lease_seconds must be positive")
  canonicalizeResources env resources

section

variable (env : LaneEnv) (maxAttempts : ℕ)

def block : LaneCall → LaneProg (Verdict LaneReply)
  | claim laneId workerId resources leaseSeconds inputs => do
      let resources ← Prog.ofExcept (checkClaim env resources leaseSeconds)
      Prog.committing (LaneReply.lease <$>
        Lane.claim env maxAttempts laneId workerId resources leaseSeconds inputs)
  | renew laneId workerId token leaseSeconds inputs => do
      let expiresAt ← Prog.ofExcept (addSeconds inputs.now leaseSeconds)
      Prog.committing (LaneReply.flag <$> Lane.renew env laneId workerId token expiresAt inputs)
  | release laneId workerId token inputs =>
    Prog.committing (LaneReply.flag <$> Lane.release env laneId workerId token inputs)
  | heartbeat laneId workerId token intent inputs =>
    Prog.committing (LaneReply.flag <$> Lane.heartbeat env laneId workerId token intent inputs)
  | recordResult laneId token fingerprint workerId inputs => do
      let verdict ← Lane.recordResult env laneId token fingerprint workerId inputs
      pure (verdict.map LaneReply.flag)
  | recoverLostWorker laneId staleToken staleWorkerId inputs =>
    Prog.committing (LaneReply.incident <$>
      Lane.recoverLostWorker env laneId staleToken staleWorkerId inputs)

/-- What the caller gets: `claim` returns `None` for a violated constraint. -/
def reply : LaneCall → Except PyError LaneReply → Except PyError LaneReply
  | claim .., .error (.integrityError _) => .ok (.lease none)
  | _, result => result

/-- A call with nobody else around: what it returns, and the database it leaves. -/
def run (db : LaneDb) (call : LaneCall) :
    Except PyError LaneReply × LaneDb :=
  let outcome := (call.block env maxAttempts).atomically LaneSql.exec db
  (call.reply outcome.1, outcome.2)

def step (db : LaneDb) (call : LaneCall) : LaneDb :=
  (call.run env maxAttempts db).2

end

end LaneCall

/-! ### A registry to run -/

/-- An environment for paths that are normalized and in lower case already. -/
def LaneEnv.plain : LaneEnv where
  sha := .polynomial
  isoformat now := toString now
  normpath := id
  casefold := id

/-- The readings of a call that is made at a time, with identifiers of its own. -/
def LaneInputs.plain (now : Instant) (uuid : String) : LaneInputs where
  now := now
  fencedAt _ := now
  incidentAt _ := now
  incidentUuid number := uuid ++ "-" ++ toString number
  attemptUuid := uuid
  tokenUuid := uuid

end ProjectPipeline
