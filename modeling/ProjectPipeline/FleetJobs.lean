import ProjectPipeline.JsonValue
import ProjectPipeline.Table

/-!
# The Fleet Job Store

`FleetJobStore` (`autonomy_runtime/durable_jobs.py`) keeps the intents to run a job on another
machine, the results that were accepted and the fences that have expired, in SQLite.

The arguments of its methods are JSON objects that nobody has validated, and a method raises
when a field that it reads is missing or malformed. The connection is in autocommit mode: a
method begins a transaction by hand and commits it by hand before each of its returns, so where
it raises makes a difference. A `FleetAttempt` is a call of a method up to that difference:

* `outside`: it ends before the transaction;
* `inside`: it begins a transaction, whose end is a `FleetExit`: a commit, after which the
  method returns or raises, or an exception on the way that leaves the transaction open;
* `statement`: a single statement, which commits itself.

`FleetAttempt.exec` is what the call does to the tables. `FleetConnection` adds the
transaction of the connection.

The text columns with times hold instants. The columns of an intent beside its payload and its
status are kept as a list, since no method reads them.
-/

namespace ProjectPipeline

/-! ### Outside of the program -/

/-- The functions of the library that the store uses: `fromisoformat` reads a time in UTC,
`secretShaped` and `sensitiveKey` search for the two patterns of secrets. -/
structure FleetEnv where
  text : PyText
  fromisoformat : String → Except PyError Instant
  secretShaped : String → Bool
  sensitiveKey : String → Bool
  digestBytes : List UInt8 → String

mutual

def containsSecretShaped (env : FleetEnv) : JsonValue → Bool
  | .obj fields => anyFieldSecret env fields
  | .arr items => anyItemSecret env items
  | .str value => env.secretShaped value
  | _ => false

/-- Some key or value of a `dict` is shaped like a secret. -/
def anyFieldSecret (env : FleetEnv) : List (String × JsonValue) → Bool
  | [] => false
  | (key, value) :: fields =>
    env.sensitiveKey key || containsSecretShaped env value || anyFieldSecret env fields

/-- Some item of a list is shaped like a secret. -/
def anyItemSecret (env : FleetEnv) : List JsonValue → Bool
  | [] => false
  | item :: items => containsSecretShaped env item || anyItemSecret env items

end

/-! ### Tables -/

inductive JobStatus where
  | intent | dispatched | running | accepted | rejected | unknownOutcome | reconciling
  deriving DecidableEq, Repr

/-- The job may be running on its machine. -/
def JobStatus.inFlight : JobStatus → Bool
  | dispatched | running | unknownOutcome => true
  | _ => false

/-- A row of `fleet_dispatch_intents`. -/
structure IntentRow where
  jobId : String
  columns : List (String × String)
  payload : JsonDict
  status : JobStatus
  createdAtUtc : Instant

/-- A row of `fleet_job_results`. -/
structure ResultRow where
  jobId : String
  hostId : String
  fence : String
  exitCode : ℤ
  outputSha256 : String
  stdoutSha256 : String
  stderrSha256 : String
  payload : JsonDict
  acceptedAtUtc : Instant

/-- A row of `fleet_expired_fences`. -/
structure ExpiredFence where
  fence : String
  expiredAtUtc : Instant
  deriving DecidableEq

/-- What a row of `scheduler_resource_leases` says about a lease. -/
structure FleetLease where
  leaseId : String
  fencingToken : String
  expiresAtUtc : Instant
  released : Bool := false
  deriving DecidableEq

/-- The database. It has a table of leases once a lease was remembered in it. -/
structure FleetDb where
  intents : Table String IntentRow IntentRow.jobId := .empty
  results : Table String ResultRow ResultRow.jobId := .empty
  expiredFences : Table String ExpiredFence ExpiredFence.fence := .empty
  leases : Table String FleetLease FleetLease.leaseId := .empty

namespace FleetDb

def status (db : FleetDb) (jobId : String) : Option JobStatus :=
  (db.intents.find? jobId).map IntentRow.status

/-- `UPDATE fleet_dispatch_intents SET status=? WHERE job_id=?`. -/
def setStatus (db : FleetDb) (jobId : String) (status : JobStatus) : FleetDb :=
  { db with
    intents := db.intents.updateWhere (fun row => row.jobId == jobId)
      (fun row => { row with status := status }) (fun _ => rfl) }

end FleetDb

/-! ### Calls -/

/-- The end of a transaction: it is committed, and then the method returns or raises, or the
method raises in the transaction. -/
inductive FleetExit (α : Type) where
  | commit (result : Except PyError α) (db : FleetDb)
  | raised (error : PyError)

/-- The tables after a transaction. One that is left open has written nothing. -/
def FleetExit.tables {α : Type} (db : FleetDb) : FleetExit α → FleetDb
  | commit _ db' => db'
  | raised _ => db

/-- A call of a method, up to where its transaction begins. -/
inductive FleetAttempt (α : Type) where
  | outside (result : Except PyError α)
  | inside (body : FleetDb → FleetExit α)
  | statement (value : α) (update : FleetDb → FleetDb)

namespace FleetAttempt

variable {α : Type}

/-- What a call returns, and what it makes of the tables. -/
def exec (attempt : FleetAttempt α) (db : FleetDb) : Except PyError α × FleetDb :=
  match attempt with
  | outside result => (result, db)
  | inside body =>
    match body db with
    | .commit result db' => (result, db')
    | .raised error => (.error error, db)
  | statement value update => (.ok value, update db)

theorem exec_inside (body : FleetDb → FleetExit α) (db : FleetDb) :
    ((inside body).exec db).2 = (body db).tables db := by
  rw [exec]
  cases body db <;> rfl

/-- A body that runs after the arguments were read. -/
def afterReading {β : Type} (arguments : Except PyError β) (attempt : β → FleetAttempt α) :
    FleetAttempt α :=
  match arguments with
  | .ok value => attempt value
  | .error error => outside (.error error)

end FleetAttempt

/-- What a method of the store answers. The status is its `status` or `prior_status`. -/
structure FleetReply where
  ok : Bool
  reason : Option String := none
  status : Option JobStatus := none
  duplicate : Option Bool := none
  replacedUnlaunched : Bool := false
  result : JsonDict := []

namespace FleetReply

/-- `{"ok": False, "reason": reason}`. -/
def refused (reason : String) (status : Option JobStatus := none) : FleetReply where
  ok := false
  reason := some reason
  status := status

end FleetReply

/-! ### Intents -/

/-- The fields of an envelope that are stored in columns, in the order in which they are
read. -/
def intentColumns : List String :=
  ["host_id", "lease_id", "fence", "source_sha", "source_tree", "overlay_sha256", "input_sha256",
    "principal", "profile_id", "deadline_utc"]

section

variable (env : FleetEnv) (jobId : String) (envelope : JsonDict) (now : Instant)

/-- The row of an envelope. Raises for a field that is missing. -/
def intentRow :
    Except PyError IntentRow := do
  let columns ← intentColumns.mapM fun column => do
    let value ← envelope.getItemText env.text column
    pure (column, value)
  pure
    { jobId := jobId
      columns := columns
      payload := envelope
      status := .intent
      createdAtUtc := now }

/-- The transaction of `persist_intent`. -/
def persistBody (db : FleetDb) : FleetExit FleetReply :=
  match db.intents.find? jobId with
  | some existing =>
    if existing.payload.dumps env.text = envelope.dumps env.text then
      .commit (.ok { ok := true, duplicate := some true, status := some existing.status }) db
    else if existing.status = .intent then
      match intentRow env jobId envelope now with
      | .error error => .raised error
      | .ok row =>
        .commit
          (.ok { ok := true, duplicate := some false, replacedUnlaunched := true,
                 status := some .intent })
          { db with intents := db.intents.replace row }
    else .commit (.ok (.refused "conflicting_intent" (some existing.status))) db
  | none =>
    match intentRow env jobId envelope now with
    | .error error => .raised error
    | .ok row =>
      match db.intents.insert row with
      | none => .raised (.integrityError "UNIQUE constraint failed")
      | some intents =>
        .commit (.ok { ok := true, duplicate := some false, status := some .intent })
          { db with intents := intents }

end

def persistIntent (env : FleetEnv) (envelope : JsonDict) (now : Instant) :
    FleetAttempt FleetReply :=
  .afterReading (envelope.getItemText env.text "job_id") fun jobId =>
    if containsSecretShaped env (.obj envelope) then
      .outside (.ok (.refused "secret_in_envelope" (some .rejected)))
    else .inside (persistBody env jobId envelope now)

def markStatus (jobId : String) (status : JobStatus) : FleetAttempt FleetReply :=
  .statement { ok := true } fun db => db.setStatus jobId status

def releaseUnlaunched (jobId : String) : FleetAttempt FleetReply :=
  .statement { ok := true } fun db =>
    if db.status jobId = some .dispatched then db.setStatus jobId .intent else db

/-- The transaction of `claim_launch`. -/
def launchBody (jobId : String) (envelope : JsonDict) (db : FleetDb) :
    FleetExit FleetReply :=
  match db.intents.find? jobId with
  | none => .commit (.ok (.refused "intent_missing")) db
  | some existing =>
    if !(existing.payload.pop "status").pyEq (envelope.pop "status") then
      .commit (.ok (.refused "conflicting_intent")) db
    else if existing.status.inFlight ∨ existing.status = .reconciling then
      .commit (.ok (.refused "unresolved_in_flight" (some existing.status))) db
    else if existing.status = .accepted then .commit (.ok (.refused "already_accepted")) db
    else if existing.status = .intent then
      .commit (.ok { ok := true, status := some .dispatched }) (db.setStatus jobId .dispatched)
    else .commit (.ok (.refused "unresolved_in_flight")) db

def claimLaunch (env : FleetEnv) (envelope : JsonDict) : FleetAttempt FleetReply :=
  .afterReading (envelope.getItemText env.text "job_id") fun jobId =>
    .inside (launchBody jobId envelope)

section

variable (jobId reason : String) (absenceProof : Bool)

/-- The transaction of `reconcile_unresolved`. -/
def reconcileBody (db : FleetDb) :
    FleetExit FleetReply :=
  if (db.results.find? jobId).isSome then
    .commit (.ok (.refused "result_already_accepted")) db
  else
    match db.intents.find? jobId with
    | none => .commit (.ok { ok := true, reason := some "no_intent" }) db
    | some intent =>
      if intent.status = .accepted then .commit (.ok (.refused "already_accepted")) db
      else if intent.status.inFlight ∧ absenceProof = false then
        .commit (.ok (.refused "absence_proof_required" (some intent.status))) db
      else
        .commit (.ok { ok := true, reason := some reason, status := some intent.status })
          (db.setStatus jobId .reconciling)

def reconcileUnresolved : FleetAttempt FleetReply :=
  .inside (reconcileBody jobId reason absenceProof)

end

/-! ### Leases and fences -/

def querySchedulerLease (lease : Option FleetLease) (fence : String) (now : Instant) :
    Option Bool :=
  lease.map fun lease =>
    !lease.released && decide (now ≤ lease.expiresAtUtc) &&
      (fence == "" || lease.fencingToken == fence)

/-- `_scheduler_lease_active`, where `external` is the row in the database of the scheduler. -/
def schedulerLeaseActive (db : FleetDb) (leaseId fence : String) (now : Instant)
    (external : Option FleetLease) : Bool :=
  ((querySchedulerLease (db.leases.find? leaseId) fence now).getD
    ((querySchedulerLease external fence now).getD false))

def rememberSchedulerLease (leaseId fence : String) (now : Instant) (ttlSeconds : ℤ := 3600) :
    FleetAttempt FleetReply :=
  .afterReading (addSeconds now ttlSeconds) fun expires =>
    .statement { ok := true } fun db =>
      { db with
        leases := db.leases.upsert ⟨leaseId, fence, expires, false⟩
          (fun lease => { lease with fencingToken := fence, expiresAtUtc := expires,
                                     released := false }) (fun _ => rfl) }

def expireFence (fence : String) (now : Instant) : FleetAttempt FleetReply :=
  .statement { ok := true } fun db =>
    { db with
      expiredFences := db.expiredFences.upsert ⟨fence, now⟩
        (fun row => { row with expiredAtUtc := now }) (fun _ => rfl) }

def FleetDb.fenceExpired (db : FleetDb) (fence : String) : Bool :=
  (db.expiredFences.find? fence).isSome

/-! ### Results -/

/-- The arguments of `accept_result`, and the leases in the database of the scheduler. -/
structure AcceptCall where
  result : JsonDict
  now : Instant
  envelope : Option JsonDict := none
  artifactBytes : Option (List UInt8) := none
  contextConsumption : Option JsonDict := none
  external : String → Option FleetLease := fun _ => none

/-- Reject for a reason. -/
def rejectWhen (condition : Prop) [Decidable condition] (reason : String) : Except String Unit :=
  if condition then .error reason else .ok ()

theorem rejectWhen_eq_error {condition : Prop} [Decidable condition] {reason error : String} :
    rejectWhen condition reason = .error error ↔ condition ∧ reason = error := by
  by_cases h : condition <;> simp [rejectWhen, h]

namespace AcceptCall

variable (env : FleetEnv) (call : AcceptCall)

def expected : JsonDict := (call.envelope.getD []).pop "status"

/-- The result is one of the stored intent, and its fence has not expired. -/
def checkIdentity (db : FleetDb) (stored : JsonDict) : Except String Unit := do
  rejectWhen (call.expected ≠ [] ∧ stored.pyEq call.expected = false) "conflicting_intent"
  rejectWhen (call.result.getText env.text "host_id" ≠ stored.getText env.text "host_id")
    "wrong_host"
  rejectWhen (call.result.getText env.text "fence" ≠ stored.getText env.text "fence")
    "expired_fence"
  rejectWhen (db.fenceExpired (stored.getText env.text "fence")) "expired_fence"

variable (stored : JsonDict)

def deadline : Except PyError Instant :=
  env.fromisoformat (replaceZulu (stored.getText env.text "deadline_utc"))

/-- The result is in time, and of a command that has succeeded. -/
def checkOutcome (deadline : Instant) : Except String Unit := do
  rejectWhen (deadline < call.now) "late_result"
  match (call.result.get "exit_code").toInt env.text with
  | .error _ => .error "nonzero_exit"
  | .ok exitCode => rejectWhen (exitCode ≠ 0) "nonzero_exit"

/-- The digest that the output must have, if there is a contract. -/
def contract : String := stored.getText env.text "output_contract_sha256"

/-- The artifact has to be there. -/
def requiresBytes : Bool :=
  contract env stored != "" || (stored.get "require_context_consumption").truthy

def claimedDigest : String :=
  if (call.result.get "artifact_sha256").truthy then
    (call.result.get "artifact_sha256").toText env.text
  else call.result.getText env.text "junit_sha256"

def expectedOutput : String :=
  if contract env stored ≠ "" then contract env stored else call.claimedDigest env

/-- The artifact is the expected one. Returns the result with its digests. -/
def checkOutput : Except String JsonDict :=
  if requiresBytes env stored then
    match call.artifactBytes with
    | none => .error "artifact_bytes_required"
    | some bytes =>
      let actual := env.digestBytes bytes
      if call.expectedOutput env stored ≠ "" ∧ actual ≠ call.expectedOutput env stored then
        .error "output_tamper"
      else
        let result := call.result.set "artifact_sha256" (.str actual)
        .ok (if contract env stored = "" then result.set "output_sha256" (.str actual) else result)
  else .ok call.result

/-- The worker has consumed the context of this job. -/
def checkContext : Except String Unit :=
  if (stored.get "require_context_consumption").truthy then do
    let receipt := call.contextConsumption.getD []
    rejectWhen ((receipt.get "ok").truthy = false) "context_unconsumed"
    rejectWhen (receipt.getText env.text "job_id" ≠ stored.getText env.text "job_id")
      "context_wrong_job"
    rejectWhen (receipt.getText env.text "host_id" ≠ stored.getText env.text "host_id")
      "context_wrong_host"
    rejectWhen (stored.getText env.text "pack_sha256" ≠ "" ∧
      receipt.getText env.text "pack_sha256" ≠ stored.getText env.text "pack_sha256")
      "context_wrong_pack"
  else .ok ()

/-- The lease of the intent, if it names one, is active. -/
def checkLease (db : FleetDb) (stored : JsonDict) : Except String Unit :=
  let leaseId := stored.getText env.text "lease_id"
  rejectWhen (leaseId ≠ "" ∧ schedulerLeaseActive db leaseId (stored.getText env.text "fence")
    call.now (call.external leaseId) = false) "scheduler_lease_inactive"

/-- The checks after the deadline was read. Returns the result with its digests. -/
def checkAcceptance (db : FleetDb) (stored : JsonDict) (deadline : Instant) :
    Except String JsonDict := do
  call.checkOutcome env deadline
  let result ← call.checkOutput env stored
  call.checkContext env stored
  call.checkLease env db stored
  pure result

/-- The row of a result. Raises for a field that is missing. -/
def resultRow (jobId : String) (result : JsonDict) : Except PyError ResultRow := do
  let hostId ← result.getItemText env.text "host_id"
  let fence ← result.getItemText env.text "fence"
  let exitCode ← (← result.getItem "exit_code").toInt env.text
  let outputSha256 ← result.getItemText env.text "output_sha256"
  let stdoutSha256 ← result.getItemText env.text "stdout_sha256"
  let stderrSha256 ← result.getItemText env.text "stderr_sha256"
  pure ⟨jobId, hostId, fence, exitCode, outputSha256, stdoutSha256, stderrSha256, result, call.now⟩

variable {env call} in
theorem resultRow_jobId {jobId : String} {result : JsonDict} {row : ResultRow}
    (h : call.resultRow env jobId result = .ok row) : row.jobId = jobId := by
  simp only [resultRow, bind_eq_ok] at h
  obtain ⟨_, -, _, -, _, -, _, -, _, -, _, -, _, -, h⟩ := h
  rw [← Except.ok.inj h]

/-- The answer for a job that has a result: it may be the same one again. The comparison is
made after the commit. -/
def replay (existing : ResultRow) (result : JsonDict) : Except PyError FleetReply := do
  let output ← result.getItem "output_sha256"
  let same ←
    if output.pyEq (.str existing.outputSha256) then do
      let exitCode ← (← result.getItem "exit_code").toInt env.text
      pure (existing.exitCode == exitCode)
    else pure false
  if same then pure { ok := true, duplicate := some true, result := existing.payload }
  else pure (.refused "conflicting_replay")

/-- Record a result that has passed all checks. -/
def record (jobId : String) (result : JsonDict) (db : FleetDb) : FleetExit FleetReply :=
  match db.results.find? jobId with
  | some existing => .commit (replay env existing result) db
  | none =>
    match call.resultRow env jobId result with
    | .error error => .raised error
    | .ok row =>
      match db.results.insert row with
      | none => .raised (.integrityError "UNIQUE constraint failed")
      | some results =>
        .commit (.ok { ok := true, duplicate := some false, result := result })
          ({ db with results := results }.setStatus jobId .accepted)

/-- The transaction of `accept_result`. -/
def body (jobId : String) (db : FleetDb) : FleetExit FleetReply :=
  match db.intents.find? jobId with
  | none => .commit (.ok (.refused "intent_missing")) db
  | some intent =>
    let stored := intent.payload.pop "status"
    match call.checkIdentity env db stored with
    | .error reason => .commit (.ok (.refused reason)) db
    | .ok () =>
      match deadline env stored with
      | .error error => .raised error
      | .ok deadline =>
        match call.checkAcceptance env db stored deadline with
        | .error reason => .commit (.ok (.refused reason)) db
        | .ok result => call.record env jobId result db

end AcceptCall

/-- `accept_result`. `ok` stands for the outcome `ACCEPTED`. -/
def acceptResult (env : FleetEnv) (call : AcceptCall) : FleetAttempt FleetReply :=
  if call.result.getText env.text "job_id" = "" then .outside (.ok (.refused "job_id_missing"))
  else .inside (call.body env (call.result.getText env.text "job_id"))

/-! ### All methods -/

/-- The methods that change the store, with their arguments. -/
inductive FleetCall where
  | persistIntent (envelope : JsonDict) (now : Instant)
  | markStatus (jobId : String) (status : JobStatus)
  | releaseUnlaunched (jobId : String)
  | rememberSchedulerLease (leaseId fence : String) (now : Instant) (ttlSeconds : ℤ)
  | expireFence (fence : String) (now : Instant)
  | acceptResult (call : AcceptCall)
  | claimLaunch (envelope : JsonDict)
  | reconcileUnresolved (jobId reason : String) (absenceProof : Bool)

namespace FleetCall

def attempt (env : FleetEnv) : FleetCall → FleetAttempt FleetReply
  | persistIntent envelope now => ProjectPipeline.persistIntent env envelope now
  | markStatus jobId status => ProjectPipeline.markStatus jobId status
  | releaseUnlaunched jobId => ProjectPipeline.releaseUnlaunched jobId
  | rememberSchedulerLease leaseId fence now ttlSeconds =>
    ProjectPipeline.rememberSchedulerLease leaseId fence now ttlSeconds
  | expireFence fence now => ProjectPipeline.expireFence fence now
  | acceptResult call => ProjectPipeline.acceptResult env call
  | claimLaunch envelope => ProjectPipeline.claimLaunch env envelope
  | reconcileUnresolved jobId reason absenceProof =>
    ProjectPipeline.reconcileUnresolved jobId reason absenceProof

def step (env : FleetEnv) (db : FleetDb) (call : FleetCall) : FleetDb :=
  ((call.attempt env).exec db).2

end FleetCall

/-- What a call may write, given the tables that it finds. -/
inductive FleetWrite (env : FleetEnv) (db : FleetDb) : FleetCall → FleetDb → Prop
  | nothing {call : FleetCall} : FleetWrite env db call db
  | insertIntent {now : Instant} {row : IntentRow}
      {intents : Table String IntentRow IntentRow.jobId} (intent : row.status = .intent)
      (absent : db.status row.jobId = none) (insert : db.intents.insert row = some intents) :
      FleetWrite env db (.persistIntent row.payload now) { db with intents := intents }
  | replaceIntent {now : Instant} {row : IntentRow} (intent : row.status = .intent)
      (stored : db.status row.jobId = some .intent) :
      FleetWrite env db (.persistIntent row.payload now)
        { db with intents := db.intents.replace row }
  | mark {jobId : String} {status : JobStatus} :
      FleetWrite env db (.markStatus jobId status) (db.setStatus jobId status)
  | release {jobId : String} (stored : db.status jobId = some .dispatched) :
      FleetWrite env db (.releaseUnlaunched jobId) (db.setStatus jobId .intent)
  | launch {envelope : JsonDict} {jobId : String} (stored : db.status jobId = some .intent) :
      FleetWrite env db (.claimLaunch envelope) (db.setStatus jobId .dispatched)
  | reconcile {jobId reason : String} {absenceProof : Bool} {old : JobStatus}
      (stored : db.status jobId = some old) (accepted : old ≠ .accepted)
      (fresh : db.results.find? jobId = none) :
      FleetWrite env db (.reconcileUnresolved jobId reason absenceProof)
        (db.setStatus jobId .reconciling)
  | record {accept : AcceptCall} {row : ResultRow}
      {results : Table String ResultRow ResultRow.jobId} {old : JobStatus}
      (job : row.jobId = accept.result.getText env.text "job_id")
      (stored : db.status row.jobId = some old) (fresh : db.results.find? row.jobId = none)
      (insert : db.results.insert row = some results) :
      FleetWrite env db (.acceptResult accept)
        ({ db with results := results }.setStatus row.jobId .accepted)
  | lease {leaseId fence : String} {now : Instant} {ttlSeconds : ℤ}
      {leases : Table String FleetLease FleetLease.leaseId} :
      FleetWrite env db (.rememberSchedulerLease leaseId fence now ttlSeconds)
        { db with leases := leases }
  | expire {fence : String} {now : Instant} :
      FleetWrite env db (.expireFence fence now)
        { db with
          expiredFences := db.expiredFences.upsert ⟨fence, now⟩
            (fun row => { row with expiredAtUtc := now }) (fun _ => rfl) }

/-! ### What the transactions write -/

theorem intentRow_eq_ok {env : FleetEnv} {jobId : String} {envelope : JsonDict} {now : Instant}
    {row : IntentRow} (h : intentRow env jobId envelope now = .ok row) :
    row.jobId = jobId ∧ row.payload = envelope ∧ row.status = .intent := by
  obtain ⟨columns, -, hpure⟩ := bind_eq_ok.mp h
  rw [← Except.ok.inj hpure]
  exact ⟨rfl, rfl, rfl⟩

variable (env : FleetEnv) (db : FleetDb) (jobId : String)

/-- An intent is stored if the job has none, or replaced if it was not launched. -/
theorem persistBody_writes (envelope : JsonDict) (now : Instant) :
    FleetWrite env db (.persistIntent envelope now)
      ((persistBody env jobId envelope now db).tables db) := by
  rw [persistBody]
  cases hfind : db.intents.find? jobId with
  | none =>
    cases hrow : intentRow env jobId envelope now with
    | error => exact .nothing
    | ok row =>
      dsimp only
      cases hins : db.intents.insert row with
      | none => exact .nothing
      | some =>
        obtain ⟨rfl, rfl, hint⟩ := intentRow_eq_ok hrow
        have hold : db.status row.jobId = none := by rw [FleetDb.status, hfind, Option.map_none]
        exact .insertIntent hint hold hins
  | some =>
    dsimp only
    split
    · exact .nothing
    split
    · rename_i hstat
      cases hrow : intentRow env jobId envelope now with
      | error => exact .nothing
      | ok row =>
        obtain ⟨rfl, rfl, hint⟩ := intentRow_eq_ok hrow
        have hold : db.status row.jobId = some .intent := by
          rw [FleetDb.status, hfind, Option.map_some, hstat]
        exact .replaceIntent hint hold
    · exact .nothing

/-- A job is launched if its status is `INTENT`. -/
theorem launchBody_writes (envelope : JsonDict) :
    FleetWrite env db (.claimLaunch envelope) ((launchBody jobId envelope db).tables db) := by
  rw [launchBody]
  cases hfind : db.intents.find? jobId with
  | none => exact .nothing
  | some =>
    dsimp only
    split
    · exact .nothing
    split
    · exact .nothing
    split
    · exact .nothing
    split
    · rename_i hint
      exact .launch (by rw [FleetDb.status, hfind, Option.map_some, hint])
    · exact .nothing

/-- A job that has no result and is not accepted is reconciled, if its absence is proved or it
is not in flight. -/
theorem reconcileBody_writes (reason : String) (absenceProof : Bool) :
    FleetWrite env db (.reconcileUnresolved jobId reason absenceProof)
      ((reconcileBody jobId reason absenceProof db).tables db) := by
  rw [reconcileBody]
  split
  · exact .nothing
  rename_i hres
  cases hfind : db.intents.find? jobId with
  | none => exact .nothing
  | some intent =>
    dsimp only
    split
    · exact .nothing
    rename_i hacc
    split
    · exact .nothing
    · have hold : db.status jobId = some intent.status := by
        rw [FleetDb.status, hfind, Option.map_some]
      exact .reconcile hold hacc (by simpa using hres)

/-- The first result of a job that has an intent is recorded. -/
theorem AcceptCall.body_writes (call : AcceptCall) :
    FleetWrite env db (.acceptResult call)
      ((call.body env (call.result.getText env.text "job_id") db).tables db) := by
  rw [body]
  cases hfind : db.intents.find? (call.result.getText env.text "job_id") with
  | none => exact .nothing
  | some intent =>
    dsimp only
    split
    · exact .nothing
    split
    · exact .nothing
    split
    · exact .nothing
    rename_i result _
    rw [record]
    cases hres : db.results.find? (call.result.getText env.text "job_id") with
    | some => exact .nothing
    | none =>
      cases hrow : call.resultRow env (call.result.getText env.text "job_id") result with
      | error => exact .nothing
      | ok row =>
        dsimp only
        cases hins : db.results.insert row with
        | none => exact .nothing
        | some =>
          have hkey := resultRow_jobId hrow
          have hold : db.status row.jobId = some intent.status := by
            rw [hkey, FleetDb.status, hfind, Option.map_some]
          rw [← hkey] at hres
          simp only [FleetExit.tables, ← hkey]
          exact .record hkey hold hres hins

/-- **What a call writes.** -/
theorem FleetCall.step_writes (call : FleetCall) : FleetWrite env db call (call.step env db) := by
  cases call with
  | persistIntent envelope now =>
    rw [step, attempt, ProjectPipeline.persistIntent]
    cases envelope.getItemText env.text "job_id" with
    | error => exact .nothing
    | ok jobId =>
      rw [FleetAttempt.afterReading]
      split
      · exact .nothing
      rw [FleetAttempt.exec_inside]
      exact persistBody_writes env db jobId envelope now
  | markStatus => exact .mark
  | releaseUnlaunched jobId =>
    by_cases hold : db.status jobId = some .dispatched
    · have hstep : (FleetCall.releaseUnlaunched jobId).step env db = db.setStatus jobId .intent :=
        if_pos hold
      rw [hstep]
      exact .release hold
    · have hstep : (FleetCall.releaseUnlaunched jobId).step env db = db := if_neg hold
      rw [hstep]
      exact .nothing
  | rememberSchedulerLease _ _ now ttlSeconds =>
    rw [step, attempt, ProjectPipeline.rememberSchedulerLease]
    cases addSeconds now ttlSeconds with
    | error => exact .nothing
    | ok => exact .lease
  | expireFence => exact .expire
  | acceptResult accept =>
    rw [step, attempt, ProjectPipeline.acceptResult]
    split
    · exact .nothing
    rw [FleetAttempt.exec_inside]
    exact accept.body_writes env db
  | claimLaunch envelope =>
    rw [step, attempt, ProjectPipeline.claimLaunch]
    cases envelope.getItemText env.text "job_id" with
    | error => exact .nothing
    | ok jobId =>
      rw [FleetAttempt.afterReading, FleetAttempt.exec_inside]
      exact launchBody_writes env db jobId envelope
  | reconcileUnresolved jobId reason absenceProof =>
    rw [step, attempt, ProjectPipeline.reconcileUnresolved, FleetAttempt.exec_inside]
    exact reconcileBody_writes env db jobId reason absenceProof

/-! ### A store to run -/

/-- An environment in which times are written as numbers and nothing is a secret. -/
def FleetEnv.plain : FleetEnv where
  text := .plain
  fromisoformat text :=
    match readDigits text with
    | some time => .ok time
    | none => .error (.valueError "Invalid isoformat string")
  secretShaped _ := false
  sensitiveKey _ := false
  digestBytes bytes := toString bytes.length

def plainEnvelope (jobId leaseId fence deadline : String) : JsonDict :=
  [("job_id", .str jobId), ("host_id", .str "host"), ("lease_id", .str leaseId),
    ("fence", .str fence), ("source_sha", .str "source"), ("source_tree", .str "tree"),
    ("overlay_sha256", .str "overlay"), ("input_sha256", .str "input"),
    ("principal", .str "principal"), ("profile_id", .str "profile"),
    ("deadline_utc", .str deadline)]

def plainResult (jobId fence : String) : JsonDict :=
  [("job_id", .str jobId), ("host_id", .str "host"), ("fence", .str fence), ("exit_code", .int 0),
    ("output_sha256", .str "output"), ("stdout_sha256", .str "stdout"),
    ("stderr_sha256", .str "stderr")]

end ProjectPipeline
