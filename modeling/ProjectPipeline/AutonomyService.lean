import ProjectPipeline.JsonValue
import ProjectPipeline.Programs
import ProjectPipeline.Supervisor

/-!
# The Autonomy Runtime

`AutonomyRuntimeService` (`autonomy_runtime/service.py`) takes one operation at a time through
the states of the supervisor. `run_once` resumes the active operation or starts a new one; on the
way it calls three adapters, which dispatch the work, verify its result and integrate it.

The service is a program of atomic steps, so that it can be stopped between any two of them: the
transactions and reads of the supervisor, and the calls of the adapters, which are logged. An
adapter may raise, or return anything that the service can use; what the service cannot use makes
it raise before its next transaction, as if the adapter had raised.

The meta key `last_truth`, which `compile_truth` writes and no decision reads, is left out.

## Main results

* `Realizes.markUnknownOutcome`, `Realizes.reconcileUnknownOutcome`,
  `Realizes.completeOperation`: without an interruption, the methods of several transactions are
  those of the supervisor.
-/

namespace ProjectPipeline

/-! ### Adapters -/

/-- Arguments of `dispatch_adapter.execute`. -/
structure ExecuteRequest where
  command : List String
  workingDirectory : String
  timeoutSeconds : ℤ

/-- Arguments of `verification_adapter.verify`. -/
structure VerifyRequest where
  resultPayload : JsonValue
  command : List String
  workingDirectory : String
  targetSha : String
  verifierId : String

/-- The fields of a verification that the service reads. -/
structure Verification where
  verified : Bool
  verificationFingerprint : String
  reason : String

/-- Arguments of `integration_adapter.integrate`. -/
structure IntegrateRequest where
  operationId : String
  sourceRepo : String
  targetRepo : String
  sourceRef : String
  targetBranch : String

/-- What the adapters do in one call of `run_once`. An integration returns its `integrated_ref`. -/
structure Adapters where
  execute : ExecuteRequest → Except PyError JsonDict
  verify : VerifyRequest → Except PyError Verification
  integrate : IntegrateRequest → Except PyError String

/-- The calls of the adapters, with the operation they are made for. -/
inductive AdapterCall where
  | execute (operationId : String)
  | verify (operationId : String)
  | integrate (operationId : String)
  deriving DecidableEq, Repr

/-! ### Programs -/

/-- The tables of the supervisor, and the calls of the adapters so far. -/
structure Autonomy where
  db : SupervisorDb
  invoked : List AdapterCall := []

/-- What the service does in one step: a statement on the tables, or the call of an adapter. -/
inductive AutonomyStep where
  | statement (effect : SupervisorDb → SupervisorDb)
  | invoke (call : AdapterCall)

/-- The tables and the log after a step. -/
def AutonomyStep.exec : AutonomyStep → Autonomy → Autonomy
  | statement effect, s => { s with db := effect s.db }
  | invoke call, s => { s with invoked := s.invoked ++ [call] }

/-- Programs of the service. -/
abbrev AutonomyProg := Prog AutonomyStep Autonomy

/-- What the service needs of the library: the digest, the texts of values, and the two
directions of JSON. `compact` is the dump that is digested. -/
structure AutonomyEnv where
  sha : Sha256
  text : PyText
  compact : JsonDict → String
  loads : String → Except PyError JsonValue

/-- `except ValueError`. The errors of a validation are of a subclass. -/
def PyError.isValueError : PyError → Bool
  | valueError _ => true
  | validationError _ _ => true
  | _ => false

/-- `except (ValueError, subprocess.CalledProcessError)`. -/
def PyError.isIntegrationError : PyError → Bool
  | raised className _ => className == "CalledProcessError"
  | error => error.isValueError

namespace Autonomy

open Supervisor

variable {α β : Type}

/-- A transaction of the supervisor. -/
def store (session : Session SupervisorDb α) : AutonomyProg α :=
  .call (.statement fun db => (session db).2) fun s => (session s.db).1

/-- A read. -/
def select (query : SupervisorDb → Except PyError α) : AutonomyProg α :=
  .call (.statement id) fun s => query s.db

/-- The call of an adapter, which raises or returns. -/
def invoke (call : AdapterCall) (answer : Except PyError α) : AutonomyProg α :=
  .call (.invoke call) fun _ => answer

/-- `try: body / except caught: handler`, and the rest behind it. -/
def tryExcept (body : AutonomyProg α) (caught : PyError → Bool) (handler : PyError → AutonomyProg β)
    (rest : α → AutonomyProg β) : AutonomyProg β :=
  body.andThen fun
    | .ok a => rest a
    | .error error => if caught error then handler error else .raise error

/-! ### The supervisor, step by step -/

def operationRecord (operationId : String) : AutonomyProg SupervisorOperation :=
  store (.transaction (operation operationId))

def operationPayload (env : AutonomyEnv) (operationId : String) : AutonomyProg JsonDict := do
  let row ← operationRecord operationId
  let payload ← Prog.ofExcept (env.loads row.payloadJson)
  match payload with
  | .obj fields => pure fields
  | _ => .raise (.raised "TypeError" "operation payload must be a JSON object")

def receiptFor (operationId : String) : AutonomyProg (Option ReceiptRow) :=
  select fun db => .ok (db.receipts.find? operationId)

def selectNextWork (readyTaskIds : List String) : AutonomyProg (Option String) :=
  select fun db => .ok (readyTaskIds.find? fun taskId =>
    !(db.completedTasks.rows.any fun row => row.taskId == taskId) &&
      !(db.operations.rows.any fun row =>
        [OperationState.failed, .blockedExternal].contains row.state && row.taskId == taskId))

def terminalStates : List OperationState := [.completed, .failed, .blockedExternal]

/-- The active operation, as `status` finds it: an operation that has come to an end is not
active any more. -/
def activeOperation : AutonomyProg (Option String) := do
  let active ← select fun db => .ok db.activeOperationId
  match active with
  | none => pure none
  | some operationId =>
    let row ← select fun db => .ok (db.operations.find? operationId)
    if (row.map fun row => terminalStates.contains row.state).getD false then
      store (.transaction (modify fun db => { db with activeOperationId := none }))
      pure none
    else
      let _ ← operationRecord operationId
      pure (some operationId)

section

variable (operationId : String)

def markUnknownOutcome : AutonomyProg Unit := do
  store (transition operationId .unknownOutcome)
  store (.transaction do
    updateOperation operationId (fun row => { row with incident := some "UNKNOWN_OUTCOME" })
      (fun row => .refl row.operationId)
    modify fun db => { db with pendingUnknownOutcome := some operationId })

def reconcileUnknownOutcome (applied : Bool) : AutonomyProg Unit := do
  let current ← operationRecord operationId
  Prog.onlyIf (current.state = .unknownOutcome)
    (store (transition operationId (if applied then .resultObserved else .reconciled)))
  store (.transaction do
    updateOperation operationId
      (fun row => { row with incident := some "UNKNOWN_OUTCOME_RECONCILED" })
      (fun row => .refl row.operationId)
    modify fun db => { db with
      pendingUnknownOutcome :=
        if db.pendingUnknownOutcome = some operationId then none else db.pendingUnknownOutcome })

def completeOperation : AutonomyProg Unit := do
  let row ← operationRecord operationId
  if row.state = .unknownOutcome then
    .raise (.valueError "cannot complete operation with unknown outcome")
  else store (.transaction do
    let current ← operation operationId
    Txn.onlyIf (current.state ≠ .completed) (transitionConn operationId .completed)
    saveCompleted ⟨row.taskId, operationId, row.integratedRef⟩
    clearActive operationId)

end

/-! ### Without an interruption -/

/-- Run to its end, the program does to the tables what the session does, and calls no adapter. -/
def Realizes (p : AutonomyProg α) (session : Session SupervisorDb α) : Prop :=
  ∀ s, p.run AutonomyStep.exec s = ((session s.db).1, { s with db := (session s.db).2 })

namespace Realizes

theorem store (session : Session SupervisorDb α) : Realizes (Autonomy.store session) session :=
  fun _ => rfl

theorem bind {p : AutonomyProg α} {session : Session SupervisorDb α} {rest : α → AutonomyProg β}
    {rest' : α → Session SupervisorDb β} (h : Realizes p session)
    (hrest : ∀ a, Realizes (rest a) (rest' a)) : Realizes (p >>= rest) (session >>= rest') := by
  intro s
  rcases hrun : session s.db with ⟨error | a, db'⟩
  · have hp : p.run AutonomyStep.exec s = (.error error, { s with db := db' }) := by rw [h s, hrun]
    rw [Prog.run_bind_of_error hp, Session.bind_of_error hrun]
  · have hp : p.run AutonomyStep.exec s = (.ok a, { s with db := db' }) := by rw [h s, hrun]
    rw [Prog.run_bind_of_ok hp, Session.bind_of_ok hrun]
    exact hrest a _

theorem ite {c : Prop} [Decidable c] {p q : AutonomyProg α} {session session' : Session SupervisorDb α}
    (hp : Realizes p session) (hq : Realizes q session') :
    Realizes (if c then p else q) (if c then session else session') := by
  split
  · exact hp
  · exact hq

section

variable (operationId : String)

theorem markUnknownOutcome :
    Realizes (Autonomy.markUnknownOutcome operationId)
      (Supervisor.markUnknownOutcome operationId) :=
  .bind (.store _) fun _ => .store _

theorem reconcileUnknownOutcome (applied : Bool) :
    Realizes (Autonomy.reconcileUnknownOutcome operationId applied)
      (Supervisor.reconcileUnknownOutcome operationId applied) :=
  .bind (.store _) fun _ => .bind (.ite (.store _) fun _ => rfl) fun _ => .store _

theorem completeOperation :
    Realizes (Autonomy.completeOperation operationId) (Supervisor.completeOperation operationId) :=
  .bind (.store _) fun _ => .ite (fun _ => rfl) (.store _)

end

end Realizes

/-! ### The service -/

/-- `value or default`, as a text. -/
def textOr (env : AutonomyEnv) (value : JsonValue) (default : String) : String :=
  if value.truthy then value.toText env.text else default

/-- A text or `None`, in the answer of the service. -/
def jsonText (text : Option String) : JsonValue := (text.map JsonValue.str).getD .null

/-- Arguments of `run_once`, the adapters of the service, and the clock. -/
structure RunOnce where
  controlSnapshotId : String
  sequenceId : String
  readyTaskIds : List String
  workerId : String
  taskPayloads : List (String × JsonDict)
  baseBranch : String
  worktreePath : String
  leaseFence : String
  adapters : Adapters
  now : Instant

variable (env : AutonomyEnv) (call : RunOnce) (operationId : String)

variable (payload : JsonDict)

def integrateAndFinish (verification : Option Verification)
    (receipt : Option DispatchReceipt) : AutonomyProg JsonDict := do
  let record ← operationRecord operationId
  let request : IntegrateRequest :=
    { operationId := operationId
      sourceRepo := textOr env (payload.get "source_repo") record.worktreePath
      targetRepo := textOr env (payload.get "target_repo") record.worktreePath
      sourceRef := textOr env (payload.get "source_ref") "HEAD"
      targetBranch := textOr env (payload.get "target_branch")
        (if record.baseBranch = "" then "main" else record.baseBranch) }
  Prog.onlyIf (record.state = .verifiedResult) (store (markIntegrationIntent operationId))
  tryExcept (invoke (.integrate operationId) (call.adapters.integrate request))
    PyError.isIntegrationError
    (fun error => do
      markUnknownOutcome operationId
      pure [("state", .str "UNKNOWN_OUTCOME"), ("operation_id", .str operationId),
        ("reason", .str ("INTEGRATION_UNKNOWN:" ++ error.message))])
    fun integratedRef => do
      store (markIntegrated operationId integratedRef)
      completeOperation operationId
      let next ← selectNextWork call.readyTaskIds
      pure [("state", .str "SUCCEEDED"), ("task_id", .str record.taskId),
        ("operation_id", .str operationId),
        ("receipt", .obj
          [("worker_id", .str ((receipt.map DispatchReceipt.workerId).getD record.workerId)),
            ("status", .str ((receipt.map DispatchReceipt.status).getD "RESULT_OBSERVED"))]),
        ("verification_fingerprint",
          jsonText (verification.map Verification.verificationFingerprint)),
        ("integrated_ref", .str integratedRef), ("next_eligible_task_id", jsonText next)]

def verifyAndFinish (dispatch : JsonValue) (receipt : Option DispatchReceipt) :
    AutonomyProg JsonDict := do
  let record ← operationRecord operationId
  let verifyCommand :=
    if (payload.get "verify_command").truthy then payload.get "verify_command"
    else payload.get "command"
  match verifyCommand with
  | .arr items =>
    let verification ← invoke (.verify operationId) (call.adapters.verify
      { resultPayload := dispatch
        command := items.map (JsonValue.toText env.text)
        workingDirectory := record.worktreePath
        targetSha := textOr env (payload.get "target_sha") (record.resultFingerprint.getD "None")
        verifierId := textOr env (payload.get "verifier_id") "local-verification-adapter" })
    if verification.verified then
      store (markVerified operationId verification.verificationFingerprint)
      integrateAndFinish env call operationId payload (some verification) receipt
    else
      store (markVerificationFailed operationId verification.verificationFingerprint
        verification.reason)
      pure [("state", .str "FAILED_VERIFICATION"), ("task_id", .str record.taskId),
        ("operation_id", .str operationId), ("verification_reason", .str verification.reason)]
  | _ =>
    store (markVerificationFailed operationId "missing" "missing_verifier")
    pure [("state", .str "FAILED_VERIFICATION"), ("task_id", .str record.taskId),
      ("operation_id", .str operationId), ("verification_reason", .str "missing_verifier")]

/-- The `try` block of `_advance_from_intent`: the operation is marked, and the work is
dispatched. -/
def dispatch (command : List JsonValue) (worktree : String) : AutonomyProg JsonDict := do
  store (markDispatched operationId)
  let timeoutSeconds ← Prog.ofExcept
    (((payload.lookup "timeout_seconds").getD (.int 60)).toInt env.text)
  invoke (.execute operationId) (call.adapters.execute
    { command := command.map (JsonValue.toText env.text)
      workingDirectory := worktree
      timeoutSeconds := timeoutSeconds })

/-- `record_result` for the answer of the adapter. -/
def recordDispatch (env : AutonomyEnv) (call : RunOnce) (operationId status : String)
    (result : JsonDict) : AutonomyProg DispatchReceipt := do
  let fingerprint ← Prog.ofExcept (result.getItemText env.text "payload_sha256")
  store (recordResult env.sha
    { operationId := operationId
      workerId := call.workerId
      outputFingerprint := fingerprint
      status := status
      payload := env.compact result } call.now)

/-- The part of `_advance_from_intent` behind the dispatch. -/
def afterDispatch (payload result : JsonDict) : AutonomyProg JsonDict :=
  if (result.get "timed_out").truthy then do
    let receipt ← recordDispatch env call operationId "TIMEOUT" result
    let fingerprint ← Prog.ofExcept (result.getItemText env.text "payload_sha256")
    store (markVerificationFailed operationId fingerprint "timeout")
    pure [("state", .str "FAILED_VERIFICATION"), ("operation_id", .str operationId),
      ("verification_reason", .str "timeout"),
      ("receipt", .obj [("worker_id", .str receipt.workerId), ("status", .str receipt.status)])]
  else do
    let receipt ← recordDispatch env call operationId "RESULT_OBSERVED" result
    verifyAndFinish env call operationId payload (.obj result) (some receipt)

def advanceFromIntent (payload : JsonDict) : AutonomyProg JsonDict :=
  match payload.get "command" with
  | .arr (first :: others) => do
      let record ← operationRecord operationId
      tryExcept
        (dispatch env call operationId payload (first :: others) record.worktreePath)
        PyError.isValueError
        (fun error => do
          markUnknownOutcome operationId
          pure [("state", .str "UNKNOWN_OUTCOME"), ("operation_id", .str operationId),
            ("reason", .str error.message)])
        (afterDispatch env call operationId payload)
  | _ => do
      markUnknownOutcome operationId
      pure [("state", .str "UNKNOWN_OUTCOME"), ("operation_id", .str operationId),
        ("reason", .str "INVALID_COMMAND_PAYLOAD")]

/-- What `_resume` answers when it has nothing to do. -/
def resumed (state operationId : String) (reason : Option String) : JsonDict :=
  [("state", .str state), ("operation_id", .str operationId)] ++
    (reason.map fun reason => ("reason", JsonValue.str reason)).toList ++
    [("resumed", .bool true)]

/-- `json.loads(receipt["payload_json"])["payload"]`. -/
def storedDispatch (env : AutonomyEnv) (receipt : ReceiptRow) : AutonomyProg JsonValue :=
  .ofExcept (env.loads receipt.payload.payload)

def resume : AutonomyProg JsonDict := do
  let record ← operationRecord operationId
  let payload ← operationPayload env operationId
  match record.state with
  | .planning | .dispatchIntentRecorded => advanceFromIntent env call operationId payload
  | .dispatched =>
    match ← receiptFor operationId with
    | none =>
      markUnknownOutcome operationId
      pure (resumed "UNKNOWN_OUTCOME" operationId (some "DISPATCH_RESULT_UNOBSERVED"))
    | some receipt =>
      let dispatch ← storedDispatch env receipt
      verifyAndFinish env call operationId payload dispatch none
  | .unknownOutcome =>
    match ← receiptFor operationId with
    | none =>
      pure (resumed "UNKNOWN_OUTCOME" operationId (some "WAITING_FOR_RECONCILIATION_EVIDENCE"))
    | some receipt =>
      reconcileUnknownOutcome operationId true
      let dispatch ← storedDispatch env receipt
      verifyAndFinish env call operationId payload dispatch none
  | .resultObserved | .verificationStarted =>
    match ← receiptFor operationId with
    | none => verifyAndFinish env call operationId payload (.obj []) none
    | some receipt =>
      let dispatch ← storedDispatch env receipt
      verifyAndFinish env call operationId payload dispatch none
  | .verifiedResult | .integrationIntentRecorded =>
    integrateAndFinish env call operationId payload none none
  | .reconciled =>
    completeOperation operationId
    let next ← selectNextWork call.readyTaskIds
    pure [("state", .str "SUCCEEDED"), ("task_id", .str record.taskId),
      ("operation_id", .str operationId), ("resumed", .bool true),
      ("next_eligible_task_id", jsonText next)]
  | state => pure (resumed state.value operationId none)

def runOnce (env : AutonomyEnv) (call : RunOnce) : AutonomyProg JsonDict := do
  match ← activeOperation with
  | some operationId => resume env call operationId
  | none =>
    match ← selectNextWork call.readyTaskIds with
    | none => pure [("state", .str "IDLE"), ("reason", .str "NO_READY_WORK")]
    | some taskId =>
      match call.taskPayloads.lookup taskId with
      | none =>
        pure [("state", .str "BLOCKED_EXTERNAL"), ("reason", .str "MISSING_TASK_PAYLOAD"),
          ("task_id", .str taskId), ("unavailable_capability", .str "task_payload")]
      | some payload =>
        let idempotencyKey :=
          call.controlSnapshotId ++ ":" ++ call.sequenceId ++ ":" ++ taskId
        let operationId ← store (startOperation
          { taskId := taskId
            inputFingerprint := String.ofList (env.sha.hexdigest (env.compact
              [("idempotency_key", .str idempotencyKey), ("payload", .obj payload)]))
            workerId := call.workerId
            baseBranch := call.baseBranch
            worktreePath := call.worktreePath
            leaseFence := call.leaseFence
            idempotencyKey := idempotencyKey
            payloadJson := payload.dumps env.text })
        advanceFromIntent env call operationId payload

end Autonomy

end ProjectPipeline
