import ProjectPipeline.Digest
import ProjectPipeline.Runs
import ProjectPipeline.Table
import ProjectPipeline.Transactions

/-!
# The Supervisor of Operations

`PersistentSupervisor` (`autonomy_runtime/supervisor.py`): an operation of a worker is taken
through the states of `_TRANSITIONS`, from its planning to its completion, and a completed
operation is entered into the table of completed tasks. A method that is not allowed in the
state of its operation raises and changes nothing.

The table allows two ways to `RECONCILED`, and thereby to `COMPLETED`: the integration of a
verified result, and the reconciliation of an unknown outcome as one that was not applied.
A completed task has therefore been verified and integrated, or it was written off by
`reconcile_unknown_outcome(applied=False)` (`completed_accounted_for`); the second way is
taken by `written_off_operation_completes`.

The meta key `last_transition` is overwritten by every transition. The model keeps all of
its values, `transitions`, as the history that the results speak about. Time stamps that no
method reads are left out, and so is the list of ready tasks.
-/

namespace ProjectPipeline

/-! ### Records -/

inductive OperationState where
  | planning | dispatchIntentRecorded | dispatched | unknownOutcome | resultObserved
  | verificationStarted | verifiedResult | integrationIntentRecorded | integrated | reconciled
  | failed | blockedExternal | completed
  deriving DecidableEq, Repr

namespace OperationState

/-- The text in the column. -/
def value : OperationState → String
  | planning => "PLANNING"
  | dispatchIntentRecorded => "DISPATCH_INTENT_RECORDED"
  | dispatched => "DISPATCHED"
  | unknownOutcome => "UNKNOWN_OUTCOME"
  | resultObserved => "RESULT_OBSERVED"
  | verificationStarted => "VERIFICATION_STARTED"
  | verifiedResult => "VERIFIED_RESULT"
  | integrationIntentRecorded => "INTEGRATION_INTENT_RECORDED"
  | integrated => "INTEGRATED"
  | reconciled => "RECONCILED"
  | failed => "FAILED"
  | blockedExternal => "BLOCKED_EXTERNAL"
  | completed => "COMPLETED"

def transitions : OperationState → List OperationState
  | planning => [dispatchIntentRecorded]
  | dispatchIntentRecorded => [dispatched, unknownOutcome]
  | dispatched => [resultObserved, unknownOutcome]
  | unknownOutcome => [resultObserved, reconciled, failed]
  | resultObserved => [verificationStarted]
  | verificationStarted => [verifiedResult, failed]
  | verifiedResult => [integrationIntentRecorded]
  | integrationIntentRecorded => [integrated, unknownOutcome]
  | integrated => [reconciled]
  | reconciled => [completed, blockedExternal]
  | failed => [blockedExternal]
  | blockedExternal => []
  | completed => []

/-- The table allows the transition. -/
def Allowed (a b : OperationState) : Prop := b ∈ a.transitions

instance (a b : OperationState) : Decidable (Allowed a b) :=
  inferInstanceAs (Decidable (b ∈ a.transitions))

end OperationState

/-- A row of `autonomy_runtime_operations`. -/
structure SupervisorOperation where
  operationId : String
  taskId : String
  state : OperationState
  inputFingerprint : String
  workerId : String
  baseBranch : String
  worktreePath : String
  leaseFence : String
  attempt : ℕ
  resultFingerprint : Option String := none
  verificationFingerprint : Option String := none
  integratedRef : Option String := none
  incident : Option String := none
  idempotencyKey : String
  payloadJson : String

/-- The result of a worker, as it is digested and stored. `payload` is the dump of the
payload with sorted keys. -/
structure ReceiptPayload where
  operationId : String
  workerId : String
  outputFingerprint : String
  status : String
  payload : String := "\x7b\x7d"

/-- The digested text. -/
def ReceiptPayload.encoded (receipt : ReceiptPayload) : String :=
  "\x7b\"operation_id\":" ++ jsonString receipt.operationId ++
    ",\"output_fingerprint\":" ++ jsonString receipt.outputFingerprint ++
    ",\"payload\":" ++ receipt.payload ++
    ",\"status\":" ++ jsonString receipt.status ++
    ",\"worker_id\":" ++ jsonString receipt.workerId ++ "\x7d"

def ReceiptPayload.digest (sha : Sha256) (receipt : ReceiptPayload) : String :=
  String.ofList (sha.hexdigest receipt.encoded)

/-- A row of `autonomy_runtime_receipts`. -/
structure ReceiptRow where
  operationId : String
  receiptSha256 : String
  payload : ReceiptPayload
  observedAtUtc : Instant

/-- What `record_result` returns. -/
structure DispatchReceipt where
  operationId : String
  taskId : String
  workerId : String
  inputFingerprint : String
  outputFingerprint : String
  status : String
  observedAtUtc : Instant

/-- A row of `autonomy_runtime_completed_tasks`. -/
structure CompletedTask where
  taskId : String
  operationId : String
  verifiedSha : Option String

/-- A value of the meta key `last_transition`. -/
structure Transition where
  operationId : String
  fromState : OperationState
  toState : OperationState
  deriving DecidableEq, Repr

/-- The tables of the supervisor, with the meta keys as fields. -/
structure SupervisorDb where
  operations : Table String SupervisorOperation SupervisorOperation.operationId := .empty
  receipts : Table String ReceiptRow ReceiptRow.operationId := .empty
  completedTasks : Table String CompletedTask CompletedTask.taskId := .empty
  operationSequence : ℕ := 0
  activeOperationId : Option String := none
  pendingUnknownOutcome : Option String := none
  transitions : List Transition := []

/-- Arguments of `start_operation`. -/
structure StartOperation where
  taskId : String
  inputFingerprint : String
  workerId : String
  baseBranch : String
  worktreePath : String
  leaseFence : String
  idempotencyKey : String
  payloadJson : String

namespace Supervisor

open Txn

/-! ### Statements -/

def operation (operationId : String) : Txn SupervisorDb SupervisorOperation := do
  let db ← get
  match db.operations.find? operationId with
  | none => raise (.keyError ("unknown operation: " ++ operationId))
  | some row => pure row

variable (operationId : String)

/-- `UPDATE autonomy_runtime_operations SET … WHERE operation_id = ?`. -/
def updateOperation (set : SupervisorOperation → SupervisorOperation)
    (hset : ∀ row, (set row).operationId = row.operationId) : Txn SupervisorDb Unit :=
  modify fun db => { db with
    operations := db.operations.updateWhere (fun row => row.operationId == operationId) set hset }

def transitionConn (nextState : OperationState) :
    Txn SupervisorDb Unit := do
  let row ← operation operationId
  refuseIf (¬ row.state.Allowed nextState)
    (.valueError ("invalid transition " ++ row.state.value ++ " -> " ++ nextState.value))
  updateOperation operationId (fun row => { row with state := nextState }) (fun _ => rfl)
  modify fun db => { db with
    transitions := db.transitions ++ [⟨operationId, row.state, nextState⟩] }

def insertOperation (row : SupervisorOperation) : Txn SupervisorDb Unit := do
  let db ← get
  match db.operations.insert row with
  | none =>
    raise (.integrityError "UNIQUE constraint failed: autonomy_runtime_operations.operation_id")
  | some operations => set { db with operations := operations }

def insertReceipt (row : ReceiptRow) : Txn SupervisorDb Unit := do
  let db ← get
  match db.receipts.insert row with
  | none =>
    raise (.integrityError "UNIQUE constraint failed: autonomy_runtime_receipts.operation_id")
  | some receipts => set { db with receipts := receipts }

/-- Clear `active_operation_id` if it is the operation. -/
def clearActive : Txn SupervisorDb Unit :=
  modify fun db => { db with
    activeOperationId :=
      if db.activeOperationId = some operationId then none else db.activeOperationId }

/-! ### Methods -/

def transition (nextState : OperationState) : Session SupervisorDb Unit :=
  .transaction (transitionConn operationId nextState)

/-- The block of `start_operation` for a key that is not in use. -/
def createOperation (args : StartOperation) : Txn SupervisorDb String := do
  let db ← get
  let sequence := db.operationSequence + 1
  let operationId := "SUP-OP-" ++ zeroPadded 6 sequence
  insertOperation
    { operationId := operationId
      taskId := args.taskId
      state := .planning
      inputFingerprint := args.inputFingerprint
      workerId := args.workerId
      baseBranch := args.baseBranch
      worktreePath := args.worktreePath
      leaseFence := args.leaseFence
      attempt := 1
      idempotencyKey := args.idempotencyKey
      payloadJson := args.payloadJson }
  modify fun db => { db with
    operationSequence := sequence
    activeOperationId := some operationId }
  transitionConn operationId .dispatchIntentRecorded
  pure operationId

def startOperation (args : StartOperation) : Session SupervisorDb String := .transaction do
  let db ← get
  match db.operations.rows.find? fun row => row.idempotencyKey == args.idempotencyKey with
  | some existing =>
    refuseIf (existing.inputFingerprint ≠ args.inputFingerprint ∨
        existing.payloadJson ≠ args.payloadJson ∨ existing.taskId ≠ args.taskId)
      (.valueError "idempotency key conflict: inputs do not match existing operation")
    pure existing.operationId
  | none => createOperation args

def markDispatched (operationId : String) : Session SupervisorDb Unit :=
  transition operationId .dispatched

variable (sha : Sha256) (receipt : ReceiptPayload) (now : Instant)

/-- The block of `record_result` for an operation without a receipt. -/
def storeResult (row : SupervisorOperation) : Txn SupervisorDb DispatchReceipt := do
  onlyIf (row.state ≠ .resultObserved) (transitionConn receipt.operationId .resultObserved)
  updateOperation receipt.operationId
    (fun row => { row with
      workerId := receipt.workerId
      resultFingerprint := some receipt.outputFingerprint })
    (fun _ => rfl)
  insertReceipt ⟨receipt.operationId, receipt.digest sha, receipt, now⟩
  pure
    { operationId := receipt.operationId
      taskId := row.taskId
      workerId := receipt.workerId
      inputFingerprint := row.inputFingerprint
      outputFingerprint := receipt.outputFingerprint
      status := receipt.status
      observedAtUtc := now }

/-- `record_result`: a receipt that is stored already must have the same digest. -/
def recordResult :
    Session SupervisorDb DispatchReceipt := .transaction do
  let row ← operation receipt.operationId
  let db ← get
  match db.receipts.find? receipt.operationId with
  | some previous =>
    refuseIf (previous.receiptSha256 ≠ receipt.digest sha)
      (.valueError "duplicate operation receipt conflict")
    pure
      { operationId := receipt.operationId
        taskId := row.taskId
        workerId := previous.payload.workerId
        inputFingerprint := row.inputFingerprint
        outputFingerprint := previous.payload.outputFingerprint
        status := previous.payload.status
        observedAtUtc := previous.observedAtUtc }
  | none => storeResult sha receipt now row

section

variable (operationId : String)

def markUnknownOutcome : Session SupervisorDb Unit := do
  transition operationId .unknownOutcome
  .transaction do
    updateOperation operationId (fun row => { row with incident := some "UNKNOWN_OUTCOME" })
      (fun _ => rfl)
    modify fun db => { db with pendingUnknownOutcome := some operationId }

def reconcileUnknownOutcome (applied : Bool) :
    Session SupervisorDb Unit := do
  let current ← .transaction (operation operationId)
  .onlyIf (current.state = .unknownOutcome)
    (transition operationId (if applied then .resultObserved else .reconciled))
  .transaction do
    updateOperation operationId
      (fun row => { row with incident := some "UNKNOWN_OUTCOME_RECONCILED" }) (fun _ => rfl)
    modify fun db => { db with
      pendingUnknownOutcome :=
        if db.pendingUnknownOutcome = some operationId then none else db.pendingUnknownOutcome }

/-- `if state == "RESULT_OBSERVED": transition to VERIFICATION_STARTED`. -/
def startVerification : Txn SupervisorDb Unit := do
  let row ← operation operationId
  onlyIf (row.state = .resultObserved) (transitionConn operationId .verificationStarted)

def markVerified (operationId verificationFingerprint : String) : Session SupervisorDb Unit :=
  .transaction do
    startVerification operationId
    updateOperation operationId
      (fun row => { row with verificationFingerprint := some verificationFingerprint })
      (fun _ => rfl)
    transitionConn operationId .verifiedResult

def markVerificationFailed (operationId verificationFingerprint reason : String) :
    Session SupervisorDb Unit := .transaction do
  startVerification operationId
  updateOperation operationId
    (fun row => { row with
      verificationFingerprint := some verificationFingerprint
      incident := some ("FAILED_VERIFICATION:" ++ reason) })
    (fun _ => rfl)
  transitionConn operationId .failed
  clearActive operationId

def markIntegrationIntent : Session SupervisorDb Unit :=
  transition operationId .integrationIntentRecorded

end

def markIntegrated (operationId integratedRef : String) : Session SupervisorDb Unit :=
  .transaction do
    let row ← operation operationId
    onlyIf (row.state = .verifiedResult) (transitionConn operationId .integrationIntentRecorded)
    updateOperation operationId (fun row => { row with integratedRef := some integratedRef })
      (fun _ => rfl)
    transitionConn operationId .integrated
    transitionConn operationId .reconciled

/-- The `INSERT … ON CONFLICT(task_id) DO UPDATE` of a completed task. -/
def saveCompleted (task : CompletedTask) : Txn SupervisorDb Unit :=
  modify fun db => { db with
    completedTasks := db.completedTasks.upsert task
      (fun row => { row with operationId := task.operationId, verifiedSha := task.verifiedSha })
      (fun _ => rfl) }

def completeOperation (operationId : String) : Session SupervisorDb Unit := do
  let row ← .transaction (operation operationId)
  if row.state = .unknownOutcome then
    .raise (.valueError "cannot complete operation with unknown outcome")
  else .transaction do
    let current ← operation operationId
    onlyIf (current.state ≠ .completed) (transitionConn operationId .completed)
    saveCompleted ⟨row.taskId, operationId, row.integratedRef⟩
    clearActive operationId

end Supervisor

/-! ### Calls -/

inductive SupervisorCall where
  | startOperation (args : StartOperation)
  | markDispatched (operationId : String)
  | recordResult (receipt : ReceiptPayload) (now : Instant)
  | markUnknownOutcome (operationId : String)
  | reconcileUnknownOutcome (operationId : String) (applied : Bool)
  | markVerified (operationId verificationFingerprint : String)
  | markVerificationFailed (operationId verificationFingerprint reason : String)
  | markIntegrationIntent (operationId : String)
  | markIntegrated (operationId integratedRef : String)
  | completeOperation (operationId : String)

/-- The tables after a call, whether it returns or raises. -/
def SupervisorCall.step (sha : Sha256) (db : SupervisorDb) : SupervisorCall → SupervisorDb
  | startOperation args => (Supervisor.startOperation args db).2
  | markDispatched operationId => (Supervisor.markDispatched operationId db).2
  | recordResult receipt now => (Supervisor.recordResult sha receipt now db).2
  | markUnknownOutcome operationId => (Supervisor.markUnknownOutcome operationId db).2
  | reconcileUnknownOutcome operationId applied =>
    (Supervisor.reconcileUnknownOutcome operationId applied db).2
  | markVerified operationId fingerprint => (Supervisor.markVerified operationId fingerprint db).2
  | markVerificationFailed operationId fingerprint reason =>
    (Supervisor.markVerificationFailed operationId fingerprint reason db).2
  | markIntegrationIntent operationId => (Supervisor.markIntegrationIntent operationId db).2
  | markIntegrated operationId ref => (Supervisor.markIntegrated operationId ref db).2
  | completeOperation operationId => (Supervisor.completeOperation operationId db).2

end ProjectPipeline
