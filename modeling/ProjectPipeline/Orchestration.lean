import ProjectPipeline.Identifiers
import ProjectPipeline.Json
import ProjectPipeline.Programs
import ProjectPipeline.Table

/-!
# The Orchestration Store

`OrchestrationStore` (`orchestration/persistence.py`) and the records it keeps
(`domain/orchestration.py`). A workflow is a row with a version; `update_workflow` replaces it
only if the version is still the one that the caller has seen. Waits, the inbox, the outbox,
checkpoints, workers and events have tables of their own.

Every call of the store is one transaction, and one instruction (`StoreCall`) of the
programs that use it. The columns of a row that repeat a part of its payload are left out,
and a payload is its record: reading validates it again. This can fail for workflows and
operations, which are updated with `model_copy` and may end up with an update time before
their creation; the other records carry their validity.

A JSON object is the list of its keys with the canonical dumps of their values.

## Main results

* `StoreCall.versioned`: no call changes a workflow without raising its version.
-/

namespace ProjectPipeline

open Regex

/-! ### Outside of the program -/

def canonicalPayloadSha256 (sha : Sha256) (object : JsonObject) : String :=
  String.ofList (sha.hexdigest (canonicalJson object))

theorem three_attempts_valid : 1 ≤ 3 ∧ 3 ≤ 100 := by decide

structure RetryPolicy where
  maxAttempts : ℕ := 3
  initialBackoffSeconds : ℚ := 1
  multiplier : ℚ := 2
  maxBackoffSeconds : ℚ := 60
  maxAttempts_valid : 1 ≤ maxAttempts ∧ maxAttempts ≤ 100 := by exact three_attempts_valid
  initial_valid : 0 ≤ initialBackoffSeconds ∧ initialBackoffSeconds ≤ 86400 := by decide +kernel
  multiplier_valid : 1 ≤ multiplier ∧ multiplier ≤ 100 := by decide +kernel
  max_valid : 0 ≤ maxBackoffSeconds ∧ maxBackoffSeconds ≤ 604800 := by decide +kernel
  backoff_valid : initialBackoffSeconds ≤ maxBackoffSeconds := by decide +kernel

/-- What the records need of the library: the digest, the texts of times, and the
microseconds of `timedelta(seconds=policy.backoff_seconds(failed_attempt))`, a computation in
floating point. -/
structure OrchestrationEnv where
  sha : Sha256
  isoformat : Instant → String
  jsonTime : Instant → String
  backoffMicros : RetryPolicy → ℕ → ℤ

/-! ### Records -/

inductive DurableBackendKind where
  | localReference | hatchet | dbos | temporal | mock
  deriving DecidableEq, Repr

def DurableBackendKind.value : DurableBackendKind → String
  | localReference => "LOCAL_REFERENCE"
  | hatchet => "HATCHET"
  | dbos => "DBOS"
  | temporal => "TEMPORAL"
  | mock => "MOCK"

inductive WorkflowState where
  | pending | running | waiting | retryScheduled | suspended | recoveryRequired
  | cancelRequested | cancelled | succeeded | failed
  deriving DecidableEq, Repr

namespace WorkflowState

def value : WorkflowState → String
  | pending => "PENDING"
  | running => "RUNNING"
  | waiting => "WAITING"
  | retryScheduled => "RETRY_SCHEDULED"
  | suspended => "SUSPENDED"
  | recoveryRequired => "RECOVERY_REQUIRED"
  | cancelRequested => "CANCEL_REQUESTED"
  | cancelled => "CANCELLED"
  | succeeded => "SUCCEEDED"
  | failed => "FAILED"

/-- The states in which a workflow has come to its end. -/
def terminal : WorkflowState → Bool
  | cancelled | succeeded | failed => true
  | _ => false

end WorkflowState

/-- The two kinds of waits. -/
inductive WaitKind where
  | signal | untilTime
  deriving DecidableEq, Repr

def WaitKind.value : WaitKind → String
  | signal => "SIGNAL"
  | untilTime => "UNTIL"

inductive DurableOperationState where
  | pending | sent | acknowledged | unknownOutcome | reconciled | failed
  deriving DecidableEq, Repr

/-- The states in which an operation is not sent again. -/
def DurableOperationState.answered : DurableOperationState → Bool
  | acknowledged | reconciled | unknownOutcome => true
  | _ => false

inductive RecoveryAction where
  | noAction | retryStep | resumeWait | markRecoveryRequired | reconcileOperation
  | releaseStaleResources | cancel
  deriving DecidableEq, Repr

def RecoveryAction.value : RecoveryAction → String
  | noAction => "NO_ACTION"
  | retryStep => "RETRY_STEP"
  | resumeWait => "RESUME_WAIT"
  | markRecoveryRequired => "MARK_RECOVERY_REQUIRED"
  | reconcileOperation => "RECONCILE_OPERATION"
  | releaseStaleResources => "RELEASE_STALE_RESOURCES"
  | cancel => "CANCEL"

structure WorkflowStepDefinition where
  stepId : String
  retryPolicy : RetryPolicy := {}
  recoverable : Bool := true
  requiresCheckpoint : Bool := false

structure WorkflowDefinition (sha : Sha256) where
  definitionId : String
  workflowName : String
  version : String
  steps : List WorkflowStepDefinition
  definitionId_valid :
    orchestrationIdentifier sha .workflowDefinition [workflowName, version] = .ok definitionId
  steps_ne_nil : steps ≠ []
  steps_nodup : (steps.map WorkflowStepDefinition.stepId).Nodup

structure WorkflowStartRequest where
  definitionId : String
  idempotencyKey : String
  inputPayload : JsonObject := []
  backend : DurableBackendKind := .localReference
  idempotencyKey_valid : 1 ≤ idempotencyKey.length ∧ idempotencyKey.length ≤ 300

structure WorkflowInstance where
  workflowId : String
  definitionId : String
  idempotencyKey : String
  state : WorkflowState
  version : ℕ
  backend : DurableBackendKind
  backendRunId : Option String := none
  inputPayload : JsonObject
  currentStepIndex : ℕ := 0
  currentAttempt : ℕ := 0
  assignedWorkerId : Option String := none
  waitId : Option String := none
  lastCheckpointId : Option String := none
  retryAvailableAtUtc : Option Instant := none
  cancelRequested : Bool := false
  recoveryCount : ℕ := 0
  failureCode : Option String := none
  failureMessage : Option String := none
  createdAtUtc : Instant
  updatedAtUtc : Instant
  deriving DecidableEq

variable {sha : Sha256} {workflow : WorkflowInstance} {workflowId : String}

namespace WorkflowInstance

/-- `validate_instance`, behind the field check of the version. -/
def errors (sha : Sha256) (workflow : WorkflowInstance) : List (String × String) :=
  if workflow.version < 1 then
    [("version", "Input should be greater than or equal to 1")]
  else
    match orchestrationIdentifier sha .workflow
        [workflow.definitionId, workflow.idempotencyKey] with
    | .error _ =>
      [("", "Value error, orchestration identifier requires at least one non-empty part")]
    | .ok expected =>
      if workflow.workflowId ≠ expected then
        [("", "Value error, workflow_id does not match definition/idempotency key")]
      else if workflow.updatedAtUtc < workflow.createdAtUtc then
        [("", "Value error, updated_at_utc cannot precede created_at_utc")]
      else if workflow.state = .waiting ∧ truthy workflow.waitId = false then
        [("", "Value error, WAITING workflows require wait_id")]
      else if workflow.state = .retryScheduled ∧ workflow.retryAvailableAtUtc = none then
        [("", "Value error, RETRY_SCHEDULED workflows require retry_available_at_utc")]
      else []

/-- The construction of a workflow, and the reading of a stored one. -/
def validate (sha : Sha256) (workflow : WorkflowInstance) : Except PyError WorkflowInstance :=
  if (workflow.errors sha).isEmpty then .ok workflow
  else .error (.validationError "WorkflowInstance" (workflow.errors sha))

variable {read : WorkflowInstance}

/-- A record that is read is the stored one. -/
theorem validate_eq_ok (h : workflow.validate sha = .ok read) : read = workflow := by
  rw [validate] at h
  split at h
  · exact (Except.ok.inj h).symm
  · cases h

/-- What `validate_instance` requires. -/
structure Valid (sha : Sha256) (workflow : WorkflowInstance) : Prop where
  version : 1 ≤ workflow.version
  workflowId : orchestrationIdentifier sha .workflow
    [workflow.definitionId, workflow.idempotencyKey] = .ok workflow.workflowId
  times : workflow.createdAtUtc ≤ workflow.updatedAtUtc
  wait : workflow.state = .waiting → truthy workflow.waitId = true
  retry : workflow.state = .retryScheduled → workflow.retryAvailableAtUtc ≠ none

theorem validate_eq_ok_iff : workflow.validate sha = .ok workflow ↔ workflow.Valid sha := by
  have herrs : workflow.validate sha = .ok workflow ↔ workflow.errors sha = [] := by
    rw [validate]
    split
    · simp_all
    · simp_all
  rw [herrs, errors]
  constructor
  · intro h
    cases hid : orchestrationIdentifier sha .workflow
        [workflow.definitionId, workflow.idempotencyKey] with
    | error error =>
      simp only [hid] at h
      split at h <;> cases h
    | ok expected =>
      simp only [hid] at h
      split_ifs at h with hver hoth htimes hwait hretry
      refine ⟨not_lt.mp hver, ?_, not_lt.mp htimes, ?_, ?_⟩
      · rw [hid, not_not.mp hoth]
      · intro hwaiting
        rw [← Bool.not_eq_false]
        exact fun hnone => hwait ⟨hwaiting, hnone⟩
      · exact fun hsched hnone => hretry ⟨hsched, hnone⟩
  · rintro ⟨hver, hid, htimes, hwait, hretry⟩
    rw [if_neg (not_lt.mpr hver), hid]
    dsimp only
    rw [if_neg (not_not.mpr rfl), if_neg (not_lt.mpr htimes), if_neg, if_neg]
    · exact fun hnone => hretry hnone.1 hnone.2
    · rintro ⟨hwaiting, hnone⟩
      rw [hwait hwaiting] at hnone
      cases hnone

/-- A valid workflow that waits knows its wait. -/
theorem truthy_waitId (h : workflow.validate sha = .ok read) (hwaiting : workflow.state = .waiting) :
    truthy workflow.waitId = true := by
  obtain rfl := validate_eq_ok h
  exact (validate_eq_ok_iff.mp h).wait hwaiting

theorem map_validate_eq_ok (h : (workflow.validate sha).map some = .ok (some read)) :
    read = workflow := by
  cases hval : workflow.validate sha with
  | error =>
    rw [hval] at h
    cases h
  | ok =>
    rw [hval] at h
    cases h
    exact validate_eq_ok hval

end WorkflowInstance

structure WorkflowEvent (sha : Sha256) where
  eventId : String
  workflowId : String
  sequence : ℕ
  eventType : String
  occurredAtUtc : Instant
  payload : JsonObject := []
  correlationId : Option String := none
  eventId_valid :
    orchestrationIdentifier sha .event [workflowId, toString sequence, eventType] = .ok eventId
  sequence_valid : 1 ≤ sequence
  deriving DecidableEq

/-- A wait of a workflow, for a signal or for a time. -/
structure DurableWait (env : OrchestrationEnv) where
  waitId : String
  workflowId : String
  kind : WaitKind
  signalName : Option String := none
  releaseAtUtc : Option Instant := none
  createdAtUtc : Instant
  satisfiedAtUtc : Option Instant := none
  payload : JsonObject := []
  signalName_valid : kind = .signal → truthy signalName = true
  release_valid : kind = .untilTime → releaseAtUtc ≠ none
  waitId_valid : orchestrationIdentifier env.sha .wait
    [workflowId, kind.value, signalName.getD "", (releaseAtUtc.map env.isoformat).getD ""] =
      .ok waitId

/-- The identifier of a wait is not empty. -/
theorem DurableWait.truthy_waitId {env : OrchestrationEnv} (wait : DurableWait env) :
    truthy (some wait.waitId) = true := by
  have hval := wait.waitId_valid
  rw [orchestrationIdentifier] at hval
  split at hval
  · cases hval
  · rw [truthy, ← Except.ok.inj hval, bne_iff_ne]
    intro hemp
    have hchars := congrArg String.toList hemp
    simp at hchars

structure WorkflowCheckpoint (sha : Sha256) where
  checkpointId : String
  workflowId : String
  stepId : String
  attempt : ℕ
  payload : JsonObject
  payloadSha256 : String
  createdAtUtc : Instant
  attempt_valid : 1 ≤ attempt
  payload_valid : payloadSha256 = canonicalPayloadSha256 sha payload
  checkpointId_valid : orchestrationIdentifier sha .checkpoint
    [workflowId, stepId, toString attempt, payloadSha256] = .ok checkpointId
  deriving DecidableEq

/-- The last sign of life of a worker. -/
structure WorkerHeartbeat where
  workerId : String
  fencingEpoch : ℕ
  observedAtUtc : Instant
  expiresAtUtc : Instant
  workerId_valid : 1 ≤ workerId.length ∧ workerId.length ≤ 200
  epoch_valid : 1 ≤ fencingEpoch
  expiry_valid : observedAtUtc < expiresAtUtc

structure DurableOperation where
  operationId : String
  workflowId : String
  operationType : String
  idempotencyKey : String
  state : DurableOperationState
  payload : JsonObject
  payloadSha256 : String
  backend : DurableBackendKind
  backendOperationId : Option String := none
  attemptCount : ℕ := 0
  lastError : Option String := none
  createdAtUtc : Instant
  updatedAtUtc : Instant

section

variable (sha : Sha256) (operation : DurableOperation)

/-- `validate_operation`. -/
def DurableOperation.errors :
    List (String × String) :=
  if operation.payloadSha256 ≠ canonicalPayloadSha256 sha operation.payload then
    [("", "Value error, operation payload hash mismatch")]
  else if orchestrationIdentifier sha .operation
      [operation.workflowId, operation.operationType, operation.idempotencyKey] ≠
        .ok operation.operationId then
    [("", "Value error, operation_id does not match workflow/type/idempotency key")]
  else if operation.updatedAtUtc < operation.createdAtUtc then
    [("", "Value error, operation update time cannot precede creation")]
  else []

/-- The construction of an operation, and the reading of a stored one. -/
def DurableOperation.validate :
    Except PyError DurableOperation :=
  if (operation.errors sha).isEmpty then .ok operation
  else .error (.validationError "DurableOperation" (operation.errors sha))

end

theorem DurableOperation.validate_eq_ok {operation read : DurableOperation}
    (h : operation.validate sha = .ok read) : read = operation := by
  rw [validate] at h
  split at h
  · exact (Except.ok.inj h).symm
  · cases h

/-- The decision on a workflow whose worker is lost. -/
structure RecoveryDecision where
  recoveryId : String
  workflowId : String
  action : RecoveryAction
  reasonCodes : List String
  createdAtUtc : Instant
  workerId : String
  safeToAutomate : Bool

/-- The pattern `^[A-Za-z0-9][A-Za-z0-9._:-]*$` of step and signal names. -/
def namePattern : RegularExpression Char :=
  oneOf (upperAlphabet ++ lowerAlphabet ++ digitAlphabet) *
    (oneOf (upperAlphabet ++ lowerAlphabet ++ digitAlphabet ++ ['.', '_', ':', '-'])).star

structure WorkflowSignal (sha : Sha256) where
  signalId : String
  workflowId : String
  signalName : String
  idempotencyKey : String
  payload : JsonObject := []
  observedAtUtc : Instant
  signalName_valid : signalName.length ≤ 160 ∧ fullmatch namePattern signalName = true
  idempotencyKey_valid : 1 ≤ idempotencyKey.length ∧ idempotencyKey.length ≤ 300
  signalId_valid : orchestrationIdentifier sha .signal [workflowId, signalName, idempotencyKey] =
    .ok signalId

structure InboxRow where
  messageId : String
  workflowId : String
  messageType : String
  payloadSha256 : String
  payload : JsonObject
  receivedAtUtc : Instant

/-- A row of the waits: the columns that `due_waits` reads, and the payload. -/
structure WaitRow (env : OrchestrationEnv) where
  waitId : String
  releaseAtUtc : Option Instant
  satisfiedAtUtc : Option Instant
  payload : DurableWait env

structure OrchestrationStore (env : OrchestrationEnv) where
  definitions : Table String (WorkflowDefinition env.sha) WorkflowDefinition.definitionId := .empty
  workflows : Table String WorkflowInstance WorkflowInstance.workflowId := .empty
  events : Table String (WorkflowEvent env.sha) WorkflowEvent.eventId := .empty
  checkpoints : Table String (WorkflowCheckpoint env.sha) WorkflowCheckpoint.checkpointId := .empty
  waits : Table String (WaitRow env) WaitRow.waitId := .empty
  workers : Table String WorkerHeartbeat WorkerHeartbeat.workerId := .empty
  inbox : Table String InboxRow InboxRow.messageId := .empty
  outbox : Table String DurableOperation DurableOperation.operationId := .empty
  recoveryDecisions : Table String RecoveryDecision RecoveryDecision.recoveryId := .empty

namespace OrchestrationStore

variable {env : OrchestrationEnv}

/-- `OrchestrationConflictError`. -/
def conflict (message : String) : PyError := .raised "OrchestrationConflictError" message

def foreignKeyError : PyError := .integrityError "FOREIGN KEY constraint failed"

/-! ### Reading -/

section

variable (s : OrchestrationStore env)

def getWorkflow (workflowId : String) :
    Except PyError (Option WorkflowInstance) :=
  match s.workflows.find? workflowId with
  | none => .ok none
  | some row => (row.validate env.sha).map some

/-- What is read is valid. -/
theorem validate_of_getWorkflow_eq_ok {s : OrchestrationStore env}
    (h : s.getWorkflow workflowId = .ok (some workflow)) :
    workflow.validate env.sha = .ok workflow := by
  rw [getWorkflow] at h
  split at h
  · cases h
  · obtain rfl := WorkflowInstance.map_validate_eq_ok h
    cases hval : workflow.validate env.sha with
    | error =>
      rw [hval] at h
      cases h
    | ok => rw [WorkflowInstance.validate_eq_ok hval]

/-- What is read is what is stored. -/
theorem getWorkflow_eq_ok {s : OrchestrationStore env}
    (h : s.getWorkflow workflowId = .ok (some workflow)) :
    s.workflows.find? workflowId = some workflow := by
  rw [getWorkflow] at h
  split at h
  · cases h
  · rename_i row hfind
    rw [hfind, WorkflowInstance.map_validate_eq_ok h]

def findWorkflowByIdempotency (definitionId idempotencyKey : String) :
    Except PyError (Option WorkflowInstance) :=
  match s.workflows.rows.find? fun row =>
      row.definitionId == definitionId && row.idempotencyKey == idempotencyKey with
  | none => .ok none
  | some row => (row.validate env.sha).map some

section

variable {s : OrchestrationStore env} {definitionId idempotencyKey : String}

theorem findWorkflowByIdempotency_eq_ok
    (h : s.findWorkflowByIdempotency definitionId idempotencyKey = .ok (some workflow)) :
    workflow ∈ s.workflows.rows := by
  rw [findWorkflowByIdempotency] at h
  split at h
  · cases h
  · rename_i row hfind
    rw [WorkflowInstance.map_validate_eq_ok h]
    exact List.mem_of_find?_eq_some hfind

/-- A workflow that is found has the identifier of its definition and its key. -/
theorem identifier_of_findWorkflowByIdempotency
    (h : s.findWorkflowByIdempotency definitionId idempotencyKey = .ok (some workflow)) :
    orchestrationIdentifier env.sha .workflow [definitionId, idempotencyKey] =
      .ok workflow.workflowId := by
  rw [findWorkflowByIdempotency] at h
  split at h
  · cases h
  · rename_i row hfind
    obtain rfl := WorkflowInstance.map_validate_eq_ok h
    have hkey := List.find?_some hfind
    rw [Bool.and_eq_true, beq_iff_eq, beq_iff_eq] at hkey
    rw [← hkey.1, ← hkey.2]
    cases hval : workflow.validate env.sha with
    | error =>
      rw [hval] at h
      cases h
    | ok =>
      obtain rfl := WorkflowInstance.validate_eq_ok hval
      exact (WorkflowInstance.validate_eq_ok_iff.mp hval).workflowId

end

def nextEventSequence (workflowId : String) : ℕ :=
  ((s.events.rows.filter fun event => event.workflowId == workflowId).map
    WorkflowEvent.sequence).foldl max 0 + 1

def latestCheckpoint (workflowId : String) :
    Option (WorkflowCheckpoint env.sha) :=
  ((s.checkpoints.rows.filter fun checkpoint => checkpoint.workflowId == workflowId).insertionSort
    fun a b => b.createdAtUtc < a.createdAtUtc ∨
      (b.createdAtUtc = a.createdAtUtc ∧ textLe b.checkpointId a.checkpointId = true)).head?

def getWait (waitId : String) : Option (DurableWait env) :=
  (s.waits.find? waitId).map WaitRow.payload

def dueBefore (a b : WaitRow env) : Prop :=
  match a.releaseAtUtc, b.releaseAtUtc with
  | some x, some y => x < y ∨ (x = y ∧ textLe a.waitId b.waitId = true)
  | none, _ => True
  | some _, none => False

instance (a b : WaitRow env) : Decidable (dueBefore a b) := by
  rw [dueBefore]
  split <;> infer_instance

def dueWaits (now : Instant) : List (DurableWait env) :=
  ((s.waits.rows.filter fun row =>
    row.satisfiedAtUtc.isNone && row.releaseAtUtc.any (· ≤ now)).insertionSort dueBefore).map
    WaitRow.payload

def staleWorkers (now : Instant) : List WorkerHeartbeat :=
  (s.workers.rows.filter fun worker => decide (worker.expiresAtUtc ≤ now)).insertionSort
    fun a b => a.expiresAtUtc < b.expiresAtUtc ∨
      (a.expiresAtUtc = b.expiresAtUtc ∧ textLe a.workerId b.workerId = true)

def workflowsForWorker (workerId : String) :
    Except PyError (List WorkflowInstance) :=
  ((s.workflows.rows.filter fun row =>
    row.assignedWorkerId == some workerId && [WorkflowState.running, .waiting, .retryScheduled,
      .cancelRequested].contains row.state).insertionSort
    fun a b => textLe a.workflowId b.workflowId).mapM fun row => row.validate env.sha

def getOperation (operationId : String) :
    Except PyError (Option DurableOperation) :=
  match s.outbox.find? operationId with
  | none => .ok none
  | some row => (row.validate env.sha).map some

/-! ### Writing -/

def createWorkflow (workflow : WorkflowInstance) :
    Except PyError WorkflowInstance × OrchestrationStore env :=
  let known := (s.definitions.find? workflow.definitionId).isSome
  let taken := s.workflows.rows.any fun row =>
    row.definitionId == workflow.definitionId && row.idempotencyKey == workflow.idempotencyKey
  match if known && !taken then s.workflows.insert workflow else none with
  | some workflows => (.ok workflow, { s with workflows := workflows })
  | none =>
    match s.getWorkflow workflow.workflowId with
    | .error error => (.error error, s)
    | .ok existing =>
      if existing = some workflow then (.ok workflow, s)
      else (.error (conflict "workflow identity or idempotency collision"), s)

def updateWorkflow (workflow : WorkflowInstance)
    (expectedVersion : ℕ) : Except PyError WorkflowInstance × OrchestrationStore env :=
  if workflow.version ≠ expectedVersion + 1 then
    (.error (.valueError "updated workflow version must increment by exactly one"), s)
  else if (s.workflows.find? workflow.workflowId).any fun row =>
      row.version == expectedVersion then
    (.ok workflow, { s with workflows := s.workflows.replace workflow })
  else (.error (conflict "workflow optimistic concurrency conflict"), s)

def appendEvent (event : WorkflowEvent env.sha) :
    Except PyError (WorkflowEvent env.sha) × OrchestrationStore env :=
  let known := (s.workflows.find? event.workflowId).isSome
  let taken := s.events.rows.any fun row =>
    row.workflowId == event.workflowId && row.sequence == event.sequence
  match if known && !taken then s.events.insert event else none with
  | some events => (.ok event, { s with events := events })
  | none =>
    if s.events.find? event.eventId = some event then (.ok event, s)
    else (.error (conflict "workflow event sequence or identity collision"), s)

/-- `save_checkpoint`: a stored checkpoint must be the same. -/
def saveCheckpoint (checkpoint : WorkflowCheckpoint env.sha) :
    Except PyError (WorkflowCheckpoint env.sha) × OrchestrationStore env :=
  match s.checkpoints.find? checkpoint.checkpointId with
  | some row =>
    if row = checkpoint then (.ok checkpoint, s)
    else (.error (conflict "checkpoint identity collision"), s)
  | none =>
    if (s.workflows.find? checkpoint.workflowId).isNone then (.error foreignKeyError, s)
    else
      (.ok checkpoint, { s with
        checkpoints := (s.checkpoints.insert checkpoint).getD s.checkpoints })

/-- `save_wait`: of a stored wait only the satisfaction and the payload are replaced. -/
def saveWait (wait : DurableWait env) :
    Except PyError (DurableWait env) × OrchestrationStore env :=
  if (s.waits.find? wait.waitId).isNone ∧ (s.workflows.find? wait.workflowId).isNone then
    (.error foreignKeyError, s)
  else
    (.ok wait, { s with
      waits := s.waits.upsert ⟨wait.waitId, wait.releaseAtUtc, wait.satisfiedAtUtc, wait⟩
        (fun row => { row with satisfiedAtUtc := wait.satisfiedAtUtc, payload := wait })
        (fun _ => rfl) })

def saveWorkerHeartbeat (heartbeat : WorkerHeartbeat) :
    Except PyError WorkerHeartbeat × OrchestrationStore env :=
  if (s.workers.find? heartbeat.workerId).any fun current =>
      decide (heartbeat.fencingEpoch < current.fencingEpoch) then
    (.error (conflict "stale worker fencing epoch"), s)
  else
    (.ok heartbeat, { s with
      workers := (s.workers.insert heartbeat).getD (s.workers.replace heartbeat) })

/-- `record_inbox`: whether the message is new. -/
def recordInbox (message : InboxRow) :
    Except PyError Bool × OrchestrationStore env :=
  match s.inbox.find? message.messageId with
  | some row =>
    if row.payloadSha256 = message.payloadSha256 then (.ok false, s)
    else (.error (conflict "inbox message identity collision"), s)
  | none =>
    if (s.workflows.find? message.workflowId).isNone then (.error foreignKeyError, s)
    else (.ok true, { s with inbox := (s.inbox.insert message).getD s.inbox })

def saveOperation (operation : DurableOperation) :
    Except PyError DurableOperation × OrchestrationStore env :=
  if (s.outbox.find? operation.operationId).isNone ∧
      (s.workflows.find? operation.workflowId).isNone then
    (.error foreignKeyError, s)
  else
    (.ok operation, { s with
      outbox := (s.outbox.insert operation).getD (s.outbox.replace operation) })

/-- `save_recovery_decision`: a stored decision is left as it is. -/
def saveRecoveryDecision (decision : RecoveryDecision) :
    Except PyError RecoveryDecision × OrchestrationStore env :=
  if (s.recoveryDecisions.find? decision.recoveryId).isNone ∧
      (s.workflows.find? decision.workflowId).isNone then
    (.error foreignKeyError, s)
  else
    (.ok decision, { s with
      recoveryDecisions := (s.recoveryDecisions.insert decision).getD s.recoveryDecisions })

end

end OrchestrationStore

/-! ### Instructions -/

/-- The calls of the store that the runtime makes, each of them one atomic step. -/
inductive StoreCall (env : OrchestrationEnv) where
  | getDefinition (definitionId : String)
  | findWorkflowByIdempotency (definitionId idempotencyKey : String)
  | getWorkflow (workflowId : String)
  | nextEventSequence (workflowId : String)
  | latestCheckpoint (workflowId : String)
  | getWait (waitId : String)
  | dueWaits (now : Instant)
  | worker (workerId : String)
  | staleWorkers (now : Instant)
  | workflowsForWorker (workerId : String)
  | getOperation (operationId : String)
  | createWorkflow (workflow : WorkflowInstance)
  | updateWorkflow (workflow : WorkflowInstance) (expectedVersion : ℕ)
  | appendEvent (event : WorkflowEvent env.sha)
  | saveCheckpoint (checkpoint : WorkflowCheckpoint env.sha)
  | saveWait (wait : DurableWait env)
  | saveWorkerHeartbeat (heartbeat : WorkerHeartbeat)
  | recordInbox (message : InboxRow)
  | saveOperation (operation : DurableOperation)
  | saveRecoveryDecision (decision : RecoveryDecision)

namespace StoreCall

variable {env : OrchestrationEnv}

def exec : StoreCall env → OrchestrationStore env → OrchestrationStore env
  | createWorkflow workflow, s => (s.createWorkflow workflow).2
  | updateWorkflow workflow expectedVersion, s => (s.updateWorkflow workflow expectedVersion).2
  | appendEvent event, s => (s.appendEvent event).2
  | saveCheckpoint checkpoint, s => (s.saveCheckpoint checkpoint).2
  | saveWait wait, s => (s.saveWait wait).2
  | saveWorkerHeartbeat heartbeat, s => (s.saveWorkerHeartbeat heartbeat).2
  | recordInbox message, s => (s.recordInbox message).2
  | saveOperation operation, s => (s.saveOperation operation).2
  | saveRecoveryDecision decision, s => (s.saveRecoveryDecision decision).2
  | _, s => s

def writesWorkflows : StoreCall env → Bool
  | createWorkflow _ | updateWorkflow _ _ => true
  | _ => false

def writesOutbox : StoreCall env → Bool
  | saveOperation _ => true
  | _ => false

def writesHistory : StoreCall env → Bool
  | createWorkflow _ | updateWorkflow _ _ | appendEvent _ | saveWait _ => true
  | _ => false

end StoreCall

namespace OrchestrationStore

variable {env : OrchestrationEnv} {s : OrchestrationStore env}

/-- A creation leaves the workflows as they are, or adds the new one. -/
theorem createWorkflow_cases (s : OrchestrationStore env) (workflow : WorkflowInstance) :
    (s.createWorkflow workflow).2 = s ∨
      ∃ workflows, s.workflows.insert workflow = some workflows ∧
        (s.createWorkflow workflow).2 = { s with workflows := workflows } := by
  rw [createWorkflow]
  split
  · rename_i workflows hins
    split at hins
    · exact .inr ⟨workflows, hins, rfl⟩
    · cases hins
  · split
    · exact .inl rfl
    · split <;> exact .inl rfl

/-- A creation that returns has the workflow stored. -/
theorem createWorkflow_eq_ok {s s' : OrchestrationStore env} {result : WorkflowInstance}
    (h : s.createWorkflow workflow = (.ok result, s')) :
    s'.workflows.find? workflow.workflowId = some workflow := by
  rw [createWorkflow] at h
  split at h
  · rename_i workflows hins
    split at hins
    · cases h
      rw [Table.find?_insert hins, if_pos rfl]
    · cases hins
  · split at h
    · cases h
    · rename_i existing hget
      split at h
      · rename_i hsame
        cases h
        rw [hsame] at hget
        exact getWorkflow_eq_ok hget
      · cases h

/-- An update either raises and changes nothing, or replaces the row whose version it
expects by one with the next version. -/
theorem updateWorkflow_cases (s : OrchestrationStore env) (workflow : WorkflowInstance)
    (expectedVersion : ℕ) :
    (∃ error, s.updateWorkflow workflow expectedVersion = (.error error, s)) ∨
      ∃ row, s.workflows.find? workflow.workflowId = some row ∧ row.version = expectedVersion ∧
        workflow.version = expectedVersion + 1 ∧
        s.updateWorkflow workflow expectedVersion =
          (.ok workflow, { s with workflows := s.workflows.replace workflow }) := by
  rw [updateWorkflow]
  split
  · exact .inl ⟨_, rfl⟩
  · rename_i hver
    split
    · rename_i hrow
      cases hfind : s.workflows.find? workflow.workflowId with
      | none =>
        rw [hfind] at hrow
        cases hrow
      | some row =>
        rw [hfind, Option.any_some, beq_iff_eq] at hrow
        exact .inr ⟨row, rfl, hrow, not_not.mp hver, rfl⟩
    · exact .inl ⟨_, rfl⟩

end OrchestrationStore

/-- A call leaves the tables as they are that it does not write. -/
theorem StoreCall.exec_tables {env : OrchestrationEnv} (c : StoreCall env)
    (s : OrchestrationStore env) :
    (c.writesWorkflows = false → (c.exec s).workflows = s.workflows) ∧
    (c.writesOutbox = false → (c.exec s).outbox = s.outbox) ∧
    (c.writesHistory = false → (c.exec s).definitions = s.definitions ∧
      (c.exec s).workflows = s.workflows ∧ (c.exec s).events = s.events ∧
      (c.exec s).waits = s.waits) := by
  cases c with
  | createWorkflow workflow =>
    refine ⟨nofun, fun _ => ?_, nofun⟩
    rw [exec]
    rcases s.createWorkflow_cases workflow with hsame | ⟨workflows, -, hs'⟩
    · rw [hsame]
    · rw [hs']
  | updateWorkflow workflow expectedVersion =>
    refine ⟨nofun, fun _ => ?_, nofun⟩
    rw [exec]
    rcases s.updateWorkflow_cases workflow expectedVersion with ⟨error, hs'⟩ | ⟨row, -, -, -, hs'⟩
    · rw [hs']
    · rw [hs']
  | appendEvent =>
    rw [exec, OrchestrationStore.appendEvent]
    split
    · simp [writesHistory]
    · split <;> simp
  | saveCheckpoint =>
    rw [exec, OrchestrationStore.saveCheckpoint]
    split <;> split <;> simp
  | saveWait =>
    rw [exec, OrchestrationStore.saveWait]
    split <;> simp [writesHistory]
  | saveWorkerHeartbeat =>
    rw [exec, OrchestrationStore.saveWorkerHeartbeat]
    split <;> simp
  | recordInbox =>
    rw [exec, OrchestrationStore.recordInbox]
    split <;> split <;> simp
  | saveOperation =>
    rw [exec, OrchestrationStore.saveOperation]
    split <;> simp [writesOutbox]
  | saveRecoveryDecision =>
    rw [exec, OrchestrationStore.saveRecoveryDecision]
    split <;> simp
  | _ => simp [exec]

/-- Workflows stay stored, and change only with their version. -/
def Versioned {env : OrchestrationEnv} (s s' : OrchestrationStore env) : Prop :=
  ∀ workflowId row, s.workflows.find? workflowId = some row →
    ∃ row', s'.workflows.find? workflowId = some row' ∧ (row' = row ∨ row.version < row'.version)

namespace Versioned

variable {env : OrchestrationEnv} {s s' : OrchestrationStore env}

instance : IsPreorder (OrchestrationStore env) Versioned where
  refl s := fun _ row hrow => ⟨row, hrow, .inl rfl⟩
  trans s s₁ s' h h' := by
    intro workflowId row hrow
    obtain ⟨row₁, hrow₁, hor₁⟩ := h workflowId row hrow
    obtain ⟨row', hrow', hor'⟩ := h' workflowId row₁ hrow₁
    refine ⟨row', hrow', ?_⟩
    rcases hor₁ with rfl | hlt₁
    · exact hor'
    · rcases hor' with rfl | hlt'
      · exact .inr hlt₁
      · exact .inr (hlt₁.trans hlt')

theorem of_workflows_eq (h : s'.workflows = s.workflows) : Versioned s s' := by
  intro workflowId row hrow
  exact ⟨row, by rw [h, hrow], .inl rfl⟩

/-- A workflow that still has its version is unchanged. -/
theorem eq_of_version_eq (h : Versioned s s') {row row' : WorkflowInstance}
    (hrow : s.workflows.find? workflowId = some row)
    (hrow' : s'.workflows.find? workflowId = some row') (hver : row'.version = row.version) :
    row' = row := by
  obtain ⟨row₁, hrow₁, rfl | hlt⟩ := h workflowId row hrow
  · exact Option.some.inj (hrow'.symm.trans hrow₁)
  · obtain rfl := Option.some.inj (hrow'.symm.trans hrow₁)
    omega

end Versioned

/-- No call changes a workflow without raising its version. -/
theorem StoreCall.versioned {env : OrchestrationEnv} (c : StoreCall env)
    (s : OrchestrationStore env) : Versioned s (c.exec s) := by
  by_cases hwrs : c.writesWorkflows = true
  · cases c with
    | createWorkflow workflow =>
      rcases s.createWorkflow_cases workflow with hsame | ⟨workflows, hins, hs'⟩
      · exact .of_workflows_eq (by rw [exec, hsame])
      · intro workflowId row hrow
        refine ⟨row, ?_, .inl rfl⟩
        rw [exec, hs']
        exact Table.find?_insert_of_some hins hrow
    | updateWorkflow workflow expectedVersion =>
      rcases s.updateWorkflow_cases workflow expectedVersion with
        ⟨error, hsame⟩ | ⟨old, hold, hexpected, hver, hs'⟩
      · exact .of_workflows_eq (by rw [exec, hsame])
      · intro workflowId row hrow
        rw [exec, hs']
        rw [Table.find?_replace]
        by_cases hk : workflow.workflowId = workflowId
        · subst hk
          obtain rfl := Option.some.inj (hold.symm.trans hrow)
          rw [if_pos rfl, hrow, Option.map_some]
          exact ⟨workflow, rfl, .inr (by omega)⟩
        · rw [if_neg hk]
          exact ⟨row, hrow, .inl rfl⟩
    | _ => cases hwrs
  · exact .of_workflows_eq ((c.exec_tables s).1 (Bool.not_eq_true _ ▸ hwrs))

end ProjectPipeline
