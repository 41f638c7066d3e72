import ProjectPipeline.Orchestration

/-!
# The Durable Runtime

The clients of the orchestration store, as programs of store calls:

* `LocalDurableRuntime` (`orchestration/runtime.py`), which takes workflows through their
  states: starting, assigning workers, checkpoints, completing and failing steps, waiting
  for signals and times, cancelling, suspending and resuming;
* `RecoveryManager.recover_stale_workers` (`orchestration/recovery.py`);
* `OrchestrationService.start` (`orchestration/service.py`), which hands a workflow over to
  an external engine. What the adapter of the engine answers is an input.

An operation reads the workflow, computes the updated record, writes it with the version it
has read, and appends an event. An exception leaves the calls made before in place.
-/

namespace ProjectPipeline

abbrev Durable (env : OrchestrationEnv) (α : Type) :=
  Prog (StoreCall env) (OrchestrationStore env) α

def workflowStateError (message : String) : PyError := .raised "WorkflowStateError" message

/-- What calling the adapter of an engine comes to: a receipt, one of the two exceptions of
`orchestration/adapters.py`, or another exception. -/
inductive AdapterOutcome where
  | receipt (backendOperationId backendRunId : Option String)
  | unknownOutcome (message : String)
  | unavailable (message : String)
  | raises (error : PyError)

variable {env : OrchestrationEnv}

namespace Durable

/-! ### Calls of the store -/

def getDefinition (definitionId : String) : Durable env (Option (WorkflowDefinition env.sha)) :=
  .call (.getDefinition definitionId) fun s => .ok (s.definitions.find? definitionId)

def findWorkflowByIdempotency (definitionId idempotencyKey : String) :
    Durable env (Option WorkflowInstance) :=
  .call (.findWorkflowByIdempotency definitionId idempotencyKey) fun s =>
    s.findWorkflowByIdempotency definitionId idempotencyKey

def getWorkflow (workflowId : String) : Durable env (Option WorkflowInstance) :=
  .call (.getWorkflow workflowId) fun s => s.getWorkflow workflowId

def nextEventSequence (workflowId : String) : Durable env ℕ :=
  .call (.nextEventSequence workflowId) fun s => .ok (s.nextEventSequence workflowId)

def latestCheckpoint (workflowId : String) : Durable env (Option (WorkflowCheckpoint env.sha)) :=
  .call (.latestCheckpoint workflowId) fun s => .ok (s.latestCheckpoint workflowId)

def getWait (waitId : String) : Durable env (Option (DurableWait env)) :=
  .call (.getWait waitId) fun s => .ok (s.getWait waitId)

def dueWaits (now : Instant) : Durable env (List (DurableWait env)) :=
  .call (.dueWaits now) fun s => .ok (s.dueWaits now)

def worker (workerId : String) : Durable env (Option WorkerHeartbeat) :=
  .call (.worker workerId) fun s => .ok (s.workers.find? workerId)

def staleWorkers (now : Instant) : Durable env (List WorkerHeartbeat) :=
  .call (.staleWorkers now) fun s => .ok (s.staleWorkers now)

def workflowsForWorker (workerId : String) : Durable env (List WorkflowInstance) :=
  .call (.workflowsForWorker workerId) fun s => s.workflowsForWorker workerId

def getOperation (operationId : String) : Durable env (Option DurableOperation) :=
  .call (.getOperation operationId) fun s => s.getOperation operationId

def createWorkflow (workflow : WorkflowInstance) : Durable env WorkflowInstance :=
  .call (.createWorkflow workflow) fun s => (s.createWorkflow workflow).1

def updateWorkflow (workflow : WorkflowInstance) (expectedVersion : ℕ) :
    Durable env WorkflowInstance :=
  .call (.updateWorkflow workflow expectedVersion) fun s =>
    (s.updateWorkflow workflow expectedVersion).1

def appendEvent (event : WorkflowEvent env.sha) : Durable env (WorkflowEvent env.sha) :=
  .call (.appendEvent event) fun s => (s.appendEvent event).1

def saveCheckpoint (checkpoint : WorkflowCheckpoint env.sha) :
    Durable env (WorkflowCheckpoint env.sha) :=
  .call (.saveCheckpoint checkpoint) fun s => (s.saveCheckpoint checkpoint).1

def saveWait (wait : DurableWait env) : Durable env (DurableWait env) :=
  .call (.saveWait wait) fun s => (s.saveWait wait).1

def saveWorkerHeartbeat (heartbeat : WorkerHeartbeat) : Durable env WorkerHeartbeat :=
  .call (.saveWorkerHeartbeat heartbeat) fun s => (s.saveWorkerHeartbeat heartbeat).1

def recordInbox (message : InboxRow) : Durable env Bool :=
  .call (.recordInbox message) fun s => (s.recordInbox message).1

def saveOperation (operation : DurableOperation) : Durable env DurableOperation :=
  .call (.saveOperation operation) fun s => (s.saveOperation operation).1

def saveRecoveryDecision (decision : RecoveryDecision) : Durable env RecoveryDecision :=
  .call (.saveRecoveryDecision decision) fun s => (s.saveRecoveryDecision decision).1

/-! ### Events and queries -/

def newEvent (sha : Sha256) (workflowId eventType : String) (sequence : ℕ) (now : Instant)
    (payload : JsonObject) (correlationId : Option String) :
    Except PyError (WorkflowEvent sha) := do
  let eventId ← returned
    (orchestrationIdentifier sha .event [workflowId, toString sequence, eventType])
  if hsequence : 1 ≤ sequence then
    .ok
      { eventId := eventId.val
        workflowId := workflowId
        sequence := sequence
        eventType := eventType
        occurredAtUtc := now
        payload := payload
        correlationId := correlationId
        eventId_valid := eventId.property
        sequence_valid := hsequence }
  else
    .error (.validationError "WorkflowEvent"
      [("sequence", "Input should be greater than or equal to 1")])

def event (workflowId eventType : String) (now : Instant) (payload : JsonObject)
    (correlationId : Option String) : Durable env Unit := do
  let sequence ← nextEventSequence workflowId
  let record ← Prog.ofExcept
    (newEvent env.sha workflowId eventType sequence now payload correlationId)
  let _ ← appendEvent record
  pure ()

/-- `update_workflow` followed by an event: the end of every operation on a workflow. -/
def save (updated : WorkflowInstance) (expectedVersion : ℕ) (eventType : String) (now : Instant)
    (payload : JsonObject) : Durable env WorkflowInstance := do
  let _ ← updateWorkflow updated expectedVersion
  event updated.workflowId eventType now payload none
  pure updated

def query (workflowId : String) : Durable env WorkflowInstance := do
  let workflow ← getWorkflow workflowId
  match workflow with
  | none => .raise (.keyError ("unknown workflow: " ++ workflowId))
  | some workflow => pure workflow

def currentStep (workflowId : String) : Durable env (Option WorkflowStepDefinition) := do
  let workflow ← query workflowId
  let definition ← getDefinition workflow.definitionId
  match definition with
  | none => .raise (.keyError ("workflow definition disappeared: " ++ workflow.definitionId))
  | some definition => pure (definition.steps[workflow.currentStepIndex]?)

/-! ### Starting -/

variable (request : WorkflowStartRequest)

/-- The part of `start` for a key that is not in use. -/
def create (now : Instant) : Durable env WorkflowInstance := do
  let workflowId ← Prog.ofExcept
    (orchestrationIdentifier env.sha .workflow [request.definitionId, request.idempotencyKey])
  let workflow ← Prog.ofExcept (WorkflowInstance.validate env.sha
    { workflowId := workflowId
      definitionId := request.definitionId
      idempotencyKey := request.idempotencyKey
      state := .running
      version := 1
      backend := request.backend
      inputPayload := request.inputPayload
      currentStepIndex := 0
      currentAttempt := 1
      createdAtUtc := now
      updatedAtUtc := now })
  let _ ← createWorkflow workflow
  event workflow.workflowId "WORKFLOW_STARTED" now
    [("definition_id", jsonString request.definitionId),
      ("backend", jsonString request.backend.value)]
    (some request.idempotencyKey)
  pure workflow

def start (now : Instant) : Durable env WorkflowInstance := do
  let definition ← getDefinition request.definitionId
  match definition with
  | none => .raise (.keyError ("unknown workflow definition: " ++ request.definitionId))
  | some _ =>
    let existing ← findWorkflowByIdempotency request.definitionId request.idempotencyKey
    match existing with
    | some existing =>
      if existing.inputPayload.isPerm request.inputPayload = false ∨
          existing.backend ≠ request.backend then
        .raise (workflowStateError
          "workflow idempotency key was reused with different input/backend")
      else pure existing
    | none => create request now

/-! ### Workers, checkpoints and steps -/

def assignWorker (workflowId workerId : String) (fencingEpoch : ℕ) (now : Instant) :
    Durable env WorkflowInstance := do
  let workflow ← query workflowId
  Prog.refuseIf (workflow.state ≠ .running ∧ workflow.state ≠ .retryScheduled)
    (workflowStateError ("cannot assign worker while workflow is " ++ workflow.state.value))
  Prog.refuseIf (workflow.state = .retryScheduled ∧
      workflow.retryAvailableAtUtc.all (fun due => decide (now < due)))
    (workflowStateError "retry is not due")
  let heartbeat ← worker workerId
  Prog.refuseIf (heartbeat.all fun beat => decide (beat.expiresAtUtc ≤ now))
    (workflowStateError "worker has no current heartbeat")
  Prog.refuseIf (heartbeat.any fun beat => beat.fencingEpoch != fencingEpoch)
    (workflowStateError "worker fencing epoch mismatch")
  let attempt := if workflow.state = .retryScheduled then workflow.currentAttempt + 1
    else workflow.currentAttempt
  save
    { workflow with
      state := .running
      version := workflow.version + 1
      assignedWorkerId := some workerId
      currentAttempt := attempt
      retryAvailableAtUtc := none
      updatedAtUtc := now }
    workflow.version "STEP_ASSIGNED" now
    [("worker_id", jsonString workerId), ("fencing_epoch", toString fencingEpoch),
      ("attempt", toString attempt)]

/-- The truth of a JSON value, by its dump. -/
def jsonTruthy (dump : String) : Bool :=
  !(["null", "false", "0", "0.0", "-0.0", "\"\"", "[]", "\x7b\x7d"].contains dump)

/-- The exception of `tuple(value)` for a value that is not iterable, by its dump. -/
def notIterable (dump : String) : Option PyError :=
  if ["[", "\x7b", "\""].any fun opening => startsWith dump opening then none
  else
    let kind := if dump = "true" then "bool"
      else if dump.toList.any fun c => !(digitAlphabet.contains c || c == '-') then "float"
      else "int"
    some (.raised "TypeError" ("'" ++ kind ++ "' object is not iterable"))

/-- The check of `CheckpointDecision` on a payload that has both of its keys. -/
def checkDecision (payload : JsonObject) : Except PyError Unit :=
  match payload.lookup "no_additional_action_needed", payload.lookup "eligible_unrelated_lanes" with
  | some noAction, some lanes =>
    if jsonTruthy lanes then
      match notIterable lanes with
      | some error => .error error
      | none => raiseIf (jsonTruthy noAction = true) (workflowStateError
          "checkpoint cannot assert no additional action while eligible unrelated lanes exist")
    else .ok ()
  | _, _ => .ok ()

def newCheckpoint (sha : Sha256) (workflowId stepId : String) (attempt : ℕ) (payload : JsonObject)
    (now : Instant) : Except PyError (WorkflowCheckpoint sha) := do
  let checkpointId ← returned (orchestrationIdentifier sha .checkpoint
    [workflowId, stepId, toString attempt, canonicalPayloadSha256 sha payload])
  if hattempt : 1 ≤ attempt then
    .ok
      { checkpointId := checkpointId.val
        workflowId := workflowId
        stepId := stepId
        attempt := attempt
        payload := payload
        payloadSha256 := canonicalPayloadSha256 sha payload
        createdAtUtc := now
        attempt_valid := hattempt
        payload_valid := rfl
        checkpointId_valid := checkpointId.property }
  else
    .error (.validationError "WorkflowCheckpoint"
      [("attempt", "Input should be greater than or equal to 1")])

def checkpoint (workflowId : String) (payload : JsonObject) (now : Instant) :
    Durable env (WorkflowCheckpoint env.sha) := do
  let workflow ← query workflowId
  let step ← currentStep workflowId
  match step with
  | none => .raise (workflowStateError "completed workflow has no step to checkpoint")
  | some step =>
    Prog.refuseIf (workflow.state ≠ .running)
      (workflowStateError "checkpoints require a RUNNING workflow")
    Prog.ofExcept (checkDecision payload)
    let record ← Prog.ofExcept
      (newCheckpoint env.sha workflowId step.stepId workflow.currentAttempt payload now)
    let _ ← saveCheckpoint record
    let _ ← save
      { workflow with
        version := workflow.version + 1
        lastCheckpointId := some record.checkpointId
        updatedAtUtc := now }
      workflow.version "CHECKPOINT_SAVED" now
      [("checkpoint_id", jsonString record.checkpointId),
        ("payload_sha256", jsonString record.payloadSha256)]
    pure record

/-- The check for steps that require a checkpoint of the current attempt. -/
def requireCheckpoint (workflow : WorkflowInstance) (step : WorkflowStepDefinition) :
    Durable env Unit :=
  if step.requiresCheckpoint then do
    let latest ← latestCheckpoint workflow.workflowId
    Prog.refuseIf (latest.all fun record =>
        record.stepId != step.stepId || record.attempt != workflow.currentAttempt)
      (workflowStateError "step requires a checkpoint from the current attempt")
  else pure ()

def completeStep (workflowId : String) (result : JsonObject) (now : Instant) :
    Durable env WorkflowInstance := do
  let workflow ← query workflowId
  Prog.refuseIf (workflow.state ≠ .running)
    (workflowStateError "step completion requires a RUNNING workflow")
  let definition ← getDefinition workflow.definitionId
  let steps := (definition.map WorkflowDefinition.steps).getD []
  match steps[workflow.currentStepIndex]? with
  | none => .raise (workflowStateError "workflow has no current step")
  | some step =>
    requireCheckpoint workflow step
    let isLast := workflow.currentStepIndex + 1 == steps.length
    save
      { workflow with
        state := if isLast then .succeeded else .running
        version := workflow.version + 1
        currentStepIndex := workflow.currentStepIndex + 1
        currentAttempt := if isLast then 0 else 1
        assignedWorkerId := none
        waitId := none
        failureCode := none
        failureMessage := none
        updatedAtUtc := now }
      workflow.version (if isLast then "WORKFLOW_SUCCEEDED" else "STEP_SUCCEEDED") now
      [("step_id", jsonString step.stepId), ("attempt", toString workflow.currentAttempt),
        ("result", canonicalJson result)]

/-- When a failed step is tried again, if it is. -/
def retryAt (env : OrchestrationEnv) (workflow : WorkflowInstance) (step : WorkflowStepDefinition)
    (retryable : Bool) (now : Instant) : Except PyError (Option Instant) :=
  if retryable && step.recoverable &&
      decide (workflow.currentAttempt < step.retryPolicy.maxAttempts) then
    if workflow.currentAttempt < 1 then
      .error (.valueError "failed_attempt must be at least 1")
    else
      (addMicros now (env.backoffMicros step.retryPolicy workflow.currentAttempt)).map some
  else .ok none

def failStep (workflowId failureCode failureMessage : String) (retryable : Bool)
    (now : Instant) : Durable env WorkflowInstance := do
  let workflow ← query workflowId
  Prog.refuseIf (workflow.state ≠ .running)
    (workflowStateError "step failure requires a RUNNING workflow")
  let step ← currentStep workflowId
  match step with
  | none => .raise (workflowStateError "workflow has no current step")
  | some step =>
    let retry ← Prog.ofExcept (retryAt env workflow step retryable now)
    save
      { workflow with
        state := if retry.isSome then .retryScheduled else .failed
        version := workflow.version + 1
        assignedWorkerId := none
        retryAvailableAtUtc := retry
        failureCode := some failureCode
        failureMessage := some failureMessage
        updatedAtUtc := now }
      workflow.version (if retry.isSome then "STEP_RETRY_SCHEDULED" else "STEP_FAILED") now
      [("step_id", jsonString step.stepId), ("attempt", toString workflow.currentAttempt),
        ("failure_code", jsonString failureCode),
        ("retry_available_at_utc",
          (retry.map fun due => jsonString (env.isoformat due)).getD "null")]

/-! ### Waits and signals -/

/-- The construction of a wait that is not satisfied. -/
def newWait (env : OrchestrationEnv) (workflowId : String) (kind : WaitKind)
    (signalName : Option String) (releaseAtUtc : Option Instant) (now : Instant) :
    Except PyError (DurableWait env) := do
  let waitId ← returned (orchestrationIdentifier env.sha .wait
    [workflowId, kind.value, signalName.getD "", (releaseAtUtc.map env.isoformat).getD ""])
  if hsignal : kind = .signal → truthy signalName = true then
    if hrelease : kind = .untilTime → releaseAtUtc ≠ none then
      .ok
        { waitId := waitId.val
          workflowId := workflowId
          kind := kind
          signalName := signalName
          releaseAtUtc := releaseAtUtc
          createdAtUtc := now
          signalName_valid := hsignal
          release_valid := hrelease
          waitId_valid := waitId.property }
    else
      .error (.validationError "DurableWait"
        [("", "Value error, UNTIL waits require release_at_utc")])
  else
    .error (.validationError "DurableWait" [("", "Value error, SIGNAL waits require signal_name")])

/-- Store a wait and put the workflow into it. -/
def enterWait (workflow : WorkflowInstance) (wait : DurableWait env) (now : Instant)
    (payload : JsonObject) : Durable env (DurableWait env) := do
  let _ ← saveWait wait
  let _ ← save
    { workflow with
      state := .waiting
      version := workflow.version + 1
      assignedWorkerId := none
      waitId := some wait.waitId
      updatedAtUtc := now }
    workflow.version "WAIT_STARTED" now payload
  pure wait

def waitForSignal (workflowId signalName : String) (now : Instant) :
    Durable env (DurableWait env) := do
  let workflow ← query workflowId
  Prog.refuseIf (workflow.state ≠ .running)
    (workflowStateError "signal wait requires a RUNNING workflow")
  let wait ← Prog.ofExcept (newWait env workflowId .signal (some signalName) none now)
  enterWait workflow wait now
    [("wait_id", jsonString wait.waitId), ("signal", jsonString signalName)]

def waitUntil (workflowId : String) (release : Instant) (now : Instant) :
    Durable env (DurableWait env) := do
  Prog.refuseIf (release ≤ now) (.valueError "release_at_utc must be in the future")
  let workflow ← query workflowId
  Prog.refuseIf (workflow.state ≠ .running)
    (workflowStateError "timer wait requires a RUNNING workflow")
  let wait ← Prog.ofExcept (newWait env workflowId .untilTime none (some release) now)
  enterWait workflow wait now
    [("wait_id", jsonString wait.waitId), ("release_at_utc", jsonString (env.isoformat release))]

/-- Mark a wait as satisfied and let the workflow run again. -/
def leaveWait (workflow : WorkflowInstance) (wait satisfied : DurableWait env) (now : Instant) :
    Durable env WorkflowInstance := do
  let _ ← saveWait satisfied
  save
    { workflow with
      state := .running
      version := workflow.version + 1
      waitId := none
      updatedAtUtc := now }
    workflow.version "WAIT_SATISFIED" now [("wait_id", jsonString wait.waitId)]

section

variable (env : OrchestrationEnv) (signal : WorkflowSignal env.sha)

/-- `signal.model_dump(mode="json")`. -/
def signalPayload : JsonObject :=
  [("signal_id", jsonString signal.signalId), ("workflow_id", jsonString signal.workflowId),
    ("signal_name", jsonString signal.signalName),
    ("idempotency_key", jsonString signal.idempotencyKey),
    ("payload", canonicalJson signal.payload),
    ("observed_at_utc", jsonString (env.jsonTime signal.observedAtUtc))]

def signalMessage (now : Instant) :
    InboxRow where
  messageId := signal.signalId
  workflowId := signal.workflowId
  messageType := "SIGNAL"
  payloadSha256 := canonicalPayloadSha256 env.sha (signalPayload env signal)
  payload := signalPayload env signal
  receivedAtUtc := now

end

/-- The wait is for the signal. -/
def answers (signal : WorkflowSignal env.sha) (wait : DurableWait env) : Prop :=
  wait.kind = .signal ∧ wait.signalName = some signal.signalName

instance (signal : WorkflowSignal env.sha) (wait : DurableWait env) :
    Decidable (answers signal wait) :=
  inferInstanceAs (Decidable (_ ∧ _))

/-- The part of `signal` behind the event: the workflow leaves the wait if the signal is the
one it waits for. -/
def wake (signal : WorkflowSignal env.sha) (workflow : WorkflowInstance) (now : Instant) :
    Durable env WorkflowInstance :=
  if workflow.state ≠ .waiting ∨ truthy workflow.waitId = false then pure workflow
  else do
    let wait ← getWait (workflow.waitId.getD "")
    match wait with
    | none => pure workflow
    | some wait =>
      if answers signal wait then
        leaveWait workflow wait
          { wait with satisfiedAtUtc := some now, payload := signal.payload } now
      else pure workflow

def signal (signal : WorkflowSignal env.sha) (now : Instant) : Durable env WorkflowInstance := do
  let workflow ← query signal.workflowId
  let firstDelivery ← recordInbox (signalMessage env signal now)
  if firstDelivery then
    event signal.workflowId "SIGNAL_RECEIVED" now
      [("signal_id", jsonString signal.signalId), ("signal_name", jsonString signal.signalName)]
      (some signal.idempotencyKey)
    wake signal workflow now
  else pure workflow

/-- The loop of `release_due_waits`. -/
def releaseWaits (now : Instant) : List (DurableWait env) → Durable env (List WorkflowInstance)
  | [] => pure []
  | wait :: waits => do
      let workflow ← query wait.workflowId
      if workflow.state ≠ .waiting ∨ workflow.waitId ≠ some wait.waitId then
        releaseWaits now waits
      else
        let updated ← leaveWait workflow wait { wait with satisfiedAtUtc := some now } now
        let released ← releaseWaits now waits
        pure (updated :: released)

def releaseDueWaits (now : Instant) : Durable env (List WorkflowInstance) := do
  let waits ← dueWaits now
  releaseWaits now waits

/-! ### Cancelling, suspending and resuming -/

/-- `cancel`: a workflow that has come to its end is returned as it is. -/
def cancel (workflowId : String) (now : Instant) : Durable env WorkflowInstance := do
  let workflow ← query workflowId
  if workflow.state = .succeeded ∨ workflow.state = .failed ∨ workflow.state = .cancelled then
    pure workflow
  else
    save
      { workflow with
        state := .cancelled
        version := workflow.version + 1
        cancelRequested := true
        assignedWorkerId := none
        updatedAtUtc := now }
      workflow.version "WORKFLOW_CANCELLED" now []

def suspend (workflowId : String) (now : Instant) : Durable env WorkflowInstance := do
  let workflow ← query workflowId
  Prog.refuseIf (workflow.state ≠ .running ∧ workflow.state ≠ .waiting ∧
      workflow.state ≠ .retryScheduled)
    (workflowStateError ("cannot suspend workflow from " ++ workflow.state.value))
  save
    { workflow with
      state := .suspended
      version := workflow.version + 1
      assignedWorkerId := none
      updatedAtUtc := now }
    workflow.version "WORKFLOW_SUSPENDED" now []

def resume (workflowId : String) (now : Instant) : Durable env WorkflowInstance := do
  let workflow ← query workflowId
  Prog.refuseIf (workflow.state ≠ .suspended ∧ workflow.state ≠ .recoveryRequired)
    (workflowStateError ("cannot resume workflow from " ++ workflow.state.value))
  save
    { workflow with
      state := .running
      version := workflow.version + 1
      recoveryCount := workflow.recoveryCount + 1
      assignedWorkerId := none
      updatedAtUtc := now }
    workflow.version "WORKFLOW_RESUMED" now []

variable (workerId : String) (fencingEpoch : ℕ) (ttlSeconds : ℤ) (now : Instant)

def newHeartbeat :
    Except PyError WorkerHeartbeat := do
  raiseIf (ttlSeconds < 1 ∨ 3600 < ttlSeconds)
    (.valueError "worker heartbeat ttl_seconds must be between 1 and 3600")
  let expires ← addSeconds now ttlSeconds
  if hworker : 1 ≤ workerId.length ∧ workerId.length ≤ 200 then
    if hepoch : 1 ≤ fencingEpoch then
      if hexpiry : now < expires then
        .ok ⟨workerId, fencingEpoch, now, expires, hworker, hepoch, hexpiry⟩
      else
        .error (.validationError "WorkerHeartbeat"
          [("", "Value error, worker heartbeat expiry must follow observation")])
    else
      .error (.validationError "WorkerHeartbeat"
        [("fencing_epoch", "Input should be greater than or equal to 1")])
  else
    .error (.validationError "WorkerHeartbeat"
      [("worker_id", if workerId.length < 1 then "String should have at least 1 character"
        else "String should have at most 200 characters")])

def heartbeat :
    Durable env WorkerHeartbeat := do
  let record ← Prog.ofExcept (newHeartbeat workerId fencingEpoch ttlSeconds now)
  saveWorkerHeartbeat record

/-! ### Recovery -/

/-- The decision on a workflow of a stale worker: the action, whether it is safe, and the
reasons. -/
def recoveryOf (workflow : WorkflowInstance) (step : Option WorkflowStepDefinition) :
    RecoveryAction × Bool × List String :=
  if workflow.state ≠ .running then
    (.markRecoveryRequired, false, ["WORKER_HEARTBEAT_EXPIRED", "STATE_" ++ workflow.state.value])
  else if step.any fun step => step.recoverable &&
      decide (workflow.currentAttempt < step.retryPolicy.maxAttempts) then
    (.retryStep, true, ["WORKER_HEARTBEAT_EXPIRED", "STEP_RECOVERABLE"])
  else (.markRecoveryRequired, false, ["WORKER_HEARTBEAT_EXPIRED", "RETRY_NOT_SAFE"])

/-- `current_step`, for running workflows. -/
def recoveryStep (workflow : WorkflowInstance) : Durable env (Option WorkflowStepDefinition) :=
  if workflow.state ≠ .running then pure none else currentStep workflow.workflowId

/-- A running workflow of a lost worker needs recovery. -/
def markWorkerLost (workflowId workerId : String) (now : Instant) : Durable env Unit := do
  let refreshed ← getWorkflow workflowId
  match refreshed with
  | none => pure ()
  | some refreshed =>
    if refreshed.state = .running then do
      let _ ← save
        { refreshed with
          state := .recoveryRequired
          version := refreshed.version + 1
          assignedWorkerId := none
          failureCode := some "WORKER_LOST"
          failureMessage := some ("worker heartbeat expired: " ++ workerId)
          updatedAtUtc := now }
        refreshed.version "RECOVERY_REQUIRED" now
        [("worker_id", jsonString workerId), ("reason", jsonString "WORKER_LOST")]
      pure ()
    else pure ()

/-- Act on the decision. -/
def recover (workflowId workerId : String) (action : RecoveryAction) (now : Instant) :
    Durable env Unit :=
  if action = .retryStep then do
    let _ ← failStep workflowId "WORKER_LOST" ("worker heartbeat expired: " ++ workerId) true now
    pure ()
  else markWorkerLost workflowId workerId now

def recoverWorkflow (workerId : String) (workflow : WorkflowInstance) (now : Instant) :
    Durable env RecoveryDecision := do
  let step ← recoveryStep workflow
  let outcome := recoveryOf workflow step
  let recoveryId ← Prog.ofExcept (orchestrationIdentifier env.sha .recovery
    [workflow.workflowId, outcome.1.value, pyJoin "|" outcome.2.2, workerId, ""])
  let decision ← saveRecoveryDecision
    { recoveryId := recoveryId
      workflowId := workflow.workflowId
      action := outcome.1
      reasonCodes := outcome.2.2
      createdAtUtc := now
      workerId := workerId
      safeToAutomate := outcome.2.1 }
  recover workflow.workflowId workerId outcome.1 now
  pure decision

def recoverWorkflows (workerId : String) (now : Instant) :
    List WorkflowInstance → Durable env (List RecoveryDecision)
  | [] => pure []
  | workflow :: workflows => do
      let decision ← recoverWorkflow workerId workflow now
      let decisions ← recoverWorkflows workerId now workflows
      pure (decision :: decisions)

def recoverWorkers (now : Instant) : List WorkerHeartbeat → Durable env (List RecoveryDecision)
  | [] => pure []
  | beat :: beats => do
      let workflows ← workflowsForWorker beat.workerId
      let decisions ← recoverWorkflows beat.workerId now workflows
      let others ← recoverWorkers now beats
      pure (decisions ++ others)

def recoverStaleWorkers (now : Instant) : Durable env (List RecoveryDecision) := do
  let workers ← staleWorkers now
  recoverWorkers now workers

/-! ### Handing over to an external engine -/

/-- The end of a hand-over that may have started the workflow elsewhere:
`_mark_recovery_required`. -/
def markRecoveryRequired (workflowId code message : String) (now : Instant) :
    Durable env WorkflowInstance := do
  let workflow ← query workflowId
  save
    { workflow with
      state := .recoveryRequired
      version := workflow.version + 1
      assignedWorkerId := none
      failureCode := some code
      failureMessage := some message
      updatedAtUtc := now }
    workflow.version "RECOVERY_REQUIRED" now [("code", jsonString code)]

def markBackendUnavailable (workflowId detail : String) (now : Instant) :
    Durable env WorkflowInstance := do
  let workflow ← query workflowId
  save
    { workflow with
      state := .suspended
      version := workflow.version + 1
      assignedWorkerId := none
      failureCode := some "BACKEND_UNAVAILABLE"
      failureMessage := some detail
      updatedAtUtc := now }
    workflow.version "BACKEND_UNAVAILABLE" now
    [("backend", jsonString workflow.backend.value), ("detail", jsonString detail)]

/-- The engine has accepted the workflow. -/
def acknowledge (workflowId operationId : String) (backend : DurableBackendKind)
    (backendRunId : Option String) (now : Instant) : Durable env WorkflowInstance := do
  let refreshed ← query workflowId
  save
    { refreshed with
      version := refreshed.version + 1
      backendRunId := backendRunId
      updatedAtUtc := now }
    refreshed.version "BACKEND_START_ACKNOWLEDGED" now
    [("backend", jsonString backend.value),
      ("backend_run_id", (backendRunId.map jsonString).getD "null"),
      ("operation_id", jsonString operationId)]

/-- The operation that starts a workflow. -/
def startOperation (env : OrchestrationEnv) (workflow : WorkflowInstance)
    (request : WorkflowStartRequest) (workflowName : String) (now : Instant) :
    Except PyError DurableOperation := do
  let operationId ← orchestrationIdentifier env.sha .operation
    [workflow.workflowId, "START_WORKFLOW", request.idempotencyKey]
  let payload : JsonObject :=
    [("workflow_name", jsonString workflowName),
      ("definition_id", jsonString request.definitionId),
      ("input_payload", canonicalJson request.inputPayload)]
  DurableOperation.validate env.sha
    { operationId := operationId
      workflowId := workflow.workflowId
      operationType := "START_WORKFLOW"
      idempotencyKey := request.idempotencyKey
      state := .pending
      payload := payload
      payloadSha256 := canonicalPayloadSha256 env.sha payload
      backend := request.backend
      createdAtUtc := now
      updatedAtUtc := now }

/-- The operation is marked as sent, and the adapter is called. -/
def send (workflowId : String) (backend : DurableBackendKind) (operation : DurableOperation)
    (outcome : AdapterOutcome) (now : Instant) : Durable env WorkflowInstance := do
  let sent : DurableOperation :=
    { operation with
      state := .sent
      attemptCount := operation.attemptCount + 1
      updatedAtUtc := now }
  let _ ← saveOperation sent
  match outcome with
  | .raises error => .raise error
  | .unknownOutcome message =>
    let _ ← saveOperation { sent with state := .unknownOutcome, lastError := some message }
    markRecoveryRequired workflowId "REMOTE_START_OUTCOME_UNKNOWN" message now
  | .unavailable message =>
    let _ ← saveOperation { sent with state := .failed, lastError := some message }
    markBackendUnavailable workflowId message now
  | .receipt backendOperationId backendRunId =>
    let _ ← saveOperation
      { sent with
        state := .acknowledged
        backendOperationId := backendOperationId
        lastError := none }
    acknowledge workflowId sent.operationId backend backendRunId now

variable (workflowName : String) (adapter : Option AdapterOutcome)

/-- The part of `OrchestrationService.start` for a workflow that has no run in its engine. -/
def handOver (workflow : WorkflowInstance) (now : Instant) :
    Durable env WorkflowInstance :=
  match adapter with
  | none => markBackendUnavailable workflow.workflowId "no configured backend adapter" now
  | some outcome => do
      let operation ← Prog.ofExcept (startOperation env workflow request workflowName now)
      let existing ← getOperation operation.operationId
      match existing with
      | some existing =>
        if existing.state.answered then query workflow.workflowId
        else send workflow.workflowId request.backend existing outcome now
      | none =>
        let _ ← saveOperation operation
        send workflow.workflowId request.backend operation outcome now

/-- `OrchestrationService.start`. The adapter is missing, or calling it has the given
outcome. -/
def startService (now : Instant) : Durable env WorkflowInstance := do
  let workflow ← start request now
  if request.backend = .localReference ∨ truthy workflow.backendRunId = true then pure workflow
  else handOver request workflowName adapter workflow now

end Durable

/-! ### Calls -/

/-- The operations of the clients, with their arguments and the time they are made at. -/
inductive RuntimeCall (env : OrchestrationEnv) where
  | start (request : WorkflowStartRequest) (now : Instant)
  | assignWorker (workflowId workerId : String) (fencingEpoch : ℕ) (now : Instant)
  | checkpoint (workflowId : String) (payload : JsonObject) (now : Instant)
  | completeStep (workflowId : String) (result : JsonObject) (now : Instant)
  | failStep (workflowId failureCode failureMessage : String) (retryable : Bool) (now : Instant)
  | waitForSignal (workflowId signalName : String) (now : Instant)
  | waitUntil (workflowId : String) (release now : Instant)
  | signal (signal : WorkflowSignal env.sha) (now : Instant)
  | releaseDueWaits (now : Instant)
  | cancel (workflowId : String) (now : Instant)
  | suspend (workflowId : String) (now : Instant)
  | resume (workflowId : String) (now : Instant)
  | heartbeat (workerId : String) (fencingEpoch : ℕ) (ttlSeconds : ℤ) (now : Instant)
  | recoverStaleWorkers (now : Instant)
  | startService (request : WorkflowStartRequest) (workflowName : String)
      (adapter : Option AdapterOutcome) (now : Instant)

/-- The tables after an operation, whether it returns or raises. -/
def RuntimeCall.step (s : OrchestrationStore env) : RuntimeCall env → OrchestrationStore env
  | start request now => ((Durable.start request now).run StoreCall.exec s).2
  | assignWorker workflowId workerId fencingEpoch now =>
    ((Durable.assignWorker workflowId workerId fencingEpoch now).run StoreCall.exec s).2
  | checkpoint workflowId payload now =>
    ((Durable.checkpoint workflowId payload now).run StoreCall.exec s).2
  | completeStep workflowId result now =>
    ((Durable.completeStep workflowId result now).run StoreCall.exec s).2
  | failStep workflowId failureCode failureMessage retryable now =>
    ((Durable.failStep workflowId failureCode failureMessage retryable now).run StoreCall.exec s).2
  | waitForSignal workflowId signalName now =>
    ((Durable.waitForSignal workflowId signalName now).run StoreCall.exec s).2
  | waitUntil workflowId release now =>
    ((Durable.waitUntil workflowId release now).run StoreCall.exec s).2
  | signal message now => ((Durable.signal message now).run StoreCall.exec s).2
  | releaseDueWaits now => ((Durable.releaseDueWaits now).run StoreCall.exec s).2
  | cancel workflowId now => ((Durable.cancel workflowId now).run StoreCall.exec s).2
  | suspend workflowId now => ((Durable.suspend workflowId now).run StoreCall.exec s).2
  | resume workflowId now => ((Durable.resume workflowId now).run StoreCall.exec s).2
  | heartbeat workerId fencingEpoch ttlSeconds now =>
    ((Durable.heartbeat workerId fencingEpoch ttlSeconds now).run StoreCall.exec s).2
  | recoverStaleWorkers now => ((Durable.recoverStaleWorkers now).run StoreCall.exec s).2
  | startService request workflowName adapter now =>
    ((Durable.startService request workflowName adapter now).run StoreCall.exec s).2

/-! ### A store to run on -/

/-- An environment in which everything can be computed: times are written as numbers, and a
step is tried again after a second. -/
def plainEnv : OrchestrationEnv where
  sha := .polynomial
  isoformat now := toString now
  jsonTime now := toString now
  backoffMicros _ _ := 1000000

def deployDefinition : WorkflowDefinition plainEnv.sha where
  definitionId := ((orchestrationIdentifier .polynomial .workflowDefinition
    ["deploy", "1"]).toOption).getD ""
  workflowName := "deploy"
  version := "1"
  steps := [{ stepId := "apply" }]
  definitionId_valid := by decide +kernel
  steps_ne_nil := by simp
  steps_nodup := by simp

def deployStore : OrchestrationStore plainEnv where
  definitions := ⟨[deployDefinition], by simp⟩

/-- The request to start the workflow with an engine. -/
def deployRequest (backend : DurableBackendKind) : WorkflowStartRequest where
  definitionId := deployDefinition.definitionId
  idempotencyKey := "deploy-1"
  backend := backend
  idempotencyKey_valid := by decide

def deployWorkflowId : String :=
  ((orchestrationIdentifier .polynomial .workflow
    [deployDefinition.definitionId, "deploy-1"]).toOption).getD ""

def goSignal : WorkflowSignal plainEnv.sha where
  signalId := ((orchestrationIdentifier .polynomial .signal
    [deployWorkflowId, "go", "go-1"]).toOption).getD ""
  workflowId := deployWorkflowId
  signalName := "go"
  idempotencyKey := "go-1"
  observedAtUtc := 2
  signalName_valid := by decide +kernel
  idempotencyKey_valid := by decide
  signalId_valid := by decide +kernel

end ProjectPipeline
