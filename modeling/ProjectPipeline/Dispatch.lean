import ProjectPipeline.FleetExceptions
import ProjectPipeline.Machines

/-!
# The Dispatch Workflow

`DispatchWorkflow.dispatch` selects a machine, takes leases on its resources, stores the intent
of the job, launches the job through the adapter and has its result accepted. The leases are
released in a `finally` block, if the call has ended with `ACCEPTED` or `REJECTED`; a call that
raises, and one that does not know what became of the job, keeps them.

What the surroundings answer (the admission record, the context pack, the file system, the
adapter, the journal) is data of the call. The jobs are kept in a `FleetJobStore`, which a call
uses in the monad `JobM`; its state notes whether `claim_launch` has succeeded.
-/

namespace ProjectPipeline

/-! ### Sessions with the job store -/

/-- The job store as one call uses it, and the variable `claimed` of `execute`. -/
structure JobSession where
  jobs : FleetConnection
  claimed : Bool := false

/-- Code that uses the job store and may raise. -/
abbrev JobM := ExceptT PyError (StateM JobSession)

namespace JobM

def call {α : Type} (attempt : FleetAttempt α) : JobM α := ExceptT.mk fun session =>
  ((session.jobs.run attempt).1, { session with jobs := (session.jobs.run attempt).2 })

def tables : JobM FleetDb := ExceptT.mk fun session =>
  (.ok (session.jobs.working.getD session.jobs.committed), session)

/-- `claimed = True`. -/
def claim : JobM Unit := ExceptT.mk fun session => (.ok (), { session with claimed := true })

/-- What does not use the job store. -/
def lift {α : Type} (result : Except PyError α) : JobM α := ExceptT.mk fun session =>
  (result, session)

end JobM

/-! ### Arguments -/

/-- What the checks of `execute` between the claim of the launch and the adapter find: the
workspace and the resource limits. -/
inductive Preparation where
  | ready
  | refused (reason : String)
  | raised (error : PyError)

/-- What `adapter.execute` does. -/
inductive Execution where
  | resourceLimit (reason : String)
  | typeError
  | osError
  | raised (error : PyError)
  | finished (payload : JsonDict)

/-- The adapter, with what it answers. The receipt is what the payload of the job, or the
metrics in its output, say about the context. -/
structure Worker where
  remoteWorker : Bool := false
  remoteHost : Bool := false
  machineId : Option String := none
  consumption : Except PyError JsonDict := .ok []
  preparation : Preparation := .ready
  execution : Execution
  receipt : Option JsonDict := none

/-- The points at which files are written and the journal is published. -/
inductive DispatchStage where
  | grant | stored | ended | running | answered
  deriving DecidableEq

/-- The arguments of `dispatch`, and what the surroundings answer. -/
structure DispatchCall where
  taskId : String
  holderId : String
  argv : List String := []
  workspace : String := ""
  workspaceRoot : String := ""
  principal : String := ""
  now : Instant
  requireAvx2 : Bool := false
  requireModernCuda : Bool := false
  cpu : ℤ := 1
  memoryMb : ℤ := 256
  outputContractSha256 : Option String := none
  machineId : Option String := none
  admissionFailures : Option (List String) := none
  selection : Except String (List String) := .ok []
  pack : Option (JsonDict × String)
  inputSha256 : String
  workspaceIsDir : Bool := false
  stage : DispatchStage → Except PyError Unit := fun _ => .ok ()
  worker : Worker
  artifact : Option (List UInt8) := none
  acceptNow : Instant
  external : String → Option FleetLease := fun _ => none

structure Workflow where
  env : FleetEnv
  sha : Sha256
  isoformat : Instant → String
  argvConfined : List String → Bool
  caseCounts : List UInt8 → ℕ × ℕ × ℕ
  profiles : List MachineProfile
  sourceSha : String
  sourceTree : String
  overlaySha256 : String

/-! ### Answers -/

inductive DispatchOutcome where
  | accepted | rejected | unknownOutcome
  deriving DecidableEq, Repr

/-- The answer of a dispatch. `placed` are its `host_id`, `lease_id` and `fence`. -/
structure DispatchReply where
  outcome : DispatchOutcome
  reason : Option String := none
  failures : List String := []
  denials : List String := []
  lifecycle : Option String := none
  placed : Option (String × String × String) := none
  duplicate : Option Bool := none
  deriving DecidableEq

/-- A rejection with its reason, of a job that has a place. -/
def DispatchReply.rejected (placed : String × String × String) (reason : String) :
    DispatchReply where
  outcome := .rejected
  reason := some reason
  lifecycle := some "REJECTED"
  placed := some placed

inductive Executed where
  | executed (result : JsonDict)
  | ended (outcome : DispatchOutcome) (reason : String)

/-! ### Envelopes -/

/-- The errors of a text that must have 40 characters. -/
def fortyErrors (field text : String) : List (String × String) :=
  if text.length < 40 then [(field, "String should have at least 40 characters")]
  else if 40 < text.length then [(field, "String should have at most 40 characters")]
  else []

/-- The errors of a number that must be positive. -/
def positiveErrors (field : String) (value : ℤ) : List (String × String) :=
  if value < 1 then [(field, "Input should be greater than or equal to 1")] else []

def optionalText : Option String → JsonValue
  | some text => .str text
  | none => .null

section Envelope

variable (w : Workflow) (call : DispatchCall) (chosen : MachineProfile) (leaseId fence : String)

def leaseGrant : JsonDict :=
  [("lease_id", .str leaseId), ("fence", .str fence), ("job_id", .str call.taskId),
    ("host_id", .str chosen.machineId), ("status", .str "ACTIVE"),
    ("source_sha", .str w.sourceSha), ("source_tree", .str w.sourceTree),
    ("overlay_sha256", .str w.overlaySha256)]

/-- `principal or chosen.principal`. -/
def jobPrincipal : String := if call.principal = "" then chosen.principal else call.principal

/-- What the constructor of `RemoteJobEnvelope` rejects. -/
def envelopeErrors : List (String × String) :=
  fortyErrors "source_sha" w.sourceSha ++ fortyErrors "source_tree" w.sourceTree ++
    positiveErrors "cpu_ceiling" call.cpu ++ positiveErrors "memory_mb_ceiling" call.memoryMb

/-- `RemoteJobEnvelope(...).model_dump(mode="json")`. -/
def jobEnvelope (selection : List String) (pack : JsonDict) (packSha256 : String)
    (deadline : Instant) : Except PyError JsonDict :=
  if envelopeErrors w call = [] then
    .ok
      [("schema_version", .str "1.0.0"), ("job_id", .str call.taskId),
        ("host_id", .str chosen.machineId), ("profile_id", .str chosen.role),
        ("principal", .str (jobPrincipal call chosen)), ("lease_id", .str leaseId),
        ("fence", .str fence), ("source_sha", .str w.sourceSha),
        ("source_tree", .str w.sourceTree), ("overlay_sha256", .str w.overlaySha256),
        ("input_sha256", .str call.inputSha256), ("argv", .arr (call.argv.map .str)),
        ("workspace", .str call.workspace), ("deadline_utc", .str (w.isoformat deadline)),
        ("cpu_ceiling", .int call.cpu), ("memory_mb_ceiling", .int call.memoryMb),
        ("correlation_id", .str call.holderId), ("workspace_root", .str call.workspaceRoot),
        ("output_contract_sha256", optionalText call.outputContractSha256),
        ("context_pack", .obj pack), ("pack_sha256", .str packSha256),
        ("require_context_consumption", .bool true),
        ("test_selection", .arr (selection.map .str)),
        ("lease_grant", .obj (leaseGrant w call chosen leaseId fence)),
        ("project_id", .str "PROJECT-PIPELINE"), ("effect_class", .str "IDEMPOTENT_RESULT")]
  else .error (.validationError "RemoteJobEnvelope" (envelopeErrors w call))

end Envelope

/-! ### execute and accept -/

/-- `_authority_failures` of the controller that `dispatch` makes. It expects the workflow's
source, tree and overlay and the principal of the envelope itself, so only the intent and the
command can fail. -/
def authorityFailures (w : Workflow) (call : DispatchCall) (envelope : JsonDict)
    (leaseId fence : String) (db : FleetDb) : List String :=
  (match db.intents.find? call.taskId with
    | none => ["intent_missing"]
    | some intent =>
      if !(intent.payload.pop "status").pyEq (envelope.pop "status") then ["conflicting_intent"]
      else if (intent.payload.get "lease_id").toText w.env.text ≠ leaseId then ["lease_mismatch"]
      else if (intent.payload.get "fence").toText w.env.text ≠ fence then ["fence_mismatch"]
      else []) ++
  (if !w.argvConfined call.argv then ["argv_not_confined"] else []) ++
  (if containsSecretShaped w.env (.arr (call.argv.map .str)) ||
      containsSecretShaped w.env (.str call.workspace) then ["secret_in_argv"] else [])

/-- `RemoteJobResult(...).model_dump(mode="json")` of a payload. -/
def jobResult (w : Workflow) (jobId hostId fence : String) (payload : JsonDict) :
    Except PyError JsonDict := do
  let exitCode ← (← payload.getItem "exit_code").toInt w.env.text
  let stdoutSha256 ← payload.getItemText w.env.text "stdout_sha256"
  let stderrSha256 ← payload.getItemText w.env.text "stderr_sha256"
  let outputSha256 ← payload.getItemText w.env.text "payload_sha256"
  pure
    [("schema_version", .str "1.0.0"), ("job_id", .str jobId), ("host_id", .str hostId),
      ("fence", .str fence), ("exit_code", .int exitCode), ("stdout_sha256", .str stdoutSha256),
      ("stderr_sha256", .str stderrSha256), ("output_sha256", .str outputSha256),
      ("accepted_at_utc", .null)]

section Execute

variable (w : Workflow) (call : DispatchCall) (chosen : MachineProfile)

/-- `str(adapter_host or envelope.host_id)`. -/
def resultHost : String :=
  if truthy call.worker.machineId then call.worker.machineId.getD "" else chosen.machineId

/-- A launch whose outcome is not known. -/
def uncertain (reason : String) : JobM Executed := do
  let _ ← JobM.call (markStatus call.taskId .unknownOutcome)
  return .ended .unknownOutcome reason

/-- The end of a launch that did not happen: `release_unlaunched` in the `finally` block. -/
def unlaunched (result : Except PyError Executed) : JobM Executed := do
  let _ ← JobM.call (releaseUnlaunched call.taskId)
  JobM.lift result

/-- `execute` from where the launch has been claimed. -/
def launch (fence : String) : JobM Executed := do
  if call.worker.remoteHost = true ∧ call.worker.machineId ≠ some chosen.machineId then
    unlaunched call (.ok (.ended .rejected "wrong_host"))
  else
    match call.worker.preparation with
    | .refused reason => unlaunched call (.ok (.ended .rejected reason))
    | .raised error => unlaunched call (.error error)
    | .ready =>
      match call.worker.execution with
      | .resourceLimit reason => unlaunched call (.ok (.ended .rejected reason))
      | .typeError => uncertain call "adapter_execute_contract_error"
      | .osError => uncertain call "transport_uncertain"
      | .raised error => JobM.lift (.error error)
      | .finished payload =>
        if (payload.get "timed_out").truthy then uncertain call "lost_acknowledgement"
        else do
          let _ ← JobM.call (markStatus call.taskId .running)
          let result ← JobM.lift
            (jobResult w call.taskId (resultHost call chosen) fence payload)
          return .executed result

/-- `RemoteJobController.execute`. -/
def execute (envelope : JsonDict) (leaseId fence : String) (deadline : Instant) :
    JobM Executed := do
  let db ← JobM.tables
  if db.fenceExpired fence then return .ended .rejected "expired_fence"
  if deadline < call.now then return .ended .unknownOutcome "deadline_elapsed"
  match authorityFailures w call envelope leaseId fence db with
  | reason :: _ => return .ended .rejected reason
  | [] =>
    if (db.results.find? call.taskId).isSome then return .ended .rejected "already_accepted"
    let claimed ← JobM.call (claimLaunch w.env envelope)
    if claimed.ok then do
      JobM.claim
      launch w call chosen fence
    else
      let reason := claimed.reason.getD "intent_missing"
      if reason = "unresolved_in_flight" then return .ended .unknownOutcome reason
      else return .ended .rejected reason

/-- `RemoteJobController.accept`. -/
def accept (envelope result : JsonDict) (consumed : Option JsonDict) : JobM FleetReply :=
  if result.getText w.env.text "host_id" ≠ chosen.machineId then return .refused "wrong_host"
  else
    JobM.call (acceptResult w.env
      { result := result
        now := call.acceptNow
        envelope := some envelope
        artifactBytes := call.artifact
        contextConsumption := consumed
        external := call.external })

end Execute

/-! ### dispatch -/

section Dispatch

variable (w : Workflow) (call : DispatchCall)

/-- The collected, failed and skipped cases of the artifact. -/
def artifactCounts : ℕ × ℕ × ℕ :=
  match call.artifact with
  | none | some [] => (0, 0, 0)
  | some bytes => w.caseCounts bytes

section

variable (chosen : MachineProfile)

variable (placed : String × String × String)

/-- `_dispatch_with_bundle` from where the job was executed. -/
def acceptExecuted (envelope result : JsonDict)
    (consumed : Option JsonDict) : JobM DispatchReply := do
  JobM.lift (call.stage .running)
  let (collected, failed, skipped) := artifactCounts w call
  if call.artifact.isNone then return .rejected placed "artifact_bytes_required"
  else if collected < 1 ∨ failed ≠ 0 ∨ skipped ≠ 0 then
    return .rejected placed "native_tests_unproven"
  else
    let accepted ← accept w call chosen envelope result (consumed.or call.worker.receipt)
    JobM.lift (call.stage .answered)
    pure
      { outcome := if accepted.ok then .accepted else .rejected
        reason := accepted.reason
        lifecycle := some (if accepted.ok then "ACCEPTED" else accepted.reason.getD "None")
        placed := some placed
        duplicate := accepted.duplicate }

/-- `_dispatch_with_bundle` from where the intent was stored. -/
def executeStored (envelope : JsonDict) (deadline : Instant) : JobM DispatchReply := do
  JobM.lift (call.stage .stored)
  let consumed ←
    if call.workspaceIsDir && !call.worker.remoteWorker then
      some <$> JobM.lift call.worker.consumption
    else pure none
  match consumed.filter fun receipt => !(receipt.get "ok").truthy with
  | some receipt =>
    let reason := receipt.get "reason"
    return .rejected placed (if reason.truthy then reason.toText w.env.text else "pack_unconsumed")
  | none =>
    match ← execute w call chosen envelope placed.2.1 placed.2.2 deadline with
    | .ended outcome reason =>
      JobM.lift (call.stage .ended)
      pure
        { outcome := outcome
          reason := some reason
          lifecycle := some (if outcome = .unknownOutcome then "UNKNOWN_OUTCOME" else "REJECTED")
          placed := some placed }
    | .executed result => acceptExecuted w call chosen placed envelope result consumed

/-- `_dispatch_with_bundle`, with the first lease of the bundle. -/
def dispatchWithBundle (lease : ResourceLease) :
    JobM DispatchReply := do
  let fence := toString lease.fencingToken
  let placed := (chosen.machineId, lease.leaseId, fence)
  match call.selection, call.pack with
  | .error reason, _ => return .rejected placed reason
  | .ok _, none => return .rejected placed "context_pack_compile_failed"
  | .ok selection, some (pack, packSha256) =>
    if pack.isEmpty ∨ packSha256.length ≠ 64 then
      return .rejected placed "context_pack_compile_failed"
    else
      let deadline ← JobM.lift (addSeconds call.now 900)
      let envelope ← JobM.lift
        (jobEnvelope w call chosen lease.leaseId fence selection pack packSha256 deadline)
      JobM.lift (call.stage .grant)
      let intent ← JobM.call (persistIntent w.env envelope call.now)
      if !intent.ok then
        return { outcome := .rejected, reason := intent.reason, lifecycle := some "REJECTED" }
      else executeStored w call chosen placed envelope deadline

/-- The loop of the `finally` block. -/
def releaseLeases (holderId : String) (now : Instant) :
    List ResourceLease → SchedulerStore → Except PyError Unit × SchedulerStore
  | [], s => (.ok (), s)
  | lease :: leases, s =>
    match s.releaseLease ⟨lease.leaseId, holderId, lease.fencingToken, now⟩ with
    | (.error error, s') => (.error error, s')
    | (.ok _, s') => releaseLeases holderId now leases s'

/-- The end of a dispatch: its result, the stores, and the leases under which it has launched
the job. -/
structure DispatchEnd where
  result : Except PyError DispatchReply
  scheduler : SchedulerStore
  jobs : FleetConnection
  launched : List ResourceLease := []

/-- `dispatch` from where the bundle was acquired. -/
def dispatchAcquired (bundle : LeaseBundle) (s : SchedulerStore)
    (jobs : FleetConnection) : DispatchEnd :=
  match bundle.leases with
  | [] => ⟨.error (.raised "IndexError" "tuple index out of range"), s, jobs, []⟩
  | lease :: _ =>
    let (result, session) := (dispatchWithBundle w call chosen lease).run.run { jobs := jobs }
    let launched := if session.claimed then bundle.leases else []
    match result with
    | .error error => ⟨.error error, s, session.jobs, launched⟩
    | .ok reply =>
      if reply.outcome = .unknownOutcome then ⟨.ok reply, s, session.jobs, launched⟩
      else
        match releaseLeases call.holderId call.now bundle.leases s with
        | (.ok _, s') => ⟨.ok reply, s', session.jobs, launched⟩
        | (.error error, s') => ⟨.error error, s', session.jobs, launched⟩

/-- `dispatch` on the selected machine. -/
def dispatchTo (denials : List String) (s : SchedulerStore)
    (jobs : FleetConnection) : DispatchEnd :=
  match call.admissionFailures with
  | some failures =>
    ⟨.ok { outcome := .rejected, reason := some "admission_denied", failures := failures,
           denials := denials }, s, jobs, []⟩
  | none =>
    let s := s.ensureMachinePools chosen.physicalPools
    match physicalClaimsForMachine chosen.machineId call.cpu call.memoryMb with
    | .error error => ⟨.error error, s, jobs, []⟩
    | .ok claims =>
      match s.acquireBundle w.sha
          { taskId := call.taskId, holderId := call.holderId, claims := claims,
            now := call.now } with
      | (.error error, s') => ⟨.error error, s', jobs, []⟩
      | (.ok bundle, s') =>
        if bundle.acquired then dispatchAcquired w call chosen bundle s' jobs
        else
          ⟨.ok { outcome := .rejected, reason := some "lease_denied",
                 failures := bundle.reasons }, s', jobs, []⟩

end

def candidates : List MachineProfile :=
  if truthy call.machineId then
    w.profiles.filter fun profile => some profile.machineId = call.machineId
  else w.profiles

/-- `DispatchWorkflow.dispatch`. -/
def dispatch (s : SchedulerStore) (jobs : FleetConnection) : DispatchEnd :=
  if truthy call.machineId && (candidates w call).isEmpty then
    ⟨.ok { outcome := .rejected, reason := some "unknown_machine",
           denials := ["unknown_machine:" ++ call.machineId.getD ""] }, s, jobs, []⟩
  else
    match selectTarget (candidates w call) call.now call.requireAvx2 call.requireModernCuda with
    | (none, denials) =>
      ⟨.ok { outcome := .rejected, reason := some "no_eligible_host", denials := denials },
        s, jobs, []⟩
    | (some chosen, denials) => dispatchTo w call chosen denials s jobs

end Dispatch

end ProjectPipeline
