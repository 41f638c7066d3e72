import ProjectPipeline.Backpressure
import ProjectPipeline.Registry

/-!
# The Lane Planner

`DynamicLaneScheduler.plan` (`scheduler/engine.py`) with the functions it calls: the
conflict graph (`scheduler/conflicts.py`), the admission of a task against the registry
(`scheduler/resources.py`) and the collision check of owned paths
(`lifecycle/takeover.py`). From the ready work of a control snapshot the planner admits
candidates one by one and then selects lanes among them, by exhaustive search when there
are few, by an external CP-SAT optimizer when it is available, and greedily otherwise.

The optimizer is outside of the program: its answer is an input. So is the floating point
product that scales the number of lanes. Dictionaries that are only looked up are functions.
-/

namespace ProjectPipeline

open Regex

/-! ### Inputs -/

/-- `CONTROL_ID`, for control snapshots. -/
def controlIdPattern : RegularExpression Char :=
  (literal "CTRL" + literal "SEQ" + literal "SCOPE" + literal "COMPLETE") * literal "-" *
    times upperHexClass 20

/-- The parts of a control snapshot that the planner reads; `readyWork` lists the tasks of
`sequence.ordered_ready_work`. -/
structure ControlSnapshot where
  snapshotId : String
  projectId : String
  readyWork : List String
  snapshotId_valid : fullmatch controlIdPattern snapshotId = true ∧
    startsWith snapshotId "CTRL-" = true
  projectId_valid : fullmatch IdentifierKind.project.pattern projectId = true

/-- What makes two claims of one task duplicates. -/
def ResourceClaim.identity (claim : ResourceClaim) : String × String × String :=
  (claim.resourceType.value, claim.resourceKey, claim.accessMode.value)

/-- A task as the planner sees it. -/
structure SchedulerTaskProfile where
  taskId : String
  sequenceRank : ℕ
  utilityScore : ℕ
  claims : List ResourceClaim := []
  workspaceIsolated : Bool := true
  policyEligible : Bool := true
  taskId_valid : fullmatch IdentifierKind.issue.pattern taskId = true
  rank_valid : 1 ≤ sequenceRank
  claims_valid : (claims.map ResourceClaim.identity).Nodup

/-- The external optimizer: whether it is available, and the task identifiers that it selects
or `none` for an `OrToolsOptimizerError`. -/
structure OptimizerAnswer where
  available : Bool
  selected : Option (List String)

/-- What the planner uses of its environment: the digest function, and the floor of the
float product of the lane count and the lane fraction. -/
structure PlannerEnv where
  sha : Sha256
  floorProduct : ℕ → ℚ → ℕ

/-- The arguments of `plan`, with the settings of the scheduler. -/
structure PlanInput where
  control : ControlSnapshot
  profiles : List SchedulerTaskProfile
  registry : ResourceRegistrySnapshot
  signals : Option BackpressureSignals := none
  backpressurePolicy : Option BackpressurePolicy := none
  maxLanes : Option ℤ := none
  now : Instant
  exactCandidateLimit : ℕ := 18
  optimizer : OptimizerAnswer
  exactCandidateLimit_pos : 1 ≤ exactCandidateLimit := by decide

/-! ### The conflict graph -/

/-- An edge of the conflict graph, with the conflicts that make it. -/
structure ConflictEdge where
  leftTaskId : String
  rightTaskId : String
  reasons : List String
  deriving DecidableEq

def conflictReason (left right : ResourceClaim) : String :=
  left.resourceType.value ++ ":" ++ left.resourceKey ++ ":" ++ left.accessMode.value ++ "/" ++
    right.accessMode.value

variable (left right : SchedulerTaskProfile)

def conflictReasons : List String :=
  sortedSet (left.claims.flatMap fun leftClaim =>
    (right.claims.filter leftClaim.conflictsWith).map (conflictReason leftClaim))

/-- The edge of two tasks, if they conflict. -/
def conflictEdge : Option ConflictEdge :=
  let reasons := conflictReasons left right
  if reasons.isEmpty then none
  else if textLe left.taskId right.taskId then
    some { leftTaskId := left.taskId, rightTaskId := right.taskId, reasons := reasons }
  else some { leftTaskId := right.taskId, rightTaskId := left.taskId, reasons := reasons }

def conflictEdges : List SchedulerTaskProfile → List ConflictEdge
  | [] => []
  | left :: rest => rest.filterMap (conflictEdge left) ++ conflictEdges rest

/-- Edges by their task identifiers. -/
def ConflictEdge.le (a b : ConflictEdge) : Bool :=
  textLt a.leftTaskId b.leftTaskId ||
    (a.leftTaskId == b.leftTaskId && textLe a.rightTaskId b.rightTaskId)

/-- `build_conflict_graph`: the edges, or an error for repeated tasks. -/
def buildConflictGraph (profiles : List SchedulerTaskProfile) :
    Except PyError (List ConflictEdge) :=
  let ordered := profiles.insertionSort fun a b => textLe a.taskId b.taskId
  if (ordered.map SchedulerTaskProfile.taskId).Nodup then
    .ok ((conflictEdges ordered).insertionSort fun a b => ConflictEdge.le a b)
  else .error (.raised "SchedulerConflictError"
    "scheduler profiles contain duplicate task identifiers")

/-- `graph.has_edge`. -/
def hasEdge (edges : List ConflictEdge) (a b : String) : Bool :=
  edges.any fun edge =>
    (edge.leftTaskId == a && edge.rightTaskId == b) ||
      (edge.leftTaskId == b && edge.rightTaskId == a)

/-- `graph.neighbors`. -/
def neighbors (edges : List ConflictEdge) (taskId : String) : List String :=
  edges.filterMap fun edge =>
    if edge.leftTaskId == taskId then some edge.rightTaskId
    else if edge.rightTaskId == taskId then some edge.leftTaskId
    else none

/-! ### Admission against the registry -/

/-- `PHYSICAL_RESOURCE_TYPES`. -/
def ResourceType.isPhysical : ResourceType → Bool
  | cpuSlot | memoryMb | diskMb | processSlot | gpu | gpuMemoryMb => true
  | _ => false

namespace ResourceRegistrySnapshot

def poolOf (registry : ResourceRegistrySnapshot) (resourceKey : String) : Option ResourcePool :=
  registry.pools.find? fun pool => pool.resourceKey = resourceKey

variable (registry : ResourceRegistrySnapshot) (when : Instant)

/-- `active_leases`. -/
def leasesAt : List ResourceLease :=
  registry.activeLeases.filter fun lease => lease.activeAt when

/-- `capacity_usage`, as the lookup `usage.get(key, 0)`. -/
def capacityUsage (resourceKey : String) :
    ℕ :=
  SchedulerStore.usedUnits resourceKey (registry.leasesAt when)

/-- The reasons of `admission_reasons` against one claim. -/
def claimReasons (claim : ResourceClaim) :
    List String :=
  match registry.poolOf claim.resourceKey with
  | none =>
    if claim.resourceType.isPhysical then ["unregistered_pool:" ++ claim.resourceKey]
    else ((registry.leasesAt when).filter fun lease => claim.conflictsWith lease.claim).map
      fun lease => "lease:" ++ claim.resourceKey ++ ":held_by:" ++ lease.holderId
  | some pool =>
    if truthy claim.machineId && truthy pool.machineId && claim.machineId != pool.machineId then
      ["wrong_machine:" ++ claim.machineId.getD "" ++ "!=" ++ pool.machineId.getD ""]
    else
      let usage := registry.capacityUsage when claim.resourceKey
      if pool.allocatableUnits < usage + claim.quantity then
        ["capacity:" ++ claim.resourceKey ++ ":" ++ toString claim.quantity ++ ">" ++
          toString (pool.allocatableUnits - usage)]
      else []

def admissionReasons (claims : List ResourceClaim) : List String :=
  sortedSet (claims.flatMap (registry.claimReasons when))

end ResourceRegistrySnapshot

def pp327BlockedPaths : List String :=
  ["jira/tasks/PP-TASK-000327.json", "src/project_pipeline/domain/state.py",
    "src/project_pipeline/jira_steward/reconciliation.py", "tests/test_domain_models.py",
    "tests/test_jira_steward_domain.py"]

def pp327Collision (paths : List String) : Bool :=
  paths.any fun path =>
    pp327BlockedPaths.contains (stripBy (· == '/') (replaceChar '\\' '/' path))

def claimIsAdmissible (paths : List String) : Bool := !pp327Collision paths

inductive AdmissionState where
  | admitted | conflict | capacityExhausted | leaseUnavailable | backpressure | policyDenied
  | workspaceUnsafe
  deriving DecidableEq, Repr

structure AdmissionDecision where
  taskId : String
  state : AdmissionState
  admitted : Bool
  reasons : List String := []
  deriving DecidableEq

/-- The decision of the admission loop about a candidate, or `none` when it stays in the
running. -/
def preAdmission (decision : BackpressureDecision) (registry : ResourceRegistrySnapshot)
    (now : Instant) (candidate : SchedulerTaskProfile) : Option AdmissionDecision :=
  let reject (state : AdmissionState) (reasons : List String) : Option AdmissionDecision :=
    some { taskId := candidate.taskId, state := state, admitted := false, reasons := reasons }
  let pathClaims := (candidate.claims.filter fun claim => claim.resourceType = .path).map
    ResourceClaim.resourceKey
  let reasons := registry.admissionReasons now candidate.claims
  if !decision.admitNewWork then
    reject .backpressure ["backpressure:" ++ decision.mode.value]
  else if !candidate.policyEligible then reject .policyDenied ["policy_denied"]
  else if !candidate.workspaceIsolated then reject .workspaceUnsafe ["workspace_not_isolated"]
  else if !pathClaims.isEmpty && !claimIsAdmissible pathClaims then
    reject .policyDenied ["pp327_owned_path_collision"]
  else if !reasons.isEmpty then
    reject (if reasons.any (startsWith · "capacity:") then .capacityExhausted
      else .leaseUnavailable) reasons
  else none

/-! ### Selection -/

/-- The order of lanes: `(sequence_rank, task_id)`. -/
def SchedulerTaskProfile.rankLe (a b : SchedulerTaskProfile) : Bool :=
  a.sequenceRank < b.sequenceRank || (a.sequenceRank == b.sequenceRank && textLe a.taskId b.taskId)

/-- The greedy order: `(-utility_score, sequence_rank, task_id)`. -/
def SchedulerTaskProfile.utilityLe (a b : SchedulerTaskProfile) : Bool :=
  b.utilityScore < a.utilityScore || (a.utilityScore == b.utilityScore && a.rankLe b)

/-- What the selectors are given. -/
structure SelectionContext where
  edges : List ConflictEdge
  poolOf : String → Option ResourcePool
  baseUsage : String → ℕ
  laneLimit : ℕ

namespace SelectionContext

variable (ctx : SelectionContext)

/-- The capacity of a key, if it has a pool. -/
def cap (resourceKey : String) : Option ℕ :=
  (ctx.poolOf resourceKey).map ResourcePool.allocatableUnits

/-- The usage loops of `_selection_is_valid` and `_exact_select`: charge the claims of the
selected tasks one after another. -/
def chargeAll (selected : List SchedulerTaskProfile) :
    Option (String → ℕ) :=
  Packing.charge ResourceClaim.resourceKey ResourceClaim.quantity ctx.cap ctx.baseUsage
    (selected.flatMap SchedulerTaskProfile.claims)

/-- Some two of the tasks are adjacent. -/
def hasConflict (ctx : SelectionContext) : List SchedulerTaskProfile → Bool
  | [] => false
  | a :: rest => rest.any (fun b => hasEdge ctx.edges a.taskId b.taskId) || ctx.hasConflict rest

variable (candidate : SchedulerTaskProfile) (selected : List SchedulerTaskProfile)

def compatible : Bool :=
  selected.all fun item => !hasEdge ctx.edges candidate.taskId item.taskId

/-- `_fits_capacity`: each claim of the candidate is checked on its own, next to the usage
of the selected tasks that `add_claim_usage` accumulates. -/
def fitsCapacity : Bool :=
  candidate.claims.all fun claim =>
    match ctx.poolOf claim.resourceKey with
    | none => true
    | some pool =>
      ctx.baseUsage claim.resourceKey +
        claimedUnits (selected.flatMap SchedulerTaskProfile.claims) claim.resourceKey +
          claim.quantity ≤ pool.allocatableUnits

def selectionIsValid (selected : List SchedulerTaskProfile) : Bool :=
  selected.length ≤ ctx.laneLimit && !ctx.hasConflict selected && (ctx.chargeAll selected).isSome

/-- `itertools.combinations`. -/
def combinations {α : Type} : ℕ → List α → List (List α)
  | 0, _ => [[]]
  | _ + 1, [] => []
  | size + 1, a :: rest => (combinations size rest).map (a :: ·) ++ combinations (size + 1) rest

/-- The key that the exhaustive search maximizes. -/
def comboKey (combo : List SchedulerTaskProfile) : ℕ × ℕ × List String :=
  ((combo.map SchedulerTaskProfile.utilityScore).sum, combo.length,
    (combo.map SchedulerTaskProfile.taskId).reverse)

/-- Lexicographic comparison of keys. -/
def keyLt (a b : ℕ × ℕ × List String) : Bool :=
  a.1 < b.1 || (a.1 == b.1 && (a.2.1 < b.2.1 || (a.2.1 == b.2.1 && textsLt a.2.2 b.2.2)))

/-- Keep the better of the best combination so far and the next one, if that is valid. -/
def better (best : Option (List SchedulerTaskProfile))
    (combo : List SchedulerTaskProfile) : Option (List SchedulerTaskProfile) :=
  if ctx.hasConflict combo || (ctx.chargeAll combo).isNone then best
  else
    match best with
    | none => some combo
    | some old => if keyLt (comboKey old) (comboKey combo) then some combo else some old

variable (candidates : List SchedulerTaskProfile)

/-- `_exact_select`: the best valid combination of at most `lane_limit` candidates. -/
def exactSelect :
    List SchedulerTaskProfile :=
  let ordered := candidates.insertionSort fun a b => a.rankLe b
  let sizes := List.range' 1 (min ctx.laneLimit ordered.length)
  ((sizes.flatMap fun size => combinations size ordered).foldl ctx.better none).getD []

/-- The loop of `_greedy_select`. -/
def greedyLoop (ctx : SelectionContext) :
    List SchedulerTaskProfile → List SchedulerTaskProfile → List SchedulerTaskProfile
  | [], selected => selected
  | candidate :: rest, selected =>
    if ctx.laneLimit ≤ selected.length then selected
    else if ctx.compatible candidate selected && ctx.fitsCapacity candidate selected then
      ctx.greedyLoop rest (selected ++ [candidate])
    else ctx.greedyLoop rest selected

def greedySelect :
    List SchedulerTaskProfile :=
  ctx.greedyLoop (candidates.insertionSort fun a b => a.utilityLe b) []

end SelectionContext

/-! ### The plan -/

inductive SelectionMethod where
  | exactBounded | deterministicGreedy | ortoolsCpSat
  deriving DecidableEq, Repr

structure LaneAssignment where
  laneId : String
  taskId : String
  rank : ℕ
  utilityScore : ℕ
  claims : List ResourceClaim
  laneId_valid : isSchedulerId .lane laneId = true
  taskId_valid : fullmatch IdentifierKind.issue.pattern taskId = true
  rank_valid : 1 ≤ rank

/-- A plan, as its constructor accepts it. -/
structure SchedulerPlan where
  planId : String
  projectId : String
  controlSnapshotId : String
  registryId : String
  backpressure : BackpressureDecision
  selectionMethod : SelectionMethod
  candidateCount : ℕ
  laneLimit : ℕ
  lanes : List LaneAssignment
  conflicts : List ConflictEdge
  admissions : List AdmissionDecision
  generatedAtUtc : Instant
  planId_valid : isSchedulerId .sched planId = true
  projectId_valid : fullmatch IdentifierKind.project.pattern projectId = true
  registryId_valid : fullmatch registryIdPattern registryId = true
  lanes_nodup : (lanes.map LaneAssignment.taskId).Nodup
  lanes_within : lanes.length ≤ laneLimit

namespace PlanInput

variable (input : PlanInput)

/-- `profile_by_id`: of several profiles of a task the last one counts. -/
def profileById (taskId : String) : Option SchedulerTaskProfile :=
  input.profiles.reverse.find? fun profile => profile.taskId = taskId

/-- The ready tasks that have a profile. -/
def candidates : List SchedulerTaskProfile :=
  input.control.readyWork.filterMap input.profileById

/-- The backpressure; without signals only the queue is known. -/
def decision : BackpressureDecision :=
  evaluateBackpressure
    (input.signals.getD { queueDepth := input.candidates.length })
    (input.backpressurePolicy.getD {})

def naturalLimit : ℕ :=
  match input.maxLanes with
  | none => input.candidates.length
  | some maxLanes => (max 0 (min maxLanes input.candidates.length)).toNat

def laneLimit (env : PlannerEnv) : ℕ :=
  let scaled := min input.naturalLimit
    (env.floorProduct input.naturalLimit input.decision.laneFraction)
  if 0 < input.naturalLimit && input.decision.admitNewWork && 0 < input.decision.laneFraction &&
      scaled == 0 then 1
  else scaled

/-- `prelim`: the candidates that the admission loop keeps. -/
def prelim : List SchedulerTaskProfile :=
  input.candidates.filter fun candidate =>
    (preAdmission input.decision input.registry input.now candidate).isNone

/-- What the selectors of this run are given. -/
def context (env : PlannerEnv) (edges : List ConflictEdge) :
    SelectionContext :=
  { edges := edges
    poolOf := input.registry.poolOf
    baseUsage := input.registry.capacityUsage input.now
    laneLimit := input.laneLimit env }

/-- The selection, by the number of admissible candidates and the optimizer's answer. -/
def select (ctx : SelectionContext) :
    SelectionMethod × List SchedulerTaskProfile :=
  let few := input.prelim.length ≤ input.exactCandidateLimit
  let greedy := (.deterministicGreedy, ctx.greedySelect input.prelim)
  if ctx.laneLimit == 0 || input.prelim.isEmpty then
    (if few then .exactBounded else .deterministicGreedy, [])
  else if few then (.exactBounded, ctx.exactSelect input.prelim)
  else if input.optimizer.available then
    match input.optimizer.selected with
    | none => greedy
    | some taskIds =>
      let selected := input.prelim.filter fun item => taskIds.contains item.taskId
      if ctx.selectionIsValid selected then (.ortoolsCpSat, selected) else greedy
  else greedy

/-- The entry of a candidate in `admissions` after the selection. -/
def admission (edges : List ConflictEdge) (selectedIds : List String)
    (candidate : SchedulerTaskProfile) : AdmissionDecision :=
  match preAdmission input.decision input.registry input.now candidate with
  | some rejected => rejected
  | none =>
    if selectedIds.contains candidate.taskId then
      { taskId := candidate.taskId, state := .admitted, admitted := true }
    else
      let conflictSelected :=
        sortedSet ((neighbors edges candidate.taskId).filter selectedIds.contains)
      if !conflictSelected.isEmpty then
        { taskId := candidate.taskId, state := .conflict, admitted := false,
          reasons := conflictSelected.map ("conflicts_with:" ++ ·) }
      else
        { taskId := candidate.taskId, state := .capacityExhausted, admitted := false,
          reasons := ["lane_or_capacity_limit"] }

end PlanInput

/-- The lane of a task at a rank. -/
def assignLane (sha : Sha256) (snapshotId : String) (rank : ℕ) (h : 1 ≤ rank)
    (item : SchedulerTaskProfile) : Except PyError LaneAssignment :=
  match hid : schedulerIdentifier sha .lane [snapshotId, item.taskId, toString rank] with
  | .error err => .error err
  | .ok laneId => .ok
      { laneId := laneId, taskId := item.taskId, rank := rank, utilityScore := item.utilityScore,
        claims := item.claims, laneId_valid := schedulerIdentifier_wellFormed hid,
        taskId_valid := item.taskId_valid, rank_valid := h }

/-- The lanes of the listed tasks, ranked from `rank` on. -/
def assignLanes (sha : Sha256) (snapshotId : String) :
    (rank : ℕ) → 1 ≤ rank → List SchedulerTaskProfile → Except PyError (List LaneAssignment)
  | _, _, [] => .ok []
  | rank, h, item :: rest => do
      let lane ← assignLane sha snapshotId rank h item
      let lanes ← assignLanes sha snapshotId (rank + 1) (Nat.le_add_left 1 rank) rest
      return lane :: lanes

/-- The constructor call at the end of `plan`, with the checks of `validate_plan`. -/
def PlanInput.finish (input : PlanInput) (env : PlannerEnv) (edges : List ConflictEdge)
    (method : SelectionMethod) (selectedIds : List String) (lanes : List LaneAssignment) :
    Except PyError SchedulerPlan :=
  let laneIds := pyJoin "," (lanes.map LaneAssignment.taskId)
  let planIdentity := [input.control.snapshotId, input.registry.registryId,
    input.decision.mode.value, toString (input.laneLimit env),
    if laneIds == "" then "none" else laneIds]
  match hid : schedulerIdentifier env.sha .sched planIdentity with
  | .error err => .error err
  | .ok planId =>
    if hnodup : (lanes.map LaneAssignment.taskId).Nodup then
      if hwithin : lanes.length ≤ input.laneLimit env then
        .ok
          { planId := planId
            projectId := input.control.projectId
            controlSnapshotId := input.control.snapshotId
            registryId := input.registry.registryId
            backpressure := input.decision
            selectionMethod := method
            candidateCount := input.candidates.length
            laneLimit := input.laneLimit env
            lanes := lanes
            conflicts := edges
            admissions := (input.candidates.insertionSort fun a b =>
              textLe a.taskId b.taskId).map (input.admission edges selectedIds)
            generatedAtUtc := input.now
            planId_valid := schedulerIdentifier_wellFormed hid
            projectId_valid := input.control.projectId_valid
            registryId_valid := input.registry.registryId_valid
            lanes_nodup := hnodup
            lanes_within := hwithin }
      else .error (.validationError "SchedulerPlan"
        [("", "Value error, scheduler plan exceeds lane limit")])
    else .error (.validationError "SchedulerPlan"
      [("", "Value error, scheduler plan cannot select a task more than once")])

/-- `DynamicLaneScheduler.plan`. -/
def plan (env : PlannerEnv) (input : PlanInput) : Except PyError SchedulerPlan := do
  let edges ← buildConflictGraph input.candidates
  let (method, selected) := input.select (input.context env edges)
  let lanes ← assignLanes env.sha input.control.snapshotId 1 le_rfl
    (selected.insertionSort fun a b => a.rankLe b)
  input.finish env edges method (selected.map SchedulerTaskProfile.taskId) lanes

end ProjectPipeline
