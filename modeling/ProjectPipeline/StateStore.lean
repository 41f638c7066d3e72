import ProjectPipeline.Lifecycle
import ProjectPipeline.Table
import ProjectPipeline.Transactions

/-!
# The State Store

`SQLiteStateStore` holds the states of projects and tasks and a log of their transitions. A
transition names the version that its client expects. In one transaction the store checks the
version and the transition table, writes the new state with the next version, and adds a row to
the log. It then reads the record back, outside of the transaction: a record that does not pass
its own validation makes the call raise although the transition is committed.

The tables of projects and tasks have the columns that transitions use in common.
`transition_project` and `transition_task` are one definition, applied to each of the two.
-/

namespace ProjectPipeline

open Regex

/-! ### Records -/

section

variable {S δ : Type}

/-- The columns that `project_states` and `task_states` share, and the other ones. -/
structure StateRow (S δ : Type) where
  entityId : String
  state : S
  version : ℤ
  blockedReason : Option String
  lastTransitionId : Option String
  updatedAtUtc : Instant
  details : δ

/-- The errors of a reason that only a blocked entity has. -/
def StateRow.reasonErrors [DecidableEq S] (L : Lifecycle S) (row : StateRow S δ) :
    List (String × String) :=
  if row.state = L.blocked ∧ truthy row.blockedReason = false then
    [("", "Value error, blocked " ++ L.entityType.value ++ " state requires a reason")]
  else if row.state ≠ L.blocked ∧ truthy row.blockedReason = true then
    [("", "Value error, blocked reason is only valid for BLOCKED " ++ L.entityType.value ++
      " state")]
  else []

end

/-- The other columns of `project_states`. -/
structure ProjectDetails where
  manifestRevision : ℤ
  taskCounts : List (String × ℤ)
  deriving DecidableEq

/-- The other columns of `task_states`. -/
structure TaskDetails where
  projectId : String
  priority : String := "P1"
  dependencyIds : List String := []
  blockerIds : List String := []
  ownerId : Option String := none
  deriving DecidableEq

abbrev ProjectStateRecord := StateRow ProjectLifecycleState ProjectDetails

abbrev TaskStateRecord := StateRow TaskLifecycleState TaskDetails

/-- `validate_related_tasks`. -/
def relatedErrors (field : String) (tasks : List String) : List (String × String) :=
  if tasks.Nodup then (tasks.flatMap (identifierErrors field .issue)).take 1
  else [(field, "Value error, task relation lists cannot contain duplicates")]

/-- The errors of an optional text. -/
def optionalLengthErrors (field : String) (high : ℕ) (text : Option String) :
    List (String × String) :=
  text.elim [] (lengthErrors field 0 high)

/-- `P[0-3]`. -/
def priorityPattern : RegularExpression Char := literal "P" * oneOf ['0', '1', '2', '3']

/-- The fields of a project that the constructor rejects. -/
def ProjectStateRecord.fieldErrors (project : ProjectStateRecord) : List (String × String) :=
  identifierErrors "project_id" .project project.entityId ++
    lowerBoundErrors "version" 1 project.version ++
    lowerBoundErrors "manifest_revision" 1 project.details.manifestRevision ++
    optionalLengthErrors "blocked_reason" 2000 project.blockedReason

/-- What the constructor of a project reports. -/
def ProjectStateRecord.errors (project : ProjectStateRecord) : List (String × String) :=
  if project.fieldErrors ≠ [] then project.fieldErrors
  else if project.reasonErrors projectLifecycle ≠ [] then project.reasonErrors projectLifecycle
  else if project.details.taskCounts.any (·.2 < 0) then
    [("", "Value error, task counts cannot be negative")]
  else []

/-- The fields of a task that the constructor rejects. -/
def TaskStateRecord.fieldErrors (task : TaskStateRecord) : List (String × String) :=
  identifierErrors "task_id" .issue task.entityId ++
    identifierErrors "project_id" .project task.details.projectId ++
    lowerBoundErrors "version" 1 task.version ++
    (if fullmatch priorityPattern task.details.priority then []
      else [("priority", "String should match pattern '^P[0-3]$'")]) ++
    relatedErrors "dependency_ids" task.details.dependencyIds ++
    relatedErrors "blocker_ids" task.details.blockerIds ++
    optionalLengthErrors "owner_id" 191 task.details.ownerId ++
    optionalLengthErrors "blocked_reason" 2000 task.blockedReason

/-- What the constructor of a task reports. -/
def TaskStateRecord.errors (task : TaskStateRecord) : List (String × String) :=
  if task.fieldErrors ≠ [] then task.fieldErrors
  else if task.entityId ∈ task.details.dependencyIds ∨ task.entityId ∈ task.details.blockerIds then
    [("", "Value error, task cannot depend on or be blocked by itself")]
  else task.reasonErrors taskLifecycle

/-! ### The store -/

/-- A row of `state_transitions`. -/
structure TransitionRow where
  projectId : String
  transition : DomainStateTransition

/-- The tables. Of `projects` only the keys are used, by the foreign keys of the others. -/
structure StateDb where
  projects : List String := []
  projectStates : Table String ProjectStateRecord StateRow.entityId := .empty
  taskStates : Table String TaskStateRecord StateRow.entityId := .empty
  transitions : Table String TransitionRow (fun row => row.transition.transitionId) := .empty

/-- An integer is bound to a parameter of a statement. -/
def bindInteger (value : ℤ) : Except PyError Unit :=
  raiseIf (value < -2 ^ 63 ∨ 2 ^ 63 ≤ value)
    (.overflowError "Python int too large to convert to SQLite INTEGER")

/-- The foreign key to `projects`. -/
def requireProject (projectId : String) (db : StateDb) : Except PyError Unit :=
  raiseIf (projectId ∉ db.projects) (.integrityError "FOREIGN KEY constraint failed")

section

variable {S δ : Type} [DecidableEq S]

/-- The part of a transition up to the new state: the checks of the stored row, and the
transition. -/
def Lifecycle.planTransition (L : Lifecycle S) (sha : Sha256) (request : TransitionRequest S)
    (row : StateRow S δ) : Except PyError DomainStateTransition := do
  raiseIf (row.version ≠ request.expectedVersion) (.raised "ConcurrentStateChangeError"
    (L.entityType.value ++ " version mismatch: expected " ++ toString request.expectedVersion ++
      ", observed " ++ toString row.version))
  L.ensureTransition row.state request.nextState
  raiseIf (request.nextState = L.blocked ∧ truthy request.blockedReason = false)
    (.valueError ("blocked " ++ L.entityType.value ++ " transition requires blocked_reason"))
  raiseIf (request.nextState ≠ L.blocked ∧ truthy request.blockedReason = true)
    (.valueError ("blocked_reason is only valid for a BLOCKED " ++ L.entityType.value))
  L.createTransition sha row.state request

def StateRow.moved (request : TransitionRequest S) (transition : DomainStateTransition)
    (update : δ → δ) (row : StateRow S δ) : StateRow S δ :=
  { row with
    state := request.nextState
    version := transition.resultingVersion
    blockedReason := request.blockedReason
    lastTransitionId := some transition.transitionId
    updatedAtUtc := transition.occurredAtUtc
    details := update row.details }

omit [DecidableEq S] in
theorem StateRow.entityId_moved (request : TransitionRequest S) (transition : DomainStateTransition)
    (update : δ → δ) (row : StateRow S δ) :
    (row.moved request transition update).entityId = row.entityId := rfl

/-- The table after a transition, with the row that was read and the row for the log. -/
def Lifecycle.transition (L : Lifecycle S) (sha : Sha256) (request : TransitionRequest S)
    (update : δ → δ) (table : Table String (StateRow S δ) StateRow.entityId) :
    Except PyError (Table String (StateRow S δ) StateRow.entityId × StateRow S δ ×
      DomainStateTransition) := do
  match table.find? request.entityId with
  | none => .error (.raised "MissingStateError"
      (L.entityType.value ++ " state does not exist: " ++ request.entityId))
  | some row =>
    let transition ← L.planTransition sha request row
    bindInteger transition.resultingVersion
    let selected (x : StateRow S δ) : Bool :=
      x.entityId = request.entityId ∧ x.version = request.expectedVersion
    raiseIf (table.rows.countP selected ≠ 1) (.raised "ConcurrentStateChangeError"
      (L.entityType.value ++ " state changed during transition"))
    return (table.updateWhere selected (.moved request transition update)
      (StateRow.entityId_moved request transition update), row, transition)

end

variable (projectId : String)

def insertTransition (transition : DomainStateTransition) :
    Txn StateDb Unit := fun db =>
  match db.transitions.insert { projectId, transition } with
  | none => .error (.integrityError "UNIQUE constraint failed: state_transitions.transition_id")
  | some transitions => do
      requireProject projectId db
      return ((), { db with transitions })

/-! ### The methods -/

variable (revision : ℤ) (updatedAtUtc : Instant)

/-- The state of a project whose manifest is stored for the first time. -/
def registeredProject :
    ProjectStateRecord where
  entityId := projectId
  state := .registered
  version := 1
  blockedReason := none
  lastTransitionId := none
  updatedAtUtc := updatedAtUtc
  details := { manifestRevision := revision, taskCounts := [] }

/-- `put_project_manifest`, of the manifest's identifier, revision and time. -/
def putProjectManifest :
    Session StateDb Unit :=
  .transaction fun db => do
    bindInteger revision
    let merge (row : ProjectStateRecord) : ProjectStateRecord :=
      { row with
        updatedAtUtc
        details := { row.details with manifestRevision := revision } }
    return ((),
      { db with
        projects := if projectId ∈ db.projects then db.projects else db.projects ++ [projectId]
        projectStates := db.projectStates.upsert
          (registeredProject projectId revision updatedAtUtc) merge fun _ => rfl })

def getProjectState : Session StateDb (Option ProjectStateRecord) := fun db =>
  match db.projectStates.find? projectId with
  | none => (.ok none, db)
  | some row =>
    if row.errors = [] then (.ok (some row), db)
    else (.error (.validationError "ProjectStateRecord" row.errors), db)

def getTaskState (taskId : String) : Session StateDb (Option TaskStateRecord) := fun db =>
  match db.taskStates.find? taskId with
  | none => (.ok none, db)
  | some row =>
    if row.errors = [] then (.ok (some row), db)
    else (.error (.validationError "TaskStateRecord" row.errors), db)

/-- `list_task_states`: the identifiers of a project's tasks, and each of them read. -/
def listTaskStates : Session StateDb (List TaskStateRecord) := fun db =>
  let tasks := (db.taskStates.rows.filter fun row => row.details.projectId = projectId).map
    StateRow.entityId
  let states := (tasks.insertionSort fun a b => textLe a b).mapM fun taskId =>
    (getTaskState taskId db).1
  (states.map (List.filterMap id), db)

/-- The statement of `put_task_states` for one record. -/
def putTaskState (task : TaskStateRecord) : Txn StateDb Unit := fun db => do
  bindInteger task.version
  match db.taskStates.insert task with
  | none => return ((), db)
  | some taskStates =>
    requireProject task.details.projectId db
    return ((), { db with taskStates })

/-- `put_task_states`. Records are valid, because they have been constructed. -/
def putTaskStates (tasks : List { task : TaskStateRecord // task.errors = [] }) :
    Session StateDb ℕ := do
  .transaction (tasks.forM fun task => putTaskState task.1)
  return tasks.length

section

variable (sha : Sha256)

def transitionProject (request : TransitionRequest ProjectLifecycleState) :
    Session StateDb ProjectStateRecord := do
  .transaction do
    let db ← get
    let (projectStates, _, transition) ←
      (projectLifecycle.transition sha request id db.projectStates :)
    set { db with projectStates }
    insertTransition request.entityId transition
  match ← getProjectState request.entityId with
  | none => .raise (.raised "PersistenceError" "project state disappeared after transition")
  | some result => return result

def transitionTask (request : TransitionRequest TaskLifecycleState) (ownerId : Option String) :
    Session StateDb TaskStateRecord := do
  .transaction do
    let db ← get
    let update (details : TaskDetails) : TaskDetails :=
      { details with ownerId := if ownerId.isSome then ownerId else details.ownerId }
    let (taskStates, row, transition) ←
      (taskLifecycle.transition sha request update db.taskStates :)
    set { db with taskStates }
    insertTransition row.details.projectId transition
  match ← getTaskState request.entityId with
  | none => .raise (.raised "PersistenceError" "task state disappeared after transition")
  | some result => return result

end

def StateDb.listTransitions (db : StateDb) (entityType : EntityType) (entityId : String) :
    List DomainStateTransition :=
  ((db.transitions.rows.map TransitionRow.transition).filter fun transition =>
    transition.entityType = entityType ∧ transition.entityId = entityId).insertionSort
      fun a b => a.resultingVersion ≤ b.resultingVersion

end ProjectPipeline
