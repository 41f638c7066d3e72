import ProjectPipeline.Identifiers

/-!
# Lifecycles of Projects and Tasks

The states of projects and tasks, the transitions between them, and the records of states and
transitions (`domain/state.py`). The two lifecycles are two values of one structure, and what
the program does with both of them is one definition with the lifecycle as a parameter.

A record of this module is what its constructor is given; `errors` lists the fields that the
constructor rejects, with its messages.
-/

namespace ProjectPipeline

open Regex

/-! ### States -/

inductive ProjectLifecycleState where
  | registered | compiling | ready | active | blocked | verifying | completed | failed | archived
  deriving DecidableEq, Repr

inductive TaskLifecycleState where
  | backlog | ready | claimed | inProgress | blocked | inReview | validating | done | failed
  | cancelled
  deriving DecidableEq, Repr

namespace ProjectLifecycleState

def value : ProjectLifecycleState → String
  | registered => "REGISTERED"
  | compiling => "COMPILING"
  | ready => "READY"
  | active => "ACTIVE"
  | blocked => "BLOCKED"
  | verifying => "VERIFYING"
  | completed => "COMPLETED"
  | failed => "FAILED"
  | archived => "ARCHIVED"

/-- `PROJECT_TRANSITIONS`. -/
def transitions : ProjectLifecycleState → List ProjectLifecycleState
  | registered => [compiling, blocked]
  | compiling => [ready, blocked, failed]
  | ready => [active, blocked, archived]
  | active => [blocked, verifying, failed]
  | blocked => [compiling, ready, active, failed]
  | verifying => [active, blocked, completed, failed]
  | completed => [active, archived]
  | failed => [compiling, blocked, archived]
  | archived => []

end ProjectLifecycleState

namespace TaskLifecycleState

def value : TaskLifecycleState → String
  | backlog => "BACKLOG"
  | ready => "READY"
  | claimed => "CLAIMED"
  | inProgress => "IN_PROGRESS"
  | blocked => "BLOCKED"
  | inReview => "IN_REVIEW"
  | validating => "VALIDATING"
  | done => "DONE"
  | failed => "FAILED"
  | cancelled => "CANCELLED"

/-- `TASK_TRANSITIONS`. -/
def transitions : TaskLifecycleState → List TaskLifecycleState
  | backlog => [ready, blocked, cancelled]
  | ready => [claimed, blocked, cancelled]
  | claimed => [ready, inProgress, blocked]
  | inProgress => [blocked, inReview, failed]
  | blocked => [backlog, ready, inProgress, cancelled]
  | inReview => [inProgress, validating, blocked]
  | validating => [inProgress, blocked, done, failed]
  | done => [inProgress]
  | failed => [ready, inProgress, cancelled]
  | cancelled => [backlog]

end TaskLifecycleState

inductive EntityType where
  | project | task
  deriving DecidableEq, Repr

def EntityType.value : EntityType → String
  | project => "project"
  | task => "task"

/-- The states of a kind of entity: their texts, the transitions, and the state that needs a
reason. -/
structure Lifecycle (S : Type) where
  entityType : EntityType
  value : S → String
  transitions : S → List S
  blocked : S

def projectLifecycle : Lifecycle ProjectLifecycleState where
  entityType := .project
  value := ProjectLifecycleState.value
  transitions := ProjectLifecycleState.transitions
  blocked := .blocked

def taskLifecycle : Lifecycle TaskLifecycleState where
  entityType := .task
  value := TaskLifecycleState.value
  transitions := TaskLifecycleState.transitions
  blocked := .blocked

section

variable {S : Type} [DecidableEq S]

/-- The check that a transition is in the table. -/
def Lifecycle.ensureTransition (L : Lifecycle S) (previous next : S) : Except PyError Unit :=
  raiseIf (next ∉ L.transitions previous) (.valueError
    ("invalid " ++ L.entityType.value ++ " transition: " ++ L.value previous ++ " -> " ++
      L.value next))

def ensureProjectTransition : ProjectLifecycleState → ProjectLifecycleState →
    Except PyError Unit := projectLifecycle.ensureTransition

def ensureTaskTransition : TaskLifecycleState → TaskLifecycleState → Except PyError Unit :=
  taskLifecycle.ensureTransition

end

/-! ### Transitions -/

variable (field : String)

/-- The errors of a text with bounds on its length. -/
def lengthErrors (low high : ℕ) (text : String) : List (String × String) :=
  if text.length < low then
    [(field, "String should have at least " ++ toString low ++
      if low = 1 then " character" else " characters")]
  else if high < text.length then
    [(field, "String should have at most " ++ toString high ++ " characters")]
  else []

/-- The errors of a number with a lower bound. -/
def lowerBoundErrors (low value : ℤ) : List (String × String) :=
  if value < low then
    [(field, "Input should be greater than or equal to " ++ toString low)]
  else []

theorem lowerBoundErrors_eq_nil {field : String} {low value : ℤ} :
    lowerBoundErrors field low value = [] ↔ low ≤ value := by
  rw [lowerBoundErrors]
  split <;> simp <;> omega

/-- The errors of an identifier of a kind. -/
def identifierErrors (kind : IdentifierKind) (value : String) :
    List (String × String) :=
  match validateIdentifier value kind with
  | .ok _ => []
  | .error (.valueError message) => [(field, "Value error, " ++ message)]
  | .error _ => [(field, "Value error")]

theorem identifierErrors_of_valid {field value : String} {kind : IdentifierKind}
    (h : validateIdentifier value kind = .ok value) : identifierErrors field kind value = [] := by
  rw [identifierErrors, h]

structure DomainStateTransition where
  transitionId : String
  entityType : EntityType
  entityId : String
  previousState : String
  nextState : String
  expectedVersion : ℤ
  resultingVersion : ℤ
  reason : String
  actorId : String
  correlationId : String
  occurredAtUtc : Instant
  deriving DecidableEq

namespace DomainStateTransition

variable (t : DomainStateTransition)

def fieldErrors : List (String × String) :=
  identifierErrors "transition_id" .transition t.transitionId ++
    lowerBoundErrors "expected_version" 1 t.expectedVersion ++
    lowerBoundErrors "resulting_version" 2 t.resultingVersion ++
    lengthErrors "reason" 1 2000 t.reason ++ lengthErrors "actor_id" 3 191 t.actorId ++
    lengthErrors "correlation_id" 3 191 t.correlationId

/-- `validate_versions_and_state`. -/
def versionErrors : List (String × String) :=
  if t.previousState = t.nextState then
    [("", "Value error, state transition cannot be a no-op")]
  else if t.resultingVersion ≠ t.expectedVersion + 1 then
    [("", "Value error, resulting version must increment expected version by one")]
  else []

/-- What the constructor reports. -/
def errors : List (String × String) :=
  if t.fieldErrors.isEmpty then t.versionErrors else t.fieldErrors

end DomainStateTransition

/-- `deterministic_identifier(IdentifierKind.TRANSITION, *parts)`. -/
def transitionIdentifier (sha : Sha256) (parts : List String) : Except PyError String := do
  validateIdentifier (← digestIdentifier sha "deterministic" "TRANS" parts) .transition

structure TransitionRequest (S : Type) where
  entityId : String
  nextState : S
  expectedVersion : ℤ
  reason : String
  actorId : String
  correlationId : String
  blockedReason : Option String := none
  now : Instant

/-- `DomainStateTransition.create`, of what a request asks of an entity in a state. -/
def Lifecycle.createTransition {S : Type} (L : Lifecycle S) (sha : Sha256) (previous : S)
    (request : TransitionRequest S) : Except PyError DomainStateTransition := do
  let identifier ← transitionIdentifier sha
    [L.entityType.value, request.entityId, L.value previous, L.value request.nextState,
      toString request.expectedVersion, request.reason, request.actorId, request.correlationId]
  let transition : DomainStateTransition :=
    { transitionId := identifier
      entityType := L.entityType
      entityId := request.entityId
      previousState := L.value previous
      nextState := L.value request.nextState
      expectedVersion := request.expectedVersion
      resultingVersion := request.expectedVersion + 1
      reason := request.reason
      actorId := request.actorId
      correlationId := request.correlationId
      occurredAtUtc := request.now }
  raiseIf (transition.errors ≠ []) (.validationError "DomainStateTransition" transition.errors)
  return transition

end ProjectPipeline
