import ProjectPipeline.JsonValue
import ProjectPipeline.Requirements

/-!
# Jira Records

The records of the Jira steward (`domain/jira.py`): the local issues and the bundle of them, the
remote issues and a snapshot of them, and the operations, conflicts, plans and receipts of a
synchronisation.

An operation is named by a digest of its type, its subject and its payload
(`JiraSyncOperation.create`): the version of the remote issue that it was planned against is a field
of the operation, and not a part of its name.
-/

namespace ProjectPipeline

open Regex

/-- What the records need of the library: digests, the texts of values and of times, the case of
texts (`str.title` included), and `repr` of a text. -/
structure JiraEnv where
  sha : Sha256
  text : PyText
  isoformat : Instant → String
  upper : String → String
  lower : String → String
  casefold : String → String
  title : String → String
  reprText : String → String

/-- A library for concrete runs, which are on ASCII texts and at time zero. -/
def JiraEnv.plain : JiraEnv where
  sha := .bytePolynomial
  text := .plain
  isoformat _ := "1970-01-01T00:00:00+00:00"
  upper text := String.ofList (text.toList.map Char.toUpper)
  lower text := String.ofList (text.toList.map Char.toLower)
  casefold text := String.ofList (text.toList.map Char.toLower)
  title text := String.ofList
    ((text.toList.take 1).map Char.toUpper ++ (text.toList.drop 1).map Char.toLower)
  reprText text := "'" ++ text ++ "'"

def JiraEnv.digestPayload (env : JiraEnv) (value : JsonValue) : String :=
  String.ofList (env.sha.hexdigest (value.dumpsText env.text "," ":"))

/-! ### Identifiers -/

/-- `REMOTE_JIRA_KEY`. -/
def remoteJiraKeyPattern : RegularExpression Char :=
  upperClass * timesUpTo (oneOf (upperAlphabet ++ digitAlphabet ++ ['_'])) 31 * literal "-" *
    oneOf ['1', '2', '3', '4', '5', '6', '7', '8', '9'] * digitClass.star

inductive JiraIdKind where
  | snapshot | plan | operation | receipt | conflict | comment
  deriving DecidableEq, Repr

def JiraIdKind.tag : JiraIdKind → String
  | snapshot => "JSNAP"
  | plan => "JPLAN"
  | operation => "JOP"
  | receipt => "JREC"
  | conflict => "JCON"
  | comment => "JCOM"

/-- `jira_sync_identifier(prefix, *parts)`. -/
def jiraSyncIdentifier (env : JiraEnv) (kind : JiraIdKind) (parts : List String) :
    Except PyError String :=
  digestIdentifier env.sha "Jira synchronization" kind.tag parts

/-! ### Enumerations -/

inductive JiraIssueType where
  | epic | story | task | subtask | bug | spike
  deriving DecidableEq, Repr

def JiraIssueType.value : JiraIssueType → String
  | epic => "EPIC"
  | story => "STORY"
  | task => "TASK"
  | subtask => "SUBTASK"
  | bug => "BUG"
  | spike => "SPIKE"

inductive JiraLifecycleState where
  | discovered | backlog | ready | inProgress | review | validation | mergeReady | blocked
  | failed | cancelled | deferred | done
  deriving DecidableEq, Repr

def JiraLifecycleState.value : JiraLifecycleState → String
  | discovered => "DISCOVERED"
  | backlog => "BACKLOG"
  | ready => "READY"
  | inProgress => "IN_PROGRESS"
  | review => "REVIEW"
  | validation => "VALIDATION"
  | mergeReady => "MERGE_READY"
  | blocked => "BLOCKED"
  | failed => "FAILED"
  | cancelled => "CANCELLED"
  | deferred => "DEFERRED"
  | done => "DONE"

inductive JiraAuthorityMode where
  | sourceControlledLocal | remoteCollaborative
  deriving DecidableEq, Repr

def JiraAuthorityMode.value : JiraAuthorityMode → String
  | sourceControlledLocal => "SOURCE_CONTROLLED_LOCAL"
  | remoteCollaborative => "REMOTE_COLLABORATIVE"

inductive JiraSyncOperationType where
  | createRemoteIssue | updateRemoteFields | transitionRemoteIssue | addRemoteComment
  | createRemoteLink | recordRemoteMapping | importRemoteIssue | acceptRemoteFields | noOperation
  deriving DecidableEq, Repr

def JiraSyncOperationType.value : JiraSyncOperationType → String
  | createRemoteIssue => "CREATE_REMOTE_ISSUE"
  | updateRemoteFields => "UPDATE_REMOTE_FIELDS"
  | transitionRemoteIssue => "TRANSITION_REMOTE_ISSUE"
  | addRemoteComment => "ADD_REMOTE_COMMENT"
  | createRemoteLink => "CREATE_REMOTE_LINK"
  | recordRemoteMapping => "RECORD_REMOTE_MAPPING"
  | importRemoteIssue => "IMPORT_REMOTE_ISSUE"
  | acceptRemoteFields => "ACCEPT_REMOTE_FIELDS"
  | noOperation => "NO_OPERATION"

/-- The operations that write to the remote. -/
def JiraSyncOperationType.writes : JiraSyncOperationType → Bool
  | createRemoteIssue | updateRemoteFields | transitionRemoteIssue | addRemoteComment
  | createRemoteLink => true
  | _ => false

inductive JiraOperationState where
  | planned | pending | applied | reconciled | failed | unknownOutcome | rejected
  deriving DecidableEq, Repr

/-- `JiraConflictKind`, as far as the planner and the steward report conflicts. -/
inductive JiraConflictKind where
  | duplicateRemoteMapping | remoteOnlyIssue | statusUnmapped | hierarchyMismatch
  | unknownWriteOutcome | evidenceReconciliationRequired
  deriving DecidableEq, Repr

def JiraConflictKind.value : JiraConflictKind → String
  | duplicateRemoteMapping => "DUPLICATE_REMOTE_MAPPING"
  | remoteOnlyIssue => "REMOTE_ONLY_ISSUE"
  | statusUnmapped => "STATUS_UNMAPPED"
  | hierarchyMismatch => "HIERARCHY_MISMATCH"
  | unknownWriteOutcome => "UNKNOWN_WRITE_OUTCOME"
  | evidenceReconciliationRequired => "EVIDENCE_RECONCILIATION_REQUIRED"

/-! ### Local issues -/

/-- `JiraVerification`, with the text of its status. -/
structure JiraVerification where
  method : String
  path : String
  command : String
  status : String

structure JiraAcceptanceCriterion where
  criterionId : String
  statement : String
  verification : JiraVerification

structure JiraPlanReference where
  planId : String
  sectionId : String
  authoritativePath : String
  lineNumberedPath : String
  startLine : ℕ
  endLine : ℕ
  lineReference : String

/-- `JiraRelationship`, with the text of its type. -/
structure JiraRelationship where
  target : String
  type : String

structure LocalJiraIssue where
  localId : String
  remoteJiraKey : Option String := none
  issueType : JiraIssueType
  title : String
  parent : Option String
  objective : String
  rationale : String
  description : String
  scope : List String := []
  exclusions : List String := []
  requirementIds : List String := []
  sourceReferences : List String := []
  planReferences : List JiraPlanReference := []
  dependencies : List String := []
  blockers : List String := []
  relationships : List JiraRelationship := []
  upstreamDependencies : List String := []
  expectedImplementationArtifacts : List String := []
  expectedFileLocations : List String := []
  acceptanceCriteria : List JiraAcceptanceCriterion
  definitionOfDone : List String := []
  requiredTests : List String := []
  evidenceRequired : List String := []
  riskClassification : String
  securityImpact : String
  observabilityImpact : String
  rollbackRecoveryConsideration : String
  ownerRequiredCapability : String
  labels : List String := []
  state : JiraLifecycleState
  implementationState : ImplementationState
  completionEvidence : List String := []
  lastObservedRemoteState : Option JsonDict := none

/-- `JiraPlanReference.model_dump(mode="json")`. -/
def JiraPlanReference.dump (reference : JiraPlanReference) : JsonValue :=
  .obj [("plan_id", .str reference.planId), ("section_id", .str reference.sectionId),
    ("authoritative_path", .str reference.authoritativePath),
    ("line_numbered_path", .str reference.lineNumberedPath),
    ("start_line", .int reference.startLine), ("end_line", .int reference.endLine),
    ("line_reference", .str reference.lineReference)]

/-- `JiraAcceptanceCriterion.model_dump(mode="json")`. -/
def JiraAcceptanceCriterion.dump (criterion : JiraAcceptanceCriterion) : JsonValue :=
  .obj [("criterion_id", .str criterion.criterionId), ("statement", .str criterion.statement),
    ("verification", .obj
      [("method", .str criterion.verification.method), ("path", .str criterion.verification.path),
        ("command", .str criterion.verification.command),
        ("status", .str criterion.verification.status)])]

namespace LocalJiraIssue

/-- `semantic_payload`: the record without the last observation. -/
def semanticPayload (issue : LocalJiraIssue) : JsonDict :=
  [("schema_version", .str "1.0.0"), ("local_id", .str issue.localId),
    ("remote_jira_key", .optText issue.remoteJiraKey), ("issue_type", .str issue.issueType.value),
    ("title", .str issue.title), ("parent", .optText issue.parent),
    ("objective", .str issue.objective), ("rationale", .str issue.rationale),
    ("description", .str issue.description), ("scope", .texts issue.scope),
    ("exclusions", .texts issue.exclusions), ("requirement_ids", .texts issue.requirementIds),
    ("source_references", .texts issue.sourceReferences),
    ("plan_references", .arr (issue.planReferences.map JiraPlanReference.dump)),
    ("dependencies", .texts issue.dependencies), ("blockers", .texts issue.blockers),
    ("relationships", .arr (issue.relationships.map fun relationship =>
      .obj [("target", .str relationship.target), ("type", .str relationship.type)])),
    ("upstream_dependencies", .texts issue.upstreamDependencies),
    ("expected_implementation_artifacts", .texts issue.expectedImplementationArtifacts),
    ("expected_file_locations", .texts issue.expectedFileLocations),
    ("acceptance_criteria", .arr (issue.acceptanceCriteria.map JiraAcceptanceCriterion.dump)),
    ("definition_of_done", .texts issue.definitionOfDone),
    ("required_tests", .texts issue.requiredTests),
    ("evidence_required", .texts issue.evidenceRequired),
    ("risk_classification", .str issue.riskClassification),
    ("security_impact", .str issue.securityImpact),
    ("observability_impact", .str issue.observabilityImpact),
    ("rollback_recovery_consideration", .str issue.rollbackRecoveryConsideration),
    ("owner_required_capability", .str issue.ownerRequiredCapability),
    ("labels", .texts issue.labels), ("state", .str issue.state.value),
    ("implementation_state", .str issue.implementationState.value),
    ("completion_evidence", .texts issue.completionEvidence)]

def semanticFingerprint (env : JiraEnv) (issue : LocalJiraIssue) : String :=
  env.digestPayload (.obj issue.semanticPayload)

def traceabilityFingerprint (env : JiraEnv) (issue : LocalJiraIssue) : String :=
  env.digestPayload (.obj
    [("requirements", .texts issue.requirementIds), ("sources", .texts issue.sourceReferences),
      ("plans", .arr (issue.planReferences.map JiraPlanReference.dump)),
      ("tests", .texts issue.requiredTests), ("evidence_required", .texts issue.evidenceRequired),
      ("completion_evidence", .texts issue.completionEvidence)])

end LocalJiraIssue

/-- `JiraMirrorBundle`, as far as the planner reads it. No two issues share a local identifier. -/
structure JiraMirrorBundle where
  projectKey : String
  issues : List LocalJiraIssue
  fingerprint : String
  nodup : (issues.map LocalJiraIssue.localId).Nodup

/-! ### Remote issues -/

structure RemoteJiraLink where
  linkId : Option String := none
  linkType : String
  outwardKey : String
  inwardKey : String

/-- `RemoteJiraIssue`, with the dumps of its comments and attachments. -/
structure RemoteJiraIssue where
  remoteId : String
  remoteKey : String
  localId : Option String := none
  issueTypeName : String
  normalizedIssueType : Option JiraIssueType := none
  summary : String
  descriptionText : String := ""
  statusName : String
  normalizedState : Option JiraLifecycleState := none
  parentRemoteKey : Option String := none
  labels : List String := []
  assigneeAccountId : Option String := none
  updatedAtUtc : Instant := 0
  version : Option ℕ := none
  comments : List JsonValue := []
  links : List RemoteJiraLink := []
  attachments : List JsonValue := []
  fields : JsonDict := []

namespace RemoteJiraIssue

def semanticPayload (issue : RemoteJiraIssue) : JsonDict :=
  [("remote_key", .str issue.remoteKey), ("local_id", .optText issue.localId),
    ("issue_type_name", .str issue.issueTypeName),
    ("normalized_issue_type", .optText (issue.normalizedIssueType.map JiraIssueType.value)),
    ("summary", .str issue.summary), ("description_text", .str issue.descriptionText),
    ("status_name", .str issue.statusName),
    ("normalized_state", .optText (issue.normalizedState.map JiraLifecycleState.value)),
    ("parent_remote_key", .optText issue.parentRemoteKey), ("labels", .texts issue.labels),
    ("assignee_account_id", .optText issue.assigneeAccountId),
    ("version", (issue.version.map fun version => JsonValue.int version).getD .null)]

variable (env : JiraEnv) (issue : RemoteJiraIssue)

def semanticFingerprint : String :=
  env.digestPayload (.obj issue.semanticPayload)

/-- `model_dump(mode="json")`. -/
def dump : JsonDict :=
  issue.semanticPayload ++
    [("schema_version", .str "1.0.0"), ("remote_id", .str issue.remoteId),
      ("updated_at_utc", .str (env.isoformat issue.updatedAtUtc)), ("comments", .arr issue.comments),
      ("links", .arr (issue.links.map fun link =>
        .obj [("link_id", .optText link.linkId), ("link_type", .str link.linkType),
          ("outward_key", .str link.outwardKey), ("inward_key", .str link.inwardKey)])),
      ("attachments", .arr issue.attachments), ("fields", .obj issue.fields)]

end RemoteJiraIssue

/-- `JiraRemoteSnapshot`, as far as it is read. No two issues share a key. -/
structure JiraRemoteSnapshot where
  snapshotId : String
  projectKey : String
  issues : List RemoteJiraIssue
  fingerprint : String
  nodup : (issues.map RemoteJiraIssue.remoteKey).Nodup

def JiraRemoteSnapshot.create (env : JiraEnv) (projectKey : String)
    (issues : List RemoteJiraIssue) : Except PyError JiraRemoteSnapshot := do
  let ordered := issues.insertionSort fun a b => textLe a.remoteKey b.remoteKey
  let fingerprint := env.digestPayload (.arr (ordered.map fun issue => .obj (issue.dump env)))
  let snapshotId ← jiraSyncIdentifier env .snapshot [projectKey, fingerprint]
  if h : (ordered.map RemoteJiraIssue.remoteKey).Nodup then
    return ⟨snapshotId, projectKey, ordered, fingerprint, h⟩
  else
    .error (.validationError "JiraRemoteSnapshot"
      [("", "Value error, remote Jira snapshot contains duplicate issue keys")])

/-! ### Operations, conflicts and plans -/

/-- The errors of the `local_id` and the `remote_key` of a record. -/
def jiraReferenceErrors (localId remoteKey : Option String) : List (String × String) :=
  (localId.map fun value =>
    raisedErrors "local_id" (validateIdentifier value .issue)).getD [] ++
  (remoteKey.map fun value =>
    if fullmatch remoteJiraKeyPattern value then []
    else [("remote_key", "Value error, invalid remote Jira key: " ++ value)]).getD []

structure JiraSyncOperation where
  operationId : String
  operationType : JiraSyncOperationType
  localId : Option String
  remoteKey : Option String
  idempotencyKey : String
  expectedRemoteVersion : Option ℕ := none
  requestFingerprint : String
  payload : JsonDict
  requiresRemoteWrite : Bool
  requiresIndependentVerification : Bool := false
  state : JiraOperationState := .planned

/-- `a or b` on optional texts. -/
def orText (a b : Option String) : Option String := if truthy a then a else b

def JiraSyncOperation.create (env : JiraEnv) (operationType : JiraSyncOperationType)
    (payload : JsonDict) (localId remoteKey : Option String)
    (expectedRemoteVersion : Option ℕ := none)
    (requiresIndependentVerification : Bool := false) : Except PyError JiraSyncOperation := do
  let fingerprint := env.digestPayload (.obj payload)
  let identitySubject := (orText (orText localId remoteKey) (some "project")).getD "project"
  let operationId ← jiraSyncIdentifier env .operation
    [operationType.value, identitySubject, fingerprint]
  let errors := jiraReferenceErrors localId remoteKey ++
    if expectedRemoteVersion = some 0 then
      [("expected_remote_version", "Input should be greater than or equal to 1")]
    else []
  raiseIf (errors ≠ []) (.validationError "JiraSyncOperation" errors)
  return {
    operationId, operationType, localId, remoteKey
    idempotencyKey := "jira:" ++ env.lower operationId
    expectedRemoteVersion
    requestFingerprint := fingerprint
    payload
    requiresRemoteWrite := operationType.writes
    requiresIndependentVerification }

structure JiraSyncConflict where
  conflictId : String
  kind : JiraConflictKind
  localId : Option String
  remoteKey : Option String
  fields : List String
  description : String
  requiredResolution : String

/-- `JiraReconciler._conflict`. -/
def JiraSyncConflict.create (env : JiraEnv) (kind : JiraConflictKind)
    (localId remoteKey : Option String) (fields : List String)
    (description requiredResolution : String) : Except PyError JiraSyncConflict := do
  let conflictId ← jiraSyncIdentifier env .conflict
    [kind.value, (orText localId (some "none")).getD "none",
      (orText remoteKey (some "none")).getD "none",
      (orText (some (pyJoin "," fields)) (some "none")).getD "none", description]
  let errors := jiraReferenceErrors localId remoteKey ++
    if 4000 < description.length then
      [("description", "String should have at most 4000 characters")]
    else []
  raiseIf (errors ≠ []) (.validationError "JiraSyncConflict" errors)
  return { conflictId, kind, localId, remoteKey, fields, description, requiredResolution }

/-- `JiraReconciliationPlan`. No two operations and no two conflicts share an identifier. -/
structure JiraReconciliationPlan where
  planId : String
  projectKey : String
  authorityMode : JiraAuthorityMode
  localFingerprint : String
  remoteSnapshotId : String
  remoteFingerprint : String
  operations : List JiraSyncOperation
  conflicts : List JiraSyncConflict
  operations_nodup : (operations.map JiraSyncOperation.operationId).Nodup
  conflicts_nodup : (conflicts.map JiraSyncConflict.conflictId).Nodup

/-! ### Receipts -/

inductive JiraSyncMode where
  | dryRun | apply
  deriving DecidableEq, Repr

def JiraSyncMode.value : JiraSyncMode → String
  | dryRun => "DRY_RUN"
  | apply => "APPLY"

inductive JiraSyncResult where
  | dryRun | applied | partially | reconciliationRequired | rejected
  deriving DecidableEq, Repr

def JiraSyncResult.value : JiraSyncResult → String
  | dryRun => "DRY_RUN"
  | applied => "APPLIED"
  | partially => "PARTIAL"
  | reconciliationRequired => "RECONCILIATION_REQUIRED"
  | rejected => "REJECTED"

structure JiraSyncReceipt where
  receiptId : String
  planId : String
  mode : JiraSyncMode
  result : JiraSyncResult
  appliedOperationIds : List String := []
  failedOperationIds : List String := []
  unknownOutcomeOperationIds : List String := []
  conflictIds : List String := []
  remoteSnapshotIdAfter : Option String := none
  actorId : String
  correlationId : String
  deriving DecidableEq

/-- The check of a receipt: no operation has two results, a dry run has applied none, and an unknown
outcome requires a reconciliation. -/
def JiraSyncReceipt.errors (receipt : JiraSyncReceipt) : List String :=
  let overlap (a b : List String) : Bool := a.any b.contains
  if overlap receipt.appliedOperationIds receipt.failedOperationIds ||
      overlap receipt.appliedOperationIds receipt.unknownOutcomeOperationIds ||
      overlap receipt.failedOperationIds receipt.unknownOutcomeOperationIds then
    ["Value error, Jira operation result buckets cannot overlap"]
  else if receipt.mode = .dryRun ∧ receipt.appliedOperationIds ≠ [] then
    ["Value error, dry-run Jira receipt cannot claim applied operations"]
  else if receipt.unknownOutcomeOperationIds ≠ [] ∧ receipt.result ≠ .reconciliationRequired then
    ["Value error, unknown outcomes require reconciliation"]
  else []

end ProjectPipeline
