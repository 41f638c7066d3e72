import ProjectPipeline.JiraReconciler
import ProjectPipeline.JiraSyncStore

/-!
# The Jira Steward

`JiraSteward` (`jira_steward/service.py`): a plan is made from a snapshot of the remote and stored,
and `apply` goes through its operations, skips those that are marked as applied, and asks the
adapter for the others.

The remote is a table of issues, which the adapter changes as it is asked to. A call of the adapter
may also raise, with or without its effect, and a call of the store may raise: the outcomes are a
part of the state, one for each call (`replies`, `storeFaults`), and calls without an outcome
succeed. An error of the adapter is an outcome of its own kind, which `apply` tells from other
exceptions. The calls that write are noted, with the operation that their context names and whether
they have returned (`writes`).
-/

namespace ProjectPipeline

/-! ### The world of the steward -/

abbrev JiraRemote := Table String RemoteJiraIssue RemoteJiraIssue.remoteKey

/-- `JiraAdapterError`, as far as the steward looks at its payload. -/
structure JiraAdapterError where
  unknownOutcome : Bool
  deriving DecidableEq

/-- What a call of the adapter raises: a `JiraAdapterError`, or another exception. -/
inductive AdapterFailure where
  | adapter (error : JiraAdapterError)
  | other (error : PyError)
  deriving DecidableEq

/-- The outcome of a call of the adapter: it does what it is asked to, it raises, it raises after
the remote has changed, or it lists issues of its own choice. -/
inductive AdapterReply where
  | done
  | refused (failure : AdapterFailure)
  | lost (failure : AdapterFailure)
  | listed (issues : List RemoteJiraIssue)

/-- A call of the adapter that writes: the operation it is made for, and whether it has returned. -/
structure JiraWrite where
  operationId : String
  returned : Bool
  deriving DecidableEq

/-- The local mirror: its bundle, and the errors that its validation reports. -/
structure JiraMirror where
  bundle : JiraMirrorBundle
  errors : List String := []

/-- The store, the remote, the local files, the clock, the outcomes of the coming calls, and the
calls that have been made to write. -/
structure JiraWorld where
  store : JiraSyncStore := {}
  remote : JiraRemote := .empty
  mirror : JiraMirror
  now : Instant := 0
  storeFaults : List (Option PyError) := []
  replies : List AdapterReply := []
  writes : List JiraWrite := []

/-- A computation of the steward: a session that may also end with an error of the adapter. -/
abbrev Steward (α : Type) := ExceptT JiraAdapterError (Session JiraWorld) α

/-- A computation without effects. -/
def Steward.ofExcept {α : Type} (result : Except PyError α) : Steward α :=
  ExceptT.lift (Session.ofExcept result)

/-- A call of the store: it raises, or its block is a transaction. -/
def storeCall {α : Type} (block : Txn JiraSyncStore α) : Session JiraWorld α := fun world =>
  let rest := { world with storeFaults := world.storeFaults.tail }
  match world.storeFaults.head?.join with
  | some error => (.error error, rest)
  | none =>
    match block world.store with
    | .error error => (.error error, rest)
    | .ok (a, store) => (.ok a, { rest with store })

/-! ### The adapter -/

/-- The exception as a result. -/
def AdapterFailure.raise {α : Type} : AdapterFailure → Except PyError (Except JiraAdapterError α)
  | adapter error => .ok (.error error)
  | other error => .error error

/-- The world after a call that writes, but for the remote. -/
def JiraWorld.noteWrite (world : JiraWorld) (operationId : String) (returned : Bool) : JiraWorld :=
  { world with
    replies := world.replies.tail
    writes := world.writes ++ [⟨operationId, returned⟩] }

/-- A call that changes the remote, made for an operation. -/
def adapterWrite {α : Type} (operationId : String)
    (change : JiraRemote → Instant → Except AdapterFailure (JiraRemote × α)) : Steward α :=
  ExceptT.mk fun world =>
    match change world.remote world.now, world.replies.head? with
    | .error failure, _ => (failure.raise, world.noteWrite operationId false)
    | .ok _, some (.refused failure) => (failure.raise, world.noteWrite operationId false)
    | .ok (remote, _), some (.lost failure) =>
      (failure.raise, { world.noteWrite operationId false with remote })
    | .ok (remote, a), _ => (.ok (.ok a), { world.noteWrite operationId true with remote })

def getIssue (remoteKey : String) : Steward (Option RemoteJiraIssue) :=
  ExceptT.mk fun world =>
    let rest := { world with replies := world.replies.tail }
    match world.replies.head? with
    | some (.refused failure) | some (.lost failure) => (failure.raise, rest)
    | _ => (.ok (.ok (world.remote.find? remoteKey)), rest)

def iterIssues : Steward (List RemoteJiraIssue) :=
  ExceptT.mk fun world =>
    let rest := { world with replies := world.replies.tail }
    match world.replies.head? with
    | some (.refused failure) | some (.lost failure) => (failure.raise, rest)
    | some (.listed issues) => (.ok (.ok issues), rest)
    | _ => (.ok (.ok world.remote.rows), rest)

/-- A field of an issue, with a value for it. -/
inductive RemoteField where
  | summary (text : String)
  | description (text : String)
  | labels (values : List String)
  | parent (remoteKey : Option String)
  | status (name : String)
  deriving DecidableEq

namespace RemoteField

/-- The field gets the value. -/
def assign (issue : RemoteJiraIssue) : RemoteField → RemoteJiraIssue
  | summary text => { issue with summary := text }
  | description text => { issue with descriptionText := text }
  | labels values => { issue with labels := values }
  | parent remoteKey => { issue with parentRemoteKey := remoteKey }
  | status name => { issue with statusName := name, normalizedState := none }

/-- The field has the value. -/
def HoldsIn (issue : RemoteJiraIssue) : RemoteField → Prop
  | summary text => issue.summary = text
  | description text => issue.descriptionText = text
  | labels values => issue.labels = values
  | parent remoteKey => issue.parentRemoteKey = remoteKey
  | status name => issue.statusName = name

instance (issue : RemoteJiraIssue) : ∀ field : RemoteField, Decidable (field.HoldsIn issue)
  | summary text => inferInstanceAs (Decidable (issue.summary = text))
  | description text => inferInstanceAs (Decidable (issue.descriptionText = text))
  | labels values => inferInstanceAs (Decidable (issue.labels = values))
  | parent remoteKey => inferInstanceAs (Decidable (issue.parentRemoteKey = remoteKey))
  | status name => inferInstanceAs (Decidable (issue.statusName = name))

/-- Two values are not different values of one field. -/
def Agrees : RemoteField → RemoteField → Prop
  | summary a, summary b => a = b
  | description a, description b => a = b
  | labels a, labels b => a = b
  | parent a, parent b => a = b
  | status a, status b => a = b
  | _, _ => True

end RemoteField

/-- An issue with new values for some of its fields, and a new version. -/
def RemoteJiraIssue.edited (issue : RemoteJiraIssue) (fields : List RemoteField) (now : Instant) :
    RemoteJiraIssue :=
  { fields.foldl RemoteField.assign issue with
    updatedAtUtc := now
    version := some (issue.version.getD 0 + 1) }

/-- A change of one issue of the remote. -/
def changeIssue (remoteKey : String) (edit : RemoteJiraIssue → RemoteJiraIssue)
    (remote : JiraRemote) : Except AdapterFailure (JiraRemote × RemoteJiraIssue) :=
  match remote.find? remoteKey with
  | none => .error (.adapter ⟨false⟩)
  | some issue => .ok (remote.replace (edit issue), edit issue)

def updateIssue (operationId remoteKey : String) (fields : List RemoteField) :
    Steward RemoteJiraIssue :=
  adapterWrite operationId fun remote now =>
    changeIssue remoteKey (fun issue => issue.edited fields now) remote

def transitionIssue (operationId remoteKey status : String) : Steward RemoteJiraIssue :=
  adapterWrite operationId fun remote now =>
    changeIssue remoteKey (fun issue => issue.edited [.status status] now) remote

section

variable (env : JiraEnv)

def nextIssueNumber (projectKey : String) (remote : JiraRemote) : ℕ :=
  (remote.rows.filterMap fun issue =>
    (dropWord (projectKey ++ "-") issue.remoteKey.toList).bind fun digits =>
      readDigits (String.ofList digits)).foldl max 0 + 1

/-- `str(fields.get(key, default))`. -/
def getTextOr (fields : JsonDict) (key default : String) : String :=
  ((fields.lookup key).map (JsonValue.toText env.text)).getD default

/-- The issue that `create_issue` makes of some fields. -/
def newIssue (projectKey : String) (fields : JsonDict) (labels : List JsonValue)
    (remote : JiraRemote) (now : Instant) : RemoteJiraIssue :=
  let key := projectKey ++ "-" ++ toString (nextIssueNumber projectKey remote)
  let typeName := getTextOr env fields "issue_type" "TASK"
  let localId := pyStrip (getTextOr env fields "local_id" "")
  { remoteId := "mock-" ++ key
    remoteKey := key
    localId := if localId = "" then none else some localId
    issueTypeName := env.title typeName
    normalizedIssueType :=
      [JiraIssueType.epic, .story, .task, .subtask, .bug, .spike].find? fun type =>
        type.value == env.upper typeName
    summary := getTextOr env fields "summary" "Untitled mock issue"
    descriptionText := getTextOr env fields "description_text" ""
    statusName := "BACKLOG"
    normalizedState := some .backlog
    parentRemoteKey :=
      if (fields.get "parent_remote_key").truthy then
        some ((fields.get "parent_remote_key").toText env.text)
      else none
    labels := sortedSet (labels.map (JsonValue.toText env.text))
    updatedAtUtc := now
    version := some 1 }

def createIssue (operationId projectKey : String) (fields : JsonDict) : Steward RemoteJiraIssue :=
  adapterWrite operationId fun remote now =>
    match ((fields.lookup "labels").map JsonValue.iterate).getD (.ok []) with
    | .error error => .error (.other error)
    | .ok labels =>
      let issue := newIssue env projectKey fields labels remote now
      match remote.insert issue with
      | none => .error (.adapter ⟨false⟩)
      | some remote => .ok (remote, issue)

def addComment (operationId remoteKey body : String) : Steward Unit := do
  let _ ← adapterWrite operationId fun remote now =>
    changeIssue remoteKey (fun issue => { issue with
      comments := issue.comments ++
        [.obj [("comment_id", .str ("comment-" ++ toString (issue.comments.length + 1))),
          ("author_account_id", .str "mock-actor"), ("body_text", .str body),
          ("created_at_utc", .str (env.isoformat now)),
          ("updated_at_utc", .str (env.isoformat now)),
          ("semantic_fingerprint",
            .str (String.ofList (env.sha.hexdigest (pyStrip body))))]] }) remote

/-- A link between two issues, which each of them shows. -/
def linkIssues (linkType outwardKey inwardKey : String) (remote : JiraRemote) :
    Except AdapterFailure (JiraRemote × Unit) := do
  let link : RemoteJiraLink := { linkType, outwardKey, inwardKey }
  let linked (issue : RemoteJiraIssue) : RemoteJiraIssue :=
    { issue with links := issue.links ++ [link] }
  let _ ← changeIssue inwardKey id remote
  let (remote, _) ← changeIssue outwardKey linked remote
  if outwardKey = inwardKey then return (remote, ())
  let (remote, _) ← changeIssue inwardKey linked remote
  return (remote, ())

def createLink (operationId linkType outwardKey inwardKey : String) : Steward Unit :=
  adapterWrite operationId fun remote _ => linkIssues linkType outwardKey inwardKey remote

/-! ### Operations -/

/-- `JiraStewardError`. -/
def stewardError (message : String) : PyError := .raised "JiraStewardError" message

/-- `dict(value)`. -/
def JsonValue.toDict : JsonValue → Except PyError JsonDict
  | obj fields => .ok fields
  | value => do
      let items ← value.iterate
      items.foldlM (fun fields item => do
        match ← item.iterate with
        | [str key, entry] => return JsonDict.set fields key entry
        | _ => .error (.valueError "dictionary update sequence element has the wrong length")) []

variable (fields : JsonDict)

/-- The labels of an update, as a set. -/
def requestedLabels : Except PyError (Option (List String)) :=
  match fields.lookup "labels" with
  | none => .ok none
  | some value =>
    value.iterate.map fun items => some (sortedSet (items.map (JsonValue.toText env.text)))

/-- The parent of an update, which may be no issue. -/
def requestedParent : Option (Option String) :=
  match fields.lookup "parent_remote_key" with
  | none => none
  | some .null => some none
  | some value => some (some (value.toText env.text))

/-- Values for those fields of an issue that are given. -/
def givenFields (summary description : Option String) (labels : Option (List String))
    (parent : Option (Option String)) : List RemoteField :=
  (summary.map RemoteField.summary).toList ++ (description.map RemoteField.description).toList ++
    (labels.map RemoteField.labels).toList ++ (parent.map RemoteField.parent).toList

def requestedFields : Except PyError (List RemoteField) := do
  let labels ← requestedLabels env fields
  return givenFields ((fields.lookup "summary").map (JsonValue.toText env.text))
    ((fields.lookup "description_text").map (JsonValue.toText env.text)) labels
    (requestedParent env fields)

namespace JiraSyncOperation

section

variable (operation : JiraSyncOperation)

/-- `operation.remote_key or str(operation.payload["remote_key"])`. -/
def targetKey : Except PyError String :=
  if truthy operation.remoteKey then .ok (operation.remoteKey.getD "")
  else operation.payload.getItemText env.text "remote_key"

/-- What an update asks for: an issue, and values for fields of it. -/
def updateRequest :
    Except PyError (String × List RemoteField) := do
  let remoteKey ← operation.targetKey env
  let fields ← ((operation.payload.lookup "fields").map JsonValue.toDict).getD (.ok [])
  return (remoteKey, ← requestedFields env fields)

/-- What a transition asks for: an issue, and its status. -/
def transitionRequest : Except PyError (String × String) := do
  let remoteKey ← operation.targetKey env
  return (remoteKey, ← operation.payload.getItemText env.text "target_status")

end

end JiraSyncOperation

/-- The keys of the issues that an application has created or seen, by local identifier. -/
abbrev CreatedKeys := List (String × String)

/-- `created_remote_keys.get(local_id) or self.store.remote_key_for(local_id)`. -/
def mappedKey (created : CreatedKeys) (localId : String) : Steward (Option String) := do
  if truthy (created.lookup localId) then return created.lookup localId
  ExceptT.lift (storeCall (JiraSyncStore.remoteKeyFor localId))

variable (operation : JiraSyncOperation) (created : CreatedKeys)

/-- The fields of a creation, with the key of the parent in the place of its local identifier. -/
def creationFields :
    Steward JsonDict := do
  let parent := operation.payload.get "parent_local_id"
  let fields := operation.payload.pop "parent_local_id"
  if parent.truthy then
    let parentLocal := parent.toText env.text
    let mapped ← mappedKey created parentLocal
    let mirror : JiraMirror ← ExceptT.lift fun world => (.ok world.mirror, world)
    let known := mapped.or
      ((mirror.bundle.issues.find? fun issue => issue.localId == parentLocal).bind
        LocalJiraIssue.remoteJiraKey)
    match known with
    | some parentRemote => return fields.set "parent_remote_key" (.str parentRemote)
    | none =>
      Steward.ofExcept (.error (stewardError ("cannot create " ++
        operation.localId.getD "None" ++ "; parent " ++ parentLocal ++
        " has no remote mapping")))
  else return fields

/-- The key of one end of a link. -/
def linkEnd (keyName localName : String) :
    Steward (Option String) := do
  match operation.payload.get keyName with
  | .null =>
    let localId ← Steward.ofExcept (operation.payload.getItemText env.text localName)
    mappedKey created localId
  | value => return some (value.toText env.text)

/-- `_apply_operation`: the issue that the adapter returns, if any. -/
def applyOperation :
    Steward (Option RemoteJiraIssue) := do
  match operation.operationType with
  | .createRemoteIssue =>
    let fields ← creationFields env operation created
    let projectKey ← Steward.ofExcept (fields.getItemText env.text "project_key")
    let issue ← createIssue env operation.operationId projectKey (fields.pop "project_key")
    return some issue
  | .updateRemoteFields =>
    let (remoteKey, fields) ← Steward.ofExcept (operation.updateRequest env)
    let issue ← updateIssue operation.operationId remoteKey fields
    return some issue
  | .transitionRemoteIssue =>
    let (remoteKey, status) ← Steward.ofExcept (operation.transitionRequest env)
    let issue ← transitionIssue operation.operationId remoteKey status
    return some issue
  | .addRemoteComment =>
    let remoteKey ← Steward.ofExcept (operation.targetKey env)
    let body ← Steward.ofExcept (operation.payload.getItemText env.text "body")
    addComment env operation.operationId remoteKey body
    getIssue remoteKey
  | .createRemoteLink =>
    let outwardKey ← linkEnd env operation created "outward_key" "outward_local_id"
    let inwardKey ← linkEnd env operation created "inward_key" "inward_local_id"
    match outwardKey, inwardKey with
    | some outward, some inward =>
      let linkType ← Steward.ofExcept (operation.payload.getItemText env.text "link_type")
      createLink operation.operationId linkType outward inward
      return none
    | _, _ =>
      Steward.ofExcept (.error (stewardError ("cannot create Jira link for " ++
        operation.operationId ++ "; both issues require remote mappings")))
  | .recordRemoteMapping =>
    let localId ← Steward.ofExcept
      (if truthy operation.localId then .ok (operation.localId.getD "")
        else operation.payload.getItemText env.text "local_id")
    let remoteKey ← Steward.ofExcept (operation.targetKey env)
    ExceptT.lift (storeCall (JiraSyncStore.putRemoteMapping localId remoteKey))
    getIssue remoteKey
  | .noOperation => return none
  | .importRemoteIssue | .acceptRemoteFields =>
    Steward.ofExcept (.error (stewardError (operation.operationType.value ++
      " requires an explicit source-control change workflow")))

/-- The body of the `try` block of `apply`: the operation, its state and its mapping, with the keys
that are known afterwards. -/
def performOperation :
    Steward CreatedKeys := do
  let remote ← applyOperation env operation created
  ExceptT.lift (storeCall (JiraSyncStore.setOperationState operation.operationId .applied))
  match remote with
  | some issue =>
    if truthy operation.localId then
      let localId := operation.localId.getD ""
      ExceptT.lift (storeCall (JiraSyncStore.putRemoteMapping localId issue.remoteKey))
      return (localId, issue.remoteKey) :: created
    else return created
  | none => return created

/-! ### Plans -/

def localBundle : Session JiraWorld JiraMirrorBundle := fun world =>
  if world.mirror.errors = [] then (.ok world.mirror.bundle, world)
  else
    (.error (stewardError ("local Jira mirror is invalid: " ++
      pyJoin "; " world.mirror.errors)), world)

/-- The mappings of the issues of a snapshot. -/
def putMappings : List RemoteJiraIssue → Session JiraWorld Unit
  | [] => pure ()
  | issue :: issues => do
      match issue.localId with
      | none => pure ()
      | some localId => storeCall (JiraSyncStore.putRemoteMapping localId issue.remoteKey)
      putMappings issues

def captureRemoteSnapshot (projectKey : String) : Steward JiraRemoteSnapshot := do
  let issues ← iterIssues
  let snapshot ← Steward.ofExcept (JiraRemoteSnapshot.create env projectKey issues)
  ExceptT.lift (storeCall (JiraSyncStore.putSnapshot snapshot))
  ExceptT.lift (putMappings snapshot.issues)
  return snapshot

/-- `JiraSteward.plan`. -/
def stewardPlan (policy : JiraReconciliationPolicy) (projectKey : String) :
    Steward JiraReconciliationPlan := do
  let bundle ← ExceptT.lift localBundle
  Steward.ofExcept (raiseIf (bundle.projectKey ≠ projectKey)
    (stewardError ("local Jira project key " ++ bundle.projectKey ++
      " does not match requested " ++ projectKey)))
  let remote ← captureRemoteSnapshot env projectKey
  let plan ← Steward.ofExcept (reconcilePlan env policy bundle remote)
  ExceptT.lift (storeCall (JiraSyncStore.putPlan plan))
  return plan

/-! ### Applying a plan -/

inductive ApprovalState where
  | notRequired | required | approved | denied
  deriving DecidableEq, Repr

/-- `ActionIntent`, as far as the steward reads it. -/
structure ActionIntent where
  actorId : String
  authority : String
  target : String
  operation : String
  scope : List String := []
  approvalState : ApprovalState := .required
  correlationId : String

def validateWriteIntent (intent : ActionIntent) (target operation : String) :
    Except PyError Unit := do
  raiseIf (intent.authority ≠ "jira.steward")
    (stewardError "Jira writes require jira.steward authority")
  raiseIf (intent.operation ≠ operation)
    (stewardError ("action intent operation must be " ++ operation ++ ", observed " ++
      intent.operation))
  raiseIf (intent.target ≠ target)
    (stewardError ("action intent target must be " ++ target ++ ", observed " ++ intent.target))
  raiseIf (intent.approvalState ≠ .approved)
    (stewardError "Jira write action intent must be approved")

variable (plan : JiraReconciliationPlan)

def validateActionIntent (intent : ActionIntent) :
    Except PyError Unit := do
  validateWriteIntent intent plan.projectKey "jira.sync"
  raiseIf (intent.approvalState ≠ .approved)
    (stewardError "remote Jira synchronization requires explicit approval")
  raiseIf (plan.conflicts ≠ [] ∧ "jira:resolve-conflicts" ∉ intent.scope)
    (stewardError
      "plan contains reconciliation conflicts; jira:resolve-conflicts scope is required")

variable (intent : ActionIntent) (authorizationId : String)

/-- The check of `JiraWriteContext`. -/
def checkWriteContext (operation : JiraSyncOperation) : Except PyError Unit :=
  [("actor_id", intent.actorId), ("correlation_id", intent.correlationId),
    ("idempotency_key", operation.idempotencyKey),
    ("authorization_id", authorizationId)].forM fun entry =>
      raiseIf (pyStrip entry.2 = "") (.valueError (entry.1 ++ " must be non-empty"))

structure ApplyProgress where
  applied : List String := []
  failed : List String := []
  unknown : List String := []
  created : CreatedKeys := []

/-- The loop of `apply`. It ends at the first operation that is not applied. -/
def applyOperations (intent : ActionIntent) (authorizationId : String) :
    List JiraSyncOperation → ApplyProgress → Session JiraWorld ApplyProgress
  | [], progress => pure progress
  | operation :: operations, progress => do
      let id := operation.operationId
      let current ← storeCall (JiraSyncStore.operationState id)
      if current = some .applied ∨ current = some .reconciled then
        applyOperations intent authorizationId operations
          { progress with applied := progress.applied ++ [id] }
      else if current = some .unknownOutcome then
        pure { progress with unknown := progress.unknown ++ [id] }
      else if operation.requiresIndependentVerification ∧ intent.approvalState ≠ .approved then do
        storeCall (JiraSyncStore.setOperationState id .rejected)
        pure { progress with failed := progress.failed ++ [id] }
      else do
        storeCall (JiraSyncStore.setOperationState id .pending)
        Session.ofExcept (checkWriteContext intent authorizationId operation)
        match ← Session.attempt (performOperation env operation progress.created).run with
        | .ok (.ok created) =>
          applyOperations intent authorizationId operations
            { progress with applied := progress.applied ++ [id], created := created }
        | .ok (.error error) =>
          if error.unknownOutcome then do
            storeCall (JiraSyncStore.setOperationState id .unknownOutcome)
            pure { progress with unknown := progress.unknown ++ [id] }
          else do
            storeCall (JiraSyncStore.setOperationState id .failed)
            pure { progress with failed := progress.failed ++ [id] }
        | .error _ => do
            storeCall (JiraSyncStore.setOperationState id .failed)
            pure { progress with failed := progress.failed ++ [id] }

def ApplyProgress.result (progress : ApplyProgress) : JiraSyncResult :=
  if progress.unknown ≠ [] then .reconciliationRequired
  else if progress.failed ≠ [] ∧ progress.applied ≠ [] then .partially
  else if progress.failed ≠ [] then .rejected
  else .applied

/-- `_receipt`. -/
def makeReceipt (mode : JiraSyncMode) (result : JiraSyncResult) (actorId correlationId : String)
    (progress : ApplyProgress) (conflictIds : List String)
    (remoteSnapshotIdAfter : Option String) : Except PyError JiraSyncReceipt := do
  let receiptId ← jiraSyncIdentifier env .receipt
    ([plan.planId, mode.value, result.value, actorId, correlationId] ++ progress.applied ++
      progress.failed ++ progress.unknown)
  let receipt : JiraSyncReceipt :=
    { receiptId
      planId := plan.planId
      mode
      result
      appliedOperationIds := progress.applied
      failedOperationIds := progress.failed
      unknownOutcomeOperationIds := progress.unknown
      conflictIds
      remoteSnapshotIdAfter
      actorId
      correlationId }
  raiseIf (receipt.errors ≠ [])
    (.validationError "JiraSyncReceipt" (receipt.errors.map fun error => ("", error)))
  return receipt

/-- `JiraSteward.dry_run`. -/
def stewardDryRun (actorId correlationId : String) :
    Session JiraWorld JiraSyncReceipt := do
  storeCall (JiraSyncStore.putPlan plan)
  let receipt ← Session.ofExcept
    (makeReceipt env plan .dryRun .dryRun actorId correlationId {}
      (plan.conflicts.map JiraSyncConflict.conflictId) none)
  storeCall (JiraSyncStore.putReceipt receipt)
  return receipt

/-- The snapshot at the end of `apply`. An error of the adapter is passed over. -/
def closingSnapshot (progress : ApplyProgress) :
    Session JiraWorld (Option String) := do
  if progress.unknown ≠ [] then pure none
  else
    match ← (captureRemoteSnapshot env plan.projectKey).run with
    | .ok snapshot => pure (some snapshot.snapshotId)
    | .error _ => pure none

/-- `JiraSteward.apply`. -/
def stewardApply : Session JiraWorld JiraSyncReceipt := do
  Session.ofExcept (validateActionIntent plan intent)
  storeCall (JiraSyncStore.putPlan plan)
  let progress ← applyOperations env intent authorizationId plan.operations {}
  let snapshotAfter ← closingSnapshot env plan progress
  let unknownConflict ← Session.ofExcept
    (if progress.unknown = [] then .ok []
      else (jiraSyncIdentifier env .conflict
        ([JiraConflictKind.unknownWriteOutcome.value, plan.planId] ++ progress.unknown)).map ([·]))
  let conflictIds := plan.conflicts.map JiraSyncConflict.conflictId ++ unknownConflict
  let receipt ← Session.ofExcept
    (makeReceipt env plan .apply progress.result intent.actorId intent.correlationId progress
      (sortedSet conflictIds) snapshotAfter)
  storeCall (JiraSyncStore.putReceipt receipt)
  return receipt

end

end ProjectPipeline
