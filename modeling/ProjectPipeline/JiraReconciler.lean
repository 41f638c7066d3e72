import ProjectPipeline.JiraIdentity

/-!
# The Jira Planner

`JiraReconciler` (`jira_steward/reconciliation.py`): the operations that bring a remote snapshot in
line with the local issues, and the conflicts that somebody has to look at. The planner reads the
snapshot only; it does not ask whether an operation of the same name has been applied before.

A method of the source that appends to the lists of operations and conflicts returns what it
appends (`Findings`).
-/

namespace ProjectPipeline

/-! ### Policy -/

/-- The default of `preferred_remote_status`. -/
def defaultRemoteStatus : JiraLifecycleState → Option String
  | .backlog | .ready | .cancelled | .deferred | .discovered => some "To Do"
  | .inProgress | .review | .validation | .mergeReady | .blocked | .failed => some "In Progress"
  | .done => some "Done"

/-- `JiraReconciliationPolicy`, with the table of `JiraStatusMapping`. -/
structure JiraReconciliationPolicy where
  authorityMode : JiraAuthorityMode := .sourceControlledLocal
  remoteToInternal : List (String × JiraLifecycleState) :=
    [("Backlog", .backlog), ("To Do", .backlog), ("Ready", .ready), ("In Progress", .inProgress),
      ("Code Review", .review), ("Review", .review), ("QA", .validation),
      ("Validation", .validation), ("Merge Ready", .mergeReady), ("Blocked", .blocked),
      ("Done", .done), ("Complete", .done), ("Cancelled", .cancelled), ("Deferred", .deferred)]
  preferredRemoteStatus : JiraLifecycleState → Option String := defaultRemoteStatus
  importRemoteOnlyIssues : Bool := false
  requireCompletionEvidenceForRemoteDone : Bool := true

/-- `JiraStatusMapping.normalize`. -/
def JiraReconciliationPolicy.normalize (policy : JiraReconciliationPolicy) (env : JiraEnv)
    (remoteStatus : String) : Option JiraLifecycleState :=
  (policy.remoteToInternal.find? fun entry =>
    env.casefold entry.1 == env.casefold (pyStrip remoteStatus)).map Prod.snd

/-! ### Texts -/

/-- `_managed_labels`. An implementation state without a label raises. -/
def managedLabels (env : JiraEnv) (issue : LocalJiraIssue) : Except PyError (List String) := do
  let implementationLabel ←
    match issue.implementationState with
    | .implemented => .ok "implementation-implemented"
    | .liveVerified => .ok "implementation-live-verified"
    | .partiallyImplemented => .ok "implementation-partial"
    | .plannedOnly => .ok "implementation-planned"
    | state => .error (.keyError state.value)
  return sortedSet (issue.labels ++
    [env.lower issue.localId, localIdLabelMark ++ issue.localId,
      "risk-" ++ env.lower issue.riskClassification, implementationLabel])

def bullets (values : List String) : String :=
  if values = [] then "- None." else pyJoin "\n" (values.map ("- " ++ ·))

/-- `section`. -/
def textSection (title value : String) : String :=
  title ++ "\n" ++ if pyStrip value = "" then "None." else pyStrip value

def JiraPlanReference.line (item : JiraPlanReference) : String :=
  item.planId ++ " / " ++ item.sectionId ++ " / " ++ item.lineReference ++ " (" ++
    item.authoritativePath ++ ":" ++ toString item.startLine ++ "-" ++ toString item.endLine ++ ")"

def JiraAcceptanceCriterion.lines (item : JiraAcceptanceCriterion) : String :=
  item.criterionId ++ ": " ++ item.statement ++ "\n  Method: " ++ item.verification.method ++
    "\n  Command: " ++ item.verification.command ++ "\n  Path: " ++ item.verification.path ++
    "\n  Current verification status: " ++ item.verification.status

/-- `value or "None."`. -/
def orNone (value : Option String) : String := (orText value (some "None.")).getD "None."

def remoteDescription (env : JiraEnv) (issue : LocalJiraIssue) : String :=
  let remoteObservation :=
    match issue.lastObservedRemoteState with
    | none => "None."
    | some observed => (JsonValue.obj observed).dumpsText env.text ", " ": "
  pyJoin "\n\n"
    [textSection "Local Work Item" (pyJoin "\n"
        ["- Local ID: " ++ issue.localId,
          "- Local issue type: " ++ issue.issueType.value,
          "- Parent local ID: " ++ orNone issue.parent,
          "- Local lifecycle state: " ++ issue.state.value,
          "- Implementation state: " ++ issue.implementationState.value,
          "- Risk classification: " ++ issue.riskClassification,
          "- Required capability: " ++ issue.ownerRequiredCapability,
          "- Confirmed remote key: " ++ orNone issue.remoteJiraKey]),
      textSection "Objective" issue.objective,
      textSection "Description" issue.description,
      textSection "Scope" (bullets issue.scope),
      textSection "Rationale" issue.rationale,
      textSection "Requirements / Traceability" (bullets issue.requirementIds),
      textSection "Plan References" (bullets (issue.planReferences.map JiraPlanReference.line)),
      textSection "Source References" (bullets issue.sourceReferences),
      textSection "Expected Implementation Artifacts"
        (bullets issue.expectedImplementationArtifacts),
      textSection "Expected File Locations" (bullets issue.expectedFileLocations),
      textSection "Acceptance Criteria"
        (bullets (issue.acceptanceCriteria.map JiraAcceptanceCriterion.lines)),
      textSection "Definition of Done" (bullets issue.definitionOfDone),
      textSection "Required Tests" (bullets issue.requiredTests),
      textSection "Evidence Required" (bullets issue.evidenceRequired),
      textSection "Completion Evidence" (bullets issue.completionEvidence),
      textSection "Dependencies" (bullets issue.dependencies),
      textSection "Blockers" (bullets issue.blockers),
      textSection "Relationships"
        (bullets (issue.relationships.map fun item => item.type ++ ": " ++ item.target)),
      textSection "Upstream Dependencies" (bullets issue.upstreamDependencies),
      textSection "Security Impact" issue.securityImpact,
      textSection "Observability Impact" issue.observabilityImpact,
      textSection "Rollback / Recovery" issue.rollbackRecoveryConsideration,
      textSection "Exclusions" (bullets issue.exclusions),
      textSection "Last Observed Remote State" remoteObservation,
      textSection "Traceability Fingerprint" (issue.traceabilityFingerprint env)]

/-- `re.sub(r"\s+", " ", …)`. -/
def collapseSpace : List Char → List Char
  | a :: b :: rest =>
    if isSpace a && isSpace b then collapseSpace (b :: rest)
    else (if isSpace a then ' ' else a) :: collapseSpace (b :: rest)
  | [a] => [if isSpace a then ' ' else a]
  | [] => []

def normalizeDescription (value : String) : String :=
  pyStrip (String.ofList (collapseSpace value.toList))

/-! ### Comparing an issue -/

/-- What a part of the planner appends to the operations and the conflicts. -/
structure Findings where
  operations : List JiraSyncOperation := []
  conflicts : List JiraSyncConflict := []

/-- Appended one after the other. -/
def Findings.append (a b : Findings) : Findings :=
  ⟨a.operations ++ b.operations, a.conflicts ++ b.conflicts⟩

section Planner

variable (env : JiraEnv) (policy : JiraReconciliationPolicy)

variable (issue : LocalJiraIssue) (remote : RemoteJiraIssue)

/-- `changed_fields` of `_compare_issue`. -/
def changedFields :
    Except PyError JsonDict := do
  let desired := remoteDescription env issue
  let requiredLabels ← managedLabels env issue
  return (if remote.summary ≠ issue.title then [("summary", .str issue.title)] else []) ++
    (if normalizeDescription remote.descriptionText ≠ normalizeDescription desired then
      [("description_text", .str desired)] else []) ++
    (if remote.labels.insertionSort (fun a b => textLe a b) ≠ requiredLabels then
      [("labels", .texts requiredLabels)] else [])

/-- `_compare_issue`, as far as the fields: the update, and the conflict of the types. -/
def compareFields :
    Except PyError Findings := do
  let changed ← changedFields env issue remote
  let conflicts ←
    match remote.normalizedIssueType with
    | none => pure []
    | some remoteType =>
      if remoteType = issue.issueType then pure []
      else do
        let conflict ← JiraSyncConflict.create env .hierarchyMismatch (some issue.localId)
          (some remote.remoteKey) ["issue_type"]
          ("Local type " ++ issue.issueType.value ++ " differs from remote type " ++
            remoteType.value ++ ".")
          "Confirm the intended work type before changing Jira hierarchy."
        pure [conflict]
  let operations ←
    if changed = [] then pure []
    else do
      let operation ← JiraSyncOperation.create env .updateRemoteFields
        [("remote_key", .str remote.remoteKey), ("fields", .obj changed),
          ("local_fingerprint", .str (issue.semanticFingerprint env))]
        (some issue.localId) (some remote.remoteKey) remote.version
      pure [operation]
  return ⟨operations, conflicts⟩

/-- The status of an issue that follows the local state. -/
def followLocalState :
    Except PyError Findings := do
  match policy.preferredRemoteStatus issue.state with
  | none =>
    let conflict ← JiraSyncConflict.create env .statusUnmapped (some issue.localId)
      (some remote.remoteKey) ["status"]
      ("Internal state " ++ issue.state.value ++ " has no preferred remote status.")
      "Define a target remote status or resolve the state manually."
    return { conflicts := [conflict] }
  | some target =>
    if target = remote.statusName then return {}
    let operation ← JiraSyncOperation.create env .transitionRemoteIssue
      [("remote_key", .str remote.remoteKey), ("from_status", .str remote.statusName),
        ("target_status", .str target), ("target_internal_state", .str issue.state.value)]
      (some issue.localId) (some remote.remoteKey) remote.version
    return { operations := [operation] }

/-- The state of an issue that follows the remote status. -/
def acceptRemoteState (remoteState : JiraLifecycleState) : Except PyError Findings := do
  if remoteState = issue.state then return {}
  let operation ← JiraSyncOperation.create env .acceptRemoteFields
    [("local_id", .str issue.localId), ("remote_key", .str remote.remoteKey),
      ("field", .str "state"), ("observed_remote_status", .str remote.statusName),
      ("observed_internal_state", .str remoteState.value),
      ("current_local_state", .str issue.state.value)]
    (some issue.localId) (some remote.remoteKey) remote.version
  if policy.requireCompletionEvidenceForRemoteDone ∧ remoteState = .done ∧ issue.state ≠ .done then
    let conflict ← JiraSyncConflict.create env .evidenceReconciliationRequired (some issue.localId)
      (some remote.remoteKey) ["state", "completion_evidence"]
      "Remote Jira reports completion while the local evidence-backed record is not done."
      ("Autonomously reconcile acceptance, tests, independent verification, blockers, " ++
        "integrated-main state, and completion evidence before accepting DONE.")
    return ⟨[operation], [conflict]⟩
  else return { operations := [operation] }

/-- `_compare_issue`, as far as the status. -/
def compareStatus :
    Except PyError Findings := do
  match remote.normalizedState.or (policy.normalize env remote.statusName) with
  | none =>
    let conflict ← JiraSyncConflict.create env .statusUnmapped (some issue.localId)
      (some remote.remoteKey) ["status"]
      ("Remote status " ++ env.reprText remote.statusName ++ " has no internal mapping.")
      "Add an explicit status mapping before synchronization."
    return { conflicts := [conflict] }
  | some remoteState =>
    match policy.authorityMode with
    | .sourceControlledLocal => followLocalState env policy issue remote
    | .remoteCollaborative => acceptRemoteState env policy issue remote remoteState

def compareIssue :
    Except PyError Findings := do
  let fields ← compareFields env issue remote
  let status ← compareStatus env policy issue remote
  return fields.append status

/-! ### Matching issues -/

/-- The remote issues by the local identifiers that they resolve to, with those that share one. -/
structure RemoteMatches where
  remoteByLocal : List (String × RemoteJiraIssue) := []
  duplicates : List (String × List String) := []
  conflicts : List JiraSyncConflict := []

/-- `duplicates.setdefault(local_id, [first]).append(key)`. -/
def addDuplicate (duplicates : List (String × List String)) (localId first key : String) :
    List (String × List String) :=
  if (duplicates.lookup localId).isSome then
    duplicates.map fun entry => if entry.1 = localId then (localId, entry.2 ++ [key]) else entry
  else duplicates ++ [(localId, [first, key])]

variable (found : RemoteMatches)

/-- A remote issue under the local identifier that it resolves to. -/
def RemoteMatches.add (localId : String) (item : RemoteJiraIssue) :
    RemoteMatches :=
  match found.remoteByLocal.lookup localId with
  | some first =>
    { found with
      duplicates := addDuplicate found.duplicates localId first.remoteKey item.remoteKey }
  | none => { found with remoteByLocal := found.remoteByLocal ++ [(localId, item)] }

/-- One round of the loop over the remote issues. -/
def matchRemote (item : RemoteJiraIssue) :
    Except PyError RemoteMatches := do
  match item.localId with
  | some localId => return found.add localId item
  | none =>
    let derivation := deriveRemoteLocalId env item.labels item.descriptionText item.fields none
    if derivation.failClosed then
      let conflict ← JiraSyncConflict.create env .duplicateRemoteMapping none
        (some item.remoteKey) ["local_id"]
        ("Remote Jira issue " ++ item.remoteKey ++ " has conflicting local IDs: " ++
          pyJoin ", " derivation.candidates ++ ".")
        "Resolve duplicate local-ID labels or description markers before writing."
      return { found with conflicts := found.conflicts ++ [conflict] }
    match derivation.localId with
    | none => return found
    | some localId => return found.add localId item

/-- The conflict of the remote issues that share a local identifier. -/
def duplicateConflict (entry : String × List String) : Except PyError JiraSyncConflict :=
  JiraSyncConflict.create env .duplicateRemoteMapping (some entry.1) none ["local_id"]
    ("Multiple remote Jira issues map to " ++ entry.1 ++ ": " ++ pyJoin ", " entry.2 ++ ".")
    "Choose one canonical remote issue and remove duplicate mappings."

def createRemoteOperation (projectKey : String) (issue : LocalJiraIssue) :
    Except PyError JiraSyncOperation := do
  let labels ← managedLabels env issue
  JiraSyncOperation.create env .createRemoteIssue
    [("project_key", .str projectKey), ("local_id", .str issue.localId),
      ("issue_type", .str issue.issueType.value), ("summary", .str issue.title),
      ("description_text", .str (remoteDescription env issue)),
      ("parent_local_id",
        if issue.issueType = .story ∨ issue.issueType = .subtask then .optText issue.parent
        else .null),
      ("labels", .texts labels), ("target_state", .str issue.state.value),
      ("traceability_fingerprint", .str (issue.traceabilityFingerprint env))]
    (some issue.localId) none

def remoteOf (remotes : List RemoteJiraIssue) (issue : LocalJiraIssue) :
    Option RemoteJiraIssue :=
  (found.remoteByLocal.lookup issue.localId).or
    (issue.remoteJiraKey.bind fun key => remotes.find? fun item => item.remoteKey == key)

/-- One round of the loop over the local issues, with the key of the remote issue. -/
def planLocal (projectKey : String) (found : RemoteMatches) (remotes : List RemoteJiraIssue)
    (issue : LocalJiraIssue) : Except PyError (Findings × List String) := do
  match remoteOf found remotes issue with
  | none =>
    let operation ← createRemoteOperation env projectKey issue
    return ({ operations := [operation] }, [])
  | some remote =>
    let mapping ←
      if issue.remoteJiraKey.isSome then pure []
      else do
        let operation ← JiraSyncOperation.create env .recordRemoteMapping
          [("local_id", .str issue.localId), ("remote_key", .str remote.remoteKey),
            ("remote_id", .str remote.remoteId),
            ("remote_version", (remote.version.map fun v => JsonValue.int v).getD .null),
            ("remote_fingerprint", .str (remote.semanticFingerprint env))]
          (some issue.localId) (some remote.remoteKey)
        pure [operation]
    let compared ← compareIssue env policy issue remote
    return (Findings.append { operations := mapping } compared, [remote.remoteKey])

/-- One round of the loop over the remote issues without a local one. -/
def planRemoteOnly (issues : List LocalJiraIssue) (matched : List String)
    (remote : RemoteJiraIssue) : Except PyError Findings := do
  if matched.contains remote.remoteKey then return {}
  if issues.any fun issue => truthy remote.localId && remote.localId == some issue.localId then
    return {}
  if issues.any fun issue => issue.remoteJiraKey == some remote.remoteKey then return {}
  let conflict ← JiraSyncConflict.create env .remoteOnlyIssue remote.localId (some remote.remoteKey)
    ["identity"] ("Remote Jira issue " ++ remote.remoteKey ++ " has no local mirror record.")
    ("Review and explicitly import, link, or exclude the remote-only issue; " ++
      "do not silently add it to source control.")
  if policy.importRemoteOnlyIssues then
    let operation ← JiraSyncOperation.create env .importRemoteIssue (remote.dump env)
      remote.localId (some remote.remoteKey)
    return ⟨[operation], [conflict]⟩
  else return { conflicts := [conflict] }

/-! ### Links -/

structure WantedLink where
  linkType : String
  outwardLocalId : String
  inwardLocalId : String
  semanticKind : String

/-- The links of an issue: from its parent, and to the issues that it depends on. -/
def wantedLinks (issue : LocalJiraIssue) : List WantedLink :=
  (match issue.issueType, issue.parent with
    | .task, some parent => [⟨"Parent Of", parent, issue.localId, "LOCAL_HIERARCHY"⟩]
    | _, _ => []) ++
  issue.dependencies.map fun dependency =>
    ⟨"Depends On", issue.localId, dependency, "LOCAL_DEPENDENCY"⟩

variable (remotes : List RemoteJiraIssue)

/-- `remote_key_by_local`: a later issue replaces an earlier one. -/
def remoteKeyByLocal (localId : String) : Option String :=
  (remotes.reverse.find? fun issue => issue.localId == some localId).map RemoteJiraIssue.remoteKey

def observedLinks : List (String × String × String) :=
  remotes.flatMap fun issue =>
    issue.links.map fun link => (env.casefold link.linkType, link.outwardKey, link.inwardKey)

/-- `add_link`: the link has been planned or is there, or it becomes an operation. -/
def addLink (state : List (String × String × String) × List JiraSyncOperation) (link : WantedLink) :
    Except PyError (List (String × String × String) × List JiraSyncOperation) := do
  let semantic := (env.casefold link.linkType, link.outwardLocalId, link.inwardLocalId)
  if state.1.contains semantic then return state
  let planned := state.1 ++ [semantic]
  let outwardKey := remoteKeyByLocal remotes link.outwardLocalId
  let inwardKey := remoteKeyByLocal remotes link.inwardLocalId
  let observed :=
    match outwardKey, inwardKey with
    | some outward, some inward =>
      (observedLinks env remotes).contains (env.casefold link.linkType, outward, inward)
    | _, _ => false
  if observed then return (planned, state.2)
  let operation ← JiraSyncOperation.create env .createRemoteLink
    [("link_type", .str link.linkType), ("outward_local_id", .str link.outwardLocalId),
      ("inward_local_id", .str link.inwardLocalId), ("semantic_kind", .str link.semanticKind)]
    (some link.outwardLocalId) outwardKey
  return (planned, state.2 ++ [operation])

def planRelationshipLinks (issues : List LocalJiraIssue) (remotes : List RemoteJiraIssue) :
    Except PyError (List JiraSyncOperation) := do
  let (_, operations) ← (issues.flatMap wantedLinks).foldlM (addLink env remotes) ([], [])
  return operations

/-! ### The plan -/

def operationRank : JiraSyncOperationType → ℕ
  | .recordRemoteMapping => 0
  | .createRemoteIssue => 1
  | .updateRemoteFields => 2
  | .createRemoteLink => 3
  | .transitionRemoteIssue => 4
  | .addRemoteComment => 5
  | .acceptRemoteFields => 6
  | .importRemoteIssue => 7
  | .noOperation => 8

/-- The loop that counts the ancestors of an issue. Every round sees an issue for the first time, so
as many rounds as there are issues are enough. -/
def countAncestors (issues : List LocalJiraIssue) :
    ℕ → List String → Option LocalJiraIssue → ℕ
  | fuel + 1, seen, some issue =>
    match issue.parent with
    | none => 0
    | some parent =>
      if seen.contains issue.localId then 0
      else
        1 + countAncestors issues fuel (seen ++ [issue.localId])
          (issues.find? fun candidate => candidate.localId == parent)
  | _, _, _ => 0

def operationSortKey (issues : List LocalJiraIssue) (operation : JiraSyncOperation) :
    ℕ × ℕ × String :=
  (operationRank operation.operationType,
    countAncestors issues (issues.length + 1) []
      (issues.find? fun issue => issue.localId == operation.localId.getD ""),
    operation.operationId)

/-- `a <= b` on sort keys. -/
def sortKeyLe (a b : ℕ × ℕ × String) : Bool :=
  a.1 < b.1 || (a.1 == b.1 && (a.2.1 < b.2.1 || (a.2.1 == b.2.1 && textLe a.2.2 b.2.2)))

section

variable (bundle : JiraMirrorBundle) (remote : JiraRemoteSnapshot)

/-- The operations and conflicts of a plan, before they are sorted. -/
def collectFindings :
    Except PyError Findings := do
  let found ← remote.issues.foldlM (matchRemote env) {}
  let sortedDuplicates := found.duplicates.insertionSort fun a b => textLe a.1 b.1
  let duplicates ← sortedDuplicates.mapM (duplicateConflict env)
  let compared ← bundle.issues.mapM (planLocal env policy bundle.projectKey found remote.issues)
  let matched := compared.flatMap Prod.snd
  let remoteOnly ← remote.issues.mapM (planRemoteOnly env policy bundle.issues matched)
  let links ← planRelationshipLinks env bundle.issues remote.issues
  return {
    operations := compared.flatMap (fun item => item.1.operations) ++
      remoteOnly.flatMap Findings.operations ++ links
    conflicts := found.conflicts ++ duplicates ++
      compared.flatMap (fun item => item.1.conflicts) ++ remoteOnly.flatMap Findings.conflicts }

/-- `JiraReconciler.plan`. -/
def reconcilePlan :
    Except PyError JiraReconciliationPlan := do
  let findings ← collectFindings env policy bundle remote
  let operations := findings.operations.insertionSort fun a b =>
    sortKeyLe (operationSortKey bundle.issues a) (operationSortKey bundle.issues b)
  let conflicts := findings.conflicts.insertionSort fun a b => textLe a.conflictId b.conflictId
  let planId ← jiraSyncIdentifier env .plan
    ([bundle.projectKey, bundle.fingerprint, remote.snapshotId, remote.fingerprint,
      policy.authorityMode.value] ++ operations.map JiraSyncOperation.operationId ++
      conflicts.map JiraSyncConflict.conflictId)
  if hoperations : (operations.map JiraSyncOperation.operationId).Nodup then
    if hconflicts : (conflicts.map JiraSyncConflict.conflictId).Nodup then
      return {
        planId
        projectKey := bundle.projectKey
        authorityMode := policy.authorityMode
        localFingerprint := bundle.fingerprint
        remoteSnapshotId := remote.snapshotId
        remoteFingerprint := remote.fingerprint
        operations
        conflicts
        operations_nodup := hoperations
        conflicts_nodup := hconflicts }
    else .error (.validationError "JiraReconciliationPlan"
      [("", "Value error, Jira reconciliation plan contains duplicate conflicts")])
  else .error (.validationError "JiraReconciliationPlan"
    [("", "Value error, Jira reconciliation plan contains duplicate operations")])

end

end Planner

end ProjectPipeline
