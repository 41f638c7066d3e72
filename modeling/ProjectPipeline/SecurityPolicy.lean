import ProjectPipeline.Python

/-!
# The Security Policy

`SecurityPolicyEngine.evaluate_action` (`security/policy.py`) derives a capability from the name of
an operation and asks `IdentityAuthority` (`security/identity.py`) whether the actor has it. The
capability is that of the first row of a table with a word that occurs anywhere in the name, so a
name that only contains a word of reading counts as reading.

Names are `Identifier`s, which have ASCII letters only.

## Main results

* `authorize_iff`: `authorize` decides whether an identity has a capability, by a role or by a grant.
* `high_impact_needs_two`: a high-impact action is allowed only with the approval of another identity.
* `read_only_confined_iff`: the names for which an identity that may only read is confined to
  reading.
-/

namespace ProjectPipeline

namespace Security

/-! ### Records -/

inductive AuthorityCapability where
  | read | propose | approve | mutate | merge | deploy | spend | externalModel | accessSecret
  | modifyInstructions | modifyPolicy | completeProject | emergency
  deriving DecidableEq

def AuthorityCapability.value : AuthorityCapability → String
  | read => "READ"
  | propose => "PROPOSE"
  | approve => "APPROVE"
  | mutate => "MUTATE"
  | merge => "MERGE"
  | deploy => "DEPLOY"
  | spend => "SPEND"
  | externalModel => "EXTERNAL_MODEL"
  | accessSecret => "ACCESS_SECRET"
  | modifyInstructions => "MODIFY_INSTRUCTIONS"
  | modifyPolicy => "MODIFY_POLICY"
  | completeProject => "COMPLETE_PROJECT"
  | emergency => "EMERGENCY"

inductive RiskLevel where
  | low | medium | high | critical
  deriving DecidableEq

/-- `_RISK`. -/
def RiskLevel.rank : RiskLevel → ℕ
  | low => 0
  | medium => 1
  | high => 2
  | critical => 3

inductive IdentityState where
  | active | suspended | revoked
  deriving DecidableEq

structure SecurityIdentity where
  identityId : String
  state : IdentityState := .active
  projectIds : List String := []
  environmentScopes : List String := []
  roleIds : List String := []

structure RoleDefinition where
  roleId : String
  capabilities : List AuthorityCapability
  allowedTargetPrefixes : List String := []
  allowedEnvironments : List String := []
  maxRisk : RiskLevel := .medium

structure CapabilityGrant where
  identityId : String
  capability : AuthorityCapability
  projectId : String
  targetPrefix : String
  environment : String
  operationClass : String
  issuedAtUtc : Instant
  expiresAtUtc : Instant
  revokedAtUtc : Option Instant := none

def CapabilityGrant.activeAt (grant : CapabilityGrant) (t : Instant) : Bool :=
  grant.revokedAtUtc.isNone && grant.issuedAtUtc ≤ t && t < grant.expiresAtUtc

inductive ApprovalDecision where
  | approved | denied
  deriving DecidableEq

structure ApprovalRecord where
  actionId : String
  proposerIdentityId : String
  approverIdentityId : String
  capability : AuthorityCapability
  decision : ApprovalDecision
  decidedAtUtc : Instant
  independent : proposerIdentityId ≠ approverIdentityId

inductive ApprovalState where
  | notRequired | required | approved | denied
  deriving DecidableEq

structure ActionIntent where
  actionId : String
  actorId : String
  target : String
  operation : String
  risk : RiskLevel := .medium
  approvalState : ApprovalState := .required

inductive PolicyDisposition where
  | allow | deny | requireApproval | constrain
  deriving DecidableEq

/-- `PolicyDecision`, without the digests of its input. -/
structure PolicyDecision where
  policyVersion : String := "SECURITY-POLICY-1.0.0"
  actionId : String
  actorIdentityId : String
  capability : AuthorityCapability
  disposition : PolicyDisposition
  reasons : List String
  constraints : List (String × String)
  approvalRequired : Bool

/-! ### Authority -/

structure IdentityAuthority where
  identities : List SecurityIdentity
  roles : List RoleDefinition
  grants : List CapabilityGrant

def targetAllowed (prefixes : List String) (target : String) : Bool :=
  prefixes.isEmpty || prefixes.any fun start =>
    target == start || startsWith target (String.ofList (start.toList.rdropWhile (· == '/')) ++ "/")

namespace IdentityAuthority

variable (authority : IdentityAuthority)

variable (identityId : String) (capability : AuthorityCapability)
  (projectId target environment operation : String) (risk : RiskLevel)

/-- `authorize`, for a call at the time `t`. -/
def authorize (t : Instant) : Bool :=
  (authority.identities.find? (·.identityId == identityId)).any fun identity =>
    identity.state == .active &&
    (identity.projectIds.isEmpty || identity.projectIds.contains projectId) &&
    (identity.environmentScopes.isEmpty || identity.environmentScopes.contains environment) &&
    ((identity.roleIds.any fun roleId => (authority.roles.find? (·.roleId == roleId)).any fun role =>
        role.capabilities.contains capability && decide (risk.rank ≤ role.maxRisk.rank) &&
        (role.allowedEnvironments.isEmpty || role.allowedEnvironments.contains environment) &&
        targetAllowed role.allowedTargetPrefixes target) ||
      authority.grants.any fun grant =>
        grant.identityId == identityId && grant.capability == capability &&
        grant.projectId == projectId && grant.environment == environment &&
        grant.operationClass == operation && grant.activeAt t &&
        targetAllowed [grant.targetPrefix] target)

def validateApproval (approval : ApprovalRecord) (projectId target environment : String)
    (risk : RiskLevel) : Bool :=
  approval.decision == .approved && authority.authorize approval.approverIdentityId .approve
    projectId target environment approval.capability.value risk approval.decidedAtUtc

/-- What authority consists of: an active identity with the project and the environment in its scope,
and one of its roles, up to the risk, or a grant in force at the time `t`. -/
def Authorised (t : Instant) : Prop :=
  ∃ identity, authority.identities.find? (·.identityId == identityId) = some identity ∧
    identity.state = .active ∧
    (identity.projectIds = [] ∨ projectId ∈ identity.projectIds) ∧
    (identity.environmentScopes = [] ∨ environment ∈ identity.environmentScopes) ∧
    ((∃ roleId ∈ identity.roleIds, ∃ role, authority.roles.find? (·.roleId == roleId) = some role ∧
        capability ∈ role.capabilities ∧ risk.rank ≤ role.maxRisk.rank ∧
        (role.allowedEnvironments = [] ∨ environment ∈ role.allowedEnvironments) ∧
        targetAllowed role.allowedTargetPrefixes target = true) ∨
      ∃ grant ∈ authority.grants, grant.identityId = identityId ∧ grant.capability = capability ∧
        grant.projectId = projectId ∧ grant.environment = environment ∧
        grant.operationClass = operation ∧ grant.activeAt t = true ∧
        targetAllowed [grant.targetPrefix] target = true)

variable {authority}

/-- `authorize` decides authority. -/
theorem authorize_iff {identityId projectId target environment operation : String}
    {capability : AuthorityCapability} {risk : RiskLevel} {t : Instant} :
    authority.authorize identityId capability projectId target environment operation risk t = true ↔
      authority.Authorised identityId capability projectId target environment operation risk t := by
  simp only [authorize, Authorised, Option.any_eq_true, Bool.and_eq_true, Bool.or_eq_true,
    List.any_eq_true, List.isEmpty_iff, List.contains_iff_mem, beq_iff_eq, decide_eq_true_eq,
    and_assoc]

end IdentityAuthority

/-! ### Policy -/

/-- The capabilities that need an approval. -/
def highImpact : List AuthorityCapability :=
  [.merge, .deploy, .spend, .externalModel, .accessSecret, .modifyInstructions, .modifyPolicy,
    .completeProject, .emergency]

/-- The words of the table, in its order. -/
def capabilityWords : List (List String × AuthorityCapability) :=
  [(["modify_policy", "policy_change"], .modifyPolicy),
    (["instruction", "governing_instruction"], .modifyInstructions),
    (["complete", "completion"], .completeProject), (["deploy", "release"], .deploy),
    (["merge"], .merge), (["spend", "purchase", "budget"], .spend),
    (["external_model", "provider", "llm"], .externalModel),
    (["secret", "credential"], .accessSecret), (["approve"], .approve),
    (["read", "get", "list", "inspect"], .read), (["propose", "plan"], .propose)]

def classifyActionCapability (operation : String) : AuthorityCapability :=
  let normalized := (operation.toList.map Char.toLower).map fun c =>
    if c = '-' ∨ c = ':' then '_' else c
  ((capabilityWords.find? fun row => row.1.any fun word => decide (word.toList <:+: normalized)).map
    (·.2)).getD .mutate

/-- The disposition of an action and its reason. -/
def policyDisposition (authorized approvalRequired approved recorded : Bool) :
    PolicyDisposition × String :=
  if !authorized then
    (.deny, "actor lacks least-privilege authority for requested capability, scope, environment, " ++
      "or risk")
  else if approvalRequired then
    if !approved then
      (.requireApproval, "high-impact action requires independent authorized approval")
    else if !recorded then (.requireApproval, "action intent does not record approved state")
    else (.allow, "least-privilege authority and independent approval are satisfied")
  else (.allow, "least-privilege authority is satisfied")

/-- `evaluate_action`, at the time `now`. -/
def IdentityAuthority.evaluateAction (authority : IdentityAuthority) (intent : ActionIntent)
    (projectId environment : String) (approval : Option ApprovalRecord) (now : Instant) :
    PolicyDecision :=
  let capability := classifyActionCapability intent.operation
  let authorized := authority.authorize intent.actorId capability projectId intent.target
    environment capability.value intent.risk now
  let approved := approval.any fun approval =>
    approval.actionId == intent.actionId && approval.proposerIdentityId == intent.actorId &&
    approval.capability == capability &&
    authority.validateApproval approval projectId intent.target environment intent.risk
  let decided := policyDisposition authorized (highImpact.contains capability) approved
    (intent.approvalState == .approved)
  { actionId := intent.actionId
    actorIdentityId := intent.actorId
    capability
    disposition := decided.1
    reasons := [decided.2]
    constraints :=
      [("project_id", projectId), ("environment", environment), ("target", intent.target)]
    approvalRequired := highImpact.contains capability }

/-! ### An identity that may only read -/

/-- The roles and the grants of an identity give it no other capability than to read. -/
def IdentityAuthority.ReadOnly (authority : IdentityAuthority) (identity : SecurityIdentity) :
    Prop :=
  (∀ roleId ∈ identity.roleIds, ∀ role, authority.roles.find? (·.roleId == roleId) = some role →
    ∀ capability ∈ role.capabilities, capability = .read) ∧
  ∀ grant ∈ authority.grants, grant.identityId = identity.identityId → grant.capability = .read

/-- One of the words of a name, its runs of letters and digits, is a word of reading. -/
def NamesReading (operation : String) : Prop :=
  ∃ word ∈ ["read", "get", "list", "inspect"],
    word.toList ∈ (operation.toList.map Char.toLower).splitOnP (!·.isAlphanum)

instance (operation : String) : Decidable (NamesReading operation) :=
  inferInstanceAs (Decidable (∃ _ ∈ _, _))

/-- What is allowed is authorised. -/
theorem authorized_of_allow {authorized approvalRequired approved recorded : Bool}
    (h : (policyDisposition authorized approvalRequired approved recorded).1 = .allow) :
    authorized = true := by
  cases authorized with
  | false => cases h
  | true => rfl

/-- What is allowed and needs an approval is approved. -/
theorem approved_of_allow {authorized approved recorded : Bool}
    (h : (policyDisposition authorized true approved recorded).1 = .allow) : approved = true := by
  cases approved with
  | false => cases authorized <;> cases h
  | true => rfl

/-- An identity with the role of an observer, which reads everything. -/
def observer : SecurityIdentity := { identityId := "IDENT-0", roleIds := ["ROLE-0"] }

/-- The authority with this identity alone. -/
def observers : IdentityAuthority := ⟨[observer], [⟨"ROLE-0", [.read], [], [], .critical⟩], []⟩

def observerIntent (operation : String) : ActionIntent :=
  { actionId := "action", actorId := "IDENT-0", target := "target", operation }

theorem observers_readOnly : observers.ReadOnly observer :=
  ⟨by simp [observers, observer], nofun⟩

/-- Identities that may only read are confined to operations that name reading, exactly for the
names that are not taken for reading without naming it. -/
theorem read_only_confined_iff (operation : String) :
    (∀ (authority : IdentityAuthority) (identity : SecurityIdentity) (intent : ActionIntent)
      (projectId environment : String) (approval : Option ApprovalRecord) (now : Instant),
      authority.identities.find? (·.identityId == intent.actorId) = some identity →
      identity.state = .active → authority.ReadOnly identity → intent.operation = operation →
      (authority.evaluateAction intent projectId environment approval now).disposition = .allow →
      NamesReading operation) ↔
    (classifyActionCapability operation = .read → NamesReading operation) := by
  constructor
  · intro h hread
    -- The observer is allowed whatever counts as reading.
    refine h observers observer (observerIntent operation) "project" "test" none 0 rfl rfl
      observers_readOnly rfl ?_
    simp only [IdentityAuthority.evaluateAction, observerIntent, hread]
    rfl
  · rintro hconfined authority identity intent projectId environment approval now hidentity -
      ⟨hroles, hgr⟩ rfl halo
    have hid : identity.identityId = intent.actorId := by simpa using List.find?_some hidentity
    refine hconfined ?_
    obtain ⟨_, hfind, -, -, -, ⟨roleId, hroleId, role, hrole, hmem, -⟩ |
      ⟨grant, hgrant, hown, hcapability, -⟩⟩ :=
      IdentityAuthority.authorize_iff.mp (authorized_of_allow halo)
    · obtain rfl := Option.some.inj (hidentity.symm.trans hfind)
      exact hroles roleId hroleId role hrole _ hmem
    · rw [← hcapability]
      exact hgr grant hgrant (hown.trans hid.symm)

/-- The observer lists issues. -/
theorem read_only_confined_iff_list :
    (observers.evaluateAction (observerIntent "list.issues") "project" "test" none 0).disposition =
      .allow ∧ NamesReading "list.issues" := by
  have halo : (observers.evaluateAction (observerIntent "list.issues") "project" "test" none
      0).disposition = .allow := by
    decide +kernel
  exact ⟨halo, (read_only_confined_iff "list.issues").mpr (fun _ => by decide +kernel) observers
    observer _ "project" "test" none 0 rfl rfl observers_readOnly rfl halo⟩

/-- The word `widget` makes a deletion count as reading. -/
theorem deletion_counts_as_reading :
    observers.ReadOnly observer ∧
      (observers.evaluateAction (observerIntent "widget.delete") "project" "test" none
        0).disposition = .allow ∧ ¬ NamesReading "widget.delete" := by
  refine ⟨observers_readOnly, ?_, ?_⟩ <;> decide +kernel

/-! ### Two people -/

/-- **High-impact actions need two people.** The actor has the capability, and another identity, with
authority to approve when it decided, has approved this action. -/
theorem high_impact_needs_two (authority : IdentityAuthority) (intent : ActionIntent)
    (projectId environment : String) (approval : Option ApprovalRecord) (now : Instant)
    (himpact : classifyActionCapability intent.operation ∈ highImpact)
    (halo :
      (authority.evaluateAction intent projectId environment approval now).disposition = .allow) :
    authority.Authorised intent.actorId (classifyActionCapability intent.operation) projectId
      intent.target environment (classifyActionCapability intent.operation).value intent.risk now ∧
    ∃ record, approval = some record ∧ record.actionId = intent.actionId ∧
      record.capability = classifyActionCapability intent.operation ∧
      record.decision = .approved ∧ record.approverIdentityId ≠ intent.actorId ∧
      authority.Authorised record.approverIdentityId .approve projectId intent.target environment
        record.capability.value intent.risk record.decidedAtUtc := by
  refine ⟨IdentityAuthority.authorize_iff.mp (authorized_of_allow halo), ?_⟩
  simp only [IdentityAuthority.evaluateAction, List.contains_iff_mem.mpr himpact] at halo
  obtain ⟨record, hrec, hmt⟩ := (Option.any_eq_true _ _).mp (approved_of_allow halo)
  simp only [Bool.and_eq_true, beq_iff_eq, IdentityAuthority.validateApproval,
    IdentityAuthority.authorize_iff] at hmt
  obtain ⟨⟨⟨hactn, hproposer⟩, hcapability⟩, hdec, happrover⟩ := hmt
  refine ⟨record, hrec, hactn, hcapability, hdec, ?_, happrover⟩
  rw [← hproposer]
  exact record.independent.symm

/-- An operator and an administrator, of whom the first deploys and the second approves. -/
def deployers : IdentityAuthority :=
  ⟨[{ identityId := "IDENT-1", roleIds := ["ROLE-1"] },
      { identityId := "IDENT-2", roleIds := ["ROLE-2"] }],
    [{ roleId := "ROLE-1", capabilities := [.deploy] },
      { roleId := "ROLE-2", capabilities := [.approve] }], []⟩

def deployment : ActionIntent where
  actionId := "action"
  actorId := "IDENT-1"
  target := "target"
  operation := "deploy.site"
  approvalState := .approved

def deployApproval : ApprovalRecord where
  actionId := "action"
  proposerIdentityId := "IDENT-1"
  approverIdentityId := "IDENT-2"
  capability := .deploy
  decision := .approved
  decidedAtUtc := 0
  independent := by decide

theorem high_impact_needs_two_deploy :
    (deployers.evaluateAction deployment "project" "test" (some deployApproval) 1).disposition =
      .allow ∧
    deployers.Authorised "IDENT-2" .approve "project" "target" "test" "DEPLOY" .medium 0 := by
  have halo : (deployers.evaluateAction deployment "project" "test" (some deployApproval)
      1).disposition = .allow := by
    decide +kernel
  obtain ⟨-, _, hrec, -, -, -, -, happrover⟩ := high_impact_needs_two deployers deployment
    "project" "test" _ 1 (by decide +kernel) halo
  cases hrec
  exact ⟨halo, happrover⟩

end Security

end ProjectPipeline
