import ProjectPipeline.Json
import ProjectPipeline.Lifecycle

/-!
# Requirements and Traceability Links

The records of `domain/requirements.py` and `domain/traceability.py`, with the parser of source
references (`source_references.py`).

A `RequirementFields` is what the constructor of a requirement is given and `errors` what it
reports; a `RequirementRecord` is a requirement that has been constructed. The lists of a
requirement from which links are made are read and replaced by `targets` and `withTargets`, which
are the table `_LINK_FIELDS` of the store.
-/

namespace ProjectPipeline

open Regex

/-- The error of a validator that raises. -/
def raisedErrors {α : Type} (field : String) : Except PyError α → List (String × String)
  | .ok _ => []
  | .error (.valueError message) => [(field, "Value error, " ++ message)]
  | .error _ => [(field, "Value error")]

/-! ### Source references -/

/-- `SOURCE_REFERENCE`. -/
def sourceReferencePattern : RegularExpression Char :=
  (literal "SRC-" + literal "GOV-") * times digitClass 3 * literal ":L" * times digitClass 6 *
    (1 + literal "-L" * times digitClass 6)

structure SourceReference where
  sourceId : String
  startLine : ℕ
  endLine : ℕ
  deriving DecidableEq

/-- `int(part[1:])`, of a part with digits behind its first letter. -/
def lineNumber (part : String) : ℕ :=
  (readDigits (String.ofList (part.toList.drop 1))).getD 0

def parseSourceReference (value : String) : Except PyError SourceReference := do
  raiseIf (fullmatch sourceReferencePattern value = false)
    (.valueError ("Invalid source reference: " ++ value))
  let pieces := pySplit ':' value
  let parts := pySplit '-' (pieces.getD 1 "")
  let start := lineNumber (parts.getD 0 "")
  let finish := if parts.length = 2 then lineNumber (parts.getD 1 "") else start
  raiseIf (start < 1 ∨ finish < start) (.valueError ("Invalid source line range: " ++ value))
  return ⟨pieces.getD 0 "", start, finish⟩

/-! ### Requirements -/

inductive ImplementationState where
  | implemented | partiallyImplemented | mockVerified | liveVerified | blockedExternal
  | plannedOnly
  deriving DecidableEq, Repr

def ImplementationState.value : ImplementationState → String
  | implemented => "IMPLEMENTED"
  | partiallyImplemented => "PARTIALLY_IMPLEMENTED"
  | mockVerified => "MOCK_VERIFIED"
  | liveVerified => "LIVE_VERIFIED"
  | blockedExternal => "BLOCKED_EXTERNAL"
  | plannedOnly => "PLANNED_ONLY"

/-- `complete_states`. -/
def ImplementationState.complete : ImplementationState → Bool
  | implemented | mockVerified | liveVerified => true
  | _ => false

inductive RequirementDisposition where
  | accepted | superseded | excluded | blocked
  deriving DecidableEq, Repr

def RequirementDisposition.value : RequirementDisposition → String
  | accepted => "ACCEPTED"
  | superseded => "SUPERSEDED"
  | excluded => "EXCLUDED"
  | blocked => "BLOCKED"

/-- What a requirement is constructed from. -/
structure RequirementFields where
  requirementId : String
  domain : String
  title : String
  statement : String
  requirementType : String
  normativeStrength : String
  authorityClassification : String
  sourceReferences : List String
  sourceSequence : ℤ
  sourceKind : String
  rationale : String
  priority : String
  risk : String
  disposition : RequirementDisposition
  dispositionReason : String
  implementationState : ImplementationState
  planIds : List String
  planSectionIds : List String
  decisionIds : List String := []
  openDecisionIds : List String := []
  evolutionIds : List String := []
  jiraIds : List String
  implementationPaths : List String := []
  testIds : List String := []
  evidenceIds : List String := []
  verificationClass : String
  verificationExpectation : String
  acceptanceSummary : String
  tags : List String := []
  supersededByRequirementIds : List String := []
  supersedesRequirementIds : List String := []
  deriving DecidableEq

/-- The errors of a list of texts. Some lists may not be empty, of some every text is checked, and
no text may occur twice. -/
def relationErrors (field : String) (required : Option String)
    (validate : String → Except PyError Unit) (values : List String) : List (String × String) :=
  raisedErrors field do
    raiseIf (required.isSome ∧ values = []) (.valueError (required.getD ""))
    values.forM validate
    raiseIf (¬ values.Nodup) (.valueError "requirement relation lists cannot contain duplicates")

/-- The check of an identifier of a kind, without its result. -/
def checkIdentifier (kind : IdentifierKind) (value : String) : Except PyError Unit := do
  let _ ← validateIdentifier value kind

/-- A list of which the texts are not checked. -/
def plainRelationErrors (field : String) (values : List String) : List (String × String) :=
  relationErrors field none (fun _ => .ok ()) values

namespace RequirementFields

section

variable (r : RequirementFields)

/-- The fields that the constructor rejects. -/
def fieldErrors : List (String × String) :=
  identifierErrors "requirement_id" .requirement r.requirementId ++
    (if lengthErrors "domain" 2 32 r.domain ≠ [] then lengthErrors "domain" 2 32 r.domain
      else if fullmatch (oneOrMore upperClass) r.domain then []
      else [("domain", "String should match pattern '^[A-Z]+$'")]) ++
    lengthErrors "title" 1 1000 r.title ++ lengthErrors "statement" 1 4000 r.statement ++
    lengthErrors "requirement_type" 1 64 r.requirementType ++
    lengthErrors "normative_strength" 1 32 r.normativeStrength ++
    lengthErrors "authority_classification" 1 64 r.authorityClassification ++
    relationErrors "source_references"
      (some "requirement must retain at least one exact source reference")
      (fun value => (parseSourceReference value).map fun _ => ()) r.sourceReferences ++
    lowerBoundErrors "source_sequence" 0 r.sourceSequence ++
    lengthErrors "source_kind" 1 64 r.sourceKind ++ lengthErrors "rationale" 1 4000 r.rationale ++
    (if fullmatch (literal "P" * oneOf ['0', '1', '2', '3']) r.priority then []
      else [("priority", "String should match pattern '^P[0-3]$'")]) ++
    lengthErrors "risk" 1 32 r.risk ++
    lengthErrors "disposition_reason" 1 4000 r.dispositionReason ++
    relationErrors "plan_ids" (some "requirement must map to at least one plan")
      (checkIdentifier .plan) r.planIds ++
    relationErrors "plan_section_ids" (some "requirement must map to at least one plan section")
      (checkIdentifier .planSection) r.planSectionIds ++
    relationErrors "decision_ids" none (checkIdentifier .decision) r.decisionIds ++
    plainRelationErrors "open_decision_ids" r.openDecisionIds ++
    plainRelationErrors "evolution_ids" r.evolutionIds ++
    relationErrors "jira_ids" (some "requirement must map to at least one work item")
      (checkIdentifier .issue) r.jiraIds ++
    plainRelationErrors "implementation_paths" r.implementationPaths ++
    plainRelationErrors "test_ids" r.testIds ++
    relationErrors "evidence_ids" none (checkIdentifier .evidence) r.evidenceIds ++
    lengthErrors "verification_class" 1 64 r.verificationClass ++
    lengthErrors "verification_expectation" 1 4000 r.verificationExpectation ++
    lengthErrors "acceptance_summary" 1 4000 r.acceptanceSummary ++
    plainRelationErrors "tags" r.tags ++
    plainRelationErrors "superseded_by_requirement_ids" r.supersededByRequirementIds ++
    plainRelationErrors "supersedes_requirement_ids" r.supersedesRequirementIds

/-- What the constructor reports: the fields, or `require_completion_evidence`. -/
def errors : List (String × String) :=
  if r.fieldErrors ≠ [] then r.fieldErrors
  else if r.implementationState.complete = true ∧
      (r.implementationPaths = [] ∨ r.testIds = [] ∨ r.evidenceIds = []) then
    [("", "Value error, implemented requirement records require implementation, test, and " ++
      "evidence links")]
  else []

/-- A JSON list of texts. -/
def jsonTexts (values : List String) : String := "[" ++ pyJoin "," (values.map jsonString) ++ "]"

/-- `_json(record.as_registry_row())`: the text of the column `record_json`. -/
def registryJson : String :=
  canonicalJson
    [("schema_version", jsonString "2.0.0"), ("requirement_id", jsonString r.requirementId),
      ("domain", jsonString r.domain), ("title", jsonString r.title),
      ("statement", jsonString r.statement),
      ("requirement_type", jsonString r.requirementType),
      ("normative_strength", jsonString r.normativeStrength),
      ("authority_classification", jsonString r.authorityClassification),
      ("source_references", jsonTexts r.sourceReferences),
      ("source_sequence", toString r.sourceSequence), ("source_kind", jsonString r.sourceKind),
      ("rationale", jsonString r.rationale), ("priority", jsonString r.priority),
      ("risk", jsonString r.risk), ("disposition", jsonString r.disposition.value),
      ("disposition_reason", jsonString r.dispositionReason),
      ("implementation_state", jsonString r.implementationState.value),
      ("plan_ids", jsonTexts r.planIds), ("plan_section_ids", jsonTexts r.planSectionIds),
      ("decision_ids", jsonTexts r.decisionIds),
      ("open_decision_ids", jsonTexts r.openDecisionIds),
      ("evolution_ids", jsonTexts r.evolutionIds), ("jira_ids", jsonTexts r.jiraIds),
      ("implementation_paths", jsonTexts r.implementationPaths),
      ("test_ids", jsonTexts r.testIds), ("evidence_ids", jsonTexts r.evidenceIds),
      ("verification_class", jsonString r.verificationClass),
      ("verification_expectation", jsonString r.verificationExpectation),
      ("acceptance_summary", jsonString r.acceptanceSummary), ("tags", jsonTexts r.tags),
      ("superseded_by_requirement_ids", jsonTexts r.supersededByRequirementIds),
      ("supersedes_requirement_ids", jsonTexts r.supersedesRequirementIds)]

end

end RequirementFields

/-- `RequirementRecord`: a requirement that has been constructed. -/
abbrev RequirementRecord := { fields : RequirementFields // fields.errors = [] }

def RequirementRecord.modelValidate (fields : RequirementFields) :
    Except PyError RequirementRecord :=
  if hvalid : fields.errors = [] then .ok ⟨fields, hvalid⟩
  else .error (.validationError "RequirementRecord" fields.errors)

/-! ### Links -/

inductive TraceabilityLinkType where
  | source | plan | planSection | jira | implementation | test | evidence | decision
  | openDecision | evolution
  deriving DecidableEq, Repr

namespace TraceabilityLinkType

def value : TraceabilityLinkType → String
  | source => "SOURCE"
  | plan => "PLAN"
  | planSection => "PLAN_SECTION"
  | jira => "JIRA"
  | implementation => "IMPLEMENTATION"
  | test => "TEST"
  | evidence => "EVIDENCE"
  | decision => "DECISION"
  | openDecision => "OPEN_DECISION"
  | evolution => "EVOLUTION"

/-- The keys of `_LINK_FIELDS`, in order. -/
def linkFields : List TraceabilityLinkType :=
  [source, plan, planSection, jira, implementation, test, evidence, decision, openDecision,
    evolution]

end TraceabilityLinkType

namespace RequirementFields

/-- The list of a requirement for links of a type. -/
def targets (r : RequirementFields) : TraceabilityLinkType → List String
  | .source => r.sourceReferences
  | .plan => r.planIds
  | .planSection => r.planSectionIds
  | .jira => r.jiraIds
  | .implementation => r.implementationPaths
  | .test => r.testIds
  | .evidence => r.evidenceIds
  | .decision => r.decisionIds
  | .openDecision => r.openDecisionIds
  | .evolution => r.evolutionIds

variable (r : RequirementFields) (linkType : TraceabilityLinkType)

/-- The requirement with another list for links of a type. -/
def withTargets (values : List String) : RequirementFields :=
  match linkType with
  | .source => { r with sourceReferences := values }
  | .plan => { r with planIds := values }
  | .planSection => { r with planSectionIds := values }
  | .jira => { r with jiraIds := values }
  | .implementation => { r with implementationPaths := values }
  | .test => { r with testIds := values }
  | .evidence => { r with evidenceIds := values }
  | .decision => { r with decisionIds := values }
  | .openDecision => { r with openDecisionIds := values }
  | .evolution => { r with evolutionIds := values }

@[simp] theorem withTargets_targets :
    r.withTargets linkType (r.targets linkType) = r := by
  cases linkType <;> rfl

@[simp] theorem requirementId_withTargets (values : List String) :
    (r.withTargets linkType values).requirementId = r.requirementId := by
  cases linkType <;> rfl

end RequirementFields

inductive TraceabilityAuthority where
  | authoritativeCatalog | persistedProjection | proposedChange
  deriving DecidableEq, Repr

def TraceabilityAuthority.value : TraceabilityAuthority → String
  | authoritativeCatalog => "AUTHORITATIVE_CATALOG"
  | persistedProjection => "PERSISTED_PROJECTION"
  | proposedChange => "PROPOSED_CHANGE"

structure TraceabilityLink where
  linkId : String
  requirementId : String
  linkType : TraceabilityLinkType
  target : String
  ordinal : ℕ := 0
  authority : TraceabilityAuthority := .authoritativeCatalog
  metadata : JsonObject := []
  deriving DecidableEq

namespace TraceabilityLink

variable (link : TraceabilityLink)

def validateTarget : Except PyError Unit :=
  match link.linkType with
  | .source => (parseSourceReference link.target).map fun _ => ()
  | .plan => checkIdentifier .plan link.target
  | .planSection => checkIdentifier .planSection link.target
  | .jira => checkIdentifier .issue link.target
  | .evidence => checkIdentifier .evidence link.target
  | .decision => checkIdentifier .decision link.target
  | .implementation | .test =>
    raiseIf (startsWith link.target "/" = true ∨ Char.ofNat 0 ∈ link.target.toList)
      (.valueError "repository paths and test identifiers must be relative and safe")
  | .openDecision | .evolution => .ok ()

/-- The fields that the constructor rejects. -/
def fieldErrors : List (String × String) :=
  identifierErrors "link_id" .traceLink link.linkId ++
    identifierErrors "requirement_id" .requirement link.requirementId ++
    lengthErrors "target" 1 2048 link.target

/-- What the constructor reports. -/
def errors : List (String × String) :=
  if link.fieldErrors ≠ [] then link.fieldErrors else raisedErrors "" link.validateTarget

/-- `TraceabilityLink.create`. -/
def create (sha : Sha256) (requirementId : String) (linkType : TraceabilityLinkType)
    (target : String) (ordinal : ℕ) (authority : TraceabilityAuthority)
    (metadata : JsonObject) : Except PyError TraceabilityLink := do
  let identifier ← deterministicIdentifier sha .traceLink
    [requirementId, linkType.value, target, authority.value]
  let link : TraceabilityLink :=
    { linkId := identifier, requirementId, linkType, target, ordinal, authority, metadata }
  raiseIf (link.errors ≠ []) (.validationError "TraceabilityLink" link.errors)
  return link

/-- What the links of a requirement say about it. -/
def triple (link : TraceabilityLink) : TraceabilityLinkType × String × ℕ :=
  (link.linkType, link.target, link.ordinal)

theorem create_eq_ok {sha : Sha256} {requirementId target : String}
    {linkType : TraceabilityLinkType} {ordinal : ℕ} {authority : TraceabilityAuthority}
    {metadata : JsonObject} {link : TraceabilityLink}
    (h : create sha requirementId linkType target ordinal authority metadata = .ok link) :
    link.requirementId = requirementId ∧ link.triple = (linkType, target, ordinal) ∧
      link.authority = authority := by
  obtain ⟨identifier, -, h⟩ := bind_eq_ok.mp h
  obtain ⟨-, -, h⟩ := bind_eq_ok.mp h
  cases h
  exact ⟨rfl, rfl, rfl⟩

end TraceabilityLink

/-- The targets of a requirement in the order in which links are made of them: the type, the text
and the place in its list. -/
def RequirementFields.triples (r : RequirementFields) :
    List (TraceabilityLinkType × String × ℕ) :=
  TraceabilityLinkType.linkFields.flatMap fun linkType =>
    (r.targets linkType).zipIdx.map fun target => (linkType, target.1, target.2)

def linksFromRequirement (sha : Sha256) (authority : TraceabilityAuthority)
    (record : RequirementRecord) : Except PyError (List TraceabilityLink) :=
  record.1.triples.mapM fun triple =>
    TraceabilityLink.create sha record.1.requirementId triple.1 triple.2.1 triple.2.2 authority []

/-! ### Mutations -/

inductive MutationOperation where
  | add | remove
  deriving DecidableEq, Repr

def MutationOperation.value : MutationOperation → String
  | add => "ADD"
  | remove => "REMOVE"

structure TraceabilityMutation where
  requirementId : String
  operation : MutationOperation
  linkType : TraceabilityLinkType
  target : String
  expectedRevision : ℤ
  actorId : String
  correlationId : String
  reason : String
  requirementId_valid : identifierErrors "requirement_id" .requirement requirementId = []
  expectedRevision_valid : 1 ≤ expectedRevision
  actorId_valid : 3 ≤ actorId.length ∧ actorId.length ≤ 191
  correlationId_valid : 3 ≤ correlationId.length ∧ correlationId.length ≤ 191
  reason_valid : 1 ≤ reason.length ∧ reason.length ≤ 2000

structure TraceabilityMutationResult where
  mutationId : String
  requirementId : String
  operation : MutationOperation
  link : TraceabilityLink
  previousRevision : ℤ
  resultingRevision : ℤ
  changed : Bool
  authorityState : TraceabilityAuthority := .proposedChange
  recordedAtUtc : Instant
  deriving DecidableEq

namespace TraceabilityMutationResult

variable (result : TraceabilityMutationResult)

/-- The fields that the constructor rejects. -/
def fieldErrors : List (String × String) :=
  identifierErrors "mutation_id" .mutation result.mutationId ++
    identifierErrors "requirement_id" .requirement result.requirementId ++
    lowerBoundErrors "previous_revision" 1 result.previousRevision ++
    lowerBoundErrors "resulting_revision" 1 result.resultingRevision

/-- What the constructor reports: the fields, or `validate_revision_change`. -/
def errors : List (String × String) :=
  if result.fieldErrors ≠ [] then result.fieldErrors
  else if result.resultingRevision ≠
      result.previousRevision + (if result.changed then 1 else 0) then
    [("", "Value error, resulting_revision must increment exactly once only when the mutation " ++
      "changes state")]
  else []

end TraceabilityMutationResult

end ProjectPipeline
