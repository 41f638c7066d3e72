import ProjectPipeline.Requirements
import ProjectPipeline.StateStore

/-!
# The Requirement Store

The part of `SQLiteStateStore` that holds requirements and their traceability links.
`import_requirements` makes the store agree with a catalogue: requirements are added, changed and
deleted, and all links are written anew. `apply_traceability_mutation` adds one target to a
requirement or removes one, if the requirement still has the revision that its client expects, and
records that it has done so.

A row of `requirements` holds the record that the text in its column `record_json` is the dump of;
reading the column gives the record back. The columns that repeat fields of the record are left
out. Deleting a requirement deletes its links and its recorded mutations (`ON DELETE CASCADE`).
-/

namespace ProjectPipeline

/-- A row of `requirements`. -/
structure RequirementRow where
  record : RequirementRecord
  revision : ℤ
  importedAtUtc : Instant

namespace RequirementRow

/-- The primary key. -/
def requirementId (row : RequirementRow) : String := row.record.1.requirementId

/-- The column `record_json`. -/
def recordJson (row : RequirementRow) : String := row.record.1.registryJson

end RequirementRow

/-- A row of `catalog_imports`. -/
structure CatalogImportRow where
  importId : String
  catalogSha256 : String
  requirementCount : ℕ
  linkCount : ℕ
  importedAtUtc : Instant
  sourcePath : String

/-- A row of `traceability_mutations`. -/
structure MutationRow where
  mutationId : String
  requirementId : String
  operation : MutationOperation
  linkType : TraceabilityLinkType
  target : String
  previousRevision : ℤ
  resultingRevision : ℤ
  changed : Bool
  actorId : String
  correlationId : String
  reason : String
  recordedAtUtc : Instant

structure RequirementDb where
  requirements : Table String RequirementRow RequirementRow.requirementId := .empty
  links : Table String TraceabilityLink TraceabilityLink.linkId := .empty
  imports : Table String CatalogImportRow CatalogImportRow.importId := .empty
  mutations : Table String MutationRow MutationRow.mutationId := .empty

namespace RequirementDb

/-! ### Statements -/

/-- The foreign key to `requirements`. -/
def requireRequirement (requirementId : String) (db : RequirementDb) : Except PyError Unit :=
  raiseIf (db.requirements.find? requirementId).isNone
    (.integrityError "FOREIGN KEY constraint failed")

variable (now : Instant) (item : RequirementRecord)

/-- The row of a requirement that is imported, next to the stored row. -/
def importedRow : Option RequirementRow → RequirementRow
  | none => ⟨item, 1, now⟩
  | some old => ⟨item, if old.recordJson ≠ item.1.registryJson then old.revision + 1
      else old.revision, now⟩

@[simp] theorem importedRow_record
    (old : Option RequirementRow) : (importedRow now item old).record = item := by
  cases old <;> rfl

/-- `INSERT INTO requirements ... ON CONFLICT(requirement_id) DO UPDATE`. -/
def putRequirement (row : RequirementRow) : Txn RequirementDb Unit := fun db => do
  bindInteger row.revision
  return ((), { db with
    requirements := (db.requirements.insert row).getD (db.requirements.replace row) })

/-- `DELETE FROM traceability_links WHERE requirement_id = ?`. -/
def deleteLinks (requirementId : String) : Txn RequirementDb Unit :=
  modify fun db =>
    { db with links := db.links.deleteWhere fun link => link.requirementId = requirementId }

/-- `DELETE FROM requirements WHERE requirement_id NOT IN (...)`, with what is deleted along with
a requirement. No identifiers at all select every requirement, as `DELETE FROM requirements`
does. -/
def deleteRequirementsExcept (identifiers : List String) : Txn RequirementDb Unit :=
  modify fun db =>
    let deleted (requirementId : String) : Bool :=
      (db.requirements.find? requirementId).isSome && !(identifiers.contains requirementId)
    { db with
      requirements := db.requirements.deleteWhere fun row => deleted row.requirementId
      links := db.links.deleteWhere fun link => deleted link.requirementId
      mutations := db.mutations.deleteWhere fun row => deleted row.requirementId }

def insertLink (link : TraceabilityLink) : Txn RequirementDb Unit := fun db =>
  match db.links.insert link with
  | none => .error (.integrityError "UNIQUE constraint failed: traceability_links.link_id")
  | some links => do
      raiseIf (db.links.rows.any fun row => row.requirementId = link.requirementId ∧
          row.linkType = link.linkType ∧ row.target = link.target ∧ row.authority = link.authority)
        (.integrityError ("UNIQUE constraint failed: traceability_links.requirement_id, " ++
          "traceability_links.link_type, traceability_links.target, traceability_links.authority"))
      requireRequirement link.requirementId db
      return ((), { db with links })

/-- `INSERT INTO catalog_imports ... ON CONFLICT(catalog_sha256, source_path) DO UPDATE`. -/
def putCatalogImport (row : CatalogImportRow) : Txn RequirementDb Unit := fun db =>
  let same (x : CatalogImportRow) : Bool :=
    x.catalogSha256 = row.catalogSha256 ∧ x.sourcePath = row.sourcePath
  if db.imports.rows.any same then
    .ok ((), { db with
      imports := db.imports.updateWhere same
        (fun x => { x with
          requirementCount := row.requirementCount
          linkCount := row.linkCount
          importedAtUtc := row.importedAtUtc }) fun _ => rfl })
  else
    match db.imports.insert row with
    | none => .error (.integrityError "UNIQUE constraint failed: catalog_imports.import_id")
    | some imports => .ok ((), { db with imports })

/-- `INSERT INTO traceability_mutations`. -/
def insertMutation (row : MutationRow) : Txn RequirementDb Unit := fun db =>
  match db.mutations.insert row with
  | none => .error (.integrityError "UNIQUE constraint failed: traceability_mutations.mutation_id")
  | some mutations => do
      requireRequirement row.requirementId db
      return ((), { db with mutations })

end RequirementDb

open RequirementDb

/-! ### Imports -/

structure ImportReceipt where
  importId : String
  requirementCount : ℕ
  linkCount : ℕ
  catalogSha256 : String
  deriving DecidableEq

/-- The statements of an import for one requirement. -/
def importRequirement (existing : RequirementDb) (now : Instant) (item : RequirementRecord) :
    Txn RequirementDb Unit := do
  putRequirement (importedRow now item (existing.requirements.find? item.1.requirementId))
  deleteLinks item.1.requirementId

def importBlock (records : List RequirementRecord) (links : List TraceabilityLink)
    (row : CatalogImportRow) (now : Instant) : Txn RequirementDb Unit := do
  let existing ← get
  records.forM (importRequirement existing now)
  deleteRequirementsExcept (records.map fun item => item.1.requirementId)
  links.forM insertLink
  putCatalogImport row

def importRequirements (sha : Sha256) (records : List RequirementRecord)
    (sourcePath catalogSha256 : String) (now : Instant) :
    Session RequirementDb ImportReceipt := do
  .ofExcept (raiseIf (¬ (records.map fun item => item.1.requirementId).Nodup)
    (.valueError "requirement import contains duplicate identifiers"))
  let links ← .ofExcept (records.mapM (linksFromRequirement sha .authoritativeCatalog))
  let importId ← .ofExcept
    (deterministicIdentifier sha .catalogImport [sourcePath, catalogSha256])
  .transaction (importBlock records links.flatten
    { importId
      catalogSha256
      requirementCount := records.length
      linkCount := links.flatten.length
      importedAtUtc := now
      sourcePath } now)
  pure
    { importId
      requirementCount := records.length
      linkCount := links.flatten.length
      catalogSha256 }

/-! ### Mutations -/

namespace TraceabilityMutation

section

variable (mutation : TraceabilityMutation) (values : List String)

/-- The mutation changes a list: it adds what is not in it, or removes what is. -/
def changes : Bool :=
  match mutation.operation with
  | .add => !(values.contains mutation.target)
  | .remove => values.contains mutation.target

/-- The list after the mutation. -/
def edit : List String :=
  match mutation.operation with
  | .add => if values.contains mutation.target then values else values ++ [mutation.target]
  | .remove => values.erase mutation.target

end

section

variable (sha : Sha256) (mutation : TraceabilityMutation)

/-- The identifier of the mutation of a requirement at a revision. -/
def identifier (revision : ℤ) :
    Except PyError String :=
  deterministicIdentifier sha .mutation
    [mutation.requirementId, mutation.operation.value, mutation.linkType.value, mutation.target,
      toString revision, mutation.actorId, mutation.correlationId]

/-- The link that a mutation proposes. -/
def proposedLink (values : List String) :
    Except PyError TraceabilityLink :=
  TraceabilityLink.create sha mutation.requirementId mutation.linkType mutation.target
    (if values.contains mutation.target then values.idxOf mutation.target else 0)
    .proposedChange
    [("operation", jsonString mutation.operation.value), ("reason", jsonString mutation.reason)]

end

end TraceabilityMutation

/-- The statements of a mutation that changes a requirement. -/
def rewriteRequirement (sha : Sha256) (row : RequirementRow) (updated : RequirementRecord)
    (revision : ℤ) (now : Instant) : Txn RequirementDb Unit := do
  let _ ← (bindInteger revision :)
  modify fun db => { db with requirements := db.requirements.replace ⟨updated, revision, now⟩ }
  deleteLinks row.requirementId
  let links ← (linksFromRequirement sha .persistedProjection updated :)
  links.forM insertLink

variable (sha : Sha256) (mutation : TraceabilityMutation)

/-- The part of `apply_traceability_mutation` that has found its requirement. -/
def mutateRequirement (row : RequirementRow)
    (now : Instant) : Txn RequirementDb TraceabilityMutationResult := do
  Txn.refuseIf (row.revision ≠ mutation.expectedRevision)
    (.raised "ConcurrentStateChangeError" ("requirement revision mismatch: expected " ++
      toString mutation.expectedRevision ++ ", observed " ++ toString row.revision))
  let values := row.record.1.targets mutation.linkType
  let changed := mutation.changes values
  let updated ← (RequirementRecord.modelValidate
    (row.record.1.withTargets mutation.linkType (mutation.edit values)) :)
  let resulting := row.revision + (if changed then 1 else 0)
  let link ← (mutation.proposedLink sha (mutation.edit values) :)
  Txn.onlyIf (changed = true) (rewriteRequirement sha row updated resulting now)
  let mutationId ← (mutation.identifier sha row.revision :)
  insertMutation
    { mutationId
      requirementId := mutation.requirementId
      operation := mutation.operation
      linkType := mutation.linkType
      target := mutation.target
      previousRevision := row.revision
      resultingRevision := resulting
      changed
      actorId := mutation.actorId
      correlationId := mutation.correlationId
      reason := mutation.reason
      recordedAtUtc := now }
  pure
    { mutationId
      requirementId := mutation.requirementId
      operation := mutation.operation
      link
      previousRevision := row.revision
      resultingRevision := resulting
      changed
      recordedAtUtc := now }

/-- The block of `apply_traceability_mutation`. -/
def mutationBlock (now : Instant) :
    Txn RequirementDb TraceabilityMutationResult := do
  let db ← get
  match db.requirements.find? mutation.requirementId with
  | none => .raise (.raised "MissingStateError"
      ("requirement does not exist: " ++ mutation.requirementId))
  | some row => mutateRequirement sha mutation row now

/-- `apply_traceability_mutation`. The result is constructed behind the commit. -/
def applyTraceabilityMutation (now : Instant) :
    Session RequirementDb TraceabilityMutationResult := do
  let result ← .transaction (mutationBlock sha mutation now)
  .ofExcept (raiseIf (result.errors ≠ [])
    (.validationError "TraceabilityMutationResult" result.errors))
  return result

end ProjectPipeline
