import ProjectPipeline.RequirementStore
import ProjectPipeline.Runs

/-!
# Steps of the Requirement Store

What one call can do to the requirements and to the links. A call that raises changes nothing, and
so does a mutation that does not change its requirement, apart from the record of the mutation.
An import replaces everything, and a mutation that changes its requirement replaces one row and its
links. `RequirementDb.Step` says so once, and the results about runs are inductions over it.

## Main results

* `RequirementCall.step_spec`: what a call does.
-/

namespace ProjectPipeline

open RequirementDb List

inductive RequirementCall where
  | importRequirements (records : List RequirementRecord) (sourcePath catalogSha256 : String)
      (now : Instant)
  | applyTraceabilityMutation (mutation : TraceabilityMutation) (now : Instant)

/-- The tables after a call, whether it returns or raises. -/
def RequirementCall.step (sha : Sha256) (db : RequirementDb) : RequirementCall → RequirementDb
  | importRequirements records sourcePath catalogSha256 now =>
    (ProjectPipeline.importRequirements sha records sourcePath catalogSha256 now db).2
  | applyTraceabilityMutation mutation now =>
    (ProjectPipeline.applyTraceabilityMutation sha mutation now db).2

/-- The requirement of a catalogue with an identifier. -/
def catalogued (records : List RequirementRecord) (requirementId : String) :
    Option RequirementRecord :=
  records.find? fun item => item.1.requirementId = requirementId

theorem catalogued_cons (item : RequirementRecord) (records : List RequirementRecord)
    (id : String) :
    catalogued (item :: records) id =
      if item.1.requirementId = id then some item else catalogued records id := by
  by_cases hid : item.1.requirementId = id <;> simp [hid, catalogued]

variable {records : List RequirementRecord} {now : Instant} {id : String}

theorem catalogued_eq_none_iff :
    catalogued records id = none ↔ id ∉ records.map fun item => item.1.requirementId := by
  rw [catalogued, find?_eq_none, mem_map]
  simp

theorem catalogued_eq_some {item : RequirementRecord}
    (h : catalogued records id = some item) : item ∈ records ∧ item.1.requirementId = id :=
  ⟨mem_of_find?_eq_some h, by simpa using find?_some h⟩

/-- What a call may do. -/
inductive RequirementDb.Step (sha : Sha256) (db : RequirementDb) :
    RequirementCall → RequirementDb → Prop
  | kept {call db'} (requirements : db'.requirements = db.requirements)
      (links : db'.links = db.links) : Step sha db call db'
  | imported {records sourcePath catalogSha256 now links db'}
      (nodup : (records.map fun item => item.1.requirementId).Nodup)
      (made : records.mapM (linksFromRequirement sha .authoritativeCatalog) = .ok links)
      (requirements : ∀ id, db'.requirements.find? id = (catalogued records id).map fun item =>
        importedRow now item (db.requirements.find? id))
      (links : ∀ link, link ∈ db'.links.rows ↔ link ∈ links.flatten ∨ link ∈ db.links.rows ∧
        catalogued records link.requirementId = none ∧
          db.requirements.find? link.requirementId = none) :
      Step sha db (.importRequirements records sourcePath catalogSha256 now) db'
  | rewritten {mutation now row updated links db'}
      (found : db.requirements.find? mutation.requirementId = some row)
      (revision : row.revision = mutation.expectedRevision)
      (same : updated.1.requirementId = mutation.requirementId)
      (made : linksFromRequirement sha .persistedProjection updated = .ok links)
      (requirements : db'.requirements = db.requirements.replace ⟨updated, row.revision + 1, now⟩)
      (links : ∀ link, link ∈ db'.links.rows ↔ link ∈ links ∨ link ∈ db.links.rows ∧
        link.requirementId ≠ mutation.requirementId) :
      Step sha db (.applyTraceabilityMutation mutation now) db'

variable {updated : RequirementRecord}

/-- The lookups after the row of a requirement has been rewritten. -/
theorem RequirementDb.find?_rewritten {db : RequirementDb} {row : RequirementRow} (found : db.requirements.find? id = some row)
    (same : updated.1.requirementId = id) (revision : ℤ) (now : Instant) (k : String) :
    (db.requirements.replace ⟨updated, revision, now⟩).find? k =
      if id = k then some ⟨updated, revision, now⟩ else db.requirements.find? k := by
  rw [Table.find?_replace, RequirementRow.requirementId, same]
  split
  · rename_i hk
    rw [← hk, found, Option.map_some]
  · rfl

/-! ### Statements -/

variable {sha : Sha256} {db db' : RequirementDb} {u : Unit}

theorem insertLink_eq_ok {link : TraceabilityLink} (h : insertLink link db = .ok (u, db')) :
    db'.requirements = db.requirements ∧ db'.links.rows = db.links.rows ++ [link] := by
  rw [insertLink] at h
  split at h
  · cases h
  rename_i links hins
  obtain ⟨_, -, h⟩ := bind_eq_ok.mp h
  obtain ⟨_, -, h⟩ := bind_eq_ok.mp h
  obtain ⟨-, rfl⟩ := ok_pair_inj h
  exact ⟨rfl, (Table.insert_eq_some_iff.mp hins).2⟩

theorem insertLinks_eq_ok {links : List TraceabilityLink}
    (h : links.forM insertLink db = .ok (u, db')) :
    db'.requirements = db.requirements ∧ db'.links.rows = db.links.rows ++ links := by
  induction links generalizing db with
  | nil =>
    obtain ⟨-, rfl⟩ := ok_pair_inj h
    exact ⟨rfl, (append_nil _).symm⟩
  | cons _ _ ih =>
    obtain ⟨_, db₁, hfst, hrest⟩ := Txn.run_bind.mp h
    obtain ⟨hreqs, hlks⟩ := insertLink_eq_ok hfst
    obtain ⟨hreqs', hlks'⟩ := ih hrest
    refine ⟨hreqs'.trans hreqs, ?_⟩
    rw [hlks', hlks, append_assoc, singleton_append]

theorem insertMutation_eq_ok {row : MutationRow} (h : insertMutation row db = .ok (u, db')) :
    db'.requirements = db.requirements ∧ db'.links = db.links ∧
      db'.mutations.rows = db.mutations.rows ++ [row] := by
  rw [insertMutation] at h
  split at h
  · cases h
  rename_i mutations hins
  obtain ⟨_, -, h⟩ := bind_eq_ok.mp h
  obtain ⟨-, rfl⟩ := ok_pair_inj h
  exact ⟨rfl, rfl, (Table.insert_eq_some_iff.mp hins).2⟩

theorem putCatalogImport_eq_ok {row : CatalogImportRow}
    (h : putCatalogImport row db = .ok (u, db')) :
    db'.requirements = db.requirements ∧ db'.links = db.links := by
  rw [putCatalogImport] at h
  split at h
  · obtain ⟨-, rfl⟩ := ok_pair_inj h
    exact ⟨rfl, rfl⟩
  · split at h
    · cases h
    · obtain ⟨-, rfl⟩ := ok_pair_inj h
      exact ⟨rfl, rfl⟩

theorem deleteRequirementsExcept_eq_ok {identifiers : List String}
    (h : deleteRequirementsExcept identifiers db = .ok (u, db')) :
    (∀ id, db'.requirements.find? id =
      if id ∈ identifiers then db.requirements.find? id else none) ∧
    ∀ link, link ∈ db'.links.rows ↔ link ∈ db.links.rows ∧
      (link.requirementId ∈ identifiers ∨ db.requirements.find? link.requirementId = none) := by
  obtain ⟨-, rfl⟩ := ok_pair_inj h
  refine ⟨fun id => ?_, fun link => ?_⟩
  · refine (db.requirements.find?_deleteWhere (fun id =>
      (db.requirements.find? id).isSome && !(identifiers.contains id)) id).trans ?_
    by_cases hid : id ∈ identifiers <;> cases db.requirements.find? id <;> simp [hid]
  · refine Table.mem_deleteWhere.trans (and_congr_right fun _ => ?_)
    cases hfind : db.requirements.find? link.requirementId <;> simp [hfind]

/-! ### Imports -/

theorem requirementId_importedRow (now : Instant) (item : RequirementRecord)
    (old : Option RequirementRow) :
    (importedRow now item old).requirementId = item.1.requirementId := by
  cases old <;> rfl

theorem importRequirement_eq_ok {existing : RequirementDb} {item : RequirementRecord}
    (h : importRequirement existing now item db = .ok (u, db')) :
    (∀ id, db'.requirements.find? id = if item.1.requirementId = id then
        some (importedRow now item (existing.requirements.find? id))
      else db.requirements.find? id) ∧
    ∀ link, link ∈ db'.links.rows ↔ link ∈ db.links.rows ∧
      link.requirementId ≠ item.1.requirementId := by
  obtain ⟨_, db₁, hput, hdelete⟩ := Txn.run_bind.mp h
  obtain ⟨_, -, hput⟩ := bind_eq_ok.mp hput
  obtain ⟨-, rfl⟩ := ok_pair_inj hput
  obtain ⟨-, rfl⟩ := ok_pair_inj hdelete
  refine ⟨fun id => ?_, fun link => ?_⟩
  · have hfind := db.requirements.find?_put (importedRow now item
      (existing.requirements.find? item.1.requirementId)) id
    rw [requirementId_importedRow] at hfind
    refine hfind.trans ?_
    by_cases hid : item.1.requirementId = id
    · rw [if_pos hid, if_pos hid, hid]
    · rw [if_neg hid, if_neg hid]
  · refine Table.mem_deleteWhere.trans ?_
    rw [decide_eq_false_iff_not]

section

variable (hnd : (records.map fun item => item.1.requirementId).Nodup)
include hnd

/-- The loop over the catalogue. -/
theorem importLoop_eq_ok {existing : RequirementDb}
    (h : records.forM (importRequirement existing now) db = .ok (u, db')) :
    (∀ id, db'.requirements.find? id = ((catalogued records id).map fun item =>
      importedRow now item (existing.requirements.find? id)).or (db.requirements.find? id)) ∧
    ∀ link, link ∈ db'.links.rows ↔ link ∈ db.links.rows ∧
      catalogued records link.requirementId = none := by
  induction records generalizing db with
  | nil =>
    obtain ⟨-, rfl⟩ := ok_pair_inj h
    exact ⟨fun _ => rfl, fun _ => ⟨fun hlink => ⟨hlink, rfl⟩, And.left⟩⟩
  | cons item records ih =>
    obtain ⟨_, db₁, hfst, hrest⟩ := Txn.run_bind.mp h
    obtain ⟨hreqs, hlks⟩ := importRequirement_eq_ok hfst
    rw [map_cons, nodup_cons] at hnd
    obtain ⟨hreqs', hlks'⟩ := ih hnd.2 hrest
    refine ⟨fun id => ?_, fun link => ?_⟩
    · rw [hreqs' id, hreqs, catalogued_cons]
      by_cases hid : item.1.requirementId = id
      · -- The identifier does not occur again, so the row of this round stays.
        have hlat : catalogued records id = none :=
          catalogued_eq_none_iff.mpr (hid ▸ hnd.1)
        rw [hlat, if_pos hid, if_pos hid]
        rfl
      · rw [if_neg hid, if_neg hid]
    · rw [hlks', hlks, and_assoc, and_congr_right_iff, catalogued_cons]
      by_cases hid : item.1.requirementId = link.requirementId
      · simp [hid]
      · simp [hid, Ne.symm hid]

/-- The block of an import. -/
theorem importBlock_step {links : List (List TraceabilityLink)} {row : CatalogImportRow}
    {sourcePath catalogSha256 : String}
    (hmade : records.mapM (linksFromRequirement sha .authoritativeCatalog) = .ok links)
    (h : importBlock records links.flatten row now db = .ok (u, db')) :
    db.Step sha (.importRequirements records sourcePath catalogSha256 now) db' := by
  rw [importBlock, Txn.get_bind] at h
  obtain ⟨_, db₁, hloop, h⟩ := Txn.run_bind.mp h
  obtain ⟨_, db₂, hdelete, h⟩ := Txn.run_bind.mp h
  obtain ⟨_, db₃, hlks, himport⟩ := Txn.run_bind.mp h
  obtain ⟨hreqs₁, hlks₁⟩ := importLoop_eq_ok hnd hloop
  obtain ⟨hreqs₂, hlks₂⟩ := deleteRequirementsExcept_eq_ok hdelete
  obtain ⟨hreqs₃, hlks₃⟩ := insertLinks_eq_ok hlks
  obtain ⟨hreqs', hlks'⟩ := putCatalogImport_eq_ok himport
  refine .imported hnd hmade (fun id => ?_) fun link => ?_
  · rw [hreqs', hreqs₃, hreqs₂, hreqs₁]
    cases hitem : catalogued records id with
    | none => rw [if_neg (catalogued_eq_none_iff.mp hitem), Option.map_none]
    | some item =>
      obtain ⟨hitem, hid⟩ := catalogued_eq_some hitem
      rw [if_pos (mem_map.mpr ⟨item, hitem, hid⟩)]
      rfl
  · rw [hlks', hlks₃, mem_append, or_comm, hlks₂, hlks₁, and_assoc]
    refine or_congr_right (and_congr_right fun _ => and_congr_right fun hitem => ?_)
    rw [or_iff_right (catalogued_eq_none_iff.mp hitem), hreqs₁, hitem]
    rfl

end

/-! ### Mutations -/

/-- The statements of a mutation that changes its requirement. -/
theorem rewriteRequirement_eq_ok {row : RequirementRow} {revision : ℤ}
    (h : rewriteRequirement sha row updated revision now db = .ok (u, db')) :
    ∃ links, linksFromRequirement sha .persistedProjection updated = .ok links ∧
      db'.requirements = db.requirements.replace ⟨updated, revision, now⟩ ∧
      ∀ link, link ∈ db'.links.rows ↔ link ∈ links ∨ link ∈ db.links.rows ∧
        link.requirementId ≠ row.requirementId := by
  obtain ⟨_, -, h⟩ := Txn.run_lift_bind.mp h
  obtain ⟨_, db₁, hup, h⟩ := Txn.run_bind.mp h
  obtain ⟨_, db₂, hdelete, h⟩ := Txn.run_bind.mp h
  obtain ⟨links, hmade, hins⟩ := Txn.run_lift_bind.mp h
  obtain ⟨-, rfl⟩ := ok_pair_inj hup
  obtain ⟨-, rfl⟩ := ok_pair_inj hdelete
  obtain ⟨hreqs, hlks⟩ := insertLinks_eq_ok hins
  refine ⟨links, hmade, hreqs, fun link => ?_⟩
  rw [hlks, mem_append, or_comm]
  refine or_congr_right (Table.mem_deleteWhere.trans (and_congr_right fun _ => ?_))
  rw [decide_eq_false_iff_not]

/-- A mutation that does not change its requirement leaves requirements and links alone, another
one rewrites them. -/
theorem mutationBlock_eq_ok {mutation : TraceabilityMutation} {result : TraceabilityMutationResult}
    (h : mutationBlock sha mutation now db = .ok (result, db')) :
    ∃ row, db.requirements.find? mutation.requirementId = some row ∧
      row.revision = mutation.expectedRevision ∧
      db.Step sha (.applyTraceabilityMutation mutation now) db' := by
  rw [mutationBlock, Txn.get_bind] at h
  rcases hfind : db.requirements.find? mutation.requirementId with _ | row
  · rw [hfind] at h
    cases h
  rw [hfind] at h
  have hid : row.requirementId = mutation.requirementId := (Table.find?_eq_some_iff.mp hfind).2
  obtain ⟨hrev, h⟩ := Txn.run_refuseIf_bind h
  obtain ⟨updated, hval, h⟩ := Txn.run_lift_bind.mp h
  obtain ⟨link, -, h⟩ := Txn.run_lift_bind.mp h
  obtain ⟨_, db₁, hwr, h⟩ := Txn.run_bind.mp h
  obtain ⟨mutationId, -, h⟩ := Txn.run_lift_bind.mp h
  obtain ⟨_, db₂, hins, h⟩ := Txn.run_bind.mp h
  obtain ⟨-, rfl⟩ := ok_pair_inj h
  obtain ⟨hreqs, hlks, -⟩ := insertMutation_eq_ok hins
  have hrev := not_not.mp hrev
  refine ⟨row, rfl, hrev, ?_⟩
  rw [Txn.onlyIf] at hwr
  split at hwr
  · obtain ⟨links, hmade, hreplaced, hmembers⟩ := rewriteRequirement_eq_ok hwr
    have hupd : updated.1.requirementId = mutation.requirementId := by
      rw [RequirementRecord.modelValidate] at hval
      split at hval
      · cases hval
        rw [RequirementFields.requirementId_withTargets]
        exact hid
      · cases hval
    rw [hid, ← hlks] at hmembers
    exact .rewritten hfind hrev hupd hmade (hreqs.trans hreplaced) hmembers
  · obtain ⟨-, rfl⟩ := ok_pair_inj hwr
    exact .kept hreqs hlks

/-- A mutation raises and leaves everything as it is, or its block is committed. -/
theorem applyTraceabilityMutation_cases (sha : Sha256) (mutation : TraceabilityMutation)
    (now : Instant) (db : RequirementDb) :
    (∃ error, applyTraceabilityMutation sha mutation now db = (.error error, db)) ∨
      ∃ result db', mutationBlock sha mutation now db = .ok (result, db') ∧
        (applyTraceabilityMutation sha mutation now db).2 = db' :=
  Session.transaction_bind_cases
    (fun _ db => (Session.Keeps.bind .ofExcept fun _ => .pure : Session.Keeps (· = db) _) db rfl) db

/-! ### Calls -/

/-- **What a call does.** -/
theorem RequirementCall.step_spec (sha : Sha256) (db : RequirementDb) (call : RequirementCall) :
    db.Step sha call (call.step sha db) := by
  cases call with
  | importRequirements records _ _ now =>
    rw [step, ProjectPipeline.importRequirements, Session.ofExcept_bind]
    split
    · exact .kept rfl rfl
    rename_i hnd
    rw [Session.ofExcept_bind]
    split
    · exact .kept rfl rfl
    rename_i links hmade
    rw [Session.ofExcept_bind]
    split
    · exact .kept rfl rfl
    rcases hblk : importBlock records links.flatten _ now db with error | ⟨u, db'⟩
    · rw [Session.bind_of_error (Session.transaction_of_error hblk)]
      exact .kept rfl rfl
    · rw [Session.bind_of_ok (Session.transaction_of_ok hblk)]
      exact importBlock_step (not_not.mp (raiseIf_eq_ok.mp hnd)) hmade hblk
  | applyTraceabilityMutation mutation now =>
    rcases applyTraceabilityMutation_cases sha mutation now db with
      ⟨error, hrefused⟩ | ⟨result, db', hblk, hcommitted⟩
    · rw [step, hrefused]
      exact .kept rfl rfl
    · rw [step, hcommitted]
      obtain ⟨row, -, -, hstep⟩ := mutationBlock_eq_ok hblk
      exact hstep

/-! ### A requirement -/

/-- The fields of a requirement that is planned. -/
def plannedFields (acceptanceSummary : String) : RequirementFields where
  requirementId := "REQ-STATE-0001"
  domain := "STATE"
  title := "State is durable"
  statement := "State survives a restart."
  requirementType := "FUNCTIONAL"
  normativeStrength := "MUST"
  authorityClassification := "SOURCE"
  sourceReferences := ["SRC-001:L000001"]
  sourceSequence := 1
  sourceKind := "LINE"
  rationale := "Runs are resumed."
  priority := "P1"
  risk := "LOW"
  disposition := .accepted
  dispositionReason := "In scope."
  implementationState := .plannedOnly
  planIds := ["PLAN-CORE-001"]
  planSectionIds := ["PLAN-CORE-001:SEC-01"]
  jiraIds := ["PP-TASK-000001"]
  verificationClass := "UNIT"
  verificationExpectation := "A test."
  acceptanceSummary

theorem plannedFields_errors :
    (plannedFields "Read back").errors = [] ∧ (plannedFields "Listed").errors = [] := by
  decide +kernel

/-- The requirement with one summary. -/
def readBack : RequirementRecord := ⟨plannedFields "Read back", plannedFields_errors.1⟩

/-- The requirement with another summary. -/
def listed : RequirementRecord := ⟨plannedFields "Listed", plannedFields_errors.2⟩

def importOf (records : List RequirementRecord) : RequirementCall :=
  .importRequirements records "catalog.json" "digest" 0

end ProjectPipeline
