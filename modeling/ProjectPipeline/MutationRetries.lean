import ProjectPipeline.RequirementSteps

/-!
# Retries of Mutations

A mutation that adds a target which is there, or removes one which is not, is accepted and reports
that it has changed nothing. It is recorded nevertheless, under an identifier that is a digest of
the request and of the revision of the requirement. The revision stays what it is, so the same
request has the same identifier again, and the table of mutations refuses it.

## Main results

* `mutationBlock_unchanged_iff`: when a mutation that changes nothing is accepted, and what it does.
* `retry_harmless_iff`: a retry is harmless exactly if there is nothing to retry.
* `retry_of_known_plan`: a retry that raises.
-/

namespace ProjectPipeline

open RequirementDb

namespace TraceabilityMutation

/-- A mutation that changes nothing leaves the list as it is. -/
theorem edit_of_not_changes {mutation : TraceabilityMutation} {values : List String}
    (h : mutation.changes values = false) : mutation.edit values = values := by
  rw [changes] at h
  rw [edit]
  cases hop : mutation.operation with
  | add =>
    rw [hop, Bool.not_eq_false'] at h
    exact if_pos h
  | remove =>
    rw [hop] at h
    refine List.erase_of_not_mem fun hmem => ?_
    rw [List.contains_iff_mem.mpr hmem] at h
    cases h

/-- The row that a mutation which changes nothing records. -/
def unchangedRow (mutation : TraceabilityMutation) (mutationId : String) (now : Instant) :
    MutationRow where
  mutationId
  requirementId := mutation.requirementId
  operation := mutation.operation
  linkType := mutation.linkType
  target := mutation.target
  previousRevision := mutation.expectedRevision
  resultingRevision := mutation.expectedRevision
  changed := false
  actorId := mutation.actorId
  correlationId := mutation.correlationId
  reason := mutation.reason
  recordedAtUtc := now

/-- What a mutation which changes nothing returns. -/
def unchangedResult (mutation : TraceabilityMutation) (link : TraceabilityLink)
    (mutationId : String) (now : Instant) : TraceabilityMutationResult where
  mutationId
  requirementId := mutation.requirementId
  operation := mutation.operation
  link
  previousRevision := mutation.expectedRevision
  resultingRevision := mutation.expectedRevision
  changed := false
  recordedAtUtc := now

/-- The mutation is accepted and changes nothing: it expects the revision of its requirement, the
list of the requirement stays as it is, the link it proposes is valid, and no mutation is recorded
under its identifier. -/
def AcceptedUnchanged (sha : Sha256) (mutation : TraceabilityMutation) (db : RequirementDb) : Prop :=
  ∃ row, db.requirements.find? mutation.requirementId = some row ∧
    row.revision = mutation.expectedRevision ∧
    mutation.changes (row.record.1.targets mutation.linkType) = false ∧
    (∃ link, mutation.proposedLink sha (row.record.1.targets mutation.linkType) = .ok link) ∧
    ∃ mutationId, mutation.identifier sha mutation.expectedRevision = .ok mutationId ∧
      db.mutations.find? mutationId = none

end TraceabilityMutation

variable {sha : Sha256} {db db' : RequirementDb} {mutation : TraceabilityMutation}
  {row : RequirementRow} {result : TraceabilityMutationResult}

/-- A requirement that is not changed is valid. -/
theorem RequirementRecord.modelValidate_self (record : RequirementRecord) :
    modelValidate record.1 = .ok record := by
  rw [modelValidate, dif_pos record.2]

variable {now : Instant}

/-- A mutation finds its requirement at the revision it expects, and reports whether it changes
it. -/
theorem mutationBlock_changed (h : mutationBlock sha mutation now db = .ok (result, db')) :
    ∃ row, db.requirements.find? mutation.requirementId = some row ∧
      row.revision = mutation.expectedRevision ∧
      result.changed = mutation.changes (row.record.1.targets mutation.linkType) := by
  obtain ⟨row, hfind, hrev, -⟩ := mutationBlock_eq_ok h
  refine ⟨row, hfind, hrev, ?_⟩
  rw [mutationBlock, Txn.get_bind, hfind] at h
  obtain ⟨_, _, -, h⟩ := Txn.run_bind.mp h
  obtain ⟨_, -, h⟩ := Txn.run_lift_bind.mp h
  obtain ⟨_, -, h⟩ := Txn.run_lift_bind.mp h
  obtain ⟨_, _, -, h⟩ := Txn.run_bind.mp h
  obtain ⟨_, -, h⟩ := Txn.run_lift_bind.mp h
  obtain ⟨_, _, -, h⟩ := Txn.run_bind.mp h
  obtain ⟨rfl, -⟩ := ok_pair_inj h
  rfl

/-- What is left of a mutation that changes nothing. -/
theorem mutationBlock_unchanged (now : Instant)
    (hfind : db.requirements.find? mutation.requirementId = some row)
    (hrev : row.revision = mutation.expectedRevision)
    (hunchanged : mutation.changes (row.record.1.targets mutation.linkType) = false) :
    mutationBlock sha mutation now db = (do
      let link ← (mutation.proposedLink sha (row.record.1.targets mutation.linkType) :)
      let mutationId ← (mutation.identifier sha mutation.expectedRevision :)
      insertMutation (mutation.unchangedRow mutationId now)
      pure (mutation.unchangedResult link mutationId now) :
        Txn RequirementDb TraceabilityMutationResult) db := by
  rw [mutationBlock, Txn.get_bind, hfind]
  simp only [mutateRequirement, hrev, hunchanged,
    TraceabilityMutation.edit_of_not_changes hunchanged, RequirementFields.withTargets_targets,
    RequirementRecord.modelValidate_self, Txn.refuseIf, Txn.onlyIf, ne_eq, not_true_eq_false,
    if_false, Bool.false_eq_true, pure_bind, Int.add_zero]
  rw [Txn.lift_bind]
  rfl

/-- A mutation is recorded for a stored requirement if its identifier is new. -/
theorem insertMutation_eq_ok_iff {record : MutationRow} {u : Unit}
    (hfind : db.requirements.find? record.requirementId = some row) :
    insertMutation record db = .ok (u, db') ↔
      ∃ mutations, db.mutations.insert record = some mutations ∧ db' = { db with mutations } := by
  rw [insertMutation]
  cases db.mutations.insert record with
  | none => exact ⟨by rintro ⟨⟩, by rintro ⟨_, ⟨⟩, -⟩⟩
  | some mutations =>
    have hrequire : requireRequirement record.requirementId db = .ok () := by
      rw [requireRequirement, hfind]
      rfl
    rw [hrequire]
    constructor
    · intro h
      obtain ⟨-, rfl⟩ := ok_pair_inj h
      exact ⟨mutations, rfl, rfl⟩
    · rintro ⟨_, hmutations, rfl⟩
      cases hmutations
      rfl

/-- A mutation that changes nothing is accepted if its link is valid and its identifier is new, and
does nothing but record itself. -/
theorem mutationBlock_unchanged_iff
    (hfind : db.requirements.find? mutation.requirementId = some row)
    (hrev : row.revision = mutation.expectedRevision)
    (hunchanged : mutation.changes (row.record.1.targets mutation.linkType) = false) :
    mutationBlock sha mutation now db = .ok (result, db') ↔
      ∃ link mutationId mutations,
        mutation.proposedLink sha (row.record.1.targets mutation.linkType) = .ok link ∧
        mutation.identifier sha mutation.expectedRevision = .ok mutationId ∧
        db.mutations.insert (mutation.unchangedRow mutationId now) = some mutations ∧
        result = mutation.unchangedResult link mutationId now ∧ db' = { db with mutations } := by
  rw [mutationBlock_unchanged now hfind hrev hunchanged]
  constructor
  · intro h
    obtain ⟨link, hlink, h⟩ := Txn.run_lift_bind.mp h
    obtain ⟨mutationId, hident, h⟩ := Txn.run_lift_bind.mp h
    obtain ⟨_, db₁, hins, h⟩ := Txn.run_bind.mp h
    obtain ⟨rfl, rfl⟩ := ok_pair_inj h
    obtain ⟨mutations, hmutations, rfl⟩ := (insertMutation_eq_ok_iff hfind).mp hins
    exact ⟨link, mutationId, mutations, hlink, hident, hmutations, rfl, rfl⟩
  · rintro ⟨link, mutationId, mutations, hlink, hident, hmutations, rfl, rfl⟩
    refine Txn.run_lift_bind.mpr ⟨link, hlink, Txn.run_lift_bind.mpr ⟨mutationId, hident, ?_⟩⟩
    exact Txn.run_bind.mpr ⟨(), _,
      (insertMutation_eq_ok_iff hfind).mpr ⟨mutations, hmutations, rfl⟩, rfl⟩

/-- The result of a mutation that changes nothing is valid. -/
theorem TraceabilityMutation.unchangedResult_errors {mutationId : String}
    (hident : mutation.identifier sha mutation.expectedRevision = .ok mutationId)
    (link : TraceabilityLink) (now : Instant) :
    (mutation.unchangedResult link mutationId now).errors = [] := by
  have hmutation : identifierErrors "mutation_id" .mutation mutationId = [] :=
    identifierErrors_of_valid (validateIdentifier_of_deterministic hident)
  have hflds : (mutation.unchangedResult link mutationId now).fieldErrors = [] := by
    simp only [TraceabilityMutationResult.fieldErrors, unchangedResult, hmutation,
      mutation.requirementId_valid, lowerBoundErrors_eq_nil.mpr mutation.expectedRevision_valid,
      List.append_nil]
  rw [TraceabilityMutationResult.errors, if_neg (not_not.mpr hflds)]
  simp [unchangedResult]

/-- What a call returns whose block is committed. -/
theorem applyTraceabilityMutation_of_ok
    (h : mutationBlock sha mutation now db = .ok (result, db')) :
    applyTraceabilityMutation sha mutation now db =
      (if result.errors = [] then .ok result
        else .error (.validationError "TraceabilityMutationResult" result.errors), db') := by
  rw [applyTraceabilityMutation, Session.bind_of_ok (Session.transaction_of_ok h),
    Session.ofExcept_bind]
  by_cases herrs : result.errors = []
  · simp [raiseIf, herrs, pure]
  · simp [raiseIf, herrs]

/-- A call that returns has been committed. -/
theorem applyTraceabilityMutation_eq_ok
    (h : applyTraceabilityMutation sha mutation now db = (.ok result, db')) :
    mutationBlock sha mutation now db = .ok (result, db') := by
  rcases hblk : mutationBlock sha mutation now db with error | ⟨result₁, db₁⟩
  · rw [applyTraceabilityMutation, Session.bind_of_error (Session.transaction_of_error hblk)] at h
    cases h
  · rw [applyTraceabilityMutation_of_ok hblk] at h
    obtain ⟨hres, rfl⟩ := Prod.mk.inj h
    split at hres
    · rw [Except.ok.inj hres]
    · cases hres

/-! ### Retries -/

/-- When a mutation that changes nothing is accepted. -/
theorem TraceabilityMutation.acceptedUnchanged_iff (now : Instant) :
    mutation.AcceptedUnchanged sha db ↔
      ∃ result db', applyTraceabilityMutation sha mutation now db = (.ok result, db') ∧
        result.changed = false := by
  constructor
  · rintro ⟨row, hfind, hrev, hunchanged, ⟨link, hlink⟩, mutationId, hident, hfr⟩
    obtain ⟨mutations, hmutations⟩ :
        ∃ mutations, db.mutations.insert (mutation.unchangedRow mutationId now) = some mutations :=
      Table.exists_insert hfr
    have hblk := (mutationBlock_unchanged_iff hfind hrev hunchanged).mpr
      ⟨link, mutationId, mutations, hlink, hident, hmutations, rfl, rfl⟩
    refine ⟨mutation.unchangedResult link mutationId now, { db with mutations }, ?_, rfl⟩
    rw [applyTraceabilityMutation_of_ok hblk, if_pos (unchangedResult_errors hident link now)]
  · rintro ⟨result, db', hok, hchanged⟩
    have hblk := applyTraceabilityMutation_eq_ok hok
    obtain ⟨row, hfind, hrev, hchanges⟩ := mutationBlock_changed hblk
    have hunchanged := hchanges.symm.trans hchanged
    obtain ⟨link, mutationId, mutations, hlink, hident, hmutations, -⟩ :=
      (mutationBlock_unchanged_iff hfind hrev hunchanged).mp hblk
    exact ⟨row, hfind, hrev, hunchanged, ⟨link, hlink⟩, mutationId, hident,
      (Table.insert_eq_some_iff.mp hmutations).1⟩

/-- A mutation that has been accepted and has changed nothing is refused from then on. -/
theorem retry_refused {now' : Instant} {db'' : RequirementDb} {result' : TraceabilityMutationResult}
    (hok : applyTraceabilityMutation sha mutation now db = (.ok result, db'))
    (hchanged : result.changed = false) :
    applyTraceabilityMutation sha mutation now' db' ≠ (.ok result', db'') := by
  have hblk := applyTraceabilityMutation_eq_ok hok
  obtain ⟨row, hfind, hrev, hchanges⟩ := mutationBlock_changed hblk
  have hunchanged := hchanges.symm.trans hchanged
  obtain ⟨link, mutationId, mutations, -, hident, hmutations, -, rfl⟩ :=
    (mutationBlock_unchanged_iff hfind hrev hunchanged).mp hblk
  intro hretry
  -- The requirement is what it was, so the retry has the identifier that is recorded.
  have hfind' : ({ db with mutations } : RequirementDb).requirements.find?
      mutation.requirementId = some row := hfind
  obtain ⟨-, mutationId', _, -, hident', hins, -⟩ :=
    (mutationBlock_unchanged_iff hfind' hrev hunchanged).mp (applyTraceabilityMutation_eq_ok hretry)
  obtain rfl := Except.ok.inj (hident.symm.trans hident')
  have hfr := (Table.insert_eq_some_iff.mp hins).1
  have hrecd := Table.find?_insert hmutations (mutation.unchangedRow mutationId now).mutationId
  rw [if_pos rfl] at hrecd
  exact absurd (hrecd.symm.trans hfr) (Option.some_ne_none _)

/-- **When a retry is harmless.** If a mutation is accepted and changes nothing, the same mutation
is not accepted again; so retries are harmless exactly for the mutations that are not accepted or
change something. -/
theorem retry_harmless_iff (sha : Sha256) (db : RequirementDb) (mutation : TraceabilityMutation)
    (now now' : Instant) :
    (∀ result db', applyTraceabilityMutation sha mutation now db = (.ok result, db') →
      result.changed = false →
        ∃ result' db'', applyTraceabilityMutation sha mutation now' db' = (.ok result', db'') ∧
          result'.resultingRevision = result.resultingRevision ∧
          db''.requirements = db'.requirements ∧ db''.links = db'.links) ↔
      ¬ mutation.AcceptedUnchanged sha db := by
  rw [mutation.acceptedUnchanged_iff now]
  constructor
  · rintro hharmless ⟨result, db', hok, hchanged⟩
    obtain ⟨result', db'', hretry, -⟩ := hharmless result db' hok hchanged
    exact retry_refused hok hchanged hretry
  · intro hnone result db' hok hchanged
    exact absurd ⟨result, db', hok, hchanged⟩ hnone

def readBackStore : RequirementDb where
  requirements := ⟨[⟨readBack, 1, 0⟩], by simp⟩

def addPlan (target : String) : TraceabilityMutation where
  requirementId := "REQ-STATE-0001"
  operation := .add
  linkType := .plan
  target
  expectedRevision := 1
  actorId := "one"
  correlationId := "run"
  reason := "coverage"
  requirementId_valid := by decide +kernel
  expectedRevision_valid := by decide
  actorId_valid := by decide
  correlationId_valid := by decide
  reason_valid := by decide

/-- A plan that the requirement does not have is added: the mutation changes something. -/
theorem retry_harmless_iff_new_plan :
    let first := applyTraceabilityMutation .bytePolynomial (addPlan "PLAN-CORE-002") 0 readBackStore
    first.1.isOk = true ∧
    ¬ (addPlan "PLAN-CORE-002").AcceptedUnchanged .bytePolynomial readBackStore ∧
    ∀ result db', first = (.ok result, db') → result.changed = false →
      ∃ result' db'', applyTraceabilityMutation .bytePolynomial (addPlan "PLAN-CORE-002") 1 db' =
          (.ok result', db'') ∧
        result'.resultingRevision = result.resultingRevision ∧
        db''.requirements = db'.requirements ∧ db''.links = db'.links := by
  have hreturns : (applyTraceabilityMutation .bytePolynomial (addPlan "PLAN-CORE-002") 0
      readBackStore).1.isOk = true := by decide +kernel
  have hnot : ¬ (addPlan "PLAN-CORE-002").AcceptedUnchanged .bytePolynomial readBackStore := by
    rintro ⟨row, hfind, -, hunchanged, -⟩
    have hrow : row = ⟨readBack, 1, 0⟩ := (Option.some.inj hfind).symm
    rw [hrow] at hunchanged
    exact absurd hunchanged (by decide)
  exact ⟨hreturns, hnot, (retry_harmless_iff .bytePolynomial readBackStore
    (addPlan "PLAN-CORE-002") 0 1).mpr hnot⟩

/-- A plan that the requirement has is added: the mutation changes nothing, and its retry raises. -/
theorem retry_of_known_plan :
    let first := applyTraceabilityMutation .bytePolynomial (addPlan "PLAN-CORE-001") 0 readBackStore
    let retry := applyTraceabilityMutation .bytePolynomial (addPlan "PLAN-CORE-001") 1 first.2
    (∃ result, first.1 = .ok result ∧ result.changed = false) ∧ retry.1.isOk = false := by
  refine ⟨exists_ok (by decide +kernel) fun _ _ hunchanged => hunchanged, ?_⟩
  decide +kernel

end ProjectPipeline
