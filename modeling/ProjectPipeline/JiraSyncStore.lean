import ProjectPipeline.JiraDomain
import ProjectPipeline.Table
import ProjectPipeline.Transactions

/-!
# The Jira Synchronisation Store

`JiraSyncStore` (`jira_steward/persistence.py`) after its schema has been initialised. Of the rows
of an operation only the columns are kept that are read or constrained; `put_plan` leaves the state
of an operation that is stored already as it is.

## Main results

* `JiraSyncStore.stateOf_putPlan`: the states of the operations of a plan after `put_plan`.
* `JiraSyncStore.setOperationState_eq_ok`: `set_operation_state` leaves the other operations alone.
-/

namespace ProjectPipeline

open Option List

/-- A row of `jira_sync_operations`. -/
structure JiraOperationRow where
  operationId : String
  idempotencyKey : String
  state : JiraOperationState
  deriving DecidableEq

/-- A row of `jira_remote_mappings`. -/
structure JiraMapping where
  localId : String
  remoteKey : String
  deriving DecidableEq

structure JiraSyncStore where
  snapshots : Table String JiraRemoteSnapshot JiraRemoteSnapshot.snapshotId := .empty
  plans : Table String JiraReconciliationPlan JiraReconciliationPlan.planId := .empty
  operations : Table String JiraOperationRow JiraOperationRow.operationId := .empty
  mappings : Table String JiraMapping JiraMapping.localId := .empty
  receipts : Table String JiraSyncReceipt JiraSyncReceipt.receiptId := .empty

namespace JiraSyncStore

/-- `JiraSyncPersistenceError`. -/
def persistenceError (message : String) : PyError := .raised "JiraSyncPersistenceError" message

def putSnapshot (snapshot : JiraRemoteSnapshot) : Txn JiraSyncStore Unit :=
  modify fun store => { store with
    snapshots := (store.snapshots.insert snapshot).getD (store.snapshots.replace snapshot) }

/-- The operation of a plan, inserted unless it is there. -/
def putOperation (operation : JiraSyncOperation) : Txn JiraSyncStore Unit := fun store =>
  if store.operations.rows.any fun row =>
      row.idempotencyKey == operation.idempotencyKey && row.operationId != operation.operationId then
    .error (.integrityError "UNIQUE constraint failed: jira_sync_operations.idempotency_key")
  else
    let row : JiraOperationRow :=
      ⟨operation.operationId, operation.idempotencyKey, operation.state⟩
    .ok ((), { store with operations := (store.operations.insert row).getD store.operations })

def putOperations : List JiraSyncOperation → Txn JiraSyncStore Unit
  | [] => pure ()
  | operation :: operations => do
      putOperation operation
      putOperations operations

def putPlan (plan : JiraReconciliationPlan) : Txn JiraSyncStore Unit := do
  let store ← get
  Txn.refuseIf (store.snapshots.find? plan.remoteSnapshotId).isNone
    (persistenceError ("remote snapshot is not persisted: " ++ plan.remoteSnapshotId))
  set { store with plans := (store.plans.insert plan).getD (store.plans.replace plan) }
  putOperations plan.operations

def operationState (operationId : String) : Txn JiraSyncStore (Option JiraOperationState) := do
  let store ← get
  return (store.operations.find? operationId).map JiraOperationRow.state

def setOperationState (operationId : String) (state : JiraOperationState) :
    Txn JiraSyncStore Unit := do
  let store ← get
  Txn.refuseIf (store.operations.find? operationId).isNone
    (persistenceError ("Jira operation not found: " ++ operationId))
  set { store with
    operations := store.operations.updateWhere (fun row => row.operationId = operationId)
      (fun row => { row with state := state }) fun _ => rfl }

def putRemoteMapping (localId remoteKey : String) : Txn JiraSyncStore Unit := do
  let store ← get
  let byLocal := store.mappings.find? localId
  let byRemote := store.mappings.rows.find? fun row => row.remoteKey = remoteKey
  Txn.refuseIf (byLocal.any fun row => row.remoteKey != remoteKey)
    (persistenceError ("local Jira ID " ++ localId ++ " is already mapped to " ++
      (byLocal.map JiraMapping.remoteKey).getD ""))
  Txn.refuseIf (byRemote.any fun row => row.localId != localId)
    (persistenceError ("remote Jira key " ++ remoteKey ++ " is already mapped to " ++
      (byRemote.map JiraMapping.localId).getD ""))
  let row : JiraMapping := ⟨localId, remoteKey⟩
  set { store with mappings := (store.mappings.insert row).getD (store.mappings.replace row) }

def remoteKeyFor (localId : String) : Txn JiraSyncStore (Option String) := do
  let store ← get
  return (store.mappings.find? localId).map JiraMapping.remoteKey

def putReceipt (receipt : JiraSyncReceipt) : Txn JiraSyncStore Unit :=
  modify fun store => { store with
    receipts := (store.receipts.insert receipt).getD (store.receipts.replace receipt) }

/-! ### The states of operations -/

/-- The state that an operation of a plan has once the plan is stored: the one of its row, or else
its own. -/
def stateOf (store : JiraSyncStore) (operation : JiraSyncOperation) : JiraOperationState :=
  ((store.operations.find? operation.operationId).map JiraOperationRow.state).getD operation.state

variable {store store' : JiraSyncStore} {plan : JiraReconciliationPlan}
  {operationId localId remoteKey : String} {state : JiraOperationState} {u : Unit}

/-- An operation that is stored keeps its row while others are put in. -/
theorem find?_putOperation {operation : JiraSyncOperation}
    (h : putOperation operation store = .ok (u, store')) (operationId : String) :
    store'.operations.find? operationId =
      (store.operations.find? operationId).or
        (if operation.operationId = operationId then
          some ⟨operation.operationId, operation.idempotencyKey, operation.state⟩ else none) := by
  rw [putOperation] at h
  split at h
  · cases h
  · obtain ⟨-, rfl⟩ := ok_pair_inj h
    cases hins : store.operations.insert
        (⟨operation.operationId, operation.idempotencyKey, operation.state⟩ :
          JiraOperationRow) with
    | some rows =>
      obtain ⟨hfr, -⟩ := Table.insert_eq_some_iff.mp hins
      rw [getD_some, Table.find?_insert hins]
      by_cases hid : operation.operationId = operationId
      · subst hid
        rw [if_pos rfl, if_pos rfl, hfr, none_or]
      · rw [if_neg hid, if_neg hid, or_none]
    | none =>
      rw [getD_none]
      by_cases hid : operation.operationId = operationId
      · subst hid
        cases hfind : store.operations.find? operation.operationId with
        | some => rw [some_or]
        | none =>
          have hrows := Table.exists_insert (t := store.operations)
            (r := ⟨operation.operationId, operation.idempotencyKey, operation.state⟩) hfind
          rw [hins] at hrows
          obtain ⟨rows, hrows⟩ := hrows
          cases hrows
      · rw [if_neg hid, or_none]

/-- The operations of a plan after they are put in: an operation that was stored keeps its row. -/
theorem find?_putOperations {operations : List JiraSyncOperation}
    (h : putOperations operations store = .ok (u, store')) (operationId : String) :
    store'.operations.find? operationId =
      (store.operations.find? operationId).or
        ((operations.find? fun operation => operation.operationId = operationId).map
          fun operation =>
            ⟨operation.operationId, operation.idempotencyKey, operation.state⟩) := by
  induction operations generalizing store with
  | nil =>
    obtain ⟨-, rfl⟩ := ok_pair_inj h
    rw [find?_nil, Option.map_none, Option.or_none]
  | cons operation _ ih =>
    obtain ⟨⟨⟩, store₁, hfst, hrest⟩ := Txn.run_bind.mp h
    rw [ih hrest, find?_putOperation hfst, find?_cons, Option.or_assoc]
    by_cases hid : operation.operationId = operationId
    · rw [if_pos hid, decide_eq_true hid, Option.some_or, Option.map_some]
    · rw [if_neg hid, decide_eq_false hid, Option.none_or]

section

variable (h : putPlan plan store = .ok (u, store'))
include h

/-- The operations after `put_plan`. -/
theorem find?_putPlan (operationId : String) :
    store'.operations.find? operationId =
      (store.operations.find? operationId).or
        ((plan.operations.find? fun operation => operation.operationId = operationId).map
          fun operation =>
            ⟨operation.operationId, operation.idempotencyKey, operation.state⟩) := by
  rw [putPlan, Txn.get_bind] at h
  obtain ⟨⟨⟩, store₁, -, h⟩ := Txn.run_bind.mp h
  exact find?_putOperations h operationId

/-- `put_plan` leaves the mapping as it is. -/
theorem mappings_putPlan :
    store'.mappings = store.mappings := by
  have hoperations (operations : List JiraSyncOperation) :
      Txn.Triple (fun s => s.mappings = store.mappings) (putOperations operations)
        fun _ s => s.mappings = store.mappings := by
    induction operations with
    | nil => exact .pure fun _ h => h
    | cons _ _ ih =>
      refine .bind (fun s a s' hs hrun => ?_) fun _ => ih
      rw [putOperation] at hrun
      split at hrun
      · cases hrun
      · obtain ⟨-, rfl⟩ := ok_pair_inj hrun
        exact hs
  rw [putPlan, Txn.get_bind] at h
  obtain ⟨⟨⟩, store₁, -, h⟩ := Txn.run_bind.mp h
  refine hoperations plan.operations _ u store' ?_ h
  rfl

/-- After `put_plan` the operations of the plan are stored, with the states that they had. -/
theorem stateOf_putPlan :
    ∀ operation ∈ plan.operations,
      (store'.operations.find? operation.operationId).map JiraOperationRow.state =
        some (store.stateOf operation) := by
  intro operation hmem
  rw [find?_putPlan h]
  -- the identifiers of a plan are distinct, so the first operation of that name is this one
  have hfind : plan.operations.find? (fun other => other.operationId = operation.operationId) =
      some operation := by
    cases hfst : plan.operations.find? (fun other => other.operationId = operation.operationId) with
    | none =>
      have hnone := find?_eq_none.mp hfst operation hmem
      exact absurd (decide_eq_true rfl) hnone
    | some first =>
      have hid : first.operationId = operation.operationId := by simpa using find?_some hfst
      rw [inj_on_of_nodup_map plan.operations_nodup (mem_of_find?_eq_some hfst) hmem hid]
  rw [hfind, stateOf]
  cases store.operations.find? operation.operationId with
  | none | some => rfl

end

section

variable (h : setOperationState operationId state store = .ok (u, store'))
include h

/-- `set_operation_state` writes the state of one operation. -/
theorem setOperationState_eq_ok {other : String} (hoth : other ≠ operationId) :
    store'.operations.find? other = store.operations.find? other := by
  rw [setOperationState, Txn.get_bind] at h
  obtain ⟨⟨⟩, store₁, -, h⟩ := Txn.run_bind.mp h
  obtain ⟨-, rfl⟩ := ok_pair_inj h
  rw [Table.find?_updateWhere]
  cases hfind : store.operations.find? other with
  | none => rfl
  | some row =>
    have hid : row.operationId = other := (Table.find?_eq_some_iff.mp hfind).2
    rw [map_some, if_neg (by simpa [hid] using hoth)]

/-- `set_operation_state` writes the state of an operation that is stored. -/
theorem find?_setOperationState :
    (store'.operations.find? operationId).map JiraOperationRow.state = some state := by
  rw [setOperationState, Txn.get_bind] at h
  obtain ⟨⟨⟩, store₁, hfd, h⟩ := Txn.run_bind.mp h
  obtain ⟨-, rfl⟩ := ok_pair_inj h
  obtain ⟨hfd, -⟩ := Txn.refuseIf_eq_ok hfd
  rw [Table.find?_updateWhere]
  cases hfind : store.operations.find? operationId with
  | none =>
    rw [hfind] at hfd
    exact absurd rfl hfd
  | some row =>
    have hid : row.operationId = operationId := (Table.find?_eq_some_iff.mp hfind).2
    rw [map_some, if_pos (decide_eq_true hid), map_some]

/-- `set_operation_state` only writes operations. -/
theorem mappings_setOperationState :
    store'.mappings = store.mappings := by
  rw [setOperationState, Txn.get_bind] at h
  obtain ⟨⟨⟩, store₁, -, h⟩ := Txn.run_bind.mp h
  obtain ⟨-, rfl⟩ := ok_pair_inj h
  rfl

end

/-- An operation that is stored can be given a state. -/
theorem exists_setOperationState (h : (store.operations.find? operationId).isSome)
    (state : JiraOperationState) :
    ∃ store', setOperationState operationId state store = .ok ((), store') := by
  obtain ⟨row, hrow⟩ := isSome_iff_exists.mp h
  rw [setOperationState, Txn.get_bind, Txn.refuseIf, if_neg (by simp [hrow])]
  exact ⟨_, rfl⟩

/-! ### Mappings -/

section

variable (store : JiraSyncStore) (localId remoteKey : String)

/-- The mapping takes the pair: neither identifier is mapped to another one. -/
def Takes : Prop :=
  ∀ row ∈ store.mappings.rows, row.localId = localId ↔ row.remoteKey = remoteKey

/-- The store with a pair in its mapping. -/
def mapped : JiraSyncStore :=
  { store with
    mappings := (store.mappings.insert ⟨localId, remoteKey⟩).getD
      (store.mappings.replace ⟨localId, remoteKey⟩) }

end

/-- `put_remote_mapping` raises, or puts the pair in. -/
theorem putRemoteMapping_eq_ok (h : putRemoteMapping localId remoteKey store = .ok (u, store')) :
    store' = store.mapped localId remoteKey := by
  rw [putRemoteMapping, Txn.get_bind] at h
  obtain ⟨⟨⟩, store₁, -, h⟩ := Txn.run_bind.mp h
  obtain ⟨⟨⟩, store₂, -, h⟩ := Txn.run_bind.mp h
  obtain ⟨-, rfl⟩ := ok_pair_inj h
  rfl

/-- The mapping has one more row at most. -/
theorem mem_mapped {row : JiraMapping} (h : row ∈ (store.mapped localId remoteKey).mappings.rows) :
    row ∈ store.mappings.rows ∨ row = ⟨localId, remoteKey⟩ := by
  have hfind := Table.find?_of_mem _ h
  rw [mapped, Table.find?_put] at hfind
  split at hfind
  · exact .inr (some.inj hfind).symm
  · exact .inl (Table.find?_eq_some_iff.mp hfind).1

theorem putRemoteMapping_of_takes (h : store.Takes localId remoteKey) :
    putRemoteMapping localId remoteKey store = .ok ((), store.mapped localId remoteKey) := by
  have hloc : ¬ ((store.mappings.find? localId).any fun row => row.remoteKey != remoteKey) := by
    cases hfind : store.mappings.find? localId with
    | none => exact Bool.false_ne_true
    | some row =>
      obtain ⟨hrow, hid⟩ := Table.find?_eq_some_iff.mp hfind
      simp [(h row hrow).mp hid]
  have hrem : ¬ ((store.mappings.rows.find? fun row => row.remoteKey = remoteKey).any
      fun row => row.localId != localId) := by
    cases hfind : store.mappings.rows.find? fun row => row.remoteKey = remoteKey with
    | none => exact Bool.false_ne_true
    | some row =>
      have hkey : row.remoteKey = remoteKey := by simpa using find?_some hfind
      simp [(h row (mem_of_find?_eq_some hfind)).mpr hkey]
  rw [putRemoteMapping, Txn.get_bind, Txn.refuseIf, Txn.refuseIf]
  rw [if_neg hloc, if_neg hrem]
  rfl

end JiraSyncStore

end ProjectPipeline
