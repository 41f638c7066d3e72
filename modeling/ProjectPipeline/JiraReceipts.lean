import ProjectPipeline.JiraSteps

/-!
# Jira Receipts

A receipt `APPLIED` should say that the remote is as the plan has asked for. An operation that is
stored as applied is skipped and counted as applied, and the name of an operation is a digest of its
request: when somebody undoes an operation in the remote, the planner asks for it again under the
same name, and `apply` skips it.

What the steward does to the remote is described by the fields that stay and the fields that are
written (`Kept`, `Wrote`); an application that comes to its end has skipped or performed every
operation of its plan.

## Main results

* `performOperation_wrote`, `performOperation_kept`: what an operation does to the remote.
* `applied_receipt_true`: a receipt `APPLIED` is true when the operations that are stored as applied
  hold in the remote at the beginning, and no two operations ask for different values of one field.
* `applied_receipt_stale`: a receipt of an operation that was undone.
-/

namespace ProjectPipeline

open JiraSyncStore List Prod RemoteField

/-! ### Fields -/

variable {fields : List RemoteField} {issue : RemoteJiraIssue} {after before : JiraRemote}
  {remoteKey : String}

namespace RemoteField

theorem agrees_self (field : RemoteField) : field.Agrees field := by
  cases field <;> rfl

theorem holdsIn_assign_self (issue : RemoteJiraIssue) (field : RemoteField) :
    field.HoldsIn (field.assign issue) := by
  cases field <;> rfl

variable {field : RemoteField}

/-- A value stays when another field, or the same value, is assigned. -/
theorem HoldsIn.assign {other : RemoteField} (h : field.HoldsIn issue)
    (hagrees : other.Agrees field) : field.HoldsIn (other.assign issue) := by
  cases field <;> cases other <;> first | exact h | exact hagrees

theorem HoldsIn.foldl_assign (h : field.HoldsIn issue)
    (hagrees : ∀ other ∈ fields, other.Agrees field) :
    field.HoldsIn (fields.foldl RemoteField.assign issue) := by
  induction fields generalizing issue with
  | nil => exact h
  | cons _ _ ih =>
    obtain ⟨hoth, hflds⟩ := forall_mem_cons.mp hagrees
    exact ih (h.assign hoth) hflds

/-- Fields that agree all have their values after they are assigned. -/
theorem holdsIn_foldl_of_mem (hmem : field ∈ fields)
    (hagrees : ∀ other ∈ fields, other.Agrees field) (issue : RemoteJiraIssue) :
    field.HoldsIn (fields.foldl RemoteField.assign issue) := by
  induction fields generalizing issue with
  | nil => exact absurd hmem not_mem_nil
  | cons other _ ih =>
    obtain ⟨-, hflds⟩ := forall_mem_cons.mp hagrees
    obtain rfl | hmem := mem_cons.mp hmem
    · exact (holdsIn_assign_self issue field).foldl_assign hflds
    · exact ih hmem hflds (other.assign issue)

/-- The version and the time of an issue are none of the fields. -/
theorem holdsIn_edited_iff {now : Instant} :
    field.HoldsIn (issue.edited fields now) ↔
      field.HoldsIn (fields.foldl RemoteField.assign issue) := by
  cases field <;> rfl

end RemoteField

/-- The fields of an update are different fields. -/
theorem agrees_of_mem_givenFields {summary description : Option String}
    {labels : Option (List String)} {parent : Option (Option String)} :
    ∀ field ∈ givenFields summary description labels parent,
      ∀ other ∈ givenFields summary description labels parent, other.Agrees field := by
  cases summary <;> cases description <;> cases labels <;> cases parent <;>
    simp [givenFields, RemoteField.Agrees]

/-! ### What a step does to the remote -/

/-- Some fields of one issue have got new values, and everything else is kept. -/
structure Wrote (remoteKey : String) (fields : List RemoteField) (before after : JiraRemote) :
    Prop where
  holds : ∃ issue, after.find? remoteKey = some issue ∧ ∀ field ∈ fields, field.HoldsIn issue
  kept : ∀ key issue, before.find? key = some issue →
    ∃ issue', after.find? key = some issue' ∧
      ∀ field : RemoteField, field.HoldsIn issue →
        (key = remoteKey → ∀ other ∈ fields, other.Agrees field) → field.HoldsIn issue'

theorem Kept.refl (remote : JiraRemote) : Kept remote remote :=
  fun _ issue h => ⟨issue, h, fun _ hfld => hfld⟩

/-- An edit of fields that agree writes them. -/
theorem wrote_of_changeIssue {now : Instant}
    (hagrees : ∀ field ∈ fields, ∀ other ∈ fields, other.Agrees field) {issue' : RemoteJiraIssue}
    (h : changeIssue remoteKey (fun issue => issue.edited fields now) before =
      .ok (after, issue')) : Wrote remoteKey fields before after := by
  have hedit (issue : RemoteJiraIssue) : (issue.edited fields now).remoteKey = issue.remoteKey :=
    issue.remoteKey_edited fields now
  obtain ⟨changed, hchanged, -⟩ := changeIssue_eq_ok hedit h
  refine ⟨⟨_, find?_changeIssue h hedit hchanged, fun field hfld => ?_⟩,
    fun key issue hiss => ⟨_, find?_changeIssue h hedit hiss, fun field hfld hoth => ?_⟩⟩
  · rw [if_pos rfl, RemoteField.holdsIn_edited_iff]
    exact RemoteField.holdsIn_foldl_of_mem hfld (hagrees field hfld) changed
  · split
    · rename_i hkey
      exact hfld.foldl_assign (hoth hkey)
    · exact hfld

/-! ### What an operation asks for -/

namespace JiraSyncOperation

variable (env : JiraEnv)

section

variable (operation : JiraSyncOperation)

/-- The fields of an issue that an operation asks for; only updates and transitions do. -/
def fieldRequest :
    Except PyError (Option (String × List RemoteField)) :=
  match operation.operationType with
  | .updateRemoteFields => (operation.updateRequest env).map some
  | .transitionRemoteIssue =>
    (operation.transitionRequest env).map fun request => some (request.1, [.status request.2])
  | _ => .ok none

/-- The fields of an issue have the values that are asked for. -/
def FieldsHold (fields : List RemoteField) : Option RemoteJiraIssue → Prop
  | none => False
  | some issue => ∀ field ∈ fields, field.HoldsIn issue

instance (fields : List RemoteField) : ∀ found, Decidable (FieldsHold fields found)
  | none => .isFalse id
  | some issue => inferInstanceAs (Decidable (∀ field ∈ fields, field.HoldsIn issue))

/-- A request is met by the remote. -/
def RequestHolds (remote : JiraRemote) :
    Except PyError (Option (String × List RemoteField)) → Prop
  | .error _ => False
  | .ok none => True
  | .ok (some (remoteKey, fields)) => FieldsHold fields (remote.find? remoteKey)

instance (remote : JiraRemote) : ∀ request, Decidable (RequestHolds remote request)
  | .error _ => .isFalse id
  | .ok none => .isTrue trivial
  | .ok (some (remoteKey, fields)) =>
    inferInstanceAs (Decidable (FieldsHold fields (remote.find? remoteKey)))

/-- The fields and the status that an operation asks for are the current ones. -/
def Holds (remote : JiraRemote) : Prop :=
  RequestHolds remote (operation.fieldRequest env)

instance (operation : JiraSyncOperation) (remote : JiraRemote) :
    Decidable (operation.Holds env remote) :=
  inferInstanceAs (Decidable (RequestHolds remote (operation.fieldRequest env)))

/-- Two operations do not ask for different values of one field of an issue. -/
def Compatible (a b : JiraSyncOperation) : Prop :=
  match a.fieldRequest env, b.fieldRequest env with
  | .ok (some (aKey, aFields)), .ok (some (bKey, bFields)) =>
    aKey = bKey → ∀ field ∈ aFields, ∀ other ∈ bFields, other.Agrees field
  | _, _ => True

/-- What an operation that has returned has done to the remote. -/
def Did (before after : JiraRemote) : Prop :=
  match operation.fieldRequest env with
  | .error _ => False
  | .ok none => Kept before after
  | .ok (some (remoteKey, fields)) => Wrote remoteKey fields before after

end

end JiraSyncOperation

variable {env : JiraEnv}

/-- An operation that has been done holds. -/
theorem JiraSyncOperation.Did.holds {operation : JiraSyncOperation}
    (h : operation.Did env before after) : operation.Holds env after := by
  rw [JiraSyncOperation.Did] at h
  rw [JiraSyncOperation.Holds]
  generalize operation.fieldRequest env = request at h ⊢
  rcases request with error | _ | ⟨remoteKey, fields⟩
  · exact h
  · trivial
  · obtain ⟨issue, hiss, hflds⟩ := h.holds
    rw [RequestHolds, hiss]
    exact hflds

/-- An operation that holds still does after one that is compatible with it. -/
theorem JiraSyncOperation.Holds.of_did {operation other : JiraSyncOperation}
    (h : operation.Holds env before) (hcomp : operation.Compatible env other)
    (hdid : other.Did env before after) : operation.Holds env after := by
  rw [JiraSyncOperation.Holds] at h ⊢
  rw [JiraSyncOperation.Compatible] at hcomp
  rw [JiraSyncOperation.Did] at hdid
  generalize operation.fieldRequest env = request at h hcomp ⊢
  generalize other.fieldRequest env = otherRequest at hcomp hdid
  rcases request with error | _ | ⟨remoteKey, fields⟩
  · exact h
  · trivial
  · rw [RequestHolds] at h ⊢
    cases hfind : before.find? remoteKey with
    | none =>
      rw [hfind] at h
      exact h.elim
    | some issue =>
      rw [hfind] at h
      rcases otherRequest with error | _ | ⟨otherKey, otherFields⟩
      · exact hdid.elim
      · obtain ⟨issue', hiss', hflds⟩ := hdid remoteKey issue hfind
        rw [hiss']
        exact fun field hfld => hflds field (h field hfld)
      · obtain ⟨issue', hiss', hflds⟩ := hdid.kept remoteKey issue hfind
        rw [hiss']
        exact fun field hfld => hflds field (h field hfld) fun hkey =>
          hcomp hkey field hfld

/-! ### What an operation does -/

section

variable {operation : JiraSyncOperation} {created : CreatedKeys} {world world' : JiraWorld}

variable {operationId authorizationId : String} {progress progress' : ApplyProgress}
  {intent : ActionIntent}

/-- What changes no remote keeps it. -/
theorem remote_of_keeps {α : Type} {x : Steward α} {a : α}
    (h : ∀ remote, Steward.Keeps (fun world => world.remote = remote) x)
    (hrun : x.run world = (.ok (.ok a), world')) : world'.remote = world.remote := by
  have hkept := h world.remote world rfl
  rw [hrun] at hkept
  exact hkept

theorem storeCall_remote {α : Type} {block : Txn JiraSyncStore α} (remote : JiraRemote) :
    Session.Keeps (fun world => world.remote = remote) (storeCall block) :=
  storeCall_keeps (fun _ h => h) fun _ _ _ h _ => h

theorem getIssue_remote (remoteKey : String) (remote : JiraRemote) :
    Steward.Keeps (fun world => world.remote = remote) (getIssue remoteKey) :=
  getIssue_keeps remoteKey fun _ h => h

theorem updateRequest_agrees (h : operation.updateRequest env = .ok (remoteKey, fields)) :
    ∀ field ∈ fields, ∀ other ∈ fields, other.Agrees field := by
  obtain ⟨key, -, h⟩ := bind_eq_ok.mp h
  obtain ⟨given, -, h⟩ := bind_eq_ok.mp h
  obtain ⟨requested, hrequested, h⟩ := bind_eq_ok.mp h
  obtain ⟨-, rfl⟩ := ok_pair_inj h
  obtain ⟨labels, -, hrequested⟩ := bind_eq_ok.mp hrequested
  cases hrequested
  exact agrees_of_mem_givenFields

/-- An operation that returns has done what it asks for. -/
theorem applyOperation_did {answer : Option RemoteJiraIssue}
    (h : (applyOperation env operation created).run world = (.ok (.ok answer), world')) :
    operation.Did env world.remote world'.remote := by
  rw [applyOperation] at h
  rw [JiraSyncOperation.Did, JiraSyncOperation.fieldRequest]
  cases htype : operation.operationType with
  | createRemoteIssue =>
    simp only [htype] at h ⊢
    obtain ⟨fields, world₁, hflds, h⟩ := Steward.bind_eq_ok h
    obtain ⟨projectKey, -, h⟩ := Steward.ofExcept_bind_eq_ok h
    obtain ⟨issue, world₂, hcr, h⟩ := Steward.bind_eq_ok h
    obtain ⟨-, rfl⟩ := mk.inj h
    have hrem := remote_of_keeps
      (fun remote => creationFields_keeps fun _ => storeCall_remote remote) hflds
    rw [← hrem]
    exact fun _ found hfd => ⟨found,
      Table.find?_insert_of_some (createIssue_eq_ok hcr) hfd, fun _ hfld => hfld⟩
  | updateRemoteFields =>
    simp only [htype] at h ⊢
    obtain ⟨⟨remoteKey, fields⟩, hreq, h⟩ := Steward.ofExcept_bind_eq_ok h
    obtain ⟨issue, world₁, hup, h⟩ := Steward.bind_eq_ok h
    obtain ⟨-, rfl⟩ := mk.inj h
    rw [hreq]
    exact wrote_of_changeIssue (updateRequest_agrees hreq) (adapterWrite_eq_ok hup)
  | transitionRemoteIssue =>
    simp only [htype] at h ⊢
    obtain ⟨⟨remoteKey, status⟩, hreq, h⟩ := Steward.ofExcept_bind_eq_ok h
    obtain ⟨issue, world₁, htransition, h⟩ := Steward.bind_eq_ok h
    obtain ⟨-, rfl⟩ := mk.inj h
    rw [hreq]
    refine wrote_of_changeIssue (fun field hfld other hoth => ?_) (adapterWrite_eq_ok htransition)
    rw [mem_singleton.mp hfld, mem_singleton.mp hoth]
    exact agrees_self _
  | addRemoteComment =>
    simp only [htype] at h ⊢
    obtain ⟨remoteKey, -, h⟩ := Steward.ofExcept_bind_eq_ok h
    obtain ⟨body, -, h⟩ := Steward.ofExcept_bind_eq_ok h
    obtain ⟨⟨⟩, world₁, hcmt, hget⟩ := Steward.bind_eq_ok h
    obtain ⟨issue, world₂, hwr, hend⟩ := Steward.bind_eq_ok hcmt
    obtain ⟨-, rfl⟩ := mk.inj hend
    rw [remote_of_keeps (getIssue_remote remoteKey) hget]
    refine kept_of_changeIssue (adapterWrite_eq_ok hwr) (fun _ => rfl) fun _ field hfld => ?_
    cases field <;> exact hfld
  | createRemoteLink =>
    simp only [htype] at h ⊢
    obtain ⟨outwardKey, world₁, houtward, h⟩ := Steward.bind_eq_ok h
    obtain ⟨inwardKey, world₂, hinward, h⟩ := Steward.bind_eq_ok h
    rw [← remote_of_keeps (fun remote => linkEnd_keeps fun _ => storeCall_remote remote) houtward,
      ← remote_of_keeps (fun remote => linkEnd_keeps fun _ => storeCall_remote remote) hinward]
    split at h
    · obtain ⟨linkType, -, h⟩ := Steward.ofExcept_bind_eq_ok h
      obtain ⟨⟨⟩, world₃, hlink, h⟩ := Steward.bind_eq_ok h
      obtain ⟨-, rfl⟩ := mk.inj h
      exact kept_of_linkIssues (adapterWrite_eq_ok hlink)
    · cases (Steward.ofExcept_eq_ok h).1
  | recordRemoteMapping =>
    simp only [htype] at h ⊢
    obtain ⟨localId, -, h⟩ := Steward.ofExcept_bind_eq_ok h
    obtain ⟨remoteKey, -, h⟩ := Steward.ofExcept_bind_eq_ok h
    obtain ⟨⟨⟩, world₁, hmap, hget⟩ := Steward.bind_eq_ok h
    rw [remote_of_keeps (getIssue_remote remoteKey) hget,
      (storeCall_eq_ok (Steward.lift_eq_ok hmap)).2]
    exact Kept.refl _
  | noOperation =>
    simp only [htype] at h ⊢
    obtain ⟨-, rfl⟩ := mk.inj h
    exact Kept.refl _
  | importRemoteIssue | acceptRemoteFields =>
    simp only [htype] at h
    cases (Steward.ofExcept_eq_ok h).1

/-- An operation of a plan leaves the states of operations to the loop. -/
theorem applyOperation_operations
    (rows : Table String JiraOperationRow JiraOperationRow.operationId) :
    Steward.Keeps (fun world => world.store.operations = rows)
      (applyOperation env operation created) := by
  refine applyOperation_keeps (fun localId => ?_) (fun localId remoteKey => ?_)
    (fun remoteKey => ?_) fun hgrow => ?_
  · refine storeCall_keeps (fun _ h => h) fun world a store h hblk => ?_
    obtain ⟨-, rfl⟩ := ok_pair_inj hblk
    exact h
  · refine storeCall_keeps (fun _ h => h) fun world a store h hblk => ?_
    rw [putRemoteMapping_eq_ok hblk]
    exact h
  · exact getIssue_keeps remoteKey fun _ h => h
  · exact adapterWrite_keeps hgrow fun _ _ _ h _ => h

/-- An operation that is performed has been done, is stored as applied, and leaves the states of
the others. -/
theorem performOperation_eq_ok {created' : CreatedKeys}
    (h : (performOperation env operation created).run world = (.ok (.ok created'), world')) :
    operation.Did env world.remote world'.remote ∧
      (∀ other, other ≠ operation.operationId →
        world'.store.operations.find? other = world.store.operations.find? other) := by
  obtain ⟨answer, world₁, happly, h⟩ := Steward.bind_eq_ok h
  obtain ⟨⟨⟩, world₂, hst, h⟩ := Steward.bind_eq_ok h
  obtain ⟨hst, hrem⟩ := storeCall_eq_ok (Steward.lift_eq_ok hst)
  have hdid := applyOperation_did happly
  have hrows : world₁.store.operations = world.store.operations :=
    (applyOperation_operations world.store.operations).of_run happly rfl
  have hoths (other : String) (hoth : other ≠ operation.operationId) :
      world₂.store.operations.find? other = world.store.operations.find? other := by
    rw [setOperationState_eq_ok hst hoth]
    rw [hrows]
  rw [← hrem] at hdid
  -- the mapping changes neither the remote nor the operations
  cases answer with
  | none =>
    obtain ⟨-, rfl⟩ := mk.inj h
    exact ⟨hdid, hoths⟩
  | some =>
    dsimp only at h
    split at h
    · obtain ⟨⟨⟩, world₃, hmap, h⟩ := Steward.bind_eq_ok h
      obtain ⟨-, rfl⟩ := mk.inj h
      obtain ⟨hmap, hrem₃⟩ := storeCall_eq_ok (Steward.lift_eq_ok hmap)
      rw [hrem₃, putRemoteMapping_eq_ok hmap]
      exact ⟨hdid, hoths⟩
    · obtain ⟨-, rfl⟩ := mk.inj h
      exact ⟨hdid, hoths⟩

/-! ### Applying a plan -/

/-- The operation is skipped: it is stored as applied or reconciled. -/
def JiraSyncStore.Skips (store : JiraSyncStore) (operationId : String) : Prop :=
  (store.operations.find? operationId).map JiraOperationRow.state = some .applied ∨
    (store.operations.find? operationId).map JiraOperationRow.state = some .reconciled

theorem operationState_eq_ok {current : Option JiraOperationState}
    (h : storeCall (operationState operationId) world = (.ok current, world')) :
    current = (world.store.operations.find? operationId).map JiraOperationRow.state ∧
      world'.store = world.store ∧ world'.remote = world.remote := by
  obtain ⟨hblk, hrem⟩ := storeCall_eq_ok h
  obtain ⟨hcur, hsto⟩ := ok_pair_inj hblk
  exact ⟨hcur.symm, hsto.symm, hrem⟩

/-- A progress with a failure, or with an unknown outcome, is not one without. -/
theorem ne_of_missed {missed : ApplyProgress → List String} {ended : ApplyProgress}
    (h : missed progress' = []) (hended : missed ended ≠ []) :
    (pure ended : Session JiraWorld _) world ≠ (.ok progress', world') := by
  intro hend
  obtain rfl := Except.ok.inj (mk.inj hend).1
  exact hended h

variable {operations : List JiraSyncOperation}

/-- One round of the loop of an application that comes to its end without a failure: the operation
is skipped, or it is performed. -/
theorem applyOperations_cons {first : JiraSyncOperation}
    (h : applyOperations env intent authorizationId (first :: operations) progress world =
      (.ok progress', world')) (hfailed : progress'.failed = []) (hunk : progress'.unknown = []) :
    ∃ world₁ progress₁,
      applyOperations env intent authorizationId operations progress₁ world₁ =
        (.ok progress', world') ∧
      (∀ other, other ≠ first.operationId →
        world₁.store.operations.find? other = world.store.operations.find? other) ∧
      (world.store.Skips first.operationId ∧ world₁.remote = world.remote ∨
        first.Did env world.remote world₁.remote) := by
  obtain ⟨current, world₁, hcur, h⟩ := Session.bind_eq_ok h
  obtain ⟨hcur, hsto₁, hrem₁⟩ := operationState_eq_ok hcur
  split at h
  · rename_i hsk
    refine ⟨world₁, _, h, fun other _ => by rw [hsto₁], .inl ⟨?_, hrem₁⟩⟩
    rw [JiraSyncStore.Skips, ← hcur]
    exact hsk
  split at h
  · exact absurd h (ne_of_missed hunk (by simp))
  split at h
  · obtain ⟨⟨⟩, world₂, -, h⟩ := Session.bind_eq_ok h
    exact absurd h (ne_of_missed hfailed (by simp))
  obtain ⟨⟨⟩, world₂, hpend, h⟩ := Session.bind_eq_ok h
  obtain ⟨⟨⟩, world₃, hcontext, h⟩ := Session.bind_eq_ok h
  obtain ⟨-, rfl⟩ := Prod.mk.inj hcontext
  obtain ⟨outcome, world₄, hatt, h⟩ := Session.bind_eq_ok h
  obtain ⟨hout, hwd₄⟩ := Prod.mk.inj hatt
  obtain hout := Except.ok.inj hout
  rcases outcome with error | error | created
  · obtain ⟨⟨⟩, world₅, -, h⟩ := Session.bind_eq_ok h
    exact absurd h (ne_of_missed hfailed (by simp))
  · dsimp only at h
    split at h
    · obtain ⟨⟨⟩, world₅, -, h⟩ := Session.bind_eq_ok h
      exact absurd h (ne_of_missed hunk (by simp))
    · obtain ⟨⟨⟩, world₅, -, h⟩ := Session.bind_eq_ok h
      exact absurd h (ne_of_missed hfailed (by simp))
  · obtain ⟨hpend, hrem₂⟩ := storeCall_eq_ok hpend
    obtain ⟨hdid, hoths⟩ := performOperation_eq_ok (Prod.ext hout hwd₄)
    rw [hrem₂, hrem₁] at hdid
    refine ⟨world₄, _, h, fun other hoth => ?_, .inr hdid⟩
    rw [hoths other hoth, setOperationState_eq_ok hpend hoth, hsto₁]

/-- An application that comes to its end without a failure has skipped or performed every operation
of its plan. Hence the operations hold that it has performed; those it has skipped hold if they have
held before. -/
theorem applyOperations_holds
    (h : applyOperations env intent authorizationId operations progress world =
      (.ok progress', world')) (hfailed : progress'.failed = []) (hunk : progress'.unknown = [])
    (hnd : (operations.map JiraSyncOperation.operationId).Nodup) :
    (∀ operation : JiraSyncOperation, (∀ other ∈ operations, operation.Compatible env other) →
      operation.Holds env world.remote → operation.Holds env world'.remote) ∧
    ((∀ operation ∈ operations, ∀ other ∈ operations, operation.Compatible env other) →
      (∀ operation ∈ operations, world.store.Skips operation.operationId →
        operation.Holds env world.remote) →
      ∀ operation ∈ operations, operation.Holds env world'.remote) := by
  induction operations generalizing progress world with
  | nil =>
    obtain ⟨-, rfl⟩ := mk.inj h
    exact ⟨fun _ _ hholds => hholds, fun _ _ _ hmem => absurd hmem not_mem_nil⟩
  | cons first operations ih =>
    obtain ⟨hfr, hnd⟩ := nodup_cons.mp hnd
    obtain ⟨world₁, progress₁, hrest, hoths, hfst⟩ :=
      applyOperations_cons h hfailed hunk
    obtain ⟨hkept, hall⟩ := ih hrest hnd
    have hstep {operation : JiraSyncOperation} (hcomp : operation.Compatible env first)
        (hholds : operation.Holds env world.remote) : operation.Holds env world₁.remote := by
      obtain ⟨-, hrem⟩ | hdid := hfst
      · rw [hrem]
        exact hholds
      · exact hholds.of_did hcomp hdid
    have hsk {operation : JiraSyncOperation} (hmem : operation ∈ operations)
        (hsk : world₁.store.Skips operation.operationId) :
        world.store.Skips operation.operationId := by
      have hne : operation.operationId ≠ first.operationId :=
        fun hid => hfr (hid ▸ mem_map_of_mem hmem)
      rw [JiraSyncStore.Skips, hoths _ hne] at hsk
      exact hsk
    refine ⟨fun operation hcomp hholds => ?_, fun hcomp hheld => ?_⟩
    · obtain ⟨hcomp, hrest⟩ := forall_mem_cons.mp hcomp
      exact hkept operation hrest (hstep hcomp hholds)
    · have hcompatibleRest (a : JiraSyncOperation) (ha : a ∈ first :: operations) :
          ∀ b ∈ operations, a.Compatible env b :=
        fun b hb => hcomp a ha b (mem_cons_of_mem _ hb)
      have hheldRest (a : JiraSyncOperation) (ha : a ∈ operations)
          (hskip : world₁.store.Skips a.operationId) : a.Holds env world₁.remote :=
        hstep (hcomp a (mem_cons_of_mem _ ha) first mem_cons_self)
          (hheld a (mem_cons_of_mem _ ha) (hsk ha hskip))
      have hrestHolds := hall (fun a ha => hcompatibleRest a (mem_cons_of_mem _ ha)) hheldRest
      refine forall_mem_cons.mpr ⟨hkept first (hcompatibleRest first mem_cons_self) ?_, hrestHolds⟩
      obtain ⟨hskip, hrem⟩ | hdid := hfst
      · rw [hrem]
        exact hheld first mem_cons_self hskip
      · exact hdid.holds

/-- What an application that returns has been through. -/
theorem stewardApply_eq_ok {plan : JiraReconciliationPlan} {receipt : JiraSyncReceipt}
    (h : stewardApply env plan intent authorizationId world = (.ok receipt, world')) :
    ∃ world₁ world₂ progress, storeCall (putPlan plan) world = (.ok (), world₁) ∧
      applyOperations env intent authorizationId plan.operations {} world₁ =
        (.ok progress, world₂) ∧
      receipt.result = progress.result ∧ world'.remote = world₂.remote := by
  obtain ⟨⟨⟩, world₀, hint, h⟩ := Session.bind_eq_ok h
  obtain ⟨-, rfl⟩ := mk.inj hint
  obtain ⟨⟨⟩, world₁, hplan, h⟩ := Session.bind_eq_ok h
  obtain ⟨progress, world₂, hloop, h⟩ := Session.bind_eq_ok h
  obtain ⟨snapshotAfter, world₃, hclosing, h⟩ := Session.bind_eq_ok h
  obtain ⟨conflict, world₄, hconflict, h⟩ := Session.bind_eq_ok h
  obtain ⟨-, rfl⟩ := mk.inj hconflict
  obtain ⟨made, world₅, hsession, h⟩ := Session.bind_eq_ok h
  obtain ⟨hmade, rfl⟩ := mk.inj hsession
  obtain ⟨⟨⟩, world₆, hput, h⟩ := Session.bind_eq_ok h
  obtain ⟨hreceipt, rfl⟩ := mk.inj h
  cases hreceipt
  have hrem : (closingSnapshot env plan progress world₂).2.remote = world₂.remote :=
    closingSnapshot_keeps (fun _ h => h) (fun _ => storeCall_remote world₂.remote)
      (fun _ _ => storeCall_remote world₂.remote) world₂ rfl
  rw [hclosing] at hrem
  refine ⟨world₁, world₂, progress, hplan, hloop, ?_, ?_⟩
  · obtain ⟨receiptId, -, hmade⟩ := bind_eq_ok.mp hmade
    obtain ⟨⟨⟩, -, hmade⟩ := bind_eq_ok.mp hmade
    cases hmade
    rfl
  · rw [(storeCall_eq_ok hput).2]
    exact hrem

end

/-! ### Histories -/

namespace JiraCall

section

variable (env : JiraEnv) (world : JiraWorld) (call : JiraCall)

/-- The condition on an application: what is stored as applied holds in the remote, and no two
operations ask for different values of one field. -/
def Current : Prop :=
  match call.request with
  | .apply plan _ _ =>
    (∀ operation ∈ plan.operations,
      world.store.stateOf operation = .applied ∨ world.store.stateOf operation = .reconciled →
        operation.Holds env world.remote) ∧
    ∀ operation ∈ plan.operations, ∀ other ∈ plan.operations, operation.Compatible env other
  | _ => True

/-- A receipt `APPLIED` is true of the remote that the call leaves. -/
def ReceiptTrue : Prop :=
  match call.request with
  | .apply plan intent authorizationId =>
    ∀ receipt,
      (stewardApply env plan intent authorizationId (call.enter world)).1 = .ok receipt →
      receipt.result = .applied →
      ∀ operation ∈ plan.operations, operation.Holds env (call.exec env world).remote
  | _ => True

end

end JiraCall

/-- The step: an application under the condition. -/
theorem JiraCall.Current.receiptTrue {world : JiraWorld} {call : JiraCall}
    (h : call.Current env world) : call.ReceiptTrue env world := by
  obtain ⟨request, now, storeFaults, replies⟩ := call
  cases request with
  | apply plan =>
    obtain ⟨hheld, hcomp⟩ := h
    intro receipt hreceipt hres
    obtain ⟨world₁, world₂, progress, hplan, hloop, hprogress, hrem⟩ :=
      stewardApply_eq_ok (Prod.ext hreceipt rfl)
    obtain ⟨hstd, hrem₁⟩ := storeCall_eq_ok hplan
    rw [hprogress, ApplyProgress.result] at hres
    have hunk : progress.unknown = [] := by
      by_contra hne
      rw [if_pos hne] at hres
      cases hres
    have hfailed : progress.failed = [] := by
      by_contra hne
      rw [if_neg (not_not.mpr hunk)] at hres
      split at hres
      · cases hres
      · cases hres
    obtain ⟨-, hall⟩ := applyOperations_holds hloop hfailed hunk plan.operations_nodup
    have hholds := hall hcomp fun operation hmem hsk => ?_
    · intro operation hmem
      have hop := hholds operation hmem
      rw [← hrem] at hop
      exact hop
    · rw [hrem₁]
      refine hheld operation hmem ?_
      rw [JiraSyncStore.Skips, stateOf_putPlan hstd operation hmem] at hsk
      exact hsk.imp Option.some.inj Option.some.inj
  | plan | dryRun | editRemote | editMirror => trivial

/-- **Receipts `APPLIED` are true**, in every history whose applications meet the condition. -/
theorem applied_receipt_true (env : JiraEnv) (world : JiraWorld) (calls : List JiraCall)
    (h : Along (JiraCall.Current env) (JiraCall.exec env) world calls) :
    Along (JiraCall.ReceiptTrue env) (JiraCall.exec env) world calls :=
  h.imp fun _ _ hcur => hcur.receiptTrue

/-! ### An operation that is undone -/

def guideIssue (status : String) (version : ℕ) : RemoteJiraIssue where
  remoteId := "1"
  remoteKey := "PP-1"
  issueTypeName := "Task"
  summary := "Guide"
  statusName := status
  version := some version

/-- The transition that the planner asks for when the issue is done and its status is `To Do`. -/
def markDone : JiraSyncOperation where
  operationId := "JOP-B8D8A0D9E08EC0A2CC9F"
  operationType := .transitionRemoteIssue
  localId := some "PP-TASK-000001"
  remoteKey := some "PP-1"
  idempotencyKey := "jira:jop-b8d8a0d9e08ec0a2cc9f"
  expectedRemoteVersion := some 1
  requestFingerprint := JiraEnv.plain.digestPayload (.obj
    [("remote_key", .str "PP-1"), ("from_status", .str "To Do"),
      ("target_status", .str "Done"), ("target_internal_state", .str "DONE")])
  payload :=
    [("remote_key", .str "PP-1"), ("from_status", .str "To Do"),
      ("target_status", .str "Done"), ("target_internal_state", .str "DONE")]
  requiresRemoteWrite := true

def planOfOne (operation : JiraSyncOperation) (remoteSnapshotId : String) :
    JiraReconciliationPlan where
  planId := "JPLAN-00000000000000000001"
  projectKey := "PP"
  authorityMode := .sourceControlledLocal
  localFingerprint := "local"
  remoteSnapshotId
  remoteFingerprint := "remote"
  operations := [operation]
  conflicts := []
  operations_nodup := List.nodup_singleton _
  conflicts_nodup := List.nodup_nil

def approvedIntent : ActionIntent where
  actorId := "actor"
  authority := "jira.steward"
  target := "PP"
  operation := "jira.sync"
  approvalState := .approved
  correlationId := "corr"

def emptyMirror : JiraMirror := ⟨⟨"PP", [], "local", List.nodup_nil⟩, []⟩

def remoteWith (issue : RemoteJiraIssue) : JiraRemote := ⟨[issue], List.nodup_singleton _⟩

def unreachable : AdapterReply := .refused (.adapter ⟨false⟩)

/-- An application of the transition, at whose end no snapshot can be taken. -/
def applyMarkDone (replies : List AdapterReply) : JiraCall :=
  { request := .apply (planOfOne markDone "JSNAP-E9B2E09A398684953C69") approvedIntent "auth"
    replies }

def guideWorld : JiraWorld := { mirror := emptyMirror, remote := remoteWith (guideIssue "To Do" 1) }

/-- The issue is marked as done, and somebody opens it again. -/
def reopenedCalls : List JiraCall :=
  [{ request := .plan {} "PP" }, applyMarkDone [.done, unreachable],
    { request := .editRemote (remoteWith (guideIssue "To Do" 3)) }]

/-- When the plan is applied again, it counts the transition as applied, and the issue is open. -/
theorem applied_receipt_stale :
    ¬ Along (JiraCall.ReceiptTrue .plain) (JiraCall.exec .plain) guideWorld
      (reopenedCalls ++ [applyMarkDone [unreachable]]) := by
  intro h
  obtain ⟨-, htrue, -⟩ := h.of_append
  have hfa :
      let world := (applyMarkDone [unreachable]).enter
        (runCalls (JiraCall.exec .plain) guideWorld reopenedCalls)
      let answer := stewardApply .plain (planOfOne markDone "JSNAP-E9B2E09A398684953C69")
        approvedIntent "auth" world
      (answer.1.toOption.any fun receipt => receipt.result = .applied) ∧
        ¬ markDone.Holds .plain answer.2.remote := by
    decide +kernel
  generalize runCalls (JiraCall.exec .plain) guideWorld reopenedCalls = world at hfa htrue
  obtain ⟨hres, hholds⟩ := hfa
  obtain ⟨receipt, hreceipt, hres⟩ := (Option.any_eq_true _ _).mp hres
  have hret := toOption_eq_some.mp hreceipt
  exact hholds (htrue receipt hret (of_decide_eq_true hres) markDone mem_cons_self)

def snapshotWorld : JiraWorld :=
  { guideWorld with
    store := { snapshots :=
      ⟨[⟨"JSNAP-E9B2E09A398684953C69", "PP", [], "remote", List.nodup_nil⟩],
        List.nodup_singleton _⟩ } }

/-- An application of a plan that is new: its receipt says `APPLIED`, and the issue is done. -/
theorem applied_receipt_fresh :
    ∃ receipt, (stewardApply .plain (planOfOne markDone "JSNAP-E9B2E09A398684953C69")
        approvedIntent "auth" ((applyMarkDone [.done, unreachable]).enter snapshotWorld)).1 =
          .ok receipt ∧
      receipt.result = .applied ∧
      markDone.Holds .plain
        ((applyMarkDone [.done, unreachable]).exec .plain snapshotWorld).remote := by
  have hcur : Along (JiraCall.Current .plain) (JiraCall.exec .plain) snapshotWorld
      [applyMarkDone [.done, unreachable]] := by
    refine ⟨⟨fun operation hmem hst => ?_, fun operation hmem other hoth => ?_⟩, trivial⟩
    · obtain rfl := mem_singleton.mp hmem
      have hplanned : snapshotWorld.store.stateOf markDone = .planned := rfl
      exact absurd hst (by decide)
    · obtain rfl := mem_singleton.mp hmem
      obtain rfl := mem_singleton.mp hoth
      intro _ field hfld other hoth
      obtain rfl := mem_singleton.mp hfld
      obtain rfl := mem_singleton.mp hoth
      exact agrees_self _
  obtain ⟨htrue, -⟩ := applied_receipt_true .plain snapshotWorld _ hcur
  refine exists_ok (P := fun receipt => receipt.result = .applied) (by decide +kernel)
    fun receipt hret happ => ⟨happ, ?_⟩
  exact htrue receipt hret happ markDone mem_cons_self

end ProjectPipeline
