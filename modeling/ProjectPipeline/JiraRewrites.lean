import ProjectPipeline.JiraReceipts

/-!
# Repeated Jira Writes

An operation whose call of the adapter has returned should not be sent again. The steward marks it
as applied and then writes its mapping, in one `try` block: when the mapping is refused, the handler
marks the operation as failed, and the next application sends it once more.

The states of the operations carry the argument. While no call of the store raises and the mapping
takes every pair, a call that has returned leaves its operation marked as applied (`Settled`), and
an operation that is marked is never sent. Which pairs the mapping takes is said by a chart: a list
of pairs of identifiers, one to one, that covers the mapping and the operations to come.

## Main results

* `performOperation_settles`: what an operation writes, and the state that it leaves.
* `writes_not_repeated`: in every run whose applications are undisturbed no write is repeated.
* `write_repeated`: a write that is repeated since its mapping is refused.
-/

namespace ProjectPipeline

open JiraSyncStore List Steward JiraSyncOperation

variable {env : JiraEnv}

/-! ### Charts -/

namespace JiraSyncOperation

section

variable (env : JiraEnv) (operation : JiraSyncOperation)

/-- The local identifier that an operation maps. -/
def subject : Except PyError String :=
  if truthy operation.localId then .ok (operation.localId.getD "")
  else operation.payload.getItemText env.text "local_id"

/-- The pair of identifiers that an operation on a known issue maps. -/
def knownPair : Option (String × String) :=
  match operation.operationType with
  | .updateRemoteFields | .transitionRemoteIssue | .recordRemoteMapping => do
      let localId ← (operation.subject env).toOption
      let remoteKey ← (operation.targetKey env).toOption
      return (localId, remoteKey)
  | _ => none

end

/-- The local identifier that a creation maps. -/
def createdId (operation : JiraSyncOperation) : Option String :=
  if operation.operationType = .createRemoteIssue ∧ truthy operation.localId then
    operation.localId
  else none

end JiraSyncOperation

/-- Pairs of identifiers that are one to one, cover the mapping, and name issues that are there. -/
structure Chart (pairs : List (String × String)) (world : JiraWorld) : Prop where
  consistent : ∀ p ∈ pairs, ∀ q ∈ pairs, p.1 = q.1 ↔ p.2 = q.2
  mapped : ∀ row ∈ world.store.mappings.rows, (row.localId, row.remoteKey) ∈ pairs
  present : ∀ p ∈ pairs, (world.remote.find? p.2).isSome

variable {localId remoteKey operationId : String} {state : JiraOperationState}
  {pairs : List (String × String)} {world world' : JiraWorld}

section

variable (h : Chart pairs world)
include h

/-- The mapping takes the pairs of its chart. -/
theorem Chart.takes (hpair : (localId, remoteKey) ∈ pairs) : world.store.Takes localId remoteKey :=
  fun row hrow => h.consistent _ (h.mapped row hrow) _ hpair

theorem Chart.put (hpair : (localId, remoteKey) ∈ pairs) :
    Chart pairs { world with store := world.store.mapped localId remoteKey } := by
  refine ⟨h.consistent, fun row hrow => ?_, h.present⟩
  obtain hrow | rfl := mem_mapped hrow
  · exact h.mapped row hrow
  · exact hpair

/-- Another pair, of identifiers that the chart does not name. -/
theorem Chart.cons (hloc : ∀ p ∈ pairs, p.1 ≠ localId) (hrem : ∀ p ∈ pairs, p.2 ≠ remoteKey)
    (hpresent : (world.remote.find? remoteKey).isSome) :
    Chart ((localId, remoteKey) :: pairs) world := by
  refine ⟨fun p hp q hq => ?_, fun row hrow => mem_cons_of_mem _ (h.mapped row hrow), ?_⟩
  · obtain rfl | hp := mem_cons.mp hp
    · obtain rfl | hq := mem_cons.mp hq
      · exact ⟨fun _ => rfl, fun _ => rfl⟩
      · exact ⟨fun h => absurd h.symm (hloc q hq), fun h => absurd h.symm (hrem q hq)⟩
    · obtain rfl | hq := mem_cons.mp hq
      · exact ⟨fun h => absurd h (hloc p hp), fun h => absurd h (hrem p hp)⟩
      · exact h.consistent p hp q hq
  · exact forall_mem_cons.mpr ⟨hpresent, h.present⟩

/-- A chart stays while the remote grows. -/
theorem Chart.of_grows (hmappings : world'.store.mappings = world.store.mappings)
    (hgrow : ∀ key, (world.remote.find? key).isSome → (world'.remote.find? key).isSome) :
    Chart pairs world' := by
  refine ⟨h.consistent, ?_, fun p hp => hgrow p.2 (h.present p hp)⟩
  rw [hmappings]
  exact h.mapped

end

theorem chart_writes (pairs : List (String × String)) (operationId : String) :
    WritesKeep (Chart pairs) operationId :=
  fun hgrow => adapterWrite_keeps hgrow fun _ _ _ h hrem => h.of_grows rfl hrem

theorem chart_keyFor (pairs : List (String × String)) (localId : String) :
    Session.Keeps (Chart pairs) (storeCall (remoteKeyFor localId)) := by
  refine storeCall_keeps (fun _ h => ⟨h.consistent, h.mapped, h.present⟩)
    fun world a store h hblk => ?_
  obtain ⟨-, rfl⟩ := ok_pair_inj hblk
  exact h

/-! ### The issue that an operation returns -/

section

variable {operation : JiraSyncOperation} {created : CreatedKeys}

/-- A read returns the issue of the key. -/
theorem getIssue_eq_ok {answer : Option RemoteJiraIssue}
    (h : (getIssue remoteKey).run world = (.ok (.ok answer), world')) :
    ∀ issue, answer = some issue → issue.remoteKey = remoteKey := by
  intro issue hiss
  obtain ⟨result, hrun, hres⟩ := getIssue_cases remoteKey world
  rw [hrun] at h
  obtain ⟨rfl, -⟩ := Prod.mk.inj h
  obtain hfd | ⟨failure, hraise⟩ := hres
  · rw [hiss] at hfd
    exact (Table.find?_eq_some_iff.mp (Except.ok.inj (Except.ok.inj hfd)).symm).2
  · exact absurd hraise.symm failure.raise_ne_ok

variable {issue : RemoteJiraIssue}

/-- An edit returns the issue of the key. -/
theorem changeIssue_remoteKey {edit : RemoteJiraIssue → RemoteJiraIssue}
    (hedit : ∀ issue, (edit issue).remoteKey = issue.remoteKey) {before after : JiraRemote}
    (h : changeIssue remoteKey edit before = .ok (after, issue)) : issue.remoteKey = remoteKey := by
  rw [changeIssue] at h
  cases hfind : before.find? remoteKey with
  | none =>
    simp only [hfind] at h
    cases h
  | some found =>
    simp only [hfind] at h
    obtain ⟨-, rfl⟩ := ok_pair_inj h
    exact (hedit found).trans (Table.find?_eq_some_iff.mp hfind).2

/-- An edit keeps the chart and returns the issue of its key. -/
theorem edit_charted (hch : Chart pairs world) {fields : List RemoteField}
    (h : (adapterWrite operationId fun remote now =>
      changeIssue remoteKey (fun issue => issue.edited fields now) remote).run world =
        (.ok (.ok issue), world')) : Chart pairs world' ∧ issue.remoteKey = remoteKey := by
  have hedit (now : Instant) (issue : RemoteJiraIssue) :
      (issue.edited fields now).remoteKey = issue.remoteKey := issue.remoteKey_edited fields now
  exact ⟨(chart_writes pairs operationId (grows_changeIssue hedit)).of_run h hch,
    changeIssue_remoteKey (hedit _) (adapterWrite_eq_ok h)⟩

theorem knownPair_eq (htype : operation.operationType = .updateRemoteFields ∨
      operation.operationType = .transitionRemoteIssue ∨
      operation.operationType = .recordRemoteMapping) (hloc : operation.subject env = .ok localId)
    (hkey : operation.targetKey env = .ok remoteKey) :
    operation.knownPair env = some (localId, remoteKey) := by
  rw [knownPair, hloc, hkey]
  obtain htype | htype | htype := htype <;> simp only [htype] <;> rfl

/-- There is a chart with one more pair at most, that of a creation. The pair of the issue that the
operation returns is in it. -/
def ChartedAfter (operation : JiraSyncOperation) (pairs : List (String × String))
    (answer : Option RemoteJiraIssue) (world' : JiraWorld) : Prop :=
  ∃ pairs', Chart pairs' world' ∧ pairs ⊆ pairs' ∧
    (∀ p ∈ pairs', p ∈ pairs ∨ operation.createdId = some p.1) ∧
    ∀ issue, answer = some issue → truthy operation.localId →
      (operation.localId.getD "", issue.remoteKey) ∈ pairs'

/-- An operation that returns leaves a chart. -/
theorem applyOperation_charted {answer : Option RemoteJiraIssue} (hch : Chart pairs world)
    (hkn : ∀ pair, operation.knownPair env = some pair → pair ∈ pairs)
    (hfr : ∀ localId, operation.createdId = some localId → ∀ p ∈ pairs, p.1 ≠ localId)
    (hcmt : operation.operationType ≠ .addRemoteComment)
    (h : (applyOperation env operation created).run world = (.ok (.ok answer), world')) :
    ChartedAfter operation pairs answer world' := by
  -- all but the creation keep the chart
  have hkeep (hwd' : Chart pairs world')
      (hans : ∀ issue, answer = some issue → truthy operation.localId →
        (operation.localId.getD "", issue.remoteKey) ∈ pairs) :
      ChartedAfter operation pairs answer world' :=
    ⟨pairs, hwd', fun _ hp => hp, fun _ hp => .inl hp, hans⟩
  have hsubject (hloc : truthy operation.localId) :
      operation.subject env = .ok (operation.localId.getD "") := if_pos hloc
  rw [applyOperation] at h
  cases htype : operation.operationType with
  | createRemoteIssue =>
    simp only [htype] at h
    obtain ⟨fields, world₁, hflds, h⟩ := Steward.bind_eq_ok h
    obtain ⟨projectKey, -, h⟩ := Steward.ofExcept_bind_eq_ok h
    obtain ⟨issue, world₃, hcr, h⟩ := Steward.bind_eq_ok h
    obtain ⟨rfl, rfl⟩ := Steward.pure_eq_ok h
    have hch₁ := (creationFields_keeps (chart_keyFor pairs)).of_run hflds hch
    have hch₃ := (createIssue_keeps (chart_writes pairs _)).of_run hcr hch₁
    have hins := createIssue_eq_ok hcr
    have hnew := (Table.insert_eq_some_iff.mp hins).1
    have hthere : (world₃.remote.find? issue.remoteKey).isSome := by
      rw [Table.find?_insert hins, if_pos rfl]
      rfl
    by_cases hloc : truthy operation.localId
    · have hcreated : operation.createdId = some (operation.localId.getD "") := by
        rw [createdId, if_pos ⟨htype, hloc⟩]
        cases hid : operation.localId with
        | none =>
          rw [hid] at hloc
          cases hloc
        | some => rfl
      refine ⟨(operation.localId.getD "", issue.remoteKey) :: pairs,
        hch₃.cons (hfr _ hcreated) (fun p hp heq => ?_) hthere,
        fun _ hp => mem_cons_of_mem _ hp, fun p hp => ?_, fun found hfd _ => ?_⟩
      · have hpresent := hch₁.present p hp
        rw [heq, hnew] at hpresent
        cases hpresent
      · obtain rfl | hp := mem_cons.mp hp
        · exact .inr hcreated
        · exact .inl hp
      · cases hfd
        exact mem_cons_self
    · exact hkeep hch₃ fun _ _ htrue => absurd htrue hloc
  | updateRemoteFields =>
    simp only [htype] at h
    obtain ⟨⟨remoteKey, fields⟩, hreq, h⟩ := Steward.ofExcept_bind_eq_ok h
    obtain ⟨issue, world₁, hup, h⟩ := Steward.bind_eq_ok h
    obtain ⟨rfl, rfl⟩ := Steward.pure_eq_ok h
    obtain ⟨hch', hiss⟩ := edit_charted hch hup
    refine hkeep hch' fun found hfd hloc => ?_
    cases hfd
    obtain ⟨key, hkey, hreq⟩ := bind_eq_ok.mp hreq
    obtain ⟨given, -, hreq⟩ := bind_eq_ok.mp hreq
    obtain ⟨requested, -, hreq⟩ := bind_eq_ok.mp hreq
    obtain ⟨rfl, -⟩ := ok_pair_inj hreq
    rw [hiss]
    exact hkn _ (knownPair_eq (.inl htype) (hsubject hloc) hkey)
  | transitionRemoteIssue =>
    simp only [htype] at h
    obtain ⟨⟨remoteKey, status⟩, hreq, h⟩ := Steward.ofExcept_bind_eq_ok h
    obtain ⟨issue, world₁, htransition, h⟩ := Steward.bind_eq_ok h
    obtain ⟨rfl, rfl⟩ := Steward.pure_eq_ok h
    obtain ⟨hch', hiss⟩ := edit_charted hch htransition
    refine hkeep hch' fun found hfd hloc => ?_
    cases hfd
    obtain ⟨key, hkey, hreq⟩ := bind_eq_ok.mp hreq
    obtain ⟨target, -, hreq⟩ := bind_eq_ok.mp hreq
    obtain ⟨rfl, -⟩ := ok_pair_inj hreq
    rw [hiss]
    exact hkn _ (knownPair_eq (.inr (.inl htype)) (hsubject hloc) hkey)
  | addRemoteComment => exact absurd htype hcmt
  | createRemoteLink =>
    simp only [htype] at h
    obtain ⟨outwardKey, world₁, houtward, h⟩ := Steward.bind_eq_ok h
    obtain ⟨inwardKey, world₂, hinward, h⟩ := Steward.bind_eq_ok h
    have hch₁ := (linkEnd_keeps (chart_keyFor pairs)).of_run houtward hch
    have hch₂ := (linkEnd_keeps (chart_keyFor pairs)).of_run hinward hch₁
    split at h
    · obtain ⟨linkType, -, h⟩ := Steward.ofExcept_bind_eq_ok h
      obtain ⟨⟨⟩, world₃, hlink, h⟩ := Steward.bind_eq_ok h
      obtain ⟨rfl, rfl⟩ := Steward.pure_eq_ok h
      exact hkeep ((createLink_keeps (chart_writes pairs _)).of_run hlink hch₂) (by rintro _ ⟨⟩)
    · cases (Steward.ofExcept_eq_ok h).1
  | recordRemoteMapping =>
    simp only [htype] at h
    obtain ⟨localId, hlocalId, h⟩ := Steward.ofExcept_bind_eq_ok h
    obtain ⟨remoteKey, hkey, h⟩ := Steward.ofExcept_bind_eq_ok h
    obtain ⟨⟨⟩, world₃, hmap, hget⟩ := Steward.bind_eq_ok h
    obtain ⟨hsto, hrem⟩ := storeCall_eq_ok (Steward.lift_eq_ok hmap)
    have hpair : (localId, remoteKey) ∈ pairs :=
      hkn _ (knownPair_eq (.inr (.inr htype)) hlocalId hkey)
    have hch₃ : Chart pairs world₃ := by
      have hput := hch.put hpair
      refine ⟨hput.consistent, ?_, ?_⟩
      · rw [putRemoteMapping_eq_ok hsto]
        exact hput.mapped
      · rw [hrem]
        exact hput.present
    have hreads : Steward.Keeps (Chart pairs) (getIssue remoteKey) :=
      getIssue_keeps remoteKey fun _ h => ⟨h.consistent, h.mapped, h.present⟩
    refine hkeep (hreads.of_run hget hch₃) fun issue hiss hloc => ?_
    obtain rfl := Except.ok.inj ((hsubject hloc).symm.trans hlocalId)
    rw [getIssue_eq_ok hget issue hiss]
    exact hpair
  | noOperation =>
    simp only [htype] at h
    obtain ⟨rfl, rfl⟩ := Steward.pure_eq_ok h
    exact hkeep hch (by rintro _ ⟨⟩)
  | importRemoteIssue | acceptRemoteFields =>
    simp only [htype] at h
    cases (Steward.ofExcept_eq_ok h).1

/-! ### Performing an operation -/

theorem faults_applyOperation :
    Steward.Keeps (fun world => world.storeFaults = []) (applyOperation env operation created) := by
  have hsto {α : Type} (block : Txn JiraSyncStore α) :
      Session.Keeps (fun world => world.storeFaults = []) (storeCall block) := by
    refine storeCall_keeps (fun world h => ?_) fun _ _ _ h _ => h
    rw [h, tail_nil]
  refine applyOperation_keeps (fun _ => hsto _) (fun _ _ => hsto _) (fun remoteKey => ?_)
    fun hgrow => ?_
  · exact getIssue_keeps remoteKey fun _ h => h
  · exact adapterWrite_keeps hgrow fun _ _ _ h _ => h

def JiraSyncStore.storedState (store : JiraSyncStore) (operationId : String) :
    Option JiraOperationState :=
  (store.operations.find? operationId).map JiraOperationRow.state

/-- What an operation has noted: nothing, or its call. -/
def Noted (operationId : String) (returned : Bool) (before after : JiraWorld) : Prop :=
  after.writes = before.writes ∨ after.writes = before.writes ++ [⟨operationId, returned⟩]

/-- What an operation does to the store and the notes, with a chart of the world that it leaves: it
raises without having written, or it returns and is marked as applied. -/
inductive Performed (operation : JiraSyncOperation) (pairs : List (String × String))
    (before : JiraWorld) : Except PyError (Except JiraAdapterError CreatedKeys) → JiraWorld → Prop
  | raised {result : Except PyError (Except JiraAdapterError CreatedKeys)} {after : JiraWorld}
      (hresult : hasReturned result = false)
      (hnoted : Noted operation.operationId false before after)
      (hstates : after.store.operations = before.store.operations) :
      Performed operation pairs before result after
  | returned {created : CreatedKeys} {after : JiraWorld} {pairs' : List (String × String)}
      (hnoted : Noted operation.operationId true before after)
      (hmarked : after.store.storedState operation.operationId = some .applied)
      (hothers : ∀ other, other ≠ operation.operationId →
        after.store.operations.find? other = before.store.operations.find? other)
      (hchart : Chart pairs' after) (hsub : pairs ⊆ pairs')
      (hnew : ∀ p ∈ pairs', p ∈ pairs ∨ operation.createdId = some p.1) :
      Performed operation pairs before (.ok (.ok created)) after

/-- While no call of the store raises by itself and the mapping takes its pair, an operation raises
without having written, or it returns and is marked as applied. -/
theorem performOperation_settles (hfaults : world.storeFaults = []) (hch : Chart pairs world)
    (hkn : ∀ pair, operation.knownPair env = some pair → pair ∈ pairs)
    (hfr : ∀ localId, operation.createdId = some localId → ∀ p ∈ pairs, p.1 ≠ localId)
    (hcmt : operation.operationType ≠ .addRemoteComment)
    (hstd : (world.store.operations.find? operation.operationId).isSome)
    {result : Except PyError (Except JiraAdapterError CreatedKeys)}
    (hrun : (performOperation env operation created).run world = (result, world')) :
    world'.storeFaults = [] ∧ Performed operation pairs world result world' := by
  have htruthful : Truthful operation.operationId (applyOperation env operation created) world :=
    applyOperation_truthful hcmt world
  rw [Truthful] at htruthful
  rcases happly : (applyOperation env operation created).run world with
    ⟨error | ⟨error | answer⟩, world₁⟩
  all_goals
    have hrows : world₁.store.operations = world.store.operations :=
      (applyOperation_operations world.store.operations).of_run happly rfl
    have hfaults₁ : world₁.storeFaults = [] := faults_applyOperation.of_run happly hfaults
    rw [happly] at htruthful
    rw [performOperation] at hrun
  · rw [bind_of_error happly] at hrun
    obtain ⟨rfl, rfl⟩ := Prod.mk.inj hrun
    exact ⟨hfaults₁, .raised rfl htruthful hrows⟩
  · rw [bind_of_failure happly] at hrun
    obtain ⟨rfl, rfl⟩ := Prod.mk.inj hrun
    exact ⟨hfaults₁, .raised rfl htruthful hrows⟩
  · obtain ⟨pairs', hch', hsub, hpairs', hans⟩ :=
      applyOperation_charted hch hkn hfr hcmt happly
    have hstd₁ : (world₁.store.operations.find? operation.operationId).isSome := by
      rw [hrows]
      exact hstd
    obtain ⟨store₂, hst⟩ := exists_setOperationState hstd₁ .applied
    have happ := lift_of_ok (storeCall_of_ok hfaults₁ hst)
    have hmarked := find?_setOperationState hst
    have hoths (other : String) (hoth : other ≠ operation.operationId) :
        store₂.operations.find? other = world.store.operations.find? other := by
      rw [setOperationState_eq_ok hst hoth, hrows]
    have hch₂ : Chart pairs' { world₁ with store := store₂ } :=
      hch'.of_grows (mappings_setOperationState hst) fun _ h => h
    have hfaults₂ : ({ world₁ with store := store₂ } : JiraWorld).storeFaults = [] := hfaults₁
    rw [bind_of_ok happly, bind_of_ok happ] at hrun
    -- the mapping changes neither the states nor the notes
    cases answer with
    | none =>
      obtain ⟨rfl, rfl⟩ := Prod.mk.inj hrun
      exact ⟨hfaults₂, .returned htruthful hmarked hoths hch₂ hsub hpairs'⟩
    | some issue =>
      dsimp only at hrun
      by_cases hloc : truthy operation.localId
      · have hpair := hans issue rfl hloc
        have hput := lift_of_ok (storeCall_of_ok hfaults₂
          (putRemoteMapping_of_takes (hch₂.takes hpair)))
        rw [if_pos hloc, bind_of_ok hput] at hrun
        obtain ⟨rfl, rfl⟩ := Prod.mk.inj hrun
        exact ⟨hfaults₂, .returned htruthful hmarked hoths (hch₂.put hpair) hsub hpairs'⟩
      · rw [if_neg hloc] at hrun
        obtain ⟨rfl, rfl⟩ := Prod.mk.inj hrun
        exact ⟨hfaults₂, .returned htruthful hmarked hoths hch₂ hsub hpairs'⟩

end

/-! ### Applying a plan -/

/-- The world is settled: an operation whose call has returned is marked as applied, and no call for
it has been made since. -/
structure Settled (world : JiraWorld) : Prop where
  marked : ∀ write ∈ world.writes, write.returned = true →
    world.store.storedState write.operationId = some .applied
  once : world.writes.Pairwise fun earlier later =>
    earlier.returned = true → earlier.operationId ≠ later.operationId

/-- What only adds operations, or writes the state of one that has not been written, settles. -/
theorem Settled.of_states (h : Settled world) (hwrs : world'.writes = world.writes)
    (hsts : ∀ write ∈ world.writes, write.returned = true →
      world.store.storedState write.operationId = some .applied →
      world'.store.storedState write.operationId = some .applied) : Settled world' := by
  refine ⟨?_, ?_⟩
  · rw [hwrs]
    exact fun write hwr hret =>
      hsts write hwr hret (h.marked write hwr hret)
  · rw [hwrs]
    exact h.once

/-- The chart covers the operations that are not skipped. -/
structure Charted (env : JiraEnv) (pairs : List (String × String))
    (operations : List JiraSyncOperation) (world : JiraWorld) : Prop where
  chart : Chart pairs world
  known : ∀ operation ∈ operations, ¬ world.store.Skips operation.operationId →
    ∀ pair, operation.knownPair env = some pair → pair ∈ pairs
  fresh : ∀ operation ∈ operations, ¬ world.store.Skips operation.operationId →
    ∀ localId, operation.createdId = some localId → ∀ p ∈ pairs, p.1 ≠ localId
  distinct : operations.Pairwise fun a b =>
    ∀ localId, a.createdId = some localId → b.createdId ≠ some localId

/-- An operation that is not skipped has not been written: a call for it may be noted, and it may be
marked as applied. -/
theorem Settled.note {returned : Bool} (h : Settled world)
    (hopen : world.store.storedState operationId ≠ some .applied)
    (hnoted : Noted operationId returned world world')
    (hmarked : returned = true → world'.store.storedState operationId = some .applied)
    (hoths : ∀ other, other ≠ operationId →
      world'.store.storedState other = world.store.storedState other) : Settled world' := by
  have hfr {write : JiraWrite} (hwr : write ∈ world.writes) (hret : write.returned = true) :
      write.operationId ≠ operationId := by
    intro hid
    have hwritten := h.marked write hwr hret
    rw [hid] at hwritten
    exact hopen hwritten
  have hsts (write : JiraWrite) (hwr : write ∈ world.writes)
      (hret : write.returned = true) :
      world'.store.storedState write.operationId = some .applied := by
    rw [hoths _ (hfr hwr hret)]
    exact h.marked write hwr hret
  obtain hwrs | hwrs := hnoted
  · exact h.of_states hwrs fun write hwr hret _ => hsts write hwr hret
  · refine ⟨?_, ?_⟩
    · rw [hwrs]
      refine forall_mem_append.mpr ⟨hsts, fun write hwr hret => ?_⟩
      obtain rfl := mem_singleton.mp hwr
      exact hmarked hret
    · rw [hwrs]
      refine pairwise_append.mpr ⟨h.once, pairwise_singleton _ _, ?_⟩
      intro earlier hearlier later hlat hret
      obtain rfl := mem_singleton.mp hlat
      exact hfr hearlier hret

variable {u : Unit}

/-- The state of an operation that is not marked as applied may be written. -/
theorem Settled.setOperationState {store : JiraSyncStore} (h : Settled world)
    (hopen : world.store.storedState operationId ≠ some .applied)
    (hset : setOperationState operationId state world.store = .ok (u, store)) :
    Settled { world with store := store } := by
  have hnoted : Noted operationId false world { world with store := store } := .inl rfl
  refine h.note hopen hnoted (fun hff => nomatch hff) fun other hoth => ?_
  exact congrArg (Option.map JiraOperationRow.state) (setOperationState_eq_ok hset hoth)

/-- The world in which a part of a plan is applied. -/
structure Ready (env : JiraEnv) (pairs : List (String × String))
    (operations : List JiraSyncOperation) (world : JiraWorld) : Prop where
  noFaults : world.storeFaults = []
  settled : Settled world
  charted : Charted env pairs operations world

section

variable {first : JiraSyncOperation} {operations : List JiraSyncOperation}

theorem Charted.tail
    (h : Charted env pairs (first :: operations) world) : Charted env pairs operations world :=
  ⟨h.chart, fun operation hmem => h.known operation (mem_cons_of_mem _ hmem),
    fun operation hmem => h.fresh operation (mem_cons_of_mem _ hmem),
    (pairwise_cons.mp h.distinct).2⟩

/-- The rest of a plan after its first operation is performed. -/
theorem Charted.next {pairs' : List (String × String)} {first : JiraSyncOperation}
    {operations : List JiraSyncOperation} (h : Charted env pairs (first :: operations) world)
    (hfst : first.operationId ∉ operations.map JiraSyncOperation.operationId)
    (hoths : ∀ other, other ≠ first.operationId →
      world'.store.operations.find? other = world.store.operations.find? other)
    (hch : Chart pairs' world') (hsub : pairs ⊆ pairs')
    (hnew : ∀ p ∈ pairs', p ∈ pairs ∨ first.createdId = some p.1) :
    Charted env pairs' operations world' := by
  have hsk {operation : JiraSyncOperation} (hmem : operation ∈ operations) :
      world'.store.Skips operation.operationId ↔ world.store.Skips operation.operationId := by
    have hne : operation.operationId ≠ first.operationId :=
      fun hid => hfst (hid ▸ mem_map_of_mem hmem)
    rw [JiraSyncStore.Skips, JiraSyncStore.Skips, hoths _ hne]
  obtain ⟨hdist, hrest⟩ := pairwise_cons.mp h.distinct
  refine ⟨hch, fun operation hmem hopen pair hpair => ?_,
    fun operation hmem hopen localId hloc p hp => ?_, hrest⟩
  · rw [hsk hmem] at hopen
    exact hsub (h.known operation (mem_cons_of_mem _ hmem) hopen pair hpair)
  · rw [hsk hmem] at hopen
    obtain hp | hcreated := hnew p hp
    · exact h.fresh operation (mem_cons_of_mem _ hmem) hopen localId hloc p hp
    · intro hid
      rw [hid] at hcreated
      exact hdist operation hmem localId hcreated hloc

/-- The state of the first operation is written, and nothing else changes for the others. -/
theorem Charted.setOperationState {store : JiraSyncStore}
    (h : Charted env pairs (first :: operations) world)
    (hfst : first.operationId ∉ operations.map JiraSyncOperation.operationId)
    (hopen : ¬ world.store.Skips first.operationId)
    (hset : setOperationState first.operationId state world.store = .ok (u, store)) :
    Charted env pairs (first :: operations) { world with store := store } := by
  have hch : Chart pairs { world with store := store } :=
    h.chart.of_grows (mappings_setOperationState hset) fun _ hkey => hkey
  have hrest : Charted env pairs operations { world with store := store } :=
    h.next hfst (fun other hoth => setOperationState_eq_ok hset hoth) hch
      (fun _ hp => hp) fun _ hp => .inl hp
  refine ⟨hch, forall_mem_cons.mpr ⟨fun _ => ?_, hrest.known⟩,
    forall_mem_cons.mpr ⟨fun _ => ?_, hrest.fresh⟩, h.distinct⟩
  · exact h.known first mem_cons_self hopen
  · exact h.fresh first mem_cons_self hopen

end

section

variable {intent : ActionIntent} {authorizationId : String} {first : JiraSyncOperation}
  {operations : List JiraSyncOperation} {progress : ApplyProgress}

/-- The handlers of the loop: the operation has not been written, and gets another state. -/
theorem settled_close {P : JiraWorld → Prop}
    (hP : ∀ world, P world → world.storeFaults = [] ∧ Settled world ∧
      world.store.storedState operationId ≠ some .applied) (progress : ApplyProgress) :
    Session.Triple P (do
      storeCall (setOperationState operationId state)
      pure progress) (fun _ => Settled) Settled := by
  refine .bind (S := fun _ => Settled) ?_ fun _ => .pure fun _ h => h
  refine storeCall_triple (fun world h => (hP world h).1) (fun world u store h hset => ?_)
    fun world h => (hP world h).2.1
  obtain ⟨-, hsettled, hopen⟩ := hP world h
  exact hsettled.setOperationState hopen hset

/-- The world in which the first operation of the rest is performed. -/
structure Sending (env : JiraEnv) (pairs : List (String × String)) (first : JiraSyncOperation)
    (operations : List JiraSyncOperation) (world : JiraWorld) : Prop where
  ready : Ready env pairs (first :: operations) world
  pending : world.store.storedState first.operationId = some .pending

/-- The operation is performed: it is done with, or the loop goes on in a world that is ready. -/
theorem Sending.performed (h : Sending env pairs first operations world)
    (hfst : first.operationId ∉ operations.map JiraSyncOperation.operationId)
    (hcmt : first.operationType ≠ .addRemoteComment) {created : CreatedKeys}
    {result : Except PyError (Except JiraAdapterError CreatedKeys)}
    (hrun : (performOperation env first created).run world = (result, world')) :
    (hasReturned result = false → world'.storeFaults = [] ∧ Settled world' ∧
      world'.store.storedState first.operationId ≠ some .applied) ∧
    (hasReturned result = true → ∃ pairs', Ready env pairs' operations world') := by
  obtain ⟨⟨hfaults, hsettled, hcharted⟩, hpend⟩ := h
  have hopen : ¬ world.store.Skips first.operationId := by
    rw [storedState] at hpend
    rw [JiraSyncStore.Skips, hpend]
    decide
  have hunmarked : world.store.storedState first.operationId ≠ some .applied := by
    rw [hpend]
    decide
  have hstd : (world.store.operations.find? first.operationId).isSome := by
    rw [← Option.isSome_map (f := JiraOperationRow.state)]
    exact Option.isSome_of_eq_some hpend
  obtain ⟨hfaults', hperformed⟩ := performOperation_settles hfaults hcharted.chart
    (hcharted.known first mem_cons_self hopen) (hcharted.fresh first mem_cons_self hopen)
    hcmt hstd hrun
  cases hperformed with
  | raised hres hnoted hsts =>
    have hst (other : String) :
        world'.store.storedState other = world.store.storedState other := by
      rw [storedState, hsts]
      rfl
    refine ⟨fun _ => ⟨hfaults', ?_, ?_⟩, fun htrue => ?_⟩
    · exact hsettled.note hunmarked hnoted (by rintro ⟨⟩) fun other _ =>
        hst other
    · rw [hst]
      exact hunmarked
    · rw [hres] at htrue
      cases htrue
  | returned hnoted hmarked hoths hch hsub hnew =>
    have hsettled' : Settled world' :=
      hsettled.note hunmarked hnoted (fun _ => hmarked) fun other hoth =>
        congrArg (Option.map JiraOperationRow.state) (hoths other hoth)
    exact ⟨by rintro ⟨⟩, fun _ =>
      ⟨_, hfaults', hsettled', hcharted.next hfst hoths hch hsub hnew⟩⟩

/-- **The loop of an application** keeps the world settled, however it ends. -/
theorem applyOperations_settled
    (hcmts : ∀ operation ∈ operations, operation.operationType ≠ .addRemoteComment)
    (hnd : (operations.map JiraSyncOperation.operationId).Nodup) :
    Session.Triple (Ready env pairs operations)
      (applyOperations env intent authorizationId operations progress) (fun _ => Settled)
      Settled := by
  induction operations generalizing progress pairs with
  | nil => exact .pure fun _ h => h.settled
  | cons first operations ih =>
    obtain ⟨hcmt, hcmts⟩ := forall_mem_cons.mp hcmts
    obtain ⟨hfst, hnd⟩ := nodup_cons.mp hnd
    refine .bind (S := fun current world => Ready env pairs (first :: operations) world ∧
      current = world.store.storedState first.operationId) ?_ fun current => ?_
    · refine storeCall_triple (fun _ h => h.noFaults) (fun world current store h hblk => ?_)
        fun _ h => h.settled
      obtain ⟨rfl, rfl⟩ := ok_pair_inj hblk
      exact ⟨h, rfl⟩
    refine .ite (fun _ => ?_) fun hopen => ?_
    · intro world h
      exact ih hcmts hnd world ⟨h.1.noFaults, h.1.settled, h.1.charted.tail⟩
    refine .ite (fun _ => .pure fun _ h => h.1.settled) fun _ => ?_
    have hunmarked {world : JiraWorld}
        (h : current = world.store.storedState first.operationId) :
        world.store.storedState first.operationId ≠ some .applied :=
      fun happ => hopen (.inl (h.trans happ))
    refine .ite (fun _ => ?_) fun _ => ?_
    · exact settled_close (fun world h => ⟨h.1.noFaults, h.1.settled, hunmarked h.2⟩) _
    refine .bind (S := fun _ => Sending env pairs first operations) ?_ fun _ => ?_
    · refine storeCall_triple (fun _ h => h.1.noFaults) (fun world u store h hset => ?_)
        fun _ h => h.1.settled
      have hsk : ¬ world.store.Skips first.operationId := by
        rw [JiraSyncStore.Skips]
        have hcur := h.2
        rw [storedState] at hcur
        rw [← hcur]
        exact hopen
      exact ⟨⟨h.1.noFaults, h.1.settled.setOperationState (hunmarked h.2) hset,
        h.1.charted.setOperationState hfst hsk hset⟩,
        find?_setOperationState hset⟩
    refine .bind (S := fun _ => Sending env pairs first operations)
      (.ofExcept (fun _ _ h => h) fun _ h => h.ready.settled) fun _ => ?_
    refine .bind (S := fun result world =>
      (hasReturned result = false → world.storeFaults = [] ∧ Settled world ∧
        world.store.storedState first.operationId ≠ some .applied) ∧
      (hasReturned result = true → ∃ pairs', Ready env pairs' operations world)) ?_
      fun result => ?_
    · exact .attempt fun world result world' h hrun => h.performed hfst hcmt hrun
    · rcases result with error | error | created
      · exact settled_close (fun world h => h.1 rfl) _
      · refine .ite (fun _ => ?_) fun _ => ?_
        · exact settled_close (fun world h => h.1 rfl) _
        · exact settled_close (fun world h => h.1 rfl) _
      · intro world h
        obtain ⟨pairs', hready⟩ := h.2 rfl
        exact ih hcmts hnd world hready

end

/-! ### Runs -/

/-- A call of the store settles if it leaves the operations that are marked as applied. -/
theorem storeCall_settled {α : Type} {block : Txn JiraSyncStore α}
    (hblk : ∀ store a store', block store = .ok (a, store') → ∀ operationId,
      store.storedState operationId = some .applied →
        store'.storedState operationId = some .applied) :
    Session.Keeps Settled (storeCall block) := by
  refine storeCall_keeps (fun _ h => ⟨h.marked, h.once⟩) fun world a store h hrun => ?_
  exact h.of_states rfl fun write _ _ => hblk world.store a store hrun write.operationId

theorem storedState_putPlan {plan : JiraReconciliationPlan} {store store' : JiraSyncStore}
    (h : putPlan plan store = .ok (u, store'))
    (happ : store.storedState operationId = some .applied) :
    store'.storedState operationId = some .applied := by
  rw [storedState] at happ ⊢
  obtain ⟨row, hrow, hst⟩ := Option.map_eq_some_iff.mp happ
  rw [find?_putPlan h, hrow, Option.some_or, Option.map_some, hst]

theorem settled_putPlan (plan : JiraReconciliationPlan) :
    Session.Keeps Settled (storeCall (putPlan plan)) :=
  storeCall_settled fun _ _ _ h _ => storedState_putPlan h

theorem settled_putSnapshot (snapshot : JiraRemoteSnapshot) :
    Session.Keeps Settled (storeCall (putSnapshot snapshot)) := by
  refine storeCall_settled fun store u store' h operationId happ => ?_
  obtain ⟨-, rfl⟩ := ok_pair_inj h
  exact happ

theorem settled_putRemoteMapping (localId remoteKey : String) :
    Session.Keeps Settled (storeCall (putRemoteMapping localId remoteKey)) := by
  refine storeCall_settled fun store u store' h operationId happ => ?_
  rw [putRemoteMapping_eq_ok h]
  exact happ

theorem settled_putReceipt (receipt : JiraSyncReceipt) :
    Session.Keeps Settled (storeCall (putReceipt receipt)) := by
  refine storeCall_settled fun store u store' h operationId happ => ?_
  obtain ⟨-, rfl⟩ := ok_pair_inj h
  exact happ

theorem settled_stewardPlan (policy : JiraReconciliationPolicy) (projectKey : String) :
    Steward.Keeps Settled (stewardPlan env policy projectKey) := by
  refine .bind (.lift fun world h => ?_) fun bundle => .bind .ofExcept fun _ => ?_
  · rw [localBundle]
    split
    · exact h
    · exact h
  · refine .bind (captureRemoteSnapshot_keeps (fun _ h => ⟨h.marked, h.once⟩) settled_putSnapshot
      settled_putRemoteMapping) fun remote => .bind .ofExcept ?_
    exact fun plan => .bind (.lift (settled_putPlan plan)) fun _ => .pure

theorem settled_stewardDryRun (plan : JiraReconciliationPlan) (actorId correlationId : String) :
    Session.Keeps Settled (stewardDryRun env plan actorId correlationId) := by
  refine .bind (settled_putPlan plan) fun _ => .bind .ofExcept fun receipt => ?_
  exact .bind (settled_putReceipt receipt) fun _ => .pure

def openOperations (store : JiraSyncStore) (plan : JiraReconciliationPlan) :
    List JiraSyncOperation :=
  plan.operations.filter fun operation =>
    store.stateOf operation ≠ .applied ∧ store.stateOf operation ≠ .reconciled

/-- The pairs of the mapping, and those of the operations on known issues. -/
def plannedPairs (env : JiraEnv) (store : JiraSyncStore) (plan : JiraReconciliationPlan) :
    List (String × String) :=
  store.mappings.rows.map (fun row => (row.localId, row.remoteKey)) ++
    (openOperations store plan).filterMap (JiraSyncOperation.knownPair env)

/-- The condition on an application: no call of the store raises by itself, no comment is added, the
pairs of the mapping and of the operations are one to one and name issues of the remote, and the
issues that are created are new. -/
def JiraCall.Undisturbed (env : JiraEnv) (world : JiraWorld) (call : JiraCall) : Prop :=
  ∀ plan ∈ call.request.appliedPlan,
    call.storeFaults = [] ∧
    (∀ operation ∈ plan.operations, operation.operationType ≠ .addRemoteComment) ∧
    (∀ p ∈ plannedPairs env world.store plan, ∀ q ∈ plannedPairs env world.store plan,
      p.1 = q.1 ↔ p.2 = q.2) ∧
    (∀ p ∈ plannedPairs env world.store plan, (world.remote.find? p.2).isSome) ∧
    (∀ localId ∈ (openOperations world.store plan).filterMap JiraSyncOperation.createdId,
      ∀ p ∈ plannedPairs env world.store plan, p.1 ≠ localId) ∧
    (plan.operations.filterMap JiraSyncOperation.createdId).Nodup

instance (env : JiraEnv) (world : JiraWorld) (call : JiraCall) :
    Decidable (call.Undisturbed env world) :=
  inferInstanceAs (Decidable (∀ plan ∈ call.request.appliedPlan, _ ∧ _))

/-- A plan that is stored is charted. -/
theorem charted_of_undisturbed {plan : JiraReconciliationPlan} {current : JiraWorld}
    {call : JiraCall} (h : call.Undisturbed env world) (hplan : plan ∈ call.request.appliedPlan)
    (hput : putPlan plan world.store = .ok (u, current.store))
    (hrem : current.remote = world.remote) :
    Charted env (plannedPairs env world.store plan) plan.operations current := by
  obtain ⟨-, -, hone, hpresent, hfr, hdist⟩ := h plan hplan
  have hopen {operation : JiraSyncOperation} (hmem : operation ∈ plan.operations)
      (hsk : ¬ current.store.Skips operation.operationId) :
      operation ∈ openOperations world.store plan := by
    rw [JiraSyncStore.Skips, stateOf_putPlan hput operation hmem, not_or] at hsk
    refine mem_filter.mpr ⟨hmem, decide_eq_true ⟨fun h => ?_, fun h => ?_⟩⟩
    · exact hsk.1 (congrArg some h)
    · exact hsk.2 (congrArg some h)
  refine ⟨⟨hone, fun row hrow => ?_, hrem ▸ hpresent⟩,
    fun operation hmem hsk pair hpair => ?_, fun operation hmem hsk localId hloc => ?_, ?_⟩
  · rw [mappings_putPlan hput] at hrow
    exact mem_append_left _ (mem_map_of_mem hrow)
  · exact mem_append_right _ (mem_filterMap.mpr ⟨operation, hopen hmem hsk, hpair⟩)
  · exact hfr localId (mem_filterMap.mpr ⟨operation, hopen hmem hsk, hloc⟩)
  · refine (pairwise_filterMap.mp hdist).imp fun hne localId ha hb => ?_
    exact hne localId ha localId hb rfl

/-- The step: a call that is undisturbed keeps the world settled. -/
theorem Settled.exec {call : JiraCall} (h : Settled world)
    (hcall : call.Undisturbed env world) : Settled (call.exec env world) := by
  obtain ⟨request, now, storeFaults, replies⟩ := call
  have henter (faults : List (Option PyError)) :
      Settled { world with now := now, storeFaults := faults, replies := replies } :=
    ⟨h.marked, h.once⟩
  cases request with
  | apply plan intent authorizationId =>
    obtain ⟨hfaults, hcmts, -⟩ := hcall plan rfl
    obtain rfl : storeFaults = [] := hfaults
    have htriple : Session.Triple (fun current => current =
          ({ world with now := now, storeFaults := [], replies := replies } : JiraWorld))
        (stewardApply env plan intent authorizationId) (fun _ => Settled) Settled := by
      refine .bind (.ofExcept (fun _ _ hs => hs) fun _ hs => hs ▸ henter []) fun _ => ?_
      refine .bind (S := fun _ => Ready env (plannedPairs env world.store plan)
        plan.operations) ?_ fun _ => ?_
      · refine storeCall_triple (fun _ hs => hs ▸ rfl) (fun current u store hs hput => ?_)
          fun _ hs => hs ▸ henter []
        subst hs
        exact ⟨rfl, (henter []).of_states rfl fun write _ _ => storedState_putPlan hput,
          charted_of_undisturbed hcall rfl hput rfl⟩
      refine .bind (applyOperations_settled hcmts plan.operations_nodup) fun progress => ?_
      refine .bind (Session.Keeps.triple (closingSnapshot_keeps
        (fun _ hs => ⟨hs.marked, hs.once⟩) settled_putSnapshot settled_putRemoteMapping))
        fun snapshotAfter => ?_
      refine .bind (.ofExcept (fun _ _ hs => hs) fun _ hs => hs) fun unknownConflict => ?_
      refine .bind (.ofExcept (fun _ _ hs => hs) fun _ hs => hs) fun receipt => ?_
      exact .bind (settled_putReceipt receipt).triple fun _ => .pure fun _ hs => hs
    exact htriple.snd rfl
  | plan policy projectKey => exact settled_stewardPlan policy projectKey _ (henter storeFaults)
  | dryRun plan actorId correlationId =>
    exact settled_stewardDryRun plan actorId correlationId _ (henter storeFaults)
  | editRemote | editMirror => exact ⟨h.marked, h.once⟩

/-- **No write is repeated**, in every run whose applications are undisturbed: once the call for an
operation has returned, no later call is made for it. -/
theorem writes_not_repeated (env : JiraEnv) (world : JiraWorld) (calls : List JiraCall)
    (hsta : world.writes = [])
    (h : Along (JiraCall.Undisturbed env) (JiraCall.exec env) world calls) :
    (runCalls (JiraCall.exec env) world calls).writes.Pairwise fun earlier later =>
      earlier.returned = true → earlier.operationId ≠ later.operationId := by
  have hsettled : Settled world := by
    refine ⟨?_, ?_⟩
    · rw [hsta]
      exact fun write hwr => absurd hwr not_mem_nil
    · rw [hsta]
      exact .nil
  exact (h.invariant Settled.exec hsettled).once

/-- Two applications of a plan that is new: the transition is sent once. -/
theorem writes_not_repeated_twice :
    let calls := [applyMarkDone [.done, unreachable], applyMarkDone [unreachable]]
    Along (JiraCall.Undisturbed .plain) (JiraCall.exec .plain) snapshotWorld calls ∧
      (runCalls (JiraCall.exec .plain) snapshotWorld calls).writes =
        [⟨markDone.operationId, true⟩] ∧
      (runCalls (JiraCall.exec .plain) snapshotWorld calls).writes.Pairwise fun earlier later =>
        earlier.returned = true → earlier.operationId ≠ later.operationId := by
  have hfa :
      let calls := [applyMarkDone [.done, unreachable], applyMarkDone [unreachable]]
      Along (JiraCall.Undisturbed .plain) (JiraCall.exec .plain) snapshotWorld calls ∧
        (runCalls (JiraCall.exec .plain) snapshotWorld calls).writes =
          [⟨markDone.operationId, true⟩] := by
    decide +kernel
  exact ⟨hfa.1, hfa.2, writes_not_repeated .plain snapshotWorld _ rfl hfa.1⟩

/-! ### A mapping that is refused -/

/-- A world in which the issue is mapped to another local identifier. -/
def takenWorld : JiraWorld :=
  { snapshotWorld with
    store := { snapshotWorld.store with
      mappings := ⟨[⟨"PP-TASK-000002", "PP-1"⟩], List.nodup_singleton _⟩ } }

/-- The transition is sent and returns, its mapping is refused, and the operation is marked as
failed: the next application sends it again. -/
theorem write_repeated :
    takenWorld.writes = [] ∧
      (runCalls (JiraCall.exec .plain) takenWorld
        [applyMarkDone [.done, unreachable], applyMarkDone [.done, unreachable]]).writes =
          [⟨markDone.operationId, true⟩, ⟨markDone.operationId, true⟩] := by
  decide +kernel

end ProjectPipeline
