import ProjectPipeline.TransitionLog

/-!
# Transitions and Later Reads

A row is validated when it is read, and a transition reads its row back after it has committed
it. A call leaves readable tables readable only if what it commits has passed every check of the
record before. The blocked reason and the owner have not: that a reason is given is checked, but
neither text is measured, so a reason of more than 2000 characters or an owner of more than 191
is committed, the call raises, and no later read of the row returns.

`StateDb.Admits` collects the checks that come before the commit, and `TransitionCall.Storable`
the two that are missing.

## Main results

* `StateDb.loads_iff`: every read returns exactly if every row is valid.
* `TransitionCall.block_isOk_iff`: the block of a call comes to its end exactly if the transition
  is admitted.
* `transition_harmless_iff`: a call leaves the tables readable, and as they are if it raises,
  exactly if the two texts of an admitted transition are short enough.
-/

namespace ProjectPipeline

open Lifecycle

/-! ### Reading everything -/

/-- Every read of the store returns. -/
structure StateDb.Loads (db : StateDb) : Prop where
  project : ∀ projectId, ∃ result, getProjectState projectId db = (.ok result, db)
  task : ∀ taskId, ∃ result, getTaskState taskId db = (.ok result, db)
  tasks : ∀ projectId, ∃ results, listTaskStates projectId db = (.ok results, db)

variable {db : StateDb} {projectId : String} {t : DomainStateTransition}

theorem getProjectState_eq_ok_iff :
    (∃ result, getProjectState projectId db = (.ok result, db)) ↔
      ∀ row, db.projectStates.find? projectId = some row → row.errors = [] := by
  rw [getProjectState]
  cases db.projectStates.find? projectId with
  | none => simp
  | some row => by_cases hval : row.errors = [] <;> simp [hval]

theorem getTaskState_eq_ok_iff {taskId : String} :
    (∃ result, getTaskState taskId db = (.ok result, db)) ↔
      ∀ row, db.taskStates.find? taskId = some row → row.errors = [] := by
  rw [getTaskState]
  cases db.taskStates.find? taskId with
  | none => simp
  | some row => by_cases hval : row.errors = [] <;> simp [hval]

/-- If every task can be read, so can the tasks of a project. -/
theorem listTaskStates_eq_ok (htask : ∀ taskId, ∃ result, getTaskState taskId db = (.ok result, db))
    (projectId : String) : ∃ results, listTaskStates projectId db = (.ok results, db) := by
  have hloop : ∀ taskIds : List String,
      ∃ states, (taskIds.mapM fun taskId => (getTaskState taskId db).1) = .ok states := by
    intro taskIds
    refine mapM_isOk_iff.mpr fun taskId _ => ?_
    obtain ⟨result, hres⟩ := htask taskId
    exact ⟨result, by rw [hres]⟩
  obtain ⟨states, hsts⟩ := hloop (List.insertionSort (fun a b => textLe a b)
    ((db.taskStates.rows.filter fun row => row.details.projectId = projectId).map
      StateRow.entityId))
  exact ⟨states.filterMap id, by rw [listTaskStates, hsts]; rfl⟩

/-- **Every read returns exactly if every row is valid.** -/
theorem StateDb.loads_iff :
    db.Loads ↔ (∀ id row, db.projectStates.find? id = some row → row.errors = []) ∧
      ∀ id row, db.taskStates.find? id = some row → row.errors = [] := by
  constructor
  · intro h
    exact ⟨fun id => getProjectState_eq_ok_iff.mp (h.project id),
      fun id => getTaskState_eq_ok_iff.mp (h.task id)⟩
  · rintro ⟨hprojects, htks⟩
    have htask : ∀ taskId, ∃ result, getTaskState taskId db = (.ok result, db) :=
      fun id => getTaskState_eq_ok_iff.mpr (htks id)
    exact ⟨fun id => getProjectState_eq_ok_iff.mpr (hprojects id), htask,
      listTaskStates_eq_ok htask⟩

/-! ### The checks before the commit -/

section

variable {S δ : Type} [DecidableEq S]

/-- The transition passes the checks that are made of the stored row, of the request and of the
other tables before it is committed. -/
structure Lifecycle.Admits (L : Lifecycle S) (sha : Sha256) (request : TransitionRequest S)
    (db : StateDb) (projectId : String) (row : StateRow S δ) : Prop where
  version : row.version = request.expectedVersion
  allowed : request.nextState ∈ L.transitions row.state
  reason : request.nextState = L.blocked ↔ truthy request.blockedReason = true
  representable : -2 ^ 63 ≤ request.expectedVersion + 1 ∧ request.expectedVersion + 1 < 2 ^ 63
  logged : ∃ t, L.createTransition sha row.state request = .ok t ∧
    db.transitions.find? t.transitionId = none
  project : projectId ∈ db.projects

variable {L : Lifecycle S} {sha : Sha256} {request : TransitionRequest S}
  {row : StateRow S δ} {t : DomainStateTransition}

theorem bindInteger_eq_ok {value : ℤ} {u : Unit} :
    bindInteger value = .ok u ↔ -2 ^ 63 ≤ value ∧ value < 2 ^ 63 := by
  rw [bindInteger, raiseIf_eq_ok, not_or, not_lt, not_le]

/-- A transition is made exactly if the row is found and the checks of it pass. -/
theorem Lifecycle.transition_eq_ok_iff {update : δ → δ}
    {table : Table String (StateRow S δ) StateRow.entityId} :
    (∃ table', L.transition sha request update table = .ok (table', row, t)) ↔
      table.find? request.entityId = some row ∧ L.planTransition sha request row = .ok t ∧
        -2 ^ 63 ≤ request.expectedVersion + 1 ∧ request.expectedVersion + 1 < 2 ^ 63 := by
  have hresulting : L.planTransition sha request row = .ok t →
      t.resultingVersion = request.expectedVersion + 1 := fun hplan =>
    (createTransition_eq_ok (planTransition_eq_ok_iff.mp hplan).2.2.2).2.2.2.2.2
  rw [transition]
  constructor
  · rintro ⟨table', h⟩
    split at h
    · cases h
    rename_i found hfind
    obtain ⟨t', hplan, h⟩ := bind_eq_ok.mp h
    obtain ⟨_, hbind, h⟩ := bind_eq_ok.mp h
    obtain ⟨-, -, h⟩ := bind_eq_ok.mp h
    obtain ⟨-, hrest⟩ := ok_pair_inj h
    obtain ⟨rfl, rfl⟩ := Prod.mk.inj hrest
    rw [hresulting hplan] at hbind
    exact ⟨hfind, hplan, bindInteger_eq_ok.mp hbind⟩
  · rintro ⟨hfind, hplan, hrepresentable⟩
    rw [hfind]
    have hver : row.version = request.expectedVersion :=
      (planTransition_eq_ok_iff.mp hplan).1
    have hkey : row.entityId = request.entityId := (Table.find?_eq_some_iff.mp hfind).2
    refine ⟨_, bind_eq_ok.mpr ⟨t, hplan, bind_eq_ok.mpr ⟨(), ?_, bind_eq_ok.mpr ⟨(), ?_, rfl⟩⟩⟩⟩
    · rw [hresulting hplan]
      exact bindInteger_eq_ok.mpr hrepresentable
    · refine raiseIf_eq_ok.mpr (not_not.mpr (table.countP_eq_one hfind ?_ ?_))
      · simp [hkey, hver]
      · intro x hx
        exact (of_decide_eq_true hx).1

end

theorem insertTransition_eq_ok_iff :
    (∃ result, insertTransition projectId t db = .ok result) ↔
      db.transitions.find? t.transitionId = none ∧ projectId ∈ db.projects := by
  let row : TransitionRow := { projectId, transition := t }
  have hkey : db.transitions.find? t.transitionId = none ↔
      ∃ transitions, db.transitions.insert row = some transitions :=
    ⟨fun h => Table.exists_insert (r := row) h, fun ⟨_, hins⟩ => (Table.insert_eq_some_iff.mp hins).1⟩
  rw [hkey, insertTransition]
  cases db.transitions.insert row with
  | none => exact ⟨by rintro ⟨_, ⟨⟩⟩, by rintro ⟨⟨_, ⟨⟩⟩, -⟩⟩
  | some transitions =>
    constructor
    · rintro ⟨result, h⟩
      obtain ⟨_, hproj, -⟩ := bind_eq_ok.mp h
      exact ⟨⟨transitions, rfl⟩, not_not.mp (raiseIf_eq_ok.mp hproj)⟩
    · rintro ⟨_, hproj⟩
      exact ⟨_, bind_eq_ok.mpr ⟨(), raiseIf_eq_ok.mpr (not_not.mpr hproj), rfl⟩⟩

section

variable {S δ : Type} [DecidableEq S] {L : Lifecycle S} {sha : Sha256}
  {request : TransitionRequest S} {update : δ → δ}
  {table : Table String (StateRow S δ) StateRow.entityId}

/-- The block of a transition comes to its end exactly if the row is found and the transition is
admitted. The table is put back into a store that has the same log and the same projects. -/
theorem Lifecycle.commits_iff (put : Table String (StateRow S δ) StateRow.entityId → StateDb)
    (projectOf : StateRow S δ → String) (hlog : ∀ table, (put table).transitions = db.transitions)
    (hprojects : ∀ table, (put table).projects = db.projects) :
    (∃ result, (L.transition sha request update table >>= fun made =>
        insertTransition (projectOf made.2.1) made.2.2 (put made.1)) = .ok result) ↔
      ∃ row, table.find? request.entityId = some row ∧
        L.Admits sha request db (projectOf row) row := by
  constructor
  · rintro ⟨result, h⟩
    obtain ⟨⟨table', row, t⟩, hmade, hins⟩ := bind_eq_ok.mp h
    obtain ⟨hfind, hplan, hrepresentable⟩ := transition_eq_ok_iff.mp ⟨table', hmade⟩
    obtain ⟨hver, halw, hrsn, hcr⟩ := planTransition_eq_ok_iff.mp hplan
    obtain ⟨hfr, hproj⟩ := insertTransition_eq_ok_iff.mp ⟨result, hins⟩
    rw [hlog] at hfr
    rw [hprojects] at hproj
    exact ⟨row, hfind, hver, halw, hrsn, hrepresentable, ⟨t, hcr, hfr⟩, hproj⟩
  · rintro ⟨row, hfind, hadmits⟩
    obtain ⟨t, hcr, hfr⟩ := hadmits.logged
    have hplan : L.planTransition sha request row = .ok t :=
      planTransition_eq_ok_iff.mpr ⟨hadmits.version, hadmits.allowed, hadmits.reason, hcr⟩
    obtain ⟨table', hmade⟩ :=
      transition_eq_ok_iff.mpr ⟨hfind, hplan, hadmits.representable⟩
    rw [← hlog table'] at hfr
    obtain ⟨result, hins⟩ :=
      insertTransition_eq_ok_iff.mpr ⟨hfr, (hprojects table').symm ▸ hadmits.project⟩
    exact ⟨result, bind_eq_ok.mpr ⟨(table', row, t), hmade, hins⟩⟩

/-- If all rows have a property, they have it after a transition exactly if the new one has. -/
theorem Lifecycle.forall_rows_iff {table' : Table String (StateRow S δ) StateRow.entityId}
    {row : StateRow S δ} {valid : StateRow S δ → Prop}
    (hmade : L.transition sha request update table = .ok (table', row, t))
    (hall : ∀ id x, table.find? id = some x → valid x) :
    (∀ id x, table'.find? id = some x → valid x) ↔ valid (row.moved request t update) := by
  obtain ⟨-, -, -, -, -, hmoved, hoth⟩ := transition_eq_ok hmade
  constructor
  · intro h
    exact h request.entityId _ hmoved
  · intro hnew id x hx
    by_cases heq : id = request.entityId
    · rw [heq, hmoved] at hx
      exact Option.some.inj hx ▸ hnew
    · rw [hoth id heq] at hx
      exact hall id x hx

end

/-! ### The record that is committed -/

theorem lengthErrors_eq_nil {field text : String} {high : ℕ} :
    lengthErrors field 0 high text = [] ↔ text.length ≤ high := by
  rw [lengthErrors, if_neg (Nat.not_lt_zero _)]
  split
  · rename_i hlong
    exact ⟨nofun, fun hle => absurd hlong (not_lt.mpr hle)⟩
  · rename_i hshort
    exact ⟨fun _ => not_lt.mp hshort, fun _ => rfl⟩

theorem optionalLengthErrors_eq_nil {field : String} {high : ℕ} {text : Option String} :
    optionalLengthErrors field high text = [] ↔ ∀ value ∈ text, value.length ≤ high := by
  cases text with
  | none => simp [optionalLengthErrors]
  | some => simp [optionalLengthErrors, lengthErrors_eq_nil]

section

variable {S δ : Type} [DecidableEq S] {L : Lifecycle S}

theorem StateRow.reasonErrors_eq_nil {row : StateRow S δ} :
    row.reasonErrors L = [] ↔ (row.state = L.blocked ↔ truthy row.blockedReason = true) := by
  rw [reasonErrors]
  by_cases hblocked : row.state = L.blocked <;> cases truthy row.blockedReason <;> simp [hblocked]

end

theorem ProjectStateRecord.errors_eq_nil {project : ProjectStateRecord} :
    project.errors = [] ↔ project.fieldErrors = [] ∧
      project.reasonErrors projectLifecycle = [] ∧
      project.details.taskCounts.any (·.2 < 0) = false := by
  rw [errors]
  split
  · simp_all
  · split
    · simp_all
    · cases project.details.taskCounts.any (·.2 < 0) <;> simp_all

theorem TaskStateRecord.errors_eq_nil {task : TaskStateRecord} :
    task.errors = [] ↔ task.fieldErrors = [] ∧
      ¬ (task.entityId ∈ task.details.dependencyIds ∨ task.entityId ∈ task.details.blockerIds) ∧
      task.reasonErrors taskLifecycle = [] := by
  rw [errors]
  split
  · simp_all
  · split <;> simp_all

/-- A valid project stays valid if the new reason is short enough, and only then. -/
theorem ProjectStateRecord.errors_moved {sha : Sha256} {project : ProjectStateRecord}
    {request : TransitionRequest ProjectLifecycleState} (hval : project.errors = [])
    (hadmits : projectLifecycle.Admits sha request db projectId project)
    (ht : t.resultingVersion = request.expectedVersion + 1) :
    ProjectStateRecord.errors (project.moved request t id) = [] ↔
      ∀ reason ∈ request.blockedReason, reason.length ≤ 2000 := by
  have hver := hadmits.version
  simp only [errors_eq_nil, fieldErrors, List.append_eq_nil_iff, lowerBoundErrors_eq_nil,
    optionalLengthErrors_eq_nil, StateRow.reasonErrors_eq_nil] at hval ⊢
  obtain ⟨⟨⟨⟨hid, hpositive⟩, hrev⟩, -⟩, -, hcounts⟩ := hval
  have hnext : 1 ≤ t.resultingVersion := by omega
  simp [StateRow.moved, hid, hnext, hrev, hadmits.reason, hcounts]

/-- A valid task stays valid if the new reason and the new owner are short enough, and only
then. -/
theorem TaskStateRecord.errors_moved {sha : Sha256} {task : TaskStateRecord}
    {request : TransitionRequest TaskLifecycleState} {ownerId : Option String}
    (hval : task.errors = []) (hadmits : taskLifecycle.Admits sha request db projectId task)
    (ht : t.resultingVersion = request.expectedVersion + 1) :
    TaskStateRecord.errors (task.moved request t (fun details =>
        { details with ownerId := if ownerId.isSome then ownerId else details.ownerId })) = [] ↔
      (∀ reason ∈ request.blockedReason, reason.length ≤ 2000) ∧
        ∀ owner ∈ ownerId, owner.length ≤ 191 := by
  have hver := hadmits.version
  simp only [errors_eq_nil, fieldErrors, List.append_eq_nil_iff, lowerBoundErrors_eq_nil,
    optionalLengthErrors_eq_nil, StateRow.reasonErrors_eq_nil] at hval ⊢
  obtain ⟨⟨⟨⟨⟨⟨⟨⟨hid, hproj⟩, hpositive⟩, hpriority⟩, hdeps⟩, hblockers⟩, hown⟩, -⟩,
    hself, -⟩ := hval
  have hnext : 1 ≤ t.resultingVersion := by omega
  have hpattern : fullmatch priorityPattern task.details.priority = true := by
    by_contra hoth
    rw [if_neg hoth] at hpriority
    cases hpriority
  have howners : (∀ owner ∈ (if ownerId.isSome then ownerId else task.details.ownerId),
      owner.length ≤ 191) ↔ ∀ owner ∈ ownerId, owner.length ≤ 191 := by
    cases ownerId with
    | none => simpa using hown
    | some => rfl
  simp only [StateRow.moved, hid, hproj, hnext, hpattern, if_true, hdeps, hblockers,
    howners, hself, hadmits.reason, true_and, not_false_eq_true, and_true, and_comm]

/-! ### Calls -/

/-- A call that makes a transition. -/
inductive TransitionCall where
  | project (request : TransitionRequest ProjectLifecycleState)
  | task (request : TransitionRequest TaskLifecycleState) (ownerId : Option String)

/-- The call, without what it returns. -/
def TransitionCall.perform (sha : Sha256) (db : StateDb) :
    TransitionCall → Except PyError Unit × StateDb
  | project request => (transitionProject sha request db).map (Except.map fun _ => ()) id
  | task request ownerId => (transitionTask sha request ownerId db).map (Except.map fun _ => ()) id

/-- The entity is stored, and the transition passes the checks that are made before the
commit. -/
def StateDb.Admits (sha : Sha256) (db : StateDb) : TransitionCall → Prop
  | .project request => ∃ row, db.projectStates.find? request.entityId = some row ∧
      projectLifecycle.Admits sha request db request.entityId row
  | .task request _ => ∃ row, db.taskStates.find? request.entityId = some row ∧
      taskLifecycle.Admits sha request db row.details.projectId row

/-- The texts that are not measured before the commit are short enough for the record. -/
def TransitionCall.Storable : TransitionCall → Prop
  | project request => ∀ reason ∈ request.blockedReason, reason.length ≤ 2000
  | task request ownerId => (∀ reason ∈ request.blockedReason, reason.length ≤ 2000) ∧
      ∀ owner ∈ ownerId, owner.length ≤ 191

/-- A project that is stored and valid is read. -/
theorem getProjectState_of_loads {row : ProjectStateRecord} (hloads : db.Loads)
    (hfind : db.projectStates.find? projectId = some row) :
    getProjectState projectId db = (.ok (some row), db) := by
  rw [getProjectState, hfind]
  exact if_pos ((StateDb.loads_iff.mp hloads).1 projectId row hfind)

/-- A task that is stored and valid is read. -/
theorem getTaskState_of_loads {taskId : String} {row : TaskStateRecord} (hloads : db.Loads)
    (hfind : db.taskStates.find? taskId = some row) :
    getTaskState taskId db = (.ok (some row), db) := by
  rw [getTaskState, hfind]
  exact if_pos ((StateDb.loads_iff.mp hloads).2 taskId row hfind)

namespace TransitionCall

/-- What the block of a call computes: the transition, and the row of the log in the store with
the new table. -/
def block (sha : Sha256) (db : StateDb) : TransitionCall → Except PyError (Unit × StateDb)
  | project request => do
      let made ← projectLifecycle.transition sha request id db.projectStates
      insertTransition request.entityId made.2.2 { db with projectStates := made.1 }
  | task request ownerId => do
      let made ← taskLifecycle.transition sha request
        (fun details =>
          { details with ownerId := if ownerId.isSome then ownerId else details.ownerId })
        db.taskStates
      insertTransition made.2.1.details.projectId made.2.2 { db with taskStates := made.1 }

variable {sha : Sha256} {db db' : StateDb} {call : TransitionCall} {u : Unit}

/-- A block comes to its end exactly if the transition is admitted. -/
theorem block_isOk_iff : (∃ result, call.block sha db = .ok result) ↔ db.Admits sha call := by
  cases call with
  | project request =>
    exact commits_iff (fun projectStates => { db with projectStates })
      (fun _ => request.entityId) (fun _ => rfl) (fun _ => rfl)
  | task =>
    exact commits_iff (fun taskStates => { db with taskStates })
      (fun row => row.details.projectId) (fun _ => rfl) (fun _ => rfl)

theorem perform_of_error {error : PyError} (h : call.block sha db = .error error) :
    call.perform sha db = (.error error, db) := by
  cases call with
  | project request =>
    have hrun : transitionProject sha request db = (.error error, db) := by
      refine Session.bind_of_error (Session.transaction_of_error ?_)
      rw [Txn.get_bind, Txn.lift_bind]
      exact h
    rw [perform, hrun]
    rfl
  | task request ownerId =>
    have hrun : transitionTask sha request ownerId db = (.error error, db) := by
      refine Session.bind_of_error (Session.transaction_of_error ?_)
      rw [Txn.get_bind, Txn.lift_bind]
      exact h
    rw [perform, hrun]
    rfl

/-- The tables of a block that has come to its end are committed, and the call returns if its row
can be read back. -/
theorem perform_of_ok (h : call.block sha db = .ok (u, db')) :
    (call.perform sha db).2 = db' ∧ (db'.Loads → (call.perform sha db).1 = .ok ()) := by
  cases call with
  | project request =>
    have hrun : transitionProject sha request db = _ :=
      Session.bind_of_ok (Session.transaction_of_ok (by
        rw [Txn.get_bind, Txn.lift_bind]
        exact h))
    refine ⟨?_, fun hloads => ?_⟩
    · change (transitionProject sha request db).2 = db'
      rw [hrun]
      refine Session.Keeps.bind (keeps_getProjectState request.entityId db') (fun result => ?_)
        db' rfl
      cases result with
      | none => exact .raise
      | some => exact .pure
    · obtain ⟨⟨projectStates, row, t⟩, hmade, hins⟩ := bind_eq_ok.mp h
      have hsts : db'.projectStates = projectStates := (insertTransition_eq_ok hins).1
      have hfind := (transition_eq_ok hmade).2.2.2.2.2.1
      rw [← hsts] at hfind
      rw [perform, hrun, Session.bind_of_ok (getProjectState_of_loads hloads hfind)]
      rfl
  | task request ownerId =>
    have hrun : transitionTask sha request ownerId db = _ :=
      Session.bind_of_ok (Session.transaction_of_ok (by
        rw [Txn.get_bind, Txn.lift_bind]
        exact h))
    refine ⟨?_, fun hloads => ?_⟩
    · change (transitionTask sha request ownerId db).2 = db'
      rw [hrun]
      refine Session.Keeps.bind (keeps_getTaskState request.entityId db') (fun result => ?_) db' rfl
      cases result with
      | none => exact .raise
      | some => exact .pure
    · obtain ⟨⟨taskStates, row, t⟩, hmade, hins⟩ := bind_eq_ok.mp h
      have hsts : db'.taskStates = taskStates := (insertTransition_eq_ok hins).2.1
      have hfind := (transition_eq_ok hmade).2.2.2.2.2.1
      rw [← hsts] at hfind
      rw [perform, hrun, Session.bind_of_ok (getTaskState_of_loads hloads hfind)]
      rfl

/-- Everything can be read after a transition exactly if its texts are short enough. -/
theorem loads_block_iff (hloads : db.Loads) (h : call.block sha db = .ok (u, db')) :
    db'.Loads ↔ call.Storable := by
  obtain ⟨hprojects, htks⟩ := StateDb.loads_iff.mp hloads
  have hadmits := block_isOk_iff.mp ⟨_, h⟩
  rw [StateDb.loads_iff]
  cases call with
  | project =>
    obtain ⟨⟨projectStates, row, t⟩, hmade, hins⟩ := bind_eq_ok.mp h
    obtain ⟨hfind, hver, -, -, hperforms, -⟩ := transition_eq_ok hmade
    obtain ⟨row', hfind', hadmits⟩ := hadmits
    obtain rfl := Option.some.inj (hfind.symm.trans hfind')
    rw [(insertTransition_eq_ok hins).1, (insertTransition_eq_ok hins).2.1]
    rw [forall_rows_iff hmade hprojects, and_iff_left htks]
    exact ProjectStateRecord.errors_moved (hprojects _ row hfind) hadmits
      (by rw [hperforms.resulting, hver])
  | task =>
    obtain ⟨⟨taskStates, row, t⟩, hmade, hins⟩ := bind_eq_ok.mp h
    obtain ⟨hfind, hver, -, -, hperforms, -⟩ := transition_eq_ok hmade
    obtain ⟨row', hfind', hadmits⟩ := hadmits
    obtain rfl := Option.some.inj (hfind.symm.trans hfind')
    rw [(insertTransition_eq_ok hins).1, (insertTransition_eq_ok hins).2.1]
    rw [forall_rows_iff hmade htks, and_iff_right hprojects]
    exact TaskStateRecord.errors_moved (htks _ row hfind) hadmits
      (by rw [hperforms.resulting, hver])

end TransitionCall

/-- **A failed transition changes nothing, and no transition spoils reads, exactly as long as the
texts of admitted transitions are short enough.** For every store in which everything can be read
and every call: if the call raises, the tables are as before, and whether it raises or not,
everything can be read after it, if and only if the call is not admitted or its blocked reason
has at most 2000 characters and its owner at most 191. -/
theorem transition_harmless_iff (sha : Sha256) (db : StateDb) (hloads : db.Loads)
    (call : TransitionCall) :
    ((∀ error, (call.perform sha db).1 = .error error → (call.perform sha db).2 = db) ∧
      (call.perform sha db).2.Loads) ↔ (db.Admits sha call → call.Storable) := by
  rcases hblk : call.block sha db with error | ⟨u, db'⟩
  · have hnot : ¬ db.Admits sha call := by
      intro hadmits
      obtain ⟨result, hres⟩ := TransitionCall.block_isOk_iff.mpr hadmits
      rw [hblk] at hres
      cases hres
    rw [TransitionCall.perform_of_error hblk]
    exact ⟨fun _ hadmits => absurd hadmits hnot, fun _ => ⟨fun _ _ => rfl, hloads⟩⟩
  · have hadmits : db.Admits sha call := TransitionCall.block_isOk_iff.mp ⟨_, hblk⟩
    have hstorable := TransitionCall.loads_block_iff hloads hblk
    obtain ⟨hcommitted, hreturns⟩ := TransitionCall.perform_of_ok hblk
    rw [hcommitted]
    constructor
    · rintro ⟨-, haft⟩ _
      exact hstorable.mp haft
    · intro himplies
      have haft : db'.Loads := hstorable.mpr (himplies hadmits)
      refine ⟨fun error herr => ?_, haft⟩
      rw [hreturns haft] at herr
      cases herr

/-! ### An owner with a long name -/

/-- A store with a project and a task that is ready. -/
def claimStore : StateDb where
  projects := ["PROJECT-P"]
  projectStates := ⟨[registeredProject "PROJECT-P" 1 0], by simp⟩
  taskStates := ⟨[readyTask], by simp⟩

theorem claimStore_loads : claimStore.Loads := by
  have hval : (∀ row ∈ claimStore.projectStates.rows, row.errors = []) ∧
      ∀ row ∈ claimStore.taskStates.rows, row.errors = [] := by decide +kernel
  exact StateDb.loads_iff.mpr
    ⟨fun _ row hrow => hval.1 row (Table.find?_eq_some_iff.mp hrow).1,
      fun _ row hrow => hval.2 row (Table.find?_eq_some_iff.mp hrow).1⟩

/-- Claim the task for an owner. -/
def claimFor (ownerId : String) : TransitionCall :=
  .task
    { entityId := "PP-TASK-000001"
      nextState := .claimed
      expectedVersion := 4
      reason := "claim"
      actorId := "one"
      correlationId := "run"
      now := 1 } (some ownerId)

/-- A name of 192 characters. -/
def longOwner : String := String.ofList (List.replicate 192 'x')

/-- The claim for the owner with the long name raises, has been committed nevertheless, and the
task cannot be read any more. -/
theorem claim_for_long_owner :
    let result := (claimFor longOwner).perform .bytePolynomial claimStore
    claimStore.Loads ∧ result.1.isOk = false ∧ result.2 ≠ claimStore ∧ ¬ result.2.Loads := by
  have hrun : let result := (claimFor longOwner).perform .bytePolynomial claimStore
      result.1.isOk = false ∧ result.2.taskStates.rows.map StateRow.version = [5] ∧
        (getTaskState "PP-TASK-000001" result.2).1.isOk = false := by decide +kernel
  generalize (claimFor longOwner).perform .bytePolynomial claimStore = result at *
  obtain ⟨hraised, hver, hunread⟩ := hrun
  refine ⟨claimStore_loads, hraised, ?_, fun hloads => ?_⟩
  · intro hsame
    rw [hsame] at hver
    exact absurd hver (by decide)
  · obtain ⟨task, htask⟩ := hloads.task "PP-TASK-000001"
    rw [htask] at hunread
    cases hunread

/-- The claim for an owner with a short name returns, and everything can be read after it. -/
theorem transition_harmless_iff_short_owner :
    let result := (claimFor "one").perform .bytePolynomial claimStore
    claimStore.Loads ∧ result.1.isOk = true ∧
      (∀ error, result.1 = .error error → result.2 = claimStore) ∧ result.2.Loads := by
  have hreturns : ((claimFor "one").perform .bytePolynomial claimStore).1.isOk = true := by
    decide +kernel
  have hharmless := (transition_harmless_iff .bytePolynomial claimStore claimStore_loads
    (claimFor "one")).mpr fun _ => by
      refine ⟨nofun, fun owner hown => ?_⟩
      cases hown
      decide
  exact ⟨claimStore_loads, hreturns, hharmless⟩

end ProjectPipeline
