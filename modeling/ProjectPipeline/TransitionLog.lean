import ProjectPipeline.Runs
import ProjectPipeline.StateStore

/-!
# The Transition Log Explains Every State

Clients call the methods of the state store, each call being one step, and calls may fail, also
after their transaction has been committed. What one call can do to an entity is said once, by
`Lifecycle.Moves`: nothing, a first record, a change of other columns, or one transition of the
table that adds one row to the log. That the log of an entity leads from its first record to the
stored one follows by induction over the calls.

## Main results

* `StateCall.evolves`: what one call does to every entity.
* `transition_log_explains`: after every run the log of each task and project is a path of the
  transition table with consecutive versions from the first record to the stored one, and no two
  calls that returned had the same expected version.
-/

namespace ProjectPipeline

open Lifecycle List Option

/-! ### What a call does to an entity -/

variable {t : DomainStateTransition} {db db' : StateDb} {projectId : String} {entityType : EntityType}

section

variable {S δ : Type}

/-- The transition leads from one row to another. -/
structure Lifecycle.Performs (L : Lifecycle S) (row : StateRow S δ) (t : DomainStateTransition)
    (row' : StateRow S δ) : Prop where
  allowed : row'.state ∈ L.transitions row.state
  previous : t.previousState = L.value row.state
  next : t.nextState = L.value row'.state
  expected : t.expectedVersion = row.version
  resulting : t.resultingVersion = row.version + 1
  version : row'.version = t.resultingVersion

/-- What a call may do to the row and the log of an entity. -/
inductive Lifecycle.Moves (L : Lifecycle S) : Option (StateRow S δ) → List DomainStateTransition →
    Option (StateRow S δ) → List DomainStateTransition → Prop
  | absent {log} : Moves L none log none log
  | imported {log} (row : StateRow S δ) : Moves L none log (some row) log
  | kept {log} {row row' : StateRow S δ} (state : row'.state = row.state)
      (version : row'.version = row.version) : Moves L (some row) log (some row') log
  | moved {log} {row row' : StateRow S δ} {t : DomainStateTransition}
      (performs : L.Performs row t row') : Moves L (some row) log (some row') (log ++ [t])

theorem Lifecycle.Moves.refl (L : Lifecycle S) (row : Option (StateRow S δ))
    (log : List DomainStateTransition) : L.Moves row log row log := by
  cases row with
  | none => exact .absent
  | some => exact .kept rfl rfl

/-- Rows are added, and no row is changed. -/
theorem Lifecycle.Moves.of_kept (L : Lifecycle S) {row row' : Option (StateRow S δ)}
    (log : List DomainStateTransition) (h : ∀ r, row = some r → row' = some r) :
    L.Moves row log row' log := by
  cases row with
  | none =>
    cases row' with
    | none => exact .absent
    | some row' => exact .imported row'
  | some row =>
    rw [h row rfl]
    exact .refl L (some row) log

/-- Versions do not go back. -/
theorem Lifecycle.Moves.version_le {L : Lifecycle S} {row row' : Option (StateRow S δ)}
    {log log' : List DomainStateTransition} (h : L.Moves row log row' log') {r : StateRow S δ}
    (hr : row = some r) : ∃ r', row' = some r' ∧ r.version ≤ r'.version := by
  cases h with
  | absent | imported => cases hr
  | kept _ version =>
    cases hr
    exact ⟨_, rfl, version.ge⟩
  | moved performs =>
    cases hr
    have hresulting := performs.resulting
    have hver := performs.version
    exact ⟨_, rfl, by omega⟩

end

/-! ### Transitions -/

section

variable {S δ : Type} {L : Lifecycle S} {sha : Sha256} {request : TransitionRequest S}

theorem Lifecycle.createTransition_eq_ok {previous : S}
    (h : L.createTransition sha previous request = .ok t) :
    t.entityType = L.entityType ∧ t.entityId = request.entityId ∧
      t.previousState = L.value previous ∧ t.nextState = L.value request.nextState ∧
      t.expectedVersion = request.expectedVersion ∧
      t.resultingVersion = request.expectedVersion + 1 := by
  obtain ⟨identifier, -, h⟩ := bind_eq_ok.mp h
  obtain ⟨-, -, h⟩ := bind_eq_ok.mp h
  cases h
  exact ⟨rfl, rfl, rfl, rfl, rfl, rfl⟩

variable [DecidableEq S]

variable {row : StateRow S δ} {table table' : Table String (StateRow S δ) StateRow.entityId}

/-- The plan of a transition is made exactly if its checks pass. -/
theorem Lifecycle.planTransition_eq_ok_iff :
    L.planTransition sha request row = .ok t ↔
      row.version = request.expectedVersion ∧ request.nextState ∈ L.transitions row.state ∧
        (request.nextState = L.blocked ↔ truthy request.blockedReason = true) ∧
        L.createTransition sha row.state request = .ok t := by
  simp only [planTransition, ensureTransition, bind_eq_ok, raiseIf_eq_ok, exists_const]
  constructor
  · rintro ⟨hver, halw, hneeds, honly, hcr⟩
    refine ⟨not_not.mp hver, not_not.mp halw, ⟨fun hblocked => ?_, fun hrsn => ?_⟩, hcr⟩
    · by_contra hnone
      exact hneeds ⟨hblocked, Bool.not_eq_true _ ▸ hnone⟩
    · by_contra hoth
      exact honly ⟨hoth, hrsn⟩
  · rintro ⟨hver, halw, hrsn, hcr⟩
    refine ⟨not_not.mpr hver, not_not.mpr halw, fun hnone => ?_, fun hoth => ?_, hcr⟩
    · have := hrsn.mp hnone.1
      rw [hnone.2] at this
      cases this
    · exact hoth.1 (hrsn.mpr hoth.2)

theorem Lifecycle.planTransition_eq_ok (h : L.planTransition sha request row = .ok t)
    (update : δ → δ) :
    row.version = request.expectedVersion ∧ t.entityType = L.entityType ∧
      t.entityId = request.entityId ∧ L.Performs row t (row.moved request t update) := by
  obtain ⟨hver, halw, -, h⟩ := planTransition_eq_ok_iff.mp h
  obtain ⟨htype, hid, hprevious, hnext, hexpected, hresulting⟩ := createTransition_eq_ok h
  refine ⟨hver, htype, hid, halw, hprevious, hnext, ?_, ?_, rfl⟩
  · rw [hexpected, hver]
  · rw [hresulting, hver]

/-- A transition that is made changes one row, which it has found at the expected version. -/
theorem Lifecycle.transition_eq_ok {update : δ → δ}
    (h : L.transition sha request update table = .ok (table', row, t)) :
    table.find? request.entityId = some row ∧ row.version = request.expectedVersion ∧
      t.entityType = L.entityType ∧ t.entityId = request.entityId ∧
      L.Performs row t (row.moved request t update) ∧
      table'.find? request.entityId = some (row.moved request t update) ∧
      ∀ other, other ≠ request.entityId → table'.find? other = table.find? other := by
  rw [transition] at h
  split at h
  · cases h
  rename_i found hfind
  obtain ⟨t', hplan, h⟩ := bind_eq_ok.mp h
  obtain ⟨-, -, h⟩ := bind_eq_ok.mp h
  obtain ⟨-, -, h⟩ := bind_eq_ok.mp h
  obtain ⟨rfl, hrest⟩ := ok_pair_inj h
  obtain ⟨rfl, rfl⟩ := Prod.mk.inj hrest
  obtain ⟨hver, htype, hid, hperforms⟩ := planTransition_eq_ok hplan update
  have hkey : found.entityId = request.entityId := (Table.find?_eq_some_iff.mp hfind).2
  refine ⟨hfind, hver, htype, hid, hperforms, ?_, fun other hne => ?_⟩
  · rw [Table.find?_updateWhere, hfind]
    simp [hkey, hver]
  · rw [Table.find?_updateWhere]
    cases hoth : table.find? other with
    | none => rfl
    | some x =>
      have hx : x.entityId = other := (Table.find?_eq_some_iff.mp hoth).2
      have hdiff : x.entityId ≠ request.entityId := fun heq => hne (hx.symm.trans heq)
      simp [hdiff]

/-- A transition raises the version of its entity, from the expected one. -/
theorem Lifecycle.version_of_transition {update : δ → δ}
    (h : L.transition sha request update table = .ok (table', row, t)) :
    (table.find? request.entityId).map StateRow.version = some request.expectedVersion ∧
      (table'.find? request.entityId).map StateRow.version =
        some (request.expectedVersion + 1) := by
  obtain ⟨hfind, hver, -, -, hperforms, hfind', -⟩ := transition_eq_ok h
  rw [hfind, hfind', map_some, map_some, hperforms.version, hperforms.resulting, hver]
  exact ⟨rfl, rfl⟩

end

/-! ### What a call does to the store -/

/-- The log of an entity, in the order in which it was written. -/
def StateDb.history (db : StateDb) (entityType : EntityType) (entityId : String) :
    List DomainStateTransition :=
  (db.transitions.rows.map TransitionRow.transition).filter fun transition =>
    transition.entityType = entityType ∧ transition.entityId = entityId

theorem StateDb.history_append
    (h : db'.transitions.rows = db.transitions.rows ++ [{ projectId, transition := t }])
    (entityType : EntityType) (entityId : String) :
    db'.history entityType entityId = db.history entityType entityId ++
      if t.entityType = entityType ∧ t.entityId = entityId then [t] else [] := by
  rw [history, h, map_append, filter_append]
  congr 1
  by_cases ht : t.entityType = entityType ∧ t.entityId = entityId <;> simp [ht]

/-- Every project and every task moves as a call may move it. -/
structure StateDb.Evolves (db db' : StateDb) : Prop where
  projects : ∀ id, projectLifecycle.Moves (db.projectStates.find? id) (db.history .project id)
    (db'.projectStates.find? id) (db'.history .project id)
  tasks : ∀ id, taskLifecycle.Moves (db.taskStates.find? id) (db.history .task id)
    (db'.taskStates.find? id) (db'.history .task id)

theorem StateDb.Evolves.refl (db : StateDb) : db.Evolves db :=
  ⟨fun _ => .refl _ _ _, fun _ => .refl _ _ _⟩

theorem insertTransition_eq_ok {u : Unit} (h : insertTransition projectId t db = .ok (u, db')) :
    db'.projectStates = db.projectStates ∧ db'.taskStates = db.taskStates ∧
      db'.transitions.rows = db.transitions.rows ++ [{ projectId, transition := t }] := by
  rw [insertTransition] at h
  split at h
  · cases h
  rename_i transitions hins
  obtain ⟨_, -, h⟩ := bind_eq_ok.mp h
  obtain ⟨-, rfl⟩ := ok_pair_inj h
  exact ⟨rfl, rfl, (Table.insert_eq_some_iff.mp hins).2⟩

/-- One table after a transition of its kind, and the log with it. -/
theorem Lifecycle.moves_of_transition {S δ : Type} [DecidableEq S] {L : Lifecycle S} {sha : Sha256}
    {request : TransitionRequest S} {update : δ → δ}
    {table table' : Table String (StateRow S δ) StateRow.entityId} {row : StateRow S δ}
    (h : L.transition sha request update table = .ok (table', row, t))
    (hlog : db'.transitions.rows = db.transitions.rows ++ [{ projectId, transition := t }])
    (id : String) :
    L.Moves (table.find? id) (db.history L.entityType id) (table'.find? id)
      (db'.history L.entityType id) := by
  obtain ⟨hfind, -, htype, hid, hperforms, hfind', hoth⟩ := transition_eq_ok h
  rw [StateDb.history_append hlog]
  by_cases heq : id = request.entityId
  · rw [heq, hfind, hfind', if_pos ⟨htype, hid⟩]
    exact .moved hperforms
  · have hne : ¬ (t.entityType = L.entityType ∧ t.entityId = id) :=
      fun ht => heq (ht.2.symm.trans hid)
    rw [hoth id heq, if_neg hne, append_nil]
    exact .refl _ _ _

/-- The log of the other kind. -/
theorem StateDb.history_other
    (h : db'.transitions.rows = db.transitions.rows ++ [{ projectId, transition := t }])
    (hne : t.entityType ≠ entityType) (id : String) :
    db'.history entityType id = db.history entityType id := by
  rw [history_append h, if_neg fun ht => hne ht.1, append_nil]

/-- The version of a stored entity. -/
def StateDb.version (db : StateDb) : EntityType → String → Option ℤ
  | .project, id => (db.projectStates.find? id).map StateRow.version
  | .task, id => (db.taskStates.find? id).map StateRow.version

theorem StateDb.Evolves.version_le (h : db.Evolves db') {id : String} {version : ℤ}
    (hver : db.version entityType id = some version) :
    ∃ version', db'.version entityType id = some version' ∧ version ≤ version' := by
  cases entityType with
  | project =>
    obtain ⟨row, hrow, rfl⟩ := map_eq_some_iff.mp hver
    obtain ⟨row', hrow', hle⟩ := (h.projects id).version_le hrow
    exact ⟨row'.version, by rw [version, hrow', map_some], hle⟩
  | task =>
    obtain ⟨row, hrow, rfl⟩ := map_eq_some_iff.mp hver
    obtain ⟨row', hrow', hle⟩ := (h.tasks id).version_le hrow
    exact ⟨row'.version, by rw [version, hrow', map_some], hle⟩

/-- A call evolves the store, and if it has committed a transition, it has raised the version from
the expected one. -/
structure StateDb.Advances (db db' : StateDb) (entityType : EntityType) (id : String)
    (expected : ℤ) : Prop where
  evolves : db.Evolves db'
  before : db.version entityType id = some expected
  after : db'.version entityType id = some (expected + 1)

theorem keeps_getProjectState (id : String) (db : StateDb) :
    (getProjectState id).Keeps (· = db) := by
  rintro s rfl
  rw [getProjectState]
  split
  · rfl
  · split <;> rfl

theorem keeps_getTaskState (id : String) (db : StateDb) :
    (getTaskState id).Keeps (· = db) := by
  rintro s rfl
  rw [getTaskState]
  split
  · rfl
  · split <;> rfl

/-- Calls of `transition_project`. -/
theorem transitionProject_cases (sha : Sha256) (request : TransitionRequest ProjectLifecycleState)
    (db : StateDb) :
    (∃ error, transitionProject sha request db = (.error error, db)) ∨
      db.Advances (transitionProject sha request db).2 .project request.entityId
        request.expectedVersion := by
  refine (Session.transaction_bind_cases (fun _ s => ?_) db).imp_right ?_
  · refine Session.Keeps.bind (keeps_getProjectState request.entityId s) (fun result => ?_) s rfl
    cases result with
    | none => exact .raise
    | some => exact .pure
  · rintro ⟨_, db', hblk, hcommitted⟩
    rw [show (transitionProject sha request db).2 = db' from hcommitted]
    rw [Txn.get_bind] at hblk
    obtain ⟨⟨projectStates, row, t⟩, hres, hblk⟩ := Txn.run_lift_bind.mp hblk
    dsimp only at hblk
    obtain ⟨hprojects, htks, hlog⟩ := insertTransition_eq_ok hblk
    obtain ⟨hbef, haft⟩ := version_of_transition hres
    have htype : t.entityType = .project := (transition_eq_ok hres).2.2.1
    have hne : t.entityType ≠ .task := by rw [htype]; nofun
    refine ⟨⟨fun id => ?_, fun id => ?_⟩, hbef, ?_⟩
    · rw [hprojects]
      exact moves_of_transition hres hlog id
    · rw [htks, StateDb.history_other hlog hne]
      exact .refl _ _ _
    · rw [StateDb.version, hprojects]
      exact haft

/-- Calls of `transition_task`. -/
theorem transitionTask_cases (sha : Sha256) (request : TransitionRequest TaskLifecycleState)
    (ownerId : Option String) (db : StateDb) :
    (∃ error, transitionTask sha request ownerId db = (.error error, db)) ∨
      db.Advances (transitionTask sha request ownerId db).2 .task request.entityId
        request.expectedVersion := by
  refine (Session.transaction_bind_cases (fun _ s => ?_) db).imp_right ?_
  · refine Session.Keeps.bind (keeps_getTaskState request.entityId s) (fun result => ?_) s rfl
    cases result with
    | none => exact .raise
    | some => exact .pure
  · rintro ⟨_, db', hblk, hcommitted⟩
    rw [show (transitionTask sha request ownerId db).2 = db' from hcommitted]
    rw [Txn.get_bind] at hblk
    obtain ⟨⟨taskStates, row, t⟩, hres, hblk⟩ := Txn.run_lift_bind.mp hblk
    dsimp only at hblk
    obtain ⟨hprojects, htks, hlog⟩ := insertTransition_eq_ok hblk
    obtain ⟨hbef, haft⟩ := version_of_transition hres
    have htype : t.entityType = .task := (transition_eq_ok hres).2.2.1
    have hne : t.entityType ≠ .project := by rw [htype]; nofun
    refine ⟨⟨fun id => ?_, fun id => ?_⟩, hbef, ?_⟩
    · rw [hprojects, StateDb.history_other hlog hne]
      exact .refl _ _ _
    · rw [htks]
      exact moves_of_transition hres hlog id
    · rw [StateDb.version, htks]
      exact haft

/-- A manifest adds its project, or changes columns that no transition uses. -/
theorem putProjectManifest_evolves (projectId : String) (revision : ℤ) (updatedAtUtc : Instant)
    (db : StateDb) : db.Evolves (putProjectManifest projectId revision updatedAtUtc db).2 := by
  rw [putProjectManifest, Session.transaction]
  split
  · exact .refl db
  rename_i hblk
  obtain ⟨_, -, h⟩ := bind_eq_ok.mp hblk
  obtain ⟨-, rfl⟩ := ok_pair_inj h
  refine ⟨fun id => ?_, fun id => .refl _ _ _⟩
  by_cases heq : projectId = id
  · subst heq
    have hself : ∀ merge hm,
        (db.projectStates.upsert (registeredProject projectId revision updatedAtUtc) merge hm).find?
          projectId = some ((db.projectStates.find? projectId).elim
            (registeredProject projectId revision updatedAtUtc) merge) :=
      Table.find?_upsert_self db.projectStates (registeredProject projectId revision updatedAtUtc)
    rw [hself]
    cases db.projectStates.find? projectId with
    | none => exact .imported _
    | some => exact .kept rfl rfl
  · rw [Table.find?_upsert_of_ne _ _ _ _ heq]
    exact .refl _ _ _

/-- What a block of `put_task_states` keeps: everything that was there. -/
structure StateDb.Extends (db db' : StateDb) : Prop where
  projects : db'.projectStates = db.projectStates
  tasks : ∀ id row, db.taskStates.find? id = some row → db'.taskStates.find? id = some row
  log : db'.transitions = db.transitions

theorem putTaskState_extends (db : StateDb) (task : TaskStateRecord) :
    Txn.Triple (StateDb.Extends db) (putTaskState task) fun _ => StateDb.Extends db := by
  intro s u s' hs hblk
  obtain ⟨_, -, hblk⟩ := bind_eq_ok.mp hblk
  split at hblk
  · obtain ⟨-, rfl⟩ := ok_pair_inj hblk
    exact hs
  · rename_i taskStates hins
    obtain ⟨_, -, hblk⟩ := bind_eq_ok.mp hblk
    obtain ⟨-, rfl⟩ := ok_pair_inj hblk
    refine ⟨hs.projects, fun id row hrow => ?_, hs.log⟩
    exact Table.find?_insert_of_some hins (hs.tasks id row hrow)

theorem putTaskStates_evolves (tasks : List { task : TaskStateRecord // task.errors = [] })
    (db : StateDb) : db.Evolves (putTaskStates tasks db).2 := by
  have hblk : Txn.Triple (StateDb.Extends db) (tasks.forM fun task => putTaskState task.1)
      fun _ => StateDb.Extends db := by
    induction tasks with
    | nil => exact .pure fun _ h => h
    | cons task _ ih => exact .bind (putTaskState_extends db task.1) fun _ => ih
  have hextends : db.Extends (putTaskStates tasks db).2 :=
    (Session.Keeps.transaction hblk).bind (fun _ => .pure) db ⟨rfl, fun _ _ => id, rfl⟩
  have hhist : ∀ entityType id,
      (putTaskStates tasks db).2.history entityType id = db.history entityType id := by
    intro entityType id
    rw [StateDb.history, hextends.log, StateDb.history]
  refine ⟨fun id => ?_, fun id => ?_⟩
  · rw [hhist, hextends.projects]
    exact .refl _ _ _
  · rw [hhist]
    exact .of_kept _ _ (hextends.tasks id)

/-! ### Runs -/

inductive StateCall where
  | putProjectManifest (projectId : String) (revision : ℤ) (updatedAtUtc : Instant)
  | putTaskStates (tasks : List { task : TaskStateRecord // task.errors = [] })
  | transitionProject (request : TransitionRequest ProjectLifecycleState)
  | transitionTask (request : TransitionRequest TaskLifecycleState) (ownerId : Option String)

namespace StateCall

/-- The store after a call, and whether the call has returned. -/
def exec (sha : Sha256) (db : StateDb) : StateCall → Bool × StateDb
  | putProjectManifest projectId revision updatedAtUtc =>
    (ProjectPipeline.putProjectManifest projectId revision updatedAtUtc db).map Except.isOk id
  | putTaskStates tasks => (ProjectPipeline.putTaskStates tasks db).map Except.isOk id
  | transitionProject request =>
    (ProjectPipeline.transitionProject sha request db).map Except.isOk id
  | transitionTask request ownerId =>
    (ProjectPipeline.transitionTask sha request ownerId db).map Except.isOk id

/-- The entity that a transition is for, with the expected version. -/
def expects : StateCall → Option (EntityType × String × ℤ)
  | transitionProject request => some (.project, request.entityId, request.expectedVersion)
  | transitionTask request _ => some (.task, request.entityId, request.expectedVersion)
  | _ => none

variable {sha : Sha256} {call : StateCall}

/-- A transition fails and changes nothing, or it has found its entity at the expected version. -/
theorem advances {id : String} {expected : ℤ}
    (hexpects : call.expects = some (entityType, id, expected)) :
    call.exec sha db = (false, db) ∨ db.Advances (call.exec sha db).2 entityType id expected := by
  cases call with
  | putProjectManifest | putTaskStates => cases hexpects
  | transitionProject request =>
    cases hexpects
    refine (transitionProject_cases sha request db).imp_left ?_
    rintro ⟨error, herr⟩
    rw [exec, herr]
    rfl
  | transitionTask request ownerId =>
    cases hexpects
    refine (transitionTask_cases sha request ownerId db).imp_left ?_
    rintro ⟨error, herr⟩
    rw [exec, herr]
    rfl

/-- **What a call does.** -/
theorem evolves (sha : Sha256) (db : StateDb) (call : StateCall) :
    db.Evolves (call.exec sha db).2 := by
  cases hexpects : call.expects with
  | some =>
    rcases advances hexpects with hfails | hadvances
    · rw [hfails]
      exact .refl db
    · exact hadvances.evolves
  | none =>
    cases call with
    | putProjectManifest projectId revision updatedAtUtc =>
      exact putProjectManifest_evolves projectId revision updatedAtUtc db
    | putTaskStates tasks => exact putTaskStates_evolves tasks db
    | transitionProject | transitionTask => cases hexpects

end StateCall

/-- A run: the store, the first record of every project and every task, and the versions that the
calls which returned have expected. -/
structure StateRun where
  db : StateDb
  firstProject : String → Option ProjectStateRecord
  firstTask : String → Option TaskStateRecord
  used : List (EntityType × String × ℤ)

namespace StateRun

def start (db : StateDb) : StateRun where
  db := db
  firstProject := db.projectStates.find?
  firstTask := db.taskStates.find?
  used := []

def step (sha : Sha256) (run : StateRun) (call : StateCall) : StateRun :=
  let outcome := call.exec sha run.db
  { db := outcome.2
    firstProject := fun id => run.firstProject id <|> outcome.2.projectStates.find? id
    firstTask := fun id => run.firstTask id <|> outcome.2.taskStates.find? id
    used := (if outcome.1 then call.expects.toList else []) ++ run.used }

end StateRun

/-! ### Explanations -/

section

variable {S δ : Type} {L : Lifecycle S}

/-- The log leads from the first record of an entity to its row: it is a path of the transition
table, its versions are consecutive, and the row has the state and the version at its end. -/
structure Lifecycle.Explains (L : Lifecycle S) (first : StateRow S δ)
    (log : List DomainStateTransition) (row : StateRow S δ) : Prop where
  trail : ∃ edges, log.map (fun t => (t.previousState, t.nextState)) =
      edges.map (Prod.map L.value L.value) ∧
    Trail (fun previous next => next ∈ L.transitions previous) first.state edges row.state
  consecutive : log.map DomainStateTransition.resultingVersion =
    (List.range log.length).map fun (i : ℕ) => first.version + 1 + i
  expected : ∀ t ∈ log, t.resultingVersion = t.expectedVersion + 1
  version : row.version = first.version + log.length

theorem Lifecycle.Explains.refl (row : StateRow S δ) : L.Explains row [] row :=
  ⟨⟨[], rfl, .nil⟩, rfl, nofun, by simp⟩

variable {log : List DomainStateTransition}

/-- A change of other columns. -/
theorem Lifecycle.Explains.kept {first row row' : StateRow S δ} (h : L.Explains first log row)
    (hst : row'.state = row.state) (hver : row'.version = row.version) :
    L.Explains first log row' := by
  obtain ⟨edges, heds, htrail⟩ := h.trail
  refine ⟨⟨edges, heds, ?_⟩, h.consecutive, h.expected, hver.trans h.version⟩
  rw [hst]
  exact htrail

/-- One more transition. -/
theorem Lifecycle.Explains.moved {first row row' : StateRow S δ} (h : L.Explains first log row)
    (ht : L.Performs row t row') : L.Explains first (log ++ [t]) row' := by
  obtain ⟨edges, heds, htrail⟩ := h.trail
  have hver := h.version
  have hexpected := ht.expected
  have hresulting := ht.resulting
  have hrow' := ht.version
  refine ⟨⟨edges ++ [(row.state, row'.state)], ?_, .snoc htrail ht.allowed⟩, ?_, ?_, ?_⟩
  · rw [map_append, heds, map_append, map_singleton, map_singleton, ht.previous, ht.next]
    rfl
  · rw [map_append, h.consecutive, length_append, length_singleton,
      range_succ, map_append, map_singleton, map_singleton]
    congr 2
    omega
  · intro t' ht'
    rcases mem_append.mp ht' with hold | hnew
    · exact h.expected t' hold
    · obtain rfl := mem_singleton.mp hnew
      omega
  · rw [length_append, length_singleton]
    omega

/-- Consecutive versions are ordered, so a log is listed in the order in which it was written. -/
theorem Lifecycle.Explains.sorted {first row : StateRow S δ} (h : L.Explains first log row) :
    log.insertionSort (fun a b => a.resultingVersion ≤ b.resultingVersion) = log := by
  refine List.Pairwise.insertionSort_eq ?_
  have hpairwise : (log.map DomainStateTransition.resultingVersion).Pairwise (· ≤ ·) := by
    rw [h.consecutive]
    refine List.Pairwise.map _ (fun a b hab => ?_) pairwise_lt_range
    omega
  exact pairwise_map.mp hpairwise

/-- Every row of a table has a first record and a log that explains it, and what is not stored has
neither. -/
def Lifecycle.Explained (L : Lifecycle S) (first : String → Option (StateRow S δ))
    (table : Table String (StateRow S δ) StateRow.entityId)
    (log : String → List DomainStateTransition) : Prop :=
  ∀ id, match table.find? id with
    | none => first id = none ∧ log id = []
    | some row => ∃ origin, first id = some origin ∧ L.Explains origin (log id) row

/-- Without a log, the rows are the first records. -/
theorem Lifecycle.explained_find? (table : Table String (StateRow S δ) StateRow.entityId)
    {log : String → List DomainStateTransition} (hlog : ∀ id, log id = []) :
    L.Explained table.find? table log := by
  intro id
  rw [hlog id]
  cases table.find? id with
  | none => exact ⟨rfl, rfl⟩
  | some row => exact ⟨row, rfl, .refl row⟩

variable {first : String → Option (StateRow S δ)}

theorem Lifecycle.Explained.step {table table' : Table String (StateRow S δ) StateRow.entityId}
    {log log' : String → List DomainStateTransition} (h : L.Explained first table log)
    (hmvs : ∀ id, L.Moves (table.find? id) (log id) (table'.find? id) (log' id)) :
    L.Explained (fun id => first id <|> table'.find? id) table' log' := by
  intro id
  have hid := h id
  have hmove := hmvs id
  dsimp only
  generalize table.find? id = row, table'.find? id = row', log id = before,
    log' id = after at hid hmove ⊢
  cases hmove with
  | absent =>
    obtain ⟨hfst, hlog⟩ := hid
    simp [hfst, hlog]
  | imported row =>
    obtain ⟨hfst, hlog⟩ := hid
    refine ⟨row, by simp [hfst], ?_⟩
    rw [hlog]
    exact .refl row
  | kept state version =>
    obtain ⟨origin, hfst, hexplains⟩ := hid
    exact ⟨origin, by simp [hfst], hexplains.kept state version⟩
  | moved performs =>
    obtain ⟨origin, hfst, hexplains⟩ := hid
    exact ⟨origin, by simp [hfst], hexplains.moved performs⟩

/-- The log explains a stored row also as it is listed, in the order of the versions. -/
theorem Lifecycle.Explained.of_mem {table : Table String (StateRow S δ) StateRow.entityId}
    {log : String → List DomainStateTransition} (h : L.Explained first table log)
    {row : StateRow S δ} (hrow : row ∈ table.rows) :
    ∃ origin, first row.entityId = some origin ∧ L.Explains origin ((log row.entityId).insertionSort
      fun a b => a.resultingVersion ≤ b.resultingVersion) row := by
  have hid := h row.entityId
  rw [table.find?_of_mem hrow] at hid
  obtain ⟨origin, hfst, hexplains⟩ := hid
  rw [hexplains.sorted]
  exact ⟨origin, hfst, hexplains⟩

end

/-! ### The invariant -/

/-- The logs explain the rows, and every version that was used lies below the version of its
entity, so none is used again. -/
structure StateRun.Inv (run : StateRun) : Prop where
  projects : projectLifecycle.Explained run.firstProject run.db.projectStates
    (run.db.history .project)
  tasks : taskLifecycle.Explained run.firstTask run.db.taskStates (run.db.history .task)
  once : run.used.Nodup
  past : ∀ entityType id expected, (entityType, id, expected) ∈ run.used →
    ∃ version, run.db.version entityType id = some version ∧ expected < version

theorem StateRun.inv_start (hlog : db.transitions.rows = []) : (start db).Inv := by
  have hhist : ∀ entityType id, db.history entityType id = [] := by
    intro entityType id
    rw [StateDb.history, hlog]
    rfl
  exact ⟨explained_find? db.projectStates (hhist .project),
    explained_find? db.taskStates (hhist .task), nodup_nil, nofun⟩

/-- The versions that are used after a call: those of before, or one more, with which an entity
has advanced. -/
theorem StateRun.step_used (sha : Sha256) (run : StateRun) (call : StateCall) :
    (run.step sha call).used = run.used ∨ ∃ entityType id expected,
      (run.step sha call).used = (entityType, id, expected) :: run.used ∧
        run.db.Advances (run.step sha call).db entityType id expected := by
  dsimp only [step]
  cases hexpects : call.expects with
  | none => exact .inl (by split <;> rfl)
  | some entry =>
    obtain ⟨entityType, id, expected⟩ := entry
    rcases StateCall.advances hexpects with hfails | hadvances
    · rw [hfails]
      exact .inl rfl
    · split
      · exact .inr ⟨entityType, id, expected, rfl, hadvances⟩
      · exact .inl rfl

theorem StateRun.Inv.step {run : StateRun} (h : run.Inv) (sha : Sha256) (call : StateCall) :
    (run.step sha call).Inv := by
  have hevolves : run.db.Evolves (run.step sha call).db := call.evolves sha run.db
  have hpast : ∀ entityType id expected, (entityType, id, expected) ∈ run.used →
      ∃ version, (run.step sha call).db.version entityType id = some version ∧
        expected < version := by
    intro entityType id expected hmem
    obtain ⟨version, hver, hlt⟩ := h.past entityType id expected hmem
    obtain ⟨version', hver', hle⟩ := hevolves.version_le hver
    exact ⟨version', hver', hlt.trans_le hle⟩
  have hprojects := h.projects.step hevolves.projects
  have htks := h.tasks.step hevolves.tasks
  rcases run.step_used sha call with hsame | ⟨entityType, id, expected, hused, hadvances⟩
  · exact ⟨hprojects, htks, hsame ▸ h.once, hsame ▸ hpast⟩
  · refine ⟨hprojects, htks, ?_, ?_⟩
    · rw [hused, nodup_cons]
      refine ⟨fun hmem => ?_, h.once⟩
      -- A version that was used before is past, and this one is the present version.
      obtain ⟨version, hver, hlt⟩ := h.past entityType id expected hmem
      have hpresent := some.inj (hver.symm.trans hadvances.before)
      omega
    · rw [hused]
      intro entityType' id' expected' hmem
      rcases mem_cons.mp hmem with heq | hmem
      · cases heq
        exact ⟨expected + 1, hadvances.after, by omega⟩
      · exact hpast entityType' id' expected' hmem

/-- **The transition log explains every state.** Start with projects and tasks and an empty log,
and let clients make any calls. Then the log of every task and of every project, listed by
resulting versions, leads from its first record to the stored one, and no two calls that returned
have expected the same version of an entity. -/
theorem transition_log_explains (sha : Sha256) (db : StateDb) (calls : List StateCall)
    (hlog : db.transitions.rows = []) :
    let run := runCalls (StateRun.step sha) (StateRun.start db) calls
    (∀ row ∈ run.db.projectStates.rows, ∃ first, run.firstProject row.entityId = some first ∧
      projectLifecycle.Explains first (run.db.listTransitions .project row.entityId) row) ∧
    (∀ row ∈ run.db.taskStates.rows, ∃ first, run.firstTask row.entityId = some first ∧
      taskLifecycle.Explains first (run.db.listTransitions .task row.entityId) row) ∧
    run.used.Nodup := by
  intro run
  have hinv : run.Inv :=
    Along.invariant (fun h _ => h.step sha _) (Along.of_mem (fun _ _ => trivial) _)
      (StateRun.inv_start hlog)
  exact ⟨fun _ => hinv.projects.of_mem, fun _ => hinv.tasks.of_mem, hinv.once⟩

/-! ### Two clients -/

def readyTask : TaskStateRecord where
  entityId := "PP-TASK-000001"
  state := .ready
  version := 4
  blockedReason := none
  lastTransitionId := none
  updatedAtUtc := 0
  details := { projectId := "PROJECT-P" }

/-- Claim the task, at the version with which it was imported. -/
def claimTask (actorId : String) : StateCall :=
  .transitionTask
    { entityId := "PP-TASK-000001"
      nextState := .claimed
      expectedVersion := 4
      reason := "claim"
      actorId := actorId
      correlationId := "run"
      now := 1 } (some actorId)

/-- The task is imported, and two clients claim it. -/
def twoClaims : List StateCall :=
  [.putProjectManifest "PROJECT-P" 1 0, .putTaskStates [⟨readyTask, by decide +kernel⟩],
    claimTask "one", claimTask "two"]

/-- The second client fails, and the log of the task explains the claim of the first. -/
theorem transition_log_explains_two_claims :
    let run := runCalls (StateRun.step .bytePolynomial) (StateRun.start {}) twoClaims
    run.used = [(.task, "PP-TASK-000001", 4)] ∧ ∃ row ∈ run.db.taskStates.rows,
      row.version = 5 ∧ row.state = .claimed ∧ row.details.ownerId = some "one" ∧
        ∃ first, run.firstTask row.entityId = some first ∧
          taskLifecycle.Explains first (run.db.listTransitions .task row.entityId) row := by
  have hexplains := transition_log_explains .bytePolynomial {} twoClaims rfl
  have hrun : let run := runCalls (StateRun.step .bytePolynomial) (StateRun.start {}) twoClaims
      run.used = [(.task, "PP-TASK-000001", 4)] ∧ (run.db.taskStates.rows.any fun row =>
        row.version = 5 ∧ row.state = .claimed ∧ row.details.ownerId = some "one") = true := by
    decide +kernel
  -- From here on only these facts about the run are used, and not its value.
  generalize runCalls (StateRun.step .bytePolynomial) (StateRun.start {}) twoClaims = run at *
  obtain ⟨-, htks, -⟩ := hexplains
  obtain ⟨hused, hany⟩ := hrun
  obtain ⟨row, hrow, hfa⟩ := any_eq_true.mp hany
  obtain ⟨hver, hst, hown⟩ := of_decide_eq_true hfa
  exact ⟨hused, row, hrow, hver, hst, hown, htks row hrow⟩

end ProjectPipeline
