import ProjectPipeline.Migrations

/-!
# Steps of the Migration Runner

What one step of a runner can do to the database, on a connection without an open transaction. A
step that fails changes nothing, wherever it fails. A migration that is applied was not recorded,
its dependencies were, its script has been executed to its end, and it is recorded. A migration
that is rolled back was the one applied last, its script has been executed to its end, and it is
not recorded any more. `MigrationDb.Step` says so once, and the results about runs of several
runners are inductions over it.

## Main results

* `RunnerStep.exec_spec`: what a step does.
* `obeys_program`: a runner applies migrations of the catalogue, with the texts it has read.
-/

namespace ProjectPipeline

variable {σ α : Type}

def MigrationEnv.runStatement (env : MigrationEnv σ) (schema : σ) (statement : String) :
    Except PyError σ :=
  match env.execute statement schema with
  | .error message => .error (.raised "OperationalError" message)
  | .ok schema => .ok schema

/-- The schema after a script that is executed without interruption. -/
def MigrationEnv.runScript (env : MigrationEnv σ) (text : String) (schema : σ) :
    Except PyError σ := do
  let statements ← splitSql text
  statements.foldlM env.runStatement schema

/-- The receipt of a migration whose script has a text. -/
def MigrationRecord.receipt (m : MigrationRecord) (text : String) : MigrationRow where
  migrationId := m.migrationId
  sequence := m.sequence
  name := m.name
  sqlSha256 := m.sqliteUpSha256
  script := text

/-- What a step may do. -/
inductive MigrationDb.Step (env : MigrationEnv σ) (files : String → Except PyError String)
    (db : MigrationDb σ) : RunnerStep → MigrationDb σ → Prop
  | kept {step} : Step env files db step db
  | applied {m text fault schema receipts}
      (absent : db.receipts.find? m.migrationId = none)
      (dependencies : ∀ dependency ∈ m.dependsOn, db.receipts.find? dependency ≠ none)
      (executed : env.runScript text db.schema = .ok schema)
      (recorded : db.receipts.insert (m.receipt text) = some receipts) :
      Step env files db (.admitOrApply m text fault) ⟨schema, receipts⟩
  | reverted {m path text fault schema}
      (last : db.applied.getLast? = some m.migrationId)
      (known : env.catalog.find? m.migrationId = some m)
      (down : m.sqliteDownPath = some path) (read : files path = .ok text)
      (executed : env.runScript text db.schema = .ok schema) :
      Step env files db (.rollbackLast fault)
        ⟨schema, db.receipts.deleteWhere fun row => row.migrationId = m.migrationId⟩

/-! ### Parts of a transaction -/

section

variable {env : MigrationEnv σ} {files : String → Except PyError String}
  {fault : Option FaultPoint} {db db' : MigrationDb σ} {u : Unit}

theorem executeStatement_eq_ok {statement : String × ℕ}
    (h : executeStatement env fault statement db = .ok (u, db')) :
    env.runStatement db.schema statement.1 = .ok db'.schema ∧ db'.receipts = db.receipts := by
  obtain ⟨-, hrest⟩ := Txn.run_refuseIf_bind h
  rw [MigrationEnv.runStatement]
  cases hexecute : env.execute statement.1 db.schema with
  | error =>
    rw [hexecute] at hrest
    cases hrest
  | ok =>
    rw [hexecute] at hrest
    obtain ⟨-, rfl⟩ := ok_pair_inj hrest
    exact ⟨rfl, rfl⟩

theorem executeScript_eq_ok {text : String} (h : executeScript env fault text db = .ok (u, db')) :
    env.runScript text db.schema = .ok db'.schema ∧ db'.receipts = db.receipts := by
  obtain ⟨statements, hsplit, h⟩ := Txn.run_lift_bind.mp h
  rw [MigrationEnv.runScript, hsplit]
  -- The places of the statements are used by faults only.
  have hloop : ∀ (l : List (String × ℕ)) (db : MigrationDb σ),
      l.forM (executeStatement env fault) db = .ok (u, db') →
        (l.map Prod.fst).foldlM env.runStatement db.schema = .ok db'.schema ∧
          db'.receipts = db.receipts := by
    intro l
    induction l with
    | nil =>
      intro db h
      obtain ⟨-, rfl⟩ := ok_pair_inj h
      exact ⟨rfl, rfl⟩
    | cons _ _ ih =>
      intro db h
      obtain ⟨_, db₁, hfst, hrest⟩ := Txn.run_bind.mp h
      obtain ⟨hsch, hrecs⟩ := executeStatement_eq_ok hfst
      obtain ⟨hschemas, hrecs'⟩ := ih db₁ hrest
      refine ⟨?_, hrecs'.trans hrecs⟩
      rw [List.map_cons, List.foldlM_cons, hsch]
      exact hschemas
  have hrun := hloop _ db h
  rw [List.zipIdx_map_fst] at hrun
  exact hrun

theorem insertReceipt_eq_ok {row : MigrationRow} (h : insertReceipt fault row db = .ok (u, db')) :
    db'.schema = db.schema ∧ db.receipts.insert row = some db'.receipts := by
  obtain ⟨-, hrest⟩ := Txn.run_refuseIf_bind h
  obtain ⟨_, -, hrest⟩ := Txn.run_lift_bind.mp hrest
  cases hins : db.receipts.insert row with
  | none =>
    rw [hins] at hrest
    cases hrest
  | some =>
    rw [hins] at hrest
    obtain ⟨_, -, hrest⟩ := bind_eq_ok.mp hrest
    obtain ⟨-, rfl⟩ := ok_pair_inj hrest
    exact ⟨rfl, rfl⟩

/-! ### Blocks -/

variable {m : MigrationRecord}

theorem applyMigration_eq_ok {text : String}
    (h : applyMigration env fault m text db = .ok (u, db')) :
    (∀ dependency ∈ m.dependsOn, db.receipts.find? dependency ≠ none) ∧
      env.runScript text db.schema = .ok db'.schema ∧
      db.receipts.insert (m.receipt text) = some db'.receipts := by
  rw [applyMigration, Txn.get_bind] at h
  obtain ⟨hdeps, h⟩ := Txn.run_refuseIf_bind h
  obtain ⟨-, h⟩ := Txn.run_refuseIf_bind h
  obtain ⟨_, db₁, hscript, h⟩ := Txn.run_bind.mp h
  obtain ⟨-, h⟩ := Txn.run_refuseIf_bind h
  obtain ⟨-, h⟩ := Txn.run_refuseIf_bind h
  obtain ⟨-, h⟩ := Txn.run_refuseIf_bind h
  obtain ⟨_, db₂, hins, hhook⟩ := Txn.run_bind.mp h
  obtain ⟨-, rfl⟩ := Txn.refuseIf_eq_ok hhook
  obtain ⟨hsch, hrecs⟩ := executeScript_eq_ok hscript
  obtain ⟨hsch', hrecd⟩ := insertReceipt_eq_ok hins
  rw [hsch', ← hrecs]
  refine ⟨fun dependency hmem hnone => hdeps ⟨dependency, hmem, ?_⟩, hsch, hrecd⟩
  rw [← hrecs]
  exact hnone

/-- A migration that is recorded is left alone, another one is applied. -/
theorem admitBlock_eq_ok {text : String} (h : admitBlock env fault m text db = .ok (u, db')) :
    db.Step env files (.admitOrApply m text fault) db' := by
  obtain ⟨-, hrest⟩ := Txn.run_refuseIf_bind h
  rw [Txn.get_bind] at hrest
  cases hfind : db.receipts.find? m.migrationId with
  | some =>
    rw [hfind] at hrest
    obtain ⟨-, rfl⟩ := Txn.refuseIf_eq_ok hrest
    exact .kept
  | none =>
    rw [hfind] at hrest
    obtain ⟨hdeps, hexecuted, hrecd⟩ := applyMigration_eq_ok hrest
    exact .applied hfind hdeps hexecuted hrecd

theorem revertMigration_eq_ok {stored : MigrationRow}
    (h : revertMigration env fault files m stored db = .ok (u, db')) :
    ∃ path text, m.sqliteDownPath = some path ∧ files path = .ok text ∧
      env.runScript text db.schema = .ok db'.schema ∧
      db'.receipts = db.receipts.deleteWhere fun row => row.migrationId = m.migrationId := by
  obtain ⟨-, h⟩ := Txn.run_refuseIf_bind h
  obtain ⟨hdown, h⟩ := Txn.run_refuseIf_bind h
  obtain ⟨text, hread, h⟩ := Txn.run_lift_bind.mp h
  obtain ⟨_, db₁, hscript, h⟩ := Txn.run_bind.mp h
  obtain ⟨-, h⟩ := Txn.run_refuseIf_bind h
  obtain ⟨-, rfl⟩ := ok_pair_inj h
  obtain ⟨hsch, hrecs⟩ := executeScript_eq_ok hscript
  obtain ⟨path, hpath⟩ := Option.ne_none_iff_exists'.mp (not_or.mp hdown).2
  rw [hpath, Option.getD_some] at hread
  refine ⟨path, text, hpath, hread, hsch, ?_⟩
  rw [← hrecs]

/-- Nothing is rolled back, or the migration that is applied last. -/
theorem rollbackBlock_eq_ok (h : rollbackBlock env fault files db = .ok (u, db')) :
    db.Step env files (.rollbackLast fault) db' := by
  obtain ⟨-, hrest⟩ := Txn.run_refuseIf_bind h
  rw [Txn.get_bind] at hrest
  cases hlast : db.applied.getLast? with
  | none =>
    rw [hlast] at hrest
    obtain ⟨-, rfl⟩ := ok_pair_inj hrest
    exact .kept
  | some migrationId =>
    rw [hlast] at hrest
    change revertLast env fault files migrationId db = _ at hrest
    rw [revertLast, Txn.get_bind] at hrest
    cases hkn : env.catalog.find? migrationId with
    | none =>
      rw [hkn] at hrest
      cases hrest
    | some m =>
      have hid : m.migrationId = migrationId := by simpa using List.find?_some hkn
      cases hstd : db.receipts.find? migrationId with
      | none =>
        rw [hkn, hstd] at hrest
        cases hrest
      | some =>
        rw [hkn, hstd] at hrest
        obtain ⟨path, text, hdown, hread, hexecuted, hrecs⟩ := revertMigration_eq_ok hrest
        have hreverted : db.Step env files (.rollbackLast fault) ⟨db'.schema, _⟩ :=
          .reverted (hid ▸ hlast) (hid ▸ hkn) hdown hread hexecuted
        rw [← hrecs] at hreverted
        exact hreverted

end

/-! ### Steps -/

/-- **What a step does.** -/
theorem RunnerStep.exec_spec (env : MigrationEnv σ) (step : RunnerStep) {host : Host σ}
    (h : host.transaction = none) :
    ∃ db, step.exec env host = { host with database := db } ∧
      host.database.Step env host.files step db := by
  -- A transaction whose block makes a step of the kind.
  have hwriter : ∀ {α : Type} {fault wrap} {block : Txn (MigrationDb σ) α},
      (∀ a db, block host.database = .ok (a, db) → host.database.Step env host.files step db) →
      ∃ db, (writer fault wrap block host).2 = { host with database := db } ∧
        host.database.Step env host.files step db := by
    intro α fault wrap block hblk
    rcases writer_of_idle h with ⟨error, hrefused⟩ | ⟨a, db, hok, hcommitted⟩
    · exact ⟨host.database, by rw [hrefused], .kept⟩
    · exact ⟨db, by rw [hcommitted], hblk a db hok⟩
  cases step with
  | configureConnection =>
    refine ⟨host.database, ?_, .kept⟩
    rw [exec, session, ProjectPipeline.configureConnection]
    split <;> rfl
  | ensureControlTable =>
    refine hwriter fun a db hok => ?_
    obtain ⟨-, rfl⟩ := ok_pair_inj hok
    exact .kept
  | readText | readApplied => exact ⟨host.database, rfl, .kept⟩
  | admitOrApply => exact hwriter fun _ _ => admitBlock_eq_ok
  | rollbackLast => exact hwriter fun _ _ => rollbackBlock_eq_ok

/-! ### Programs -/

/-- A runner applies migrations of the catalogue, with the text it has read last. -/
def runnerDiscipline (env : MigrationEnv σ) :
    Discipline RunnerStep (Host σ) (Option (String × String)) MigrationStatus where
  allowed mode step _ :=
    match step with
    | .admitOrApply m text _ => m ∈ env.catalog.migrations ∧ mode = some (m.sqliteUpPath, text)
    | _ => True
  ends _ _ := True

section

variable {env : MigrationEnv σ} {ε : Type} {outside : ε → Host σ → Host σ}

theorem obeys_admitOrApply {m : MigrationRecord} (hm : m ∈ env.catalog.migrations)
    (faults : String → Option FaultPoint) (mode : Option (String × String)) :
    (admitOrApply env faults m).Obeys ⟨(runnerDiscipline env).allowed, fun _ _ => True⟩
      (migrationProtocol env outside).shift mode := by
  intro host
  refine ⟨trivial, ?_⟩
  change (Prog.onReturn _ (host.files m.sqliteUpPath)).Obeys _ _ _
  cases hread : host.files m.sqliteUpPath with
  | error => trivial
  | ok =>
    intro host'
    refine ⟨⟨hm, ?_⟩, trivial⟩
    simp [migrationProtocol, hread, Except.toOption]

theorem obeys_admitUpTo (target : Option String) (faults : String → Option FaultPoint)
    {migrations : List MigrationRecord} (h : ∀ m ∈ migrations, m ∈ env.catalog.migrations)
    (mode : Option (String × String)) :
    (admitUpTo env target faults migrations).Obeys
      ⟨(runnerDiscipline env).allowed, fun _ _ => True⟩
      (migrationProtocol env outside).shift mode := by
  induction migrations generalizing mode with
  | nil => trivial
  | cons _ _ ih =>
    rw [List.forall_mem_cons] at h
    refine Prog.Obeys.bind (obeys_admitOrApply h.1 faults mode) fun mode result _ => ?_
    cases result with
    | error => trivial
    | ok =>
      change (if _ then _ else _ : Prog _ _ _).Obeys _ _ _
      split
      · trivial
      · exact ih h.2 mode

theorem obeys_migrationStatus (mode : Option (String × String)) :
    (migrationStatus env).Obeys (runnerDiscipline env) (migrationProtocol env outside).shift mode :=
  fun _ => ⟨trivial, trivial⟩

/-- The methods of a runner keep to it. -/
theorem obeys_program (call : RunnerCall) (mode : Option (String × String)) :
    (call.program env).Obeys (runnerDiscipline env) (migrationProtocol env outside).shift mode := by
  cases call with
  | applyAll target faults =>
    have hchk : ∀ mode, (Prog.refuseIf (∃ migrationId ∈ target,
        migrationId ∉ env.catalog.identifiers) (migrationError ("unknown migration target: " ++
          target.getD "")) : Prog RunnerStep (Host σ) Unit).Obeys
            ⟨(runnerDiscipline env).allowed, fun _ _ => True⟩
            (migrationProtocol env outside).shift mode := by
      intro mode
      rw [Prog.refuseIf]
      split <;> trivial
    refine Prog.Obeys.bind (hchk mode) fun mode result _ => ?_
    cases result with
    | error => trivial
    | ok u =>
      have hall : ∀ m ∈ env.catalog.migrations, m ∈ env.catalog.migrations := fun _ hm => hm
      refine Prog.Obeys.bind (obeys_admitUpTo target faults hall mode) fun mode result _ => ?_
      cases result with
      | error => trivial
      | ok => exact obeys_migrationStatus mode
  | rollbackLast fault =>
    intro host
    refine ⟨trivial, ?_⟩
    change (Prog.onReturn _ ((RunnerStep.rollbackLast fault).session env host).1).Obeys _ _ _
    cases ((RunnerStep.rollbackLast fault).session env host).1 with
    | error => trivial
    | ok => exact obeys_migrationStatus mode

end

end ProjectPipeline
