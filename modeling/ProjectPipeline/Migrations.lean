import ProjectPipeline.MigrationCatalog
import ProjectPipeline.Processes
import ProjectPipeline.StateStore

/-!
# The Migration Runner

`SQLiteMigrationRunner` applies the migrations of a catalogue to a SQLite database and rolls the
last one back. Every migration is one transaction, opened with `BEGIN IMMEDIATE`: the script is
executed and a receipt is inserted into `schema_migrations`. Whatever raises in between, the
transaction is rolled back.

What SQLite makes of a statement is a parameter, `execute`, on an arbitrary type of schemas, and so
are the files of the repository, as `read_text` returns them. A transaction may fail at any
`FaultPoint`. The table `schema_migrations` is created by the constructor of a runner, so it is
there when the methods are called, and scripts do not write to it.

The methods of a runner are programs of steps, one for each transaction and each reading of a file,
so several runners can be interleaved. A `Host` is what a runner sees: the files, the committed
database, and the transaction that is open on its connection. Between two steps of a runner none
is, unless its caller has opened one before.

## Main results

* `writer_of_open`, `writer_of_idle`: what a transaction of a runner does with and without a
  transaction that is open already.
-/

namespace ProjectPipeline

variable {σ α ε : Type}

/-! ### The database -/

/-- A row of `schema_migrations`. `script` is not a column: it is the text whose statements have
been executed. -/
structure MigrationRow where
  migrationId : String
  sequence : ℤ
  name : String
  sqlSha256 : String
  script : String
  deriving DecidableEq

/-- The schema that the scripts make, and the receipts. -/
structure MigrationDb (σ : Type) where
  schema : σ
  receipts : Table String MigrationRow MigrationRow.migrationId := .empty

/-- `SELECT migration_id FROM schema_migrations ORDER BY sequence`. -/
def MigrationDb.applied (db : MigrationDb σ) : List String :=
  (db.receipts.rows.insertionSort fun a b => a.sequence ≤ b.sequence).map MigrationRow.migrationId

structure MigrationApplyHooks where
  failBeforeDdlFor : Option String := none
  failAfterDdlFor : Option String := none
  failBeforeReceiptFor : Option String := none
  failBeforeCommitFor : Option String := none
  abortProcessAfterDdlFor : Option String := none

/-- The places at which a transaction may fail. -/
inductive FaultPoint where
  | start | query | statement (index : ℕ) | receipt | commit
  deriving DecidableEq

structure MigrationEnv (σ : Type) where
  execute : String → σ → Except String σ
  catalog : MigrationCatalog
  hooks : Option MigrationApplyHooks := none

/-! ### Inside a transaction -/

/-- A failure of the environment. -/
def failWhen (condition : Prop) [Decidable condition] : Txn (MigrationDb σ) Unit :=
  Txn.refuseIf condition (.raised "OperationalError" "disk I/O error")

variable (env : MigrationEnv σ) (fault : Option FaultPoint)

def executeStatement (statement : String × ℕ) : Txn (MigrationDb σ) Unit := do
  failWhen (fault = some (.statement statement.2))
  fun db =>
    match env.execute statement.1 db.schema with
    | .error message => .error (.raised "OperationalError" message)
    | .ok schema => .ok ((), { db with schema })

/-- `for statement in _split_sql(text): self.connection.execute(statement)`. -/
def executeScript (text : String) : Txn (MigrationDb σ) Unit := do
  let statements ← (splitSql text :)
  statements.zipIdx.forM (executeStatement env fault)

/-- `INSERT INTO schema_migrations`. -/
def insertReceipt (row : MigrationRow) : Txn (MigrationDb σ) Unit := do
  failWhen (fault = some .receipt)
  let _ ← (bindInteger row.sequence :)
  fun db =>
    match db.receipts.insert row with
    | none => .error (.integrityError "UNIQUE constraint failed: schema_migrations.migration_id")
    | some receipts => do
        raiseIf (db.receipts.rows.any fun x => x.sequence = row.sequence)
          (.integrityError "UNIQUE constraint failed: schema_migrations.sequence")
        return ((), { db with receipts })

def runHook (hook : MigrationApplyHooks → Option String) (field migrationId : String) :
    Txn (MigrationDb σ) Unit :=
  Txn.refuseIf (env.hooks.bind hook = some migrationId)
    (migrationError ("injected fault " ++ field ++ " for " ++ migrationId))

def rejectChecksumMismatch (migrationId stored expected : String) : Txn (MigrationDb σ) Unit :=
  Txn.refuseIf (stored ≠ expected) (migrationError
    ("migration " ++ migrationId ++ " checksum mismatch: stored=" ++ stored ++ " catalog=" ++
      expected))

variable (m : MigrationRecord) (text : String)

/-- The part of `_admit_or_apply` for a migration that is not recorded. The process that is aborted
after the script does not come back, and SQLite rolls its transaction back. -/
def applyMigration : Txn (MigrationDb σ) Unit := do
  let db ← get
  Txn.refuseIf (∃ dependency ∈ m.dependsOn, db.receipts.find? dependency = none)
    (migrationError ("migration dependency is not applied: " ++ m.migrationId))
  runHook env MigrationApplyHooks.failBeforeDdlFor "fail_before_ddl_for" m.migrationId
  executeScript env fault text
  runHook env MigrationApplyHooks.failAfterDdlFor "fail_after_ddl_for" m.migrationId
  Txn.refuseIf (env.hooks.bind MigrationApplyHooks.abortProcessAfterDdlFor = some m.migrationId)
    (.raised "SystemExit" "1")
  runHook env MigrationApplyHooks.failBeforeReceiptFor "fail_before_receipt_for" m.migrationId
  insertReceipt fault
    { migrationId := m.migrationId
      sequence := m.sequence
      name := m.name
      sqlSha256 := m.sqliteUpSha256
      script := text }
  runHook env MigrationApplyHooks.failBeforeCommitFor "fail_before_commit_for" m.migrationId

/-- What `_admit_or_apply` does in its transaction. -/
def admitBlock : Txn (MigrationDb σ) Unit := do
  failWhen (fault = some .query)
  let db ← get
  match db.receipts.find? m.migrationId with
  | some row => rejectChecksumMismatch m.migrationId row.sqlSha256 m.sqliteUpSha256
  | none => applyMigration env fault m text

variable (files : String → Except PyError String)

/-- The part of `rollback_last` that executes the script. -/
def revertMigration (m : MigrationRecord) (stored : MigrationRow) : Txn (MigrationDb σ) Unit := do
  rejectChecksumMismatch m.migrationId stored.sqlSha256 m.sqliteUpSha256
  Txn.refuseIf (m.reversible = false ∨ m.sqliteDownPath = none)
    (migrationError ("migration is not reversible: " ++ m.migrationId))
  let text ← (files (m.sqliteDownPath.getD "") :)
  executeScript env fault text
  failWhen (fault = some .receipt)
  modify fun db =>
    { db with receipts := db.receipts.deleteWhere fun row => row.migrationId = m.migrationId }

/-- The part of `rollback_last` that looks up the migration that is applied last. -/
def revertLast (migrationId : String) :
    Txn (MigrationDb σ) Unit := do
  let db ← get
  match env.catalog.find? migrationId, db.receipts.find? migrationId with
  | none, _ => .raise (migrationError
      ("applied migration is absent from catalog: " ++ migrationId))
  | some _, none => .raise (migrationError
      ("applied migration vanished under lock: " ++ migrationId))
  | some m, some stored => revertMigration env fault files m stored

/-- What `rollback_last` does in its transaction. -/
def rollbackBlock : Txn (MigrationDb σ) Unit := do
  failWhen (fault = some .query)
  let db ← get
  match db.applied.getLast? with
  | none => pure ()
  | some migrationId => revertLast env fault files migrationId

/-! ### Transactions of a runner -/

/-- What a runner sees: the files, the committed database and the transaction that is open on its
connection. `PRAGMA journal_mode = WAL` is executed on a database in a file only; whether it raises
depends on the state of the connection. -/
structure Host (σ : Type) where
  files : String → Except PyError String
  database : MigrationDb σ
  transaction : Option (MigrationDb σ) := none
  sharedFile : Bool := false
  journalModeError : Option PyError := none

namespace Host

/-- `connection.rollback()`. -/
def rollback (host : Host σ) : Host σ := { host with transaction := none }

/-- What a query reads. -/
def visible (host : Host σ) : MigrationDb σ := host.transaction.getD host.database

end Host

/-- What `_begin_writer` raises while a transaction is open. -/
def writerLockError : PyError :=
  migrationError "cannot acquire a migration writer lock while another transaction is open"

def beginWriter : Session (Host σ) Unit := fun host =>
  if host.transaction.isSome then (.error writerLockError, host)
  else if fault = some .start then
    (.error (migrationError "sqlite remained busy: database is locked"), host)
  else (.ok (), { host with transaction := some host.database })

/-- Statements in the open transaction. -/
def within (block : Txn (MigrationDb σ) α) : Session (Host σ) α := fun host =>
  match block host.visible with
  | .error error => (.error error, host)
  | .ok (a, db) => (.ok a, { host with transaction := some db })

/-- `connection.commit()`. -/
def commit : Session (Host σ) Unit := fun host =>
  if fault = some .commit then (.error (.raised "OperationalError" "disk I/O error"), host)
  else (.ok (), { host with database := host.visible, transaction := none })

/-- The `try` block of a method: it begins a transaction and commits it, and whatever raises, the
connection is rolled back. -/
def writer (wrap : PyError → PyError) (block : Txn (MigrationDb σ) α) : Session (Host σ) α :=
  fun host =>
    let body : Session (Host σ) α := do
      beginWriter fault
      let a ← within block
      commit fault
      return a
    match body host with
    | (.ok a, host') => (.ok a, host')
    | (.error error, host') => (.error (wrap error), host'.rollback)

/-- A `MigrationError` is raised as it is, another exception as the cause of one. -/
def wrapFailure (message : String) (error : PyError) : PyError :=
  match error with
  | .raised "MigrationError" _ | .raised "SystemExit" _ => error
  | _ => migrationError (message ++ error.message)

/-! ### Steps -/

inductive RunnerStep where
  | configureConnection
  | ensureControlTable
  | readText (path : String)
  | admitOrApply (m : MigrationRecord) (text : String) (fault : Option FaultPoint)
  | rollbackLast (fault : Option FaultPoint)
  | readApplied

/-- `_configure_connection`. The other pragmas do not raise. -/
def configureConnection : Session (Host σ) Unit := fun host =>
  match host.sharedFile, host.journalModeError with
  | true, some error => (.error error, host)
  | _, _ => (.ok (), host)

def ensureControlTable : Session (Host σ) Unit :=
  writer none (fun error => migrationError
    ("schema_migrations control table failed: " ++ error.message)) (pure ())

def RunnerStep.session : RunnerStep → Session (Host σ) Unit
  | configureConnection => ProjectPipeline.configureConnection
  | ensureControlTable => ProjectPipeline.ensureControlTable
  | admitOrApply m text fault =>
    writer fault (wrapFailure ("migration " ++ m.migrationId ++ " failed: "))
      (admitBlock env fault m text)
  | rollbackLast fault => fun host =>
    writer fault (wrapFailure "rollback failed: ") (rollbackBlock env fault host.files) host
  | readText _ | readApplied => pure ()

def RunnerStep.exec (step : RunnerStep) (host : Host σ) : Host σ := (step.session env host).2

/-- A step without a result. -/
def performStep (step : RunnerStep) : Prog RunnerStep (Host σ) Unit :=
  .call step fun host => (step.session env host).1

/-! ### Methods -/

structure MigrationStatus where
  applied : List String
  pending : List String
  latestAvailable : Option String
  latestApplied : Option String
  deriving DecidableEq

/-- `SQLiteMigrationRunner.__init__`, behind the loading of the catalogue. -/
def initRunner : Prog RunnerStep (Host σ) Unit := do
  performStep env .configureConnection
  performStep env .ensureControlTable

/-- `status`. -/
def migrationStatus : Prog RunnerStep (Host σ) MigrationStatus :=
  .call .readApplied fun host =>
    let applied := host.visible.applied
    let available := env.catalog.identifiers
    .ok
      { applied
        pending := available.filter fun item => !(applied.contains item)
        latestAvailable := available.getLast?
        latestApplied := applied.getLast? }

def admitOrApply (faults : String → Option FaultPoint) (m : MigrationRecord) :
    Prog RunnerStep (Host σ) Unit := do
  let text ← .call (.readText m.sqliteUpPath) fun host => host.files m.sqliteUpPath
  performStep env (.admitOrApply m text (faults m.migrationId))

/-- The loop of `apply_all`. -/
def admitUpTo (target : Option String) (faults : String → Option FaultPoint) :
    List MigrationRecord → Prog RunnerStep (Host σ) Unit
  | [] => pure ()
  | m :: rest => do
      admitOrApply env faults m
      if target = some m.migrationId then pure () else admitUpTo target faults rest

/-- `apply_all`, when the transaction of a migration fails as `faults` says. -/
def applyAll (target : Option String) (faults : String → Option FaultPoint) :
    Prog RunnerStep (Host σ) MigrationStatus := do
  .refuseIf (∃ migrationId ∈ target, migrationId ∉ env.catalog.identifiers)
    (migrationError ("unknown migration target: " ++ target.getD ""))
  admitUpTo env target faults env.catalog.migrations
  migrationStatus env

def rollbackLast : Prog RunnerStep (Host σ) MigrationStatus := do
  performStep env (.rollbackLast fault)
  migrationStatus env

inductive RunnerCall where
  | applyAll (target : Option String) (faults : String → Option FaultPoint)
  | rollbackLast (fault : Option FaultPoint)

def RunnerCall.program : RunnerCall → Prog RunnerStep (Host σ) MigrationStatus
  | applyAll target faults => ProjectPipeline.applyAll env target faults
  | rollbackLast fault => ProjectPipeline.rollbackLast env fault

/-- Runners on one database. The mode of a runner is the file it has read last. -/
def migrationProtocol (outside : ε → Host σ → Host σ) :
    Protocol RunnerStep (Host σ) (Option (String × String)) RunnerCall ε MigrationStatus where
  exec := RunnerStep.exec env
  initial := none
  shift mode step host :=
    match step with
    | .readText path => (host.files path).toOption.map fun text => (path, text)
    | _ => mode
  program := RunnerCall.program env
  outside := outside

/-! ### What a transaction does -/

variable {fault : Option FaultPoint} {wrap : PyError → PyError} {block : Txn (MigrationDb σ) α}
  {host : Host σ}

/-- A transaction that is open is rolled back. -/
theorem writer_of_open (h : host.transaction.isSome = true) :
    writer fault wrap block host = (.error (wrap writerLockError), host.rollback) := by
  have hbegin : beginWriter fault host = (.error writerLockError, host) := if_pos h
  rw [writer, Session.bind_of_error hbegin]

/-- Nothing is left of a transaction that is rolled back. -/
theorem Host.rollback_eq (h : host.transaction = none) (transaction : Option (MigrationDb σ)) :
    ({ host with transaction } : Host σ).rollback = host := by
  rw [rollback, ← h]

/-- Without one, the block is committed as a whole or not at all. -/
theorem writer_of_idle (h : host.transaction = none) :
    (∃ error, writer fault wrap block host = (.error error, host)) ∨
      ∃ a db, block host.database = .ok (a, db) ∧
        writer fault wrap block host = (.ok a, { host with database := db }) := by
  by_cases hsta : fault = some .start
  · have hbegin : beginWriter fault host =
        (.error (migrationError "sqlite remained busy: database is locked"), host) := by
      rw [beginWriter, h, if_neg (by simp), if_pos hsta]
    refine .inl ⟨wrap (migrationError "sqlite remained busy: database is locked"), ?_⟩
    rw [writer, Session.bind_of_error hbegin]
    exact congrArg _ (Host.rollback_eq h host.transaction)
  have hbegin : beginWriter fault host =
      (.ok (), { host with transaction := some host.database }) := by
    rw [beginWriter, h, if_neg (by simp), if_neg hsta]
  rcases hblk : block host.database with error | ⟨a, db⟩
  · have hwi : within block { host with transaction := some host.database } =
        (.error error, { host with transaction := some host.database }) := by
      simp only [within, Host.visible, Option.getD_some, hblk]
    refine .inl ⟨wrap error, ?_⟩
    rw [writer, Session.bind_of_ok hbegin, Session.bind_of_error hwi]
    exact congrArg _ (Host.rollback_eq h _)
  have hwi : within block { host with transaction := some host.database } =
      (.ok a, { host with transaction := some db }) := by
    simp only [within, Host.visible, Option.getD_some, hblk]
  by_cases hcom : fault = some .commit
  · have hfails : commit fault { host with transaction := some db } =
        (.error (.raised "OperationalError" "disk I/O error"),
          { host with transaction := some db }) := by
      rw [commit, if_pos hcom]
    refine .inl ⟨wrap (.raised "OperationalError" "disk I/O error"), ?_⟩
    rw [writer, Session.bind_of_ok hbegin, Session.bind_of_ok hwi, Session.bind_of_error hfails]
    exact congrArg _ (Host.rollback_eq h _)
  · have hdone : commit fault { host with transaction := some db } =
        (.ok (), { host with database := db, transaction := none }) := by
      rw [commit, if_neg hcom]
      rfl
    refine .inr ⟨a, db, rfl, ?_⟩
    rw [writer, Session.bind_of_ok hbegin, Session.bind_of_ok hwi, Session.bind_of_ok hdone, ← h]
    rfl

end ProjectPipeline
