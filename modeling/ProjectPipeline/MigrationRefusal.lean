import ProjectPipeline.MigrationPrefix

/-!
# Migrations inside an Open Transaction

A runner refuses to work on a connection whose caller has a transaction open. It raises that
refusal inside the `try` block whose handler rolls the connection back, so the transaction that is
refused is lost, with everything its caller has written in it. `JiraSyncStore` makes a runner at the
beginning of its methods, also when they are called inside its own `transaction()`.

The transaction survives only a call that raises before the block, or that has nothing to do.

## Main results

* `open_transaction_kept_iff`: which calls leave an open transaction alone.
* `open_transaction_lost`: a transaction that is rolled back by each of the calls.
-/

namespace ProjectPipeline

open RunnerStep

variable {σ α : Type}

/-! ### Calls -/

/-- A method of a runner, to its end. -/
def runMethod (env : MigrationEnv σ) (program : Prog RunnerStep (Host σ) α) :
    Session (Host σ) α := program.run (RunnerStep.exec env)

variable (execute : String → σ → Except String σ) (loaded : Except PyError MigrationCatalog)

/-- `SQLiteMigrationRunner(connection, root)`, when loading the catalogue has a result. -/
def constructRunner : Session (Host σ) (MigrationEnv σ) := do
  let catalog ← .ofExcept loaded
  let env : MigrationEnv σ := { execute, catalog }
  runMethod env (initRunner env)
  return env

/-- `JiraSyncStore.initialize`. -/
def initializeStore : Session (Host σ) MigrationStatus := do
  let env ← constructRunner execute loaded
  runMethod env (applyAll env none fun _ => none)

/-- A method of `JiraSyncStore`: it initialises the schema, and then does its own work. -/
def storeMethod (work : Session (Host σ) Unit) :
    Session (Host σ) Unit := do
  let _ ← initializeStore execute loaded
  work

/-- The calls that work on the schema. -/
inductive SchemaCall (σ : Type) where
  | construct (execute : String → σ → Except String σ) (loaded : Except PyError MigrationCatalog)
  | applyAll (env : MigrationEnv σ) (target : Option String)
      (faults : String → Option FaultPoint)
  | rollbackLast (env : MigrationEnv σ) (fault : Option FaultPoint)
  | storeMethod (execute : String → σ → Except String σ)
      (loaded : Except PyError MigrationCatalog) (work : Session (Host σ) Unit)

namespace SchemaCall

/-- The result of a call, without its value, and what it leaves. -/
def perform : SchemaCall σ → Session (Host σ) Unit
  | construct execute loaded => do let _ ← constructRunner execute loaded
  | applyAll env target faults => do let _ ← runMethod env (ProjectPipeline.applyAll env target faults)
  | rollbackLast env fault => do let _ ← runMethod env (ProjectPipeline.rollbackLast env fault)
  | storeMethod execute loaded work => ProjectPipeline.storeMethod execute loaded work

/-- The call does not get to a transaction of its own: the catalogue cannot be loaded, or the
journal mode of the file cannot be changed; the target is unknown, or there is no migration, or the
script of the first one cannot be read. -/
def Spares (host : Host σ) : SchemaCall σ → Prop
  | construct _ loaded | storeMethod _ loaded _ =>
    loaded.isOk = false ∨ host.sharedFile = true ∧ host.journalModeError.isSome = true
  | applyAll env target _ =>
    (∃ migrationId ∈ target, migrationId ∉ env.catalog.identifiers) ∨
      ∀ m, env.catalog.migrations.head? = some m → (host.files m.sqliteUpPath).isOk = false
  | rollbackLast _ _ => False

end SchemaCall

/-! ### What they do to an open transaction -/

variable {host : Host σ} {env : MigrationEnv σ}

/-- A step runs as its session says. -/
theorem run_performStep (step : RunnerStep) :
    (performStep env step).run (exec env) host = step.session env host := rfl

/-- The constructor of a runner, behind the loading of the catalogue. -/
theorem runMethod_initRunner (h : host.transaction.isSome = true) :
    ∃ error, runMethod env (initRunner env) host =
      (.error error, if host.sharedFile = true ∧ host.journalModeError.isSome = true then host
        else host.rollback) := by
  rw [runMethod, initRunner]
  by_cases hjournal : host.sharedFile = true ∧ host.journalModeError.isSome = true
  · obtain ⟨error, herr⟩ := Option.isSome_iff_exists.mp hjournal.2
    have hconfigure : (performStep env .configureConnection).run (exec env) host =
        (.error error, host) := by
      rw [run_performStep, session, configureConnection, hjournal.1, herr]
    rw [Prog.run_bind_of_error hconfigure, if_pos hjournal]
    exact ⟨error, rfl⟩
  · have hconfigure : (performStep env .configureConnection).run (exec env) host =
        (.ok (), host) := by
      rw [run_performStep, session, configureConnection]
      split
      · rename_i error hshared herr
        exact absurd ⟨hshared, by rw [herr]; rfl⟩ hjournal
      · rfl
    rw [Prog.run_bind_of_ok hconfigure, run_performStep, if_neg hjournal]
    exact ⟨_, writer_of_open h⟩

/-- The constructor of a runner. It does not return. -/
theorem constructRunner_of_open (execute : String → σ → Except String σ)
    (loaded : Except PyError MigrationCatalog) (h : host.transaction.isSome = true) :
    ∃ error, constructRunner execute loaded host =
      (.error error, if loaded.isOk = false ∨
        host.sharedFile = true ∧ host.journalModeError.isSome = true then host
        else host.rollback) := by
  rw [constructRunner, Session.ofExcept_bind]
  cases loaded with
  | error error => exact ⟨error, by rw [if_pos (.inl rfl)]⟩
  | ok catalog =>
    let env : MigrationEnv σ := { execute, catalog }
    obtain ⟨error, hrun⟩ : ∃ error, runMethod env (initRunner env) host = (.error error, _) :=
      runMethod_initRunner h
    refine ⟨error, ?_⟩
    dsimp only
    rw [Session.bind_of_error hrun]
    simp [Except.isOk, Except.toBool]

/-- The first round of `apply_all`. -/
theorem run_admitOrApply (faults : String → Option FaultPoint) (m : MigrationRecord)
    (h : host.transaction.isSome = true) :
    ∃ error, (admitOrApply env faults m).run (RunnerStep.exec env) host =
      (.error error, if (host.files m.sqliteUpPath).isOk = false then host
        else host.rollback) := by
  let read : Prog RunnerStep (Host σ) String :=
    .call (.readText m.sqliteUpPath) fun host => host.files m.sqliteUpPath
  have hread : read.run (RunnerStep.exec env) host = (host.files m.sqliteUpPath, host) := rfl
  cases htext : host.files m.sqliteUpPath with
  | error error =>
    rw [htext] at hread
    exact ⟨error, Prog.run_bind_of_error hread⟩
  | ok text =>
    rw [htext] at hread
    obtain ⟨error, hwriter⟩ : ∃ error, (RunnerStep.admitOrApply m text
        (faults m.migrationId)).session env host = (.error error, host.rollback) :=
      ⟨_, writer_of_open h⟩
    exact ⟨error, (Prog.run_bind_of_ok hread).trans hwriter⟩

theorem applyAll_of_open (target : Option String) (faults : String → Option FaultPoint)
    (h : host.transaction.isSome = true) :
    (SchemaCall.Spares host (.applyAll env target faults) →
      (runMethod env (applyAll env target faults) host).2 = host) ∧
    (¬ SchemaCall.Spares host (.applyAll env target faults) →
      (runMethod env (applyAll env target faults) host).2 = host.rollback) := by
  rw [runMethod, applyAll, Prog.refuseIf]
  by_cases htgt : ∃ migrationId ∈ target, migrationId ∉ env.catalog.identifiers
  · rw [if_pos htgt]
    exact ⟨fun _ => rfl, fun hnot => absurd (.inl htgt) hnot⟩
  rw [if_neg htgt]
  change (_ → ((admitUpTo env target faults env.catalog.migrations >>= fun _ =>
    migrationStatus env).run _ _).2 = _) ∧ (_ → ((admitUpTo env target faults
      env.catalog.migrations >>= fun _ => migrationStatus env).run _ _).2 = _)
  rw [SchemaCall.Spares, or_iff_right htgt]
  cases env.catalog.migrations with
  | nil => exact ⟨fun _ => rfl, fun hnot => absurd (by rintro _ ⟨⟩) hnot⟩
  | cons m rest =>
    obtain ⟨error, hround⟩ : ∃ error, (admitOrApply env faults m).run (exec env) host =
        (.error error, _) := run_admitOrApply faults m h
    have hloop : (admitUpTo env target faults (m :: rest)).run (exec env) host =
        (.error error, _) := Prog.run_bind_of_error hround
    rw [Prog.run_bind_of_error hloop]
    constructor
    · intro hspares
      exact if_pos (hspares m rfl)
    · intro hnot
      refine if_neg fun hunread => hnot fun m' hm' => ?_
      rw [← Option.some.inj hm']
      exact hunread

theorem rollbackLast_of_open (fault : Option FaultPoint) (h : host.transaction.isSome = true) :
    (runMethod env (rollbackLast env fault) host).2 = host.rollback := by
  obtain ⟨error, hwriter⟩ : ∃ error, (performStep env (.rollbackLast fault)).run
      (exec env) host = (.error error, host.rollback) := ⟨_, writer_of_open h⟩
  rw [runMethod, rollbackLast, Prog.run_bind_of_error hwriter]

/-- The state after a result has been dropped. -/
theorem Session.drop_snd (session : Session (Host σ) α) (host : Host σ) :
    ((do let _ ← session : Session (Host σ) Unit) host).2 = (session host).2 := by
  rcases hrun : session host with ⟨result, host'⟩
  cases result with
  | error => rw [Session.bind_of_error hrun]
  | ok => rw [Session.bind_of_ok hrun]; rfl

/-- **When an open transaction is left alone.** A call on a connection with an open transaction
leaves it open, with the writes it had, exactly if the call does not get to a transaction of its
own. -/
theorem open_transaction_kept_iff (call : SchemaCall σ) (host : Host σ)
    (h : host.transaction.isSome = true) :
    (call.perform host).2.transaction = host.transaction ↔ call.Spares host := by
  -- Each call leaves everything as it was, or has rolled the transaction back.
  have hcases : (call.Spares host → (call.perform host).2 = host) ∧
      (¬ call.Spares host → (call.perform host).2 = host.rollback) := by
    cases call with
    | construct execute loaded =>
      obtain ⟨error, hrun⟩ := constructRunner_of_open execute loaded h
      rw [SchemaCall.perform, Session.drop_snd, hrun]
      exact ⟨fun hspares => if_pos hspares, fun hnot => if_neg hnot⟩
    | applyAll _ target faults =>
      rw [SchemaCall.perform, Session.drop_snd]
      exact applyAll_of_open target faults h
    | rollbackLast _ fault =>
      rw [SchemaCall.perform, Session.drop_snd]
      exact ⟨fun hspares => hspares.elim, fun _ => rollbackLast_of_open fault h⟩
    | storeMethod execute loaded =>
      obtain ⟨error, hrun⟩ := constructRunner_of_open execute loaded h
      have hinit : initializeStore execute loaded host = (.error error, _) :=
        Session.bind_of_error hrun
      rw [SchemaCall.perform, storeMethod, Session.bind_of_error hinit]
      exact ⟨fun hspares => if_pos hspares, fun hnot => if_neg hnot⟩
  constructor
  · intro hkept
    by_contra hnot
    rw [hcases.2 hnot] at hkept
    rw [← hkept] at h
    cases h
  · intro hspares
    rw [hcases.1 hspares]

/-- A connection on which a table has been created in a transaction that is still open. -/
def draftHost : Host (List String) where
  files := tableFiles "DROP"
  database := { schema := [] }
  transaction := some { schema := ["draft"] }

/-- The target of `apply_all` is unknown: the transaction is left alone. -/
theorem open_transaction_kept_iff_unknown_target :
    let call : SchemaCall (List String) := .applyAll tableEnv (some "PPDB-0009") fun _ => none
    call.Spares draftHost ∧
      (call.perform draftHost).2.transaction.map MigrationDb.schema = some ["draft"] := by
  intro call
  have hspares : call.Spares draftHost := .inl ⟨"PPDB-0009", rfl, by decide⟩
  refine ⟨hspares, ?_⟩
  rw [(open_transaction_kept_iff call draftHost rfl).mpr hspares]
  rfl

/-- **An open transaction is lost.** The constructor of a runner, `apply_all`, `rollback_last` and
a method of the store all raise, and the table is gone. -/
theorem open_transaction_lost :
    draftHost.transaction.isSome = true ∧
    ∀ call ∈ [.construct executeOnTables (.ok tableCatalog),
        .applyAll tableEnv none fun _ => none, .rollbackLast tableEnv none,
        SchemaCall.storeMethod executeOnTables (.ok tableCatalog) (pure ())],
      (call.perform draftHost).1.isOk = false ∧
        (call.perform draftHost).2.transaction.isNone = true ∧
        (call.perform draftHost).2.database.schema = [] := by
  decide +kernel

end ProjectPipeline
