import ProjectPipeline.MigrationPrefix

/-!
# Receipts of Migrations

The receipt of a migration holds the digest that the catalogue gives for its script. The text that
is executed is what the file holds when the runner reads it, and nobody compares the two: a file
that has changed since the catalogue was written is executed, and recorded with the digest of the
old text.

Files may change at any time here, between any two steps of the runners.

## Main results

* `receipts_truthful`: a receipt is truthful exactly if the catalogue's digest is that of the text
  read, and all receipts are if that holds whenever a migration is applied.
* `changed_file_applied`: a receipt that is not.
-/

namespace ProjectPipeline

variable {κ σ : Type} (sha : Sha256) (env : MigrationEnv σ)

/-- `hashlib.sha256(text.encode("utf-8")).hexdigest()`. -/
def Sha256.ofText (text : String) : String := String.ofList (sha.hexdigest text)

/-- The recorded digest is that of the text whose statements have been executed. -/
def MigrationRow.Truthful (row : MigrationRow) : Prop := row.sqlSha256 = sha.ofText row.script

instance (row : MigrationRow) : Decidable (row.Truthful sha) :=
  inferInstanceAs (Decidable (_ = _))

/-- A file changes: its path, and what reading it gives from then on. -/
structure FileChange where
  path : String
  content : Except PyError String

/-- Runners on one database whose files may change. -/
def changingFiles : Protocol RunnerStep (Host σ) (Option (String × String)) RunnerCall FileChange
    MigrationStatus :=
  migrationProtocol env fun change host =>
    { host with files := Function.update host.files change.path change.content }

/-- A migration that is not recorded is applied with a text of which the catalogue has the
digest. -/
def appliesCatalogued : Conduct κ RunnerStep (Host σ) (Option (String × String)) RunnerCall where
  step _ _ step host :=
    match step with
    | .admitOrApply m text _ =>
      host.database.receipts.find? m.migrationId = none → m.sqliteUpSha256 = sha.ofText text
    | _ => True

instance (host : Host σ) (modes : κ → Option (Option (String × String))) (process : κ)
    (step : RunnerStep) :
    Decidable ((appliesCatalogued sha : Conduct κ _ (Host σ) _ _).step modes process step host) :=
  match step with
  | .admitOrApply .. => inferInstanceAs (Decidable (_ → _))
  | .configureConnection | .ensureControlTable | .readText _ | .rollbackLast _ | .readApplied =>
    .isTrue trivial

instance : DecidablePred (appliesCatalogued sha : Conduct κ _ (Host σ) _ _).start :=
  fun _ => .isTrue trivial

instance (modes : κ → Option (Option (String × String))) (process : κ) :
    Decidable ((appliesCatalogued sha : Conduct κ _ (Host σ) _ _).kill modes process) :=
  .isTrue trivial

section

variable {sha env} {files : String → Except PyError String} {db db' : MigrationDb σ}

/-- A receipt that a step makes is that of the migration which it applies, with the text it
executes. -/
theorem MigrationDb.Step.new_receipt {step : RunnerStep} (hstep : db.Step env files step db')
    {row : MigrationRow} (hrow : row ∈ db'.receipts.rows) :
    row ∈ db.receipts.rows ∨ ∃ m text fault, step = .admitOrApply m text fault ∧
      db.receipts.find? m.migrationId = none ∧ row = m.receipt text ∧
      env.runScript text db.schema = .ok db'.schema := by
  cases hstep with
  | kept => exact .inl hrow
  | @applied m text fault schema receipts habs _ hexecuted hrecd =>
    rw [(Table.insert_eq_some_iff.mp hrecd).2, List.mem_append, List.mem_singleton] at hrow
    rcases hrow with hold | hnew
    · exact .inl hold
    · exact .inr ⟨m, text, fault, rfl, habs, hnew, hexecuted⟩
  | reverted => exact .inl (Table.mem_deleteWhere.mp hrow).1

theorem truthfulInvariant [DecidableEq κ] :
    (changingFiles env).Invariant (runnerDiscipline env)
      (appliesCatalogued sha : Conduct κ _ (Host σ) _ _)
      fun host _ _ => host.transaction = none ∧
        ∀ row ∈ host.database.receipts.rows, row.Truthful sha where
  start h _ := h
  finish h _ _ := h
  kill h _ := h
  outside h := h
  step {host _ _ _ _ step} h _ _ hcatalogued := by
    obtain ⟨hidle, htruthful⟩ := h
    obtain ⟨db, hexec, hstep⟩ := step.exec_spec env hidle
    change (step.exec env host).transaction = none ∧
      ∀ row ∈ (step.exec env host).database.receipts.rows, row.Truthful sha
    rw [hexec]
    refine ⟨hidle, fun row hrow => ?_⟩
    rcases hstep.new_receipt hrow with hold | ⟨m, text, fault, rfl, habs, rfl, -⟩
    · exact htruthful row hold
    · exact hcatalogued habs

end

/-- **When receipts are truthful.** The receipt that a runner makes of a migration is truthful
exactly if the digest of the catalogue is that of the text it has read, which is the text that has
been executed. If this is so whenever a migration is applied, all receipts are truthful, in every
interleaving of runners and changes of files. -/
theorem receipts_truthful [DecidableEq κ] :
    (∀ (host : Host σ) (m : MigrationRecord) (text : String) (fault : Option FaultPoint)
        (row : MigrationRow), host.transaction = none →
      host.database.receipts.find? m.migrationId = none →
      let after := (RunnerStep.admitOrApply m text fault).exec env host
      after.database.receipts.find? m.migrationId = some row →
        env.runScript row.script host.database.schema = .ok after.database.schema ∧
        (row.Truthful sha ↔ m.sqliteUpSha256 = sha.ofText text)) ∧
    ∀ (files : String → Except PyError String) (initial : σ)
        (events : List (ProcessEvent κ RunnerCall FileChange))
        (m : Processes κ RunnerStep (Host σ) (Option (String × String)) MigrationStatus),
      Path (Processes.step (changingFiles env)) (Processes.Meets (appliesCatalogued sha))
        { state := { files, database := { schema := initial } } } events m →
      ∀ row ∈ m.state.database.receipts.rows, row.Truthful sha := by
  refine ⟨?_, ?_⟩
  · intro host m text fault row hidle habs after hrow
    obtain ⟨db, hexec, hstep⟩ := (RunnerStep.admitOrApply m text fault).exec_spec env hidle
    have haft : after.database = db := by
      change ((RunnerStep.admitOrApply m text fault).exec env host).database = db
      rw [hexec]
    rw [haft] at hrow ⊢
    obtain ⟨hmem, hid⟩ := Table.find?_eq_some_iff.mp hrow
    rcases hstep.new_receipt hmem with hold | ⟨m', text', fault', heq, -, rfl, hexecuted⟩
    · -- The receipt is new: no row had the identifier.
      exact absurd hid (Table.find?_eq_none_iff.mp habs row hold)
    · obtain ⟨rfl, rfl, -⟩ := RunnerStep.admitOrApply.inj heq
      exact ⟨hexecuted, Iff.rfl⟩
  · intro files initial events m hpath
    have hsta : ({ files, database := { schema := initial } } : Host σ).transaction = none ∧
        ∀ row ∈ ({ files, database := { schema := initial } } : Host σ).database.receipts.rows,
          row.Truthful sha := ⟨rfl, nofun⟩
    exact (Protocol.invariant truthfulInvariant (fun call _ => obeys_program call none) hsta
      hpath).1.2

def digestCatalog : MigrationCatalog where
  migrations :=
    [createTable "PPDB-0001" 1 [] (Sha256.bytePolynomial.ofText "CREATE TABLE one;")]
  valid := by decide +kernel
  ordered := by decide +kernel

def digestEnv : MigrationEnv (List String) where
  execute := executeOnTables
  catalog := digestCatalog

/-- A runner applies the migration of the catalogue. -/
def applyOne : List (ProcessEvent Unit RunnerCall FileChange) :=
  [.start () (.applyAll none fun _ => none), .step (), .step ()]

def changeScript : ProcessEvent Unit RunnerCall FileChange :=
  .outside ⟨"PPDB-0001.up.sql", .ok "CREATE TABLE two;"⟩

/-- The migration is applied as the catalogue has it, and its receipt is truthful. -/
theorem receipts_truthful_unchanged_file :
    ∃ m, Path (Processes.step (changingFiles digestEnv))
        (Processes.Meets (appliesCatalogued .bytePolynomial))
        { state := { files := tableFiles "DROP", database := { schema := [] } } } applyOne m ∧
      m.state.database.schema = ["one"] ∧ m.state.database.receipts.rows.length = 1 ∧
      ∀ row ∈ m.state.database.receipts.rows, row.Truthful .bytePolynomial := by
  refine Path.exists_of_replay (P := fun m => m.state.database.schema = ["one"] ∧
    m.state.database.receipts.rows.length = 1) (by decide +kernel) fun m hpath hfa => ?_
  exact ⟨hfa.1, hfa.2,
    (receipts_truthful .bytePolynomial digestEnv).2 (tableFiles "DROP") [] applyOne m hpath⟩

/-- **A changed file.** The script is changed before the migration is applied: another table is
created, and the receipt has the digest of the text that was not executed. -/
theorem changed_file_applied :
    ∃ m, Path (Processes.step (changingFiles digestEnv)) (Processes.Meets {})
        { state := { files := tableFiles "DROP", database := { schema := [] } } }
        (changeScript :: applyOne) m ∧
      m.state.database.schema = ["two"] ∧
      ∃ row ∈ m.state.database.receipts.rows, row.script = "CREATE TABLE two;" ∧
        row.sqlSha256 = Sha256.bytePolynomial.ofText "CREATE TABLE one;" ∧
        ¬ row.Truthful .bytePolynomial := by
  exact Path.exists_of_replay (by decide +kernel) fun _ _ hfa => hfa

end ProjectPipeline
