import ProjectPipeline.MigrationSteps

/-!
# Recorded Migrations Are a Prefix

Any number of runners apply the migrations of one catalogue to one database and roll them back, in
any interleaving, and their transactions may fail anywhere. If every migration depends on the one
before it, the migrations that are recorded are at every moment the first ones of the catalogue.

The schema is what the scripts of these migrations make of the initial one, if every script for
rolling back undoes its migration. The runner does not check that: it deletes the receipt of a
migration whatever its script does.

## Main results

* `MigrationDb.IsPrefix.step`: a step keeps the recorded migrations a prefix.
* `migrations_form_prefix`: so do all interleavings of runners.
* `rollback_without_effect`: a script for rolling back that does nothing.
-/

namespace ProjectPipeline

open List

variable {κ σ : Type} (env : MigrationEnv σ) (files : String → Except PyError String)

/-- Every migration depends on the one before it. -/
def MigrationCatalog.Chained (catalog : MigrationCatalog) : Prop :=
  catalog.migrations.IsChain fun earlier later => earlier.migrationId ∈ later.dependsOn

def MigrationEnv.migrate (schema : σ) (m : MigrationRecord) : Except PyError σ := do
  let text ← files m.sqliteUpPath
  env.runScript text schema

def MigrationEnv.migrateAll (migrations : List MigrationRecord) (schema : σ) : Except PyError σ :=
  migrations.foldlM (env.migrate files) schema

/-- Every script for rolling back undoes its migration: executed on a schema that the migration has
made, with those before it, it makes the schema again on which the migration was executed. -/
def MigrationEnv.Undoes (initial : σ) : Prop :=
  ∀ n m schema schema' path text, env.catalog.migrations[n]? = some m →
    env.migrateAll files (env.catalog.migrations.take n) initial = .ok schema →
    env.migrate files schema m = .ok schema' →
    m.sqliteDownPath = some path → files path = .ok text →
      ∀ schema'', env.runScript text schema' = .ok schema'' → schema'' = schema

/-- The first `n` migrations are recorded, and the schema is theirs. -/
structure MigrationDb.IsPrefix (initial : σ) (n : ℕ) (db : MigrationDb σ) : Prop where
  le : n ≤ env.catalog.migrations.length
  recorded : db.receipts.rows.map (fun row => (row.migrationId, row.sequence)) =
    (env.catalog.migrations.take n).map fun m => (m.migrationId, m.sequence)
  schema : env.Undoes files initial →
    env.migrateAll files (env.catalog.migrations.take n) initial = .ok db.schema

section

variable {env files} {initial : σ} {n : ℕ} {db db' : MigrationDb σ}

namespace MigrationDb.IsPrefix

variable (h : db.IsPrefix env files initial n)

include h

/-- The identifiers of the recorded migrations. -/
theorem identifiers : db.receipts.rows.map MigrationRow.migrationId =
    (env.catalog.migrations.take n).map MigrationRecord.migrationId := by
  have hids := congrArg (map Prod.fst) h.recorded
  rw [map_map, map_map] at hids
  exact hids

variable {m : MigrationRecord}

/-- A migration is recorded if it is one of the first `n`. -/
theorem find?_eq_none_iff {i : ℕ} (hm : env.catalog.migrations[i]? = some m) :
    db.receipts.find? m.migrationId = none ↔ n ≤ i := by
  rw [Table.find?_eq_none_iff, ← not_lt, ← env.catalog.mem_take_iff hm, ← h.identifiers, mem_map]
  push Not
  rfl

/-- The receipts stand in the order of their sequence numbers. -/
theorem applied_eq : db.applied =
    (env.catalog.migrations.take n).map MigrationRecord.migrationId := by
  have hsequences : (db.receipts.rows.map MigrationRow.sequence).Pairwise (· ≤ ·) := by
    have hrecd := congrArg (map Prod.snd) h.recorded
    simp only [map_map] at hrecd
    have hfst : db.receipts.rows.map MigrationRow.sequence =
        (env.catalog.migrations.map MigrationRecord.sequence).take n := by
      rw [← map_take]
      exact hrecd
    rw [hfst, env.catalog.validateOrder_spec.2]
    refine (pairwise_map.mpr ?_).take
    exact pairwise_lt_range.imp fun hlt => by omega
  rw [MigrationDb.applied, (pairwise_map.mp hsequences).insertionSort_eq, h.identifiers]

/-- The next migration is applied. -/
theorem applied {text : String} {schema : σ}
    {receipts : Table String MigrationRow MigrationRow.migrationId}
    (hm : env.catalog.migrations[n]? = some m) (hread : files m.sqliteUpPath = .ok text)
    (hexecuted : env.runScript text db.schema = .ok schema)
    (hrecd : db.receipts.insert (m.receipt text) = some receipts) :
    IsPrefix env files initial (n + 1) ⟨schema, receipts⟩ := by
  have htake : env.catalog.migrations.take (n + 1) = env.catalog.migrations.take n ++ [m] := by
    rw [List.take_add_one, hm, Option.toList_some]
  refine ⟨(List.getElem?_eq_some_iff.mp hm).1, ?_, fun hundoes => ?_⟩
  · rw [(Table.insert_eq_some_iff.mp hrecd).2, List.map_append, h.recorded, htake, List.map_append]
    rfl
  · have hsch := h.schema hundoes
    rw [MigrationEnv.migrateAll] at hsch
    rw [MigrationEnv.migrateAll, htake, List.foldlM_append, hsch]
    change env.migrate files db.schema m >>= _ = _
    rw [MigrationEnv.migrate, hread]
    change env.runScript text db.schema >>= _ = _
    rw [hexecuted]
    rfl

/-- The migration that is applied last is rolled back. -/
theorem reverted {path text : String} {schema : σ}
    (hlast : db.applied.getLast? = some m.migrationId)
    (hkn : env.catalog.find? m.migrationId = some m) (hdown : m.sqliteDownPath = some path)
    (hread : files path = .ok text) (hexecuted : env.runScript text db.schema = .ok schema) :
    ∃ n', IsPrefix env files initial n'
      ⟨schema, db.receipts.deleteWhere fun row => row.migrationId = m.migrationId⟩ := by
  -- The last of the first `n` migrations is `m`.
  rw [h.applied_eq] at hlast
  obtain ⟨n, rfl⟩ : ∃ n', n = n' + 1 := by
    refine Nat.exists_eq_succ_of_ne_zero fun hzero => ?_
    rw [hzero] at hlast
    simp at hlast
  obtain ⟨m', hm'⟩ : ∃ m', env.catalog.migrations[n]? = some m' :=
    ⟨_, getElem?_eq_getElem (Nat.lt_of_succ_le h.le)⟩
  have htake : env.catalog.migrations.take (n + 1) = env.catalog.migrations.take n ++ [m'] := by
    rw [take_add_one, hm', Option.toList_some]
  have hid : m'.migrationId = m.migrationId := by
    rw [htake, map_append, map_singleton, getLast?_concat] at hlast
    exact Option.some.inj hlast
  obtain rfl : m' = m := by
    have hfd := env.catalog.find?_eq_some hm'
    rw [hid, hkn] at hfd
    exact (Option.some.inj hfd).symm
  refine ⟨n, Nat.le_of_succ_le h.le, ?_, fun hundoes => ?_⟩
  · -- Of the receipts, the last one has the identifier, and no other.
    have hkeep : ∀ (rows : List MigrationRow) (l : List (String × ℤ)),
        rows.map (fun row => (row.migrationId, row.sequence)) = l →
        (rows.filter fun row => !decide (row.migrationId = m'.migrationId)).map
            (fun row => (row.migrationId, row.sequence)) =
          l.filter fun entry => !decide (entry.1 = m'.migrationId) := by
      rintro rows _ rfl
      rw [filter_map]
      rfl
    have hrest : m'.migrationId ∉
        (env.catalog.migrations.take n).map MigrationRecord.migrationId := by
      rw [env.catalog.mem_take_iff hm']
      omega
    refine (hkeep _ _ h.recorded).trans ?_
    rw [htake, map_append, filter_append, map_singleton]
    rw [filter_eq_self.mpr, filter_eq_nil_iff.mpr, append_nil]
    · simp
    · intro entry hent
      obtain ⟨m'', hm'', rfl⟩ := mem_map.mp hent
      simp only [Bool.not_eq_eq_eq_not, Bool.not_true, decide_eq_false_iff_not]
      intro heq
      exact hrest (mem_map.mpr ⟨m'', hm'', heq⟩)
  · have hsch := h.schema hundoes
    rw [MigrationEnv.migrateAll, htake, foldlM_append] at hsch
    obtain ⟨before, hbef, hsch⟩ := bind_eq_ok.mp hsch
    obtain ⟨after, haft, hsch⟩ := bind_eq_ok.mp hsch
    cases hsch
    rw [hundoes n m' before db.schema path text hm' hbef haft hdown hread schema hexecuted]
    exact hbef

end MigrationDb.IsPrefix

/-- The migration whose dependencies are recorded is the next one. -/
theorem MigrationDb.IsPrefix.next (h : db.IsPrefix env files initial n) (hchn : env.catalog.Chained)
    {m : MigrationRecord} (hm : m ∈ env.catalog.migrations)
    (habs : db.receipts.find? m.migrationId = none)
    (hdeps : ∀ dependency ∈ m.dependsOn, db.receipts.find? dependency ≠ none) :
    env.catalog.migrations[n]? = some m := by
  obtain ⟨i, hi⟩ := List.mem_iff_getElem?.mp hm
  have hle : n ≤ i := (h.find?_eq_none_iff hi).mp habs
  rcases Nat.lt_or_eq_of_le hle with hlt | rfl
  · -- The one before it is not recorded, and it depends on that.
    obtain ⟨i, rfl⟩ : ∃ i', i = i' + 1 := Nat.exists_eq_succ_of_ne_zero (by omega)
    obtain ⟨hlen, hm⟩ := List.getElem?_eq_some_iff.mp hi
    have hearlier : env.catalog.migrations[i]? = some env.catalog.migrations[i] :=
      List.getElem?_eq_getElem _
    have hdepends := List.isChain_iff_getElem.mp hchn i hlen
    rw [hm] at hdepends
    exact absurd ((h.find?_eq_none_iff hearlier).mpr (by omega)) (hdeps _ hdepends)
  · exact hi

/-- **A step keeps the recorded migrations a prefix.** -/
theorem MigrationDb.IsPrefix.step (h : db.IsPrefix env files initial n) (hchn : env.catalog.Chained)
    {step : RunnerStep} (hstep : db.Step env files step db')
    (halw : ∀ m text fault, step = .admitOrApply m text fault →
      m ∈ env.catalog.migrations ∧ files m.sqliteUpPath = .ok text) :
    ∃ n', db'.IsPrefix env files initial n' := by
  cases hstep with
  | kept => exact ⟨n, h⟩
  | applied habs hdeps hexecuted hrecd =>
    obtain ⟨hm, hread⟩ := halw _ _ _ rfl
    have hnext := h.next hchn hm habs hdeps
    exact ⟨n + 1, h.applied hnext hread hexecuted hrecd⟩
  | reverted hlast hkn hdown hread hexecuted => exact h.reverted hlast hkn hdown hread hexecuted

end

/-! ### Interleavings of runners -/

/-- No runner has a transaction open between its steps, the files are what they were, and the first
migrations are recorded. -/
def PrefixInvariant (initial : σ) (host : Host σ) (modes : κ → Option (Option (String × String))) :
    Prop :=
  host.transaction = none ∧ host.files = files ∧
    (∀ process path text, modes process = some (some (path, text)) → files path = .ok text) ∧
    ∃ n, host.database.IsPrefix env files initial n

/-- A runner that stops or starts leaves the modes of the others as they are. -/
theorem PrefixInvariant.update [DecidableEq κ] {initial : σ} {host : Host σ}
    {modes : κ → Option (Option (String × String))}
    (h : PrefixInvariant env files initial host modes) (process : κ)
    {mode : Option (Option (String × String))}
    (hmode : ∀ path text, mode = some (some (path, text)) → files path = .ok text) :
    PrefixInvariant env files initial host (Function.update modes process mode) := by
  obtain ⟨hidle, hfiles, hmodes, hpre⟩ := h
  refine ⟨hidle, hfiles, fun other path text hoth => ?_, hpre⟩
  by_cases heq : other = process
  · rw [heq, Function.update_self] at hoth
    exact hmode path text hoth
  · rw [Function.update_of_ne heq] at hoth
    exact hmodes other path text hoth

/-- Runners on one database whose files do not change. -/
def fixedFiles : Protocol RunnerStep (Host σ) (Option (String × String)) RunnerCall Empty
    MigrationStatus :=
  migrationProtocol env fun change _ => change.elim

theorem prefixInvariant [DecidableEq κ] (hchn : env.catalog.Chained) (initial : σ) :
    (fixedFiles env).Invariant (runnerDiscipline env) ({} : Conduct κ _ _ _ _)
      fun host modes _ => PrefixInvariant env files initial host modes where
  start h _ := h.update env files _ nofun
  finish h _ _ := h.update env files _ nofun
  kill h _ := h.update env files _ nofun
  outside {_ _ _ change} := change.elim
  step {host modes _ process mode step} h hmode halw _ := by
    obtain ⟨hidle, hfiles, hmodes, n, hpre⟩ := h
    obtain ⟨db, hexec, hstep⟩ := step.exec_spec env hidle
    have hmode' : ∀ path text, mode = some (path, text) → files path = .ok text := by
      rintro path text rfl
      exact hmodes process path text hmode
    rw [hfiles] at hstep
    obtain ⟨n', hpre'⟩ := hpre.step hchn hstep (by
      rintro m text fault rfl
      exact ⟨halw.1, hmode' m.sqliteUpPath text halw.2⟩)
    change PrefixInvariant env files initial (step.exec env host) _
    rw [hexec]
    have hhost : PrefixInvariant env files initial { host with database := db } modes :=
      ⟨hidle, hfiles, hmodes, n', hpre'⟩
    refine hhost.update env files process fun path text hshift => ?_
    cases step with
    | readText other =>
      change some (Option.map _ (host.files other).toOption) = _ at hshift
      rw [hfiles] at hshift
      cases hread : files other with
      | error =>
        rw [hread] at hshift
        cases hshift
      | ok =>
        rw [hread] at hshift
        obtain ⟨rfl, rfl⟩ := Prod.mk.inj (Option.some.inj (Option.some.inj hshift))
        exact hread
    | configureConnection | ensureControlTable | admitOrApply | rollbackLast | readApplied =>
      exact hmode' path text (Option.some.inj hshift)

def createTable (migrationId : String) (sequence : ℤ) (dependsOn : List String)
    (digest : String) : MigrationRecord where
  migrationId
  sequence
  name := "table"
  dependsOn
  reversible := true
  sqliteUpPath := migrationId ++ ".up.sql"
  sqliteUpSha256 := digest
  sqliteDownPath := some (migrationId ++ ".down.sql")
  sqliteDownSha256 := some digest
  postgresqlUpPath := "up.sql"
  postgresqlUpSha256 := digest
  postgresqlDownPath := some "down.sql"
  postgresqlDownSha256 := some digest

def zeroDigest : String := String.ofList (List.replicate 64 '0')

/-- Two migrations, of which the second depends on the first. -/
def tableCatalog : MigrationCatalog where
  migrations := [createTable "PPDB-0001" 1 [] zeroDigest,
    createTable "PPDB-0002" 2 ["PPDB-0001"] zeroDigest]
  valid := by decide +kernel
  ordered := by decide +kernel

/-- A database of which only the names of the tables are kept. -/
def executeOnTables (statement : String) (tables : List String) : Except String (List String) :=
  match pySplit ' ' statement with
  | ["CREATE", "TABLE", name] =>
    if name ∈ tables then .error ("table " ++ name ++ " already exists")
    else .ok (tables ++ [name])
  | ["DROP", "TABLE", name] => .ok (tables.erase name)
  | _ => .ok tables

def tableEnv : MigrationEnv (List String) where
  execute := executeOnTables
  catalog := tableCatalog

/-- Scripts that create tables, and scripts for rolling back. -/
def tableFiles (down : String) (path : String) : Except PyError String :=
  if path = "PPDB-0001.up.sql" then .ok "CREATE TABLE one;"
  else if path = "PPDB-0002.up.sql" then .ok "CREATE TABLE two;"
  else if path = "PPDB-0001.down.sql" then .ok (down ++ " TABLE one;")
  else .ok (down ++ " TABLE two;")

/-- One runner applies everything, and then another one rolls the last migration back. -/
def applyThenRollBack : List (ProcessEvent Bool RunnerCall Empty) :=
  [.start false (.applyAll none fun _ => none), .step false, .step false, .step false, .step false,
    .start true (.rollbackLast none), .step true]

theorem tableEnv_undoes : tableEnv.Undoes (tableFiles "DROP") [] := by
  have hfst : tableEnv.migrateAll (tableFiles "DROP") (tableCatalog.migrations.take 0) [] = .ok [] ∧
      tableEnv.migrate (tableFiles "DROP") [] (createTable "PPDB-0001" 1 [] zeroDigest) =
        .ok ["one"] ∧
      tableFiles "DROP" "PPDB-0001.down.sql" = .ok "DROP TABLE one;" ∧
      tableEnv.runScript "DROP TABLE one;" ["one"] = .ok [] := by decide +kernel
  have hsnd : tableEnv.migrateAll (tableFiles "DROP") (tableCatalog.migrations.take 1) [] =
        .ok ["one"] ∧
      tableEnv.migrate (tableFiles "DROP") ["one"]
        (createTable "PPDB-0002" 2 ["PPDB-0001"] zeroDigest) = .ok ["one", "two"] ∧
      tableFiles "DROP" "PPDB-0002.down.sql" = .ok "DROP TABLE two;" ∧
      tableEnv.runScript "DROP TABLE two;" ["one", "two"] = .ok ["one"] := by decide +kernel
  -- For a migration of which everything is known, the schemas are read off.
  have hone : ∀ {before after : List String} {m : MigrationRecord} {down script : String},
      tableEnv.migrate (tableFiles "DROP") before m = .ok after → m.sqliteDownPath = some down →
      tableFiles "DROP" down = .ok script → tableEnv.runScript script after = .ok before →
      ∀ {schema' path text schema''}, tableEnv.migrate (tableFiles "DROP") before m = .ok schema' →
        m.sqliteDownPath = some path → tableFiles "DROP" path = .ok text →
        tableEnv.runScript text schema' = .ok schema'' → schema'' = before := by
    intro before after m down script hup hdown hread hback schema' path text schema'' hup' hdown'
      hread' hback'
    obtain rfl := Except.ok.inj (hup.symm.trans hup')
    obtain rfl := Option.some.inj (hdown.symm.trans hdown')
    obtain rfl := Except.ok.inj (hread.symm.trans hread')
    exact (Except.ok.inj (hback.symm.trans hback')).symm
  intro n m schema schema' path text hm hbef hup hdown hread schema'' hback
  rcases n with _ | _ | n
  · obtain rfl := Except.ok.inj (hfst.1.symm.trans hbef)
    cases hm
    exact hone hfst.2.1 rfl hfst.2.2.1 hfst.2.2.2 hup hdown hread hback
  · obtain rfl := Except.ok.inj (hsnd.1.symm.trans hbef)
    cases hm
    exact hone hsnd.2.1 rfl hsnd.2.2.1 hsnd.2.2.2 hup hdown hread hback
  · cases hm

end ProjectPipeline
