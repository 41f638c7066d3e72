import ProjectPipeline.Lifecycle

/-!
# The Migration Catalogue

The first part of `persistence/migrations.py`: the records of migrations, the catalogue that lists
them in order, and `_split_sql`, which cuts a script into statements.

A `MigrationCatalog` carries what its validators have checked, so identifiers are unique and the
sequence numbers are 1, 2, 3, ….

## Main results

* `MigrationCatalog.nodup`, `MigrationCatalog.mem_take_iff`: what the order of a catalogue means.
-/

namespace ProjectPipeline

open Regex

/-! ### Records -/

structure MigrationRecord where
  migrationId : String
  sequence : ℤ
  name : String
  dependsOn : List String := []
  reversible : Bool
  sqliteUpPath : String
  sqliteUpSha256 : String
  sqliteDownPath : Option String := none
  sqliteDownSha256 : Option String := none
  postgresqlUpPath : String
  postgresqlUpSha256 : String
  postgresqlDownPath : Option String := none
  postgresqlDownSha256 : Option String := none
  deriving DecidableEq

def digestErrors (field digest : String) : List (String × String) :=
  if fullmatch (times (oneOf hexAlphabet) 64) digest then []
  else [(field, "String should match pattern '^[a-f0-9]\x7b64\x7d$'")]

/-- The errors of a digest that may be missing. -/
def optionalDigestErrors (field : String) : Option String → List (String × String)
  | none => []
  | some digest => digestErrors field digest

namespace MigrationRecord

def validateDependencies (values : List String) : Except PyError Unit := do
  raiseIf (¬ values.Nodup) (.valueError "migration dependencies cannot contain duplicates")
  values.forM fun value => do
    let _ ← validateIdentifier value .migration

def dependencyErrors (values : List String) : List (String × String) :=
  match validateDependencies values with
  | .ok _ => []
  | .error (.valueError message) => [("depends_on", "Value error, " ++ message)]
  | .error _ => [("depends_on", "Value error")]

/-- The fields that the constructor rejects. -/
def fieldErrors (m : MigrationRecord) : List (String × String) :=
  identifierErrors "migration_id" .migration m.migrationId ++
    lowerBoundErrors "sequence" 1 m.sequence ++ lengthErrors "name" 1 200 m.name ++
    dependencyErrors m.dependsOn ++ digestErrors "sqlite_up_sha256" m.sqliteUpSha256 ++
    optionalDigestErrors "sqlite_down_sha256" m.sqliteDownSha256 ++
    digestErrors "postgresql_up_sha256" m.postgresqlUpSha256 ++
    optionalDigestErrors "postgresql_down_sha256" m.postgresqlDownSha256

/-- `bool(value)` of a text that may be missing. -/
def given (value : Option String) : Bool := value.getD "" ≠ ""

/-- The scripts that roll the migration back, with their digests. -/
def rollbackPairs (m : MigrationRecord) : List (Option String × Option String) :=
  [(m.sqliteDownPath, m.sqliteDownSha256), (m.postgresqlDownPath, m.postgresqlDownSha256)]

/-- What the constructor reports: the fields, or `validate_rollback_metadata`. -/
def errors (m : MigrationRecord) : List (String × String) :=
  if m.fieldErrors ≠ [] then m.fieldErrors
  else if m.rollbackPairs.any fun pair => given pair.1 != given pair.2 then
    [("", "Value error, migration rollback path and digest must be provided together")]
  else if m.reversible && m.rollbackPairs.any fun pair => !(given pair.1) then
    [("", "Value error, reversible migrations require rollback SQL for every dialect")]
  else []

end MigrationRecord

/-! ### The catalogue -/

/-- The check that a migration depends on earlier ones only. -/
def checkDependencies (seen : List String) (m : MigrationRecord) : Except PyError (List String) := do
  raiseIf (∃ dependency ∈ m.dependsOn, dependency ∉ seen) (.valueError
    ("migration " ++ m.migrationId ++ " depends on an unknown or later migration"))
  return seen ++ [m.migrationId]

def validateOrder (migrations : List MigrationRecord) : Except PyError Unit := do
  let sequences := migrations.map MigrationRecord.sequence
  raiseIf (¬ (migrations.map MigrationRecord.migrationId).Nodup)
    (.valueError "migration identifiers must be unique")
  raiseIf (sequences ≠ sequences.insertionSort (· ≤ ·) ∨
      sequences ≠ (List.range sequences.length).map fun i : ℕ => (i : ℤ) + 1)
    (.valueError "migration sequences must be contiguous and ordered")
  let _ ← migrations.foldlM checkDependencies []

/-- `MigrationCatalog`: the migrations of a catalogue that has been constructed. -/
structure MigrationCatalog where
  migrations : List MigrationRecord
  valid : ∀ m ∈ migrations, m.errors = []
  ordered : (validateOrder migrations).isOk = true

namespace MigrationCatalog

variable (catalog : MigrationCatalog)

def identifiers : List String := catalog.migrations.map MigrationRecord.migrationId

/-- `_catalog_by_id`, at an identifier. -/
def find? (migrationId : String) : Option MigrationRecord :=
  catalog.migrations.find? fun m => m.migrationId = migrationId

theorem validateOrder_spec : catalog.identifiers.Nodup ∧
    catalog.migrations.map MigrationRecord.sequence =
      (List.range catalog.migrations.length).map fun i : ℕ => (i : ℤ) + 1 := by
  obtain ⟨u, hordered⟩ : ∃ u, validateOrder catalog.migrations = .ok u := by
    have hok := catalog.ordered
    cases hres : validateOrder catalog.migrations with
    | ok u => exact ⟨u, rfl⟩
    | error =>
      rw [hres] at hok
      cases hok
  obtain ⟨_, hnd, hordered⟩ := bind_eq_ok.mp hordered
  obtain ⟨_, hsequences, -⟩ := bind_eq_ok.mp hordered
  have hsequences := raiseIf_eq_ok.mp hsequences
  rw [not_or, not_not, not_not, List.length_map] at hsequences
  exact ⟨not_not.mp (raiseIf_eq_ok.mp hnd), hsequences.2⟩

/-- Identifiers are unique. -/
theorem nodup : catalog.identifiers.Nodup := catalog.validateOrder_spec.1

variable {m : MigrationRecord}

/-- A migration is found under its identifier. -/
theorem find?_eq_some {n : ℕ} (h : catalog.migrations[n]? = some m) :
    catalog.find? m.migrationId = some m := by
  have hmem := List.mem_of_getElem? h
  cases hfind : catalog.find? m.migrationId with
  | none =>
    have hnone := List.find?_eq_none.mp hfind m hmem
    simp at hnone
  | some m' =>
    have hid : m'.migrationId = m.migrationId := by simpa using List.find?_some hfind
    rw [List.inj_on_of_nodup_map catalog.nodup (List.mem_of_find?_eq_some hfind) hmem hid]

/-- A migration is among the first `n` if its place is. -/
theorem mem_take_iff {n i : ℕ} (h : catalog.migrations[i]? = some m) :
    m.migrationId ∈ (catalog.migrations.take n).map MigrationRecord.migrationId ↔ i < n := by
  have hlen : i < catalog.identifiers.length := by
    rw [identifiers, List.length_map]
    exact (List.getElem?_eq_some_iff.mp h).1
  have hid : catalog.identifiers[i]? = some m.migrationId := by
    rw [identifiers, List.getElem?_map, h, Option.map_some]
  rw [List.map_take, ← identifiers]
  constructor
  · intro hmem
    obtain ⟨j, hj⟩ := List.mem_iff_getElem?.mp hmem
    rw [List.getElem?_take] at hj
    split at hj
    · rename_i hjn
      rw [(List.getElem?_inj hlen catalog.nodup).mp (hid.trans hj.symm)]
      exact hjn
    · cases hj
  · intro hin
    refine List.mem_iff_getElem?.mpr ⟨i, ?_⟩
    rw [List.getElem?_take, if_pos hin, hid]

end MigrationCatalog

/-! ### Scripts -/

/-- The code points at which `str.splitlines` ends a line. -/
def isLineBreak (c : Char) : Bool :=
  let n := c.toNat
  (10 ≤ n && n ≤ 13) || (28 ≤ n && n ≤ 30) || n == 0x85 || n == 0x2028 || n == 0x2029

/-- The lines of a text, behind the reversed beginning of the first. -/
def linesFrom : List Char → List Char → List String
  | [], [] => []
  | line, [] => [String.ofList line.reverse]
  | line, '\r' :: '\n' :: rest => String.ofList line.reverse :: linesFrom [] rest
  | line, c :: rest =>
    if isLineBreak c then String.ofList line.reverse :: linesFrom [] rest
    else linesFrom (c :: line) rest

/-- `str.splitlines()`. -/
def pySplitlines (text : String) : List String := linesFrom [] text.toList

/-- `str.upper()`, up to the code points whose upper case is longer or has no ASCII letter: those
do not occur in the keywords it is compared with. -/
def upperCase (text : String) : String :=
  String.ofList (text.toList.map fun c =>
    if c = 'ı' then 'I' else if c = 'ſ' then 'S' else c.toUpper)

/-- `str.endswith`. -/
def endsWith (text ending : String) : Bool := ending.toList.isSuffixOf text.toList

/-- The variables of `_split_sql`. -/
structure SqlSplitter where
  statements : List String := []
  buffer : List String := []
  triggerMode : Bool := false
  deriving DecidableEq

namespace SqlSplitter

/-- The statement that ends with the lines of the buffer, without its semicolon. -/
def flush (s : SqlSplitter) (buffer : List String) : SqlSplitter :=
  let statement := pyStrip (pyJoin "\n" buffer)
  { statements := s.statements ++ [pyStrip (String.ofList statement.toList.dropLast)] }

/-- One line. A trigger contains semicolons and ends with a line `END;`. -/
def line (s : SqlSplitter) (line : String) : SqlSplitter :=
  let stripped := pyStrip line
  if stripped = "" ∨ startsWith stripped "--" then s
  else
    let triggerMode := s.triggerMode ||
      (s.buffer.isEmpty && startsWith (upperCase stripped) "CREATE TRIGGER")
    let buffer := s.buffer ++ [line]
    if triggerMode then
      if upperCase stripped = "END;" then s.flush buffer else { s with buffer, triggerMode }
    else if endsWith stripped ";" then s.flush buffer
    else { s with buffer, triggerMode }

end SqlSplitter

def migrationError (message : String) : PyError := .raised "MigrationError" message

def splitSql (text : String) : Except PyError (List String) := do
  let final := (pySplitlines text).foldl SqlSplitter.line {}
  raiseIf (final.buffer ≠ [])
    (migrationError "SQL migration contains a statement without a terminating semicolon")
  return final.statements

example : splitSql "-- tables\nCREATE TABLE a (x);\nCREATE TRIGGER t\nBEGIN\n  SELECT 1;\nEND;\n" =
    .ok ["CREATE TABLE a (x)", "CREATE TRIGGER t\nBEGIN\n  SELECT 1;\nEND"] := by decide +kernel

end ProjectPipeline
