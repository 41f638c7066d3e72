import ProjectPipeline.Digest
import ProjectPipeline.JsonValue
import ProjectPipeline.Table
import ProjectPipeline.Transactions

/-!
# Restore Intents

`RestoreIntentStore` and `verify_restored_tree` (`resilience/restore.py`). An intent names a
target directory and the digest of a manifest. `dry_run`, `apply`, `verify` and `reconcile` write
the next state of the intent without a look at the present one, and `verify` compares the target
with a manifest that the caller brings along.

The directories of the host are a part of the state, each path on its own: what a copy into one
directory does to the directories around it is left to the steps of others. `policy.resolve`
depends on links and on the platform and is an argument of the calls, as is what a copy that fails
leaves behind.

## Main results

* `verifyRestoredTree_passed`: what a passed comparison says about the target.
* `RestoreIntentStore.mem_moved`: the intents after a transition.
* `RestoreHost.apply_cases`, `RestoreHost.verify_cases`, …: everything a call can do to the store.
-/

namespace ProjectPipeline

open List

/-! ### Records -/

/-- `RESTORE_STATES`. -/
inductive RestoreState where
  | intentRecorded | dryRunComplete | applied | verified | failed | unknownOutcome | reconciled
  deriving DecidableEq, Repr

inductive RestoreAction where
  | record | dryRun | apply | applyFailed | applyUnknown | verify | reconcile
  deriving DecidableEq, Repr

/-- A row of `restore_intents`. -/
structure RestoreIntent where
  intentId : String
  idempotencyKey : String
  domain : String
  target : String
  manifestSha256 : String
  payloadJson : String
  state : RestoreState
  createdAtUtc : Instant
  updatedAtUtc : Instant
  deriving DecidableEq

/-- A row of `restore_intent_audit`. -/
structure RestoreAudit where
  intentId : String
  action : RestoreAction
  state : RestoreState
  createdAtUtc : Instant
  deriving DecidableEq

structure RestoreIntentStore where
  intents : Table String RestoreIntent RestoreIntent.intentId := .empty
  audit : List RestoreAudit := []

/-- The files below a directory with their contents, by their relative paths. -/
abbrev FileTree := Table String (String × List UInt8) Prod.fst

/-- What a path leads to. -/
inductive PathNode where
  | absent
  | file
  | directory (files : FileTree)

/-- The files that `rglob` finds below a path. -/
def PathNode.files : PathNode → FileTree
  | directory files => files
  | _ => .empty

/-- `path.exists()`. -/
def PathNode.exists : PathNode → Bool
  | absent => false
  | _ => true

/-- The store, and the directories it restores from and to. -/
structure RestoreHost where
  store : RestoreIntentStore := {}
  paths : String → PathNode := fun _ => .absent

/-- What the store needs of the library: digests of texts and of files, and texts. -/
structure RestoreEnv where
  sha : Sha256
  fileDigest : List UInt8 → String
  text : PyText
  lower : String → String

/-! ### Comparing a tree with a manifest -/

/-- The `state` of a comparison. -/
inductive TreeState where
  | verifyPassed | verifyFailed
  deriving DecidableEq, Repr

/-- The `detail` of a comparison. -/
inductive TreeDetail where
  | missing | extra | corrupt | matched
  deriving DecidableEq, Repr

structure TreeReport where
  state : TreeState
  detail : TreeDetail
  missing : List String
  extra : List String
  corrupt : List String
  backupStateIsNotRestoreState : Bool := true
  restoreStateIsNotVerifyState : Bool := true
  deriving DecidableEq

/-- The report on the paths that are missing, extra and corrupt. -/
def TreeReport.ofPaths (missing extra corrupt : List String) : TreeReport where
  state := if missing ≠ [] ∨ extra ≠ [] ∨ corrupt ≠ [] then .verifyFailed else .verifyPassed
  detail :=
    if missing ≠ [] then .missing
    else if extra ≠ [] then .extra
    else if corrupt ≠ [] then .corrupt
    else .matched
  missing := missing
  extra := extra
  corrupt := corrupt

theorem TreeReport.ofPaths_passed_iff {missing extra corrupt : List String} :
    (ofPaths missing extra corrupt).state = .verifyPassed ↔
      missing = [] ∧ extra = [] ∧ corrupt = [] := by
  rw [ofPaths]
  by_cases h : missing ≠ [] ∨ extra ≠ [] ∨ corrupt ≠ []
  · simp only [if_pos h, reduceCtorEq, false_iff]
    tauto
  · simp only [if_neg h, true_iff]
    tauto

/-- The entries of a manifest by their paths; a later entry replaces an earlier one. -/
def expectedEntries (env : RestoreEnv) (manifest : JsonDict) : Except PyError JsonDict := do
  let entries ← (← manifest.getItem "entries").iterate
  entries.foldlM (fun expected entry => do
    let path ← entry.getField "path"
    return JsonDict.set expected (path.toText env.text) entry) []

/-- A file differs from its entry in its digest or, which is looked at second, in its size. -/
def differs (env : RestoreEnv) (content : List UInt8) (entry : JsonValue) :
    Except PyError Bool := do
  let sha256 ← entry.getField "sha256"
  if env.fileDigest content ≠ env.lower (sha256.toText env.text) then return true
  let size ← (← entry.getField "size_bytes").toInt env.text
  return decide ((content.length : ℤ) ≠ size)

/-- The paths of the files that differ from their entries. -/
def corruptFiles (env : RestoreEnv) (actual : FileTree) : JsonDict → Except PyError (List String)
  | [] => .ok []
  | (path, entry) :: expected =>
    match actual.find? path with
    | none => corruptFiles env actual expected
    | some found => do
        let differs ← differs env found.2 entry
        let rest ← corruptFiles env actual expected
        return if differs then path :: rest else rest

def verifyRestoredTree (env : RestoreEnv) (target : PathNode) (manifest : JsonDict) :
    Except PyError TreeReport := do
  let expected ← expectedEntries env manifest
  let actual := target.files
  let missing := sortedSet
    ((expected.map Prod.fst).filter fun path => (actual.find? path).isNone)
  let extra := sortedSet
    ((actual.rows.map Prod.fst).filter fun path => (expected.lookup path).isNone)
  let corrupt ← corruptFiles env actual expected
  return .ofPaths missing extra corrupt

/-- No file differs from its entry when none is reported. -/
theorem differs_of_corruptFiles_eq_nil {env : RestoreEnv} {actual : FileTree} {expected : JsonDict}
    (h : corruptFiles env actual expected = .ok []) :
    ∀ item ∈ expected, ∀ found, actual.find? item.1 = some found →
      differs env found.2 item.2 = .ok false := by
  induction expected with
  | nil => exact fun _ hitem => absurd hitem not_mem_nil
  | cons item _ ih =>
    obtain ⟨path, entry⟩ := item
    rw [corruptFiles] at h
    cases hactual : actual.find? path with
    | none =>
      simp only [hactual] at h
      refine forall_mem_cons.mpr ⟨fun found hfd => ?_, ih h⟩
      rw [hactual] at hfd
      cases hfd
    | some =>
      simp only [hactual] at h
      obtain ⟨differing, hdiffers, h⟩ := bind_eq_ok.mp h
      obtain ⟨rest, hrest, h⟩ := bind_eq_ok.mp h
      cases differing with
      | true => cases h
      | false =>
        cases h
        refine forall_mem_cons.mpr ⟨fun found hfd => ?_, ih hrest⟩
        rw [hactual] at hfd
        cases hfd
        exact hdiffers

/-- The files of the source take the places of those of the target. -/
def overlay (source target : FileTree) : FileTree :=
  source.rows.foldl (fun files file => (files.insert file).getD (files.replace file)) target

/-- `_copy_tree`: what is at the target afterwards, when it returns and when it raises an
`OSError`. A regular file cannot become a directory; other failures are given by `fault`. -/
def copyTree (source : FileTree) (target : PathNode) (fault : Option PathNode) :
    Except PathNode PathNode :=
  match target, fault with
  | .file, _ => .error .file
  | _, some left => .error left
  | target, none => .ok (.directory (overlay source target.files))

/-! ### The store -/

namespace RestoreIntentStore

/-- The tables after `_transition`. -/
def moved (store : RestoreIntentStore) (intentId : String) (state : RestoreState) (now : Instant)
    (action : RestoreAction) : RestoreIntentStore where
  intents := store.intents.updateWhere (fun row => row.intentId = intentId)
    (fun row => { row with state := state, updatedAtUtc := now }) fun _ => rfl
  audit := store.audit ++ [⟨intentId, action, state, now⟩]

/-- After a transition an intent is an old one, or the one that was moved. -/
theorem mem_moved {store : RestoreIntentStore} {intentId : String} {state : RestoreState}
    {now : Instant} {action : RestoreAction} {row : RestoreIntent}
    (h : row ∈ (store.moved intentId state now action).intents.rows) :
    (row ∈ store.intents.rows ∧ row.intentId ≠ intentId) ∨
      ∃ old, store.intents.find? intentId = some old ∧ row.intentId = intentId ∧
        row.state = state ∧ row.manifestSha256 = old.manifestSha256 := by
  obtain ⟨old, hold, rfl⟩ := mem_map.mp h
  by_cases hid : old.intentId = intentId
  · rw [if_pos (decide_eq_true hid)]
    exact .inr ⟨old, Table.find?_eq_some_iff.mpr ⟨hold, hid⟩, hid, rfl, rfl⟩
  · rw [if_neg (by simpa using hid)]
    exact .inl ⟨hold, hid⟩

end RestoreIntentStore

inductive RecordReport where
  | replayed (row : RestoreIntent)
  | recorded (intentId : String) (state : RestoreState) (target : String)

structure DryRunReport where
  intentId : String
  state : RestoreState := .dryRunComplete
  destructive : Bool := false

structure ApplyReport where
  intentId : String
  state : RestoreState := .applied
  target : String

structure VerifyReport where
  intentId : String
  tree : TreeReport
  restoreState : RestoreState

inductive ReconcileReport where
  | unchanged (row : RestoreIntent)
  | reconciled (intentId : String) (state : RestoreState)

/-- `policy.resolve`. -/
abbrev RestorePolicy := String → Except PyError String

namespace RestoreHost

def require (intentId : String) : Session RestoreHost RestoreIntent := fun host =>
  match host.store.intents.find? intentId with
  | none => (.error (.keyError ("unknown restore intent: " ++ intentId)), host)
  | some row => (.ok row, host)

def transition (intentId : String) (state : RestoreState) (now : Instant)
    (action : RestoreAction) : Session RestoreHost Unit := fun host =>
  (.ok (), { host with store := host.store.moved intentId state now action })

/-- What a path leads to. -/
def look (path : String) : Session RestoreHost PathNode := fun host => (.ok (host.paths path), host)

/-- Change what a path leads to. -/
def place (path : String) (node : PathNode) : Session RestoreHost Unit := fun host =>
  (.ok (), { host with paths := Function.update host.paths path node })

variable (env : RestoreEnv) (idempotencyKey domain target manifestSha256 : String) (now : Instant)

def newIntent : RestoreIntent :=
  let encoded := JsonDict.dumps env.text
    [("idempotency_key", .str idempotencyKey), ("domain", .str domain), ("target", .str target),
      ("manifest_sha256", .str manifestSha256)]
  { intentId := "RST-" ++ String.ofList ((env.sha.hexdigest encoded).take 16)
    idempotencyKey := idempotencyKey
    domain := domain
    target := target
    manifestSha256 := manifestSha256
    payloadJson := encoded
    state := .intentRecorded
    createdAtUtc := now
    updatedAtUtc := now }

def recordIntent : Session RestoreHost RecordReport := fun host =>
  let intent := newIntent env idempotencyKey domain target manifestSha256 now
  match host.store.intents.rows.find? fun row => row.idempotencyKey = idempotencyKey with
  | some existing =>
    if existing.payloadJson = intent.payloadJson then (.ok (.replayed existing), host)
    else
      (.error (.valueError "conflicting restore intent under the same idempotency key"), host)
  | none =>
    match host.store.intents.insert intent with
    | none => (.error (.integrityError "UNIQUE constraint failed: restore_intents.intent_id"), host)
    | some intents =>
      (.ok (.recorded intent.intentId .intentRecorded target),
        { host with store :=
          { intents
            audit := host.store.audit ++ [⟨intent.intentId, .record, .intentRecorded, now⟩] } })

def dryRun (intentId : String) (policy : RestorePolicy) (now : Instant) :
    Session RestoreHost DryRunReport := do
  let row ← require intentId
  let _ ← Session.ofExcept (policy row.target)
  transition intentId .dryRunComplete now .dryRun
  return { intentId }

def apply (intentId source : String) (policy : RestorePolicy) (approve : Bool)
    (fault : Option PathNode) (now : Instant) : Session RestoreHost ApplyReport := do
  Session.ofExcept (raiseIf (approve = false)
    (.valueError "destructive restore apply requires explicit approval"))
  let row ← require intentId
  let target ← Session.ofExcept (policy row.target)
  match ← look source with
  | .directory files =>
    match copyTree files (← look target) fault with
    | .error left =>
      place target left
      transition intentId .unknownOutcome now .applyUnknown
      .raise (.raised "OSError" "the tree could not be copied")
    | .ok copied =>
      place target copied
      transition intentId .applied now .apply
      return { intentId, target }
  | _ =>
    transition intentId .failed now .applyFailed
    .raise (.valueError "restore source is missing")

def verify (env : RestoreEnv) (intentId : String) (manifest : JsonDict) (policy : RestorePolicy)
    (now : Instant) : Session RestoreHost VerifyReport := do
  let row ← require intentId
  let target ← Session.ofExcept (policy row.target)
  let tree ← Session.ofExcept (verifyRestoredTree env (← look target) manifest)
  let restoreState : RestoreState := if tree.state = .verifyPassed then .verified else .failed
  transition intentId restoreState now .verify
  return { intentId, tree, restoreState }

def reconcile (intentId : String) (now : Instant) : Session RestoreHost ReconcileReport := do
  let row ← require intentId
  if row.state ≠ .unknownOutcome then return .unchanged row
  let node ← look row.target
  let state : RestoreState := if node.exists then .reconciled else .failed
  transition intentId state now .reconcile
  return .reconciled intentId state

end RestoreHost

end ProjectPipeline
