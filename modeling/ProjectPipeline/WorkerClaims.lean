import ProjectPipeline.JsonValue
import ProjectPipeline.Processes

/-!
# Claims of Remote Workers

A remote worker that is to execute a job looks for the job's result in a cache file, then
creates a claim file exclusively, writes what it is doing to both files, runs the job, writes
the result to the cache and unlinks the claim. A claim that was left behind by a failed run may
be unlinked by the next worker.

Worker processes share nothing but the two files. `runEnvelope` is `run_envelope` from the claim
on, as a program of single file operations. An operation on the open claim file goes to the
file that was created, even if it has been unlinked since, so files have an inode.
-/

namespace ProjectPipeline

/-! ### Files -/

/-- How numbers and times are written and read. -/
structure WorkerEnv where
  text : PyText
  isoformat : Instant → String
  fromisoformat : String → Option Instant

/-- The claim file. A file that was created and not written to is empty and read as `{}`. -/
structure ClaimFile where
  inode : ℕ
  content : JsonDict
  mtime : Instant

/-- The cache file with its modification time, the claim file, the next free inode, the clock,
and how often the job was started. -/
structure WorkerFiles where
  cache : Option (JsonDict × Instant) := none
  claim : Option ClaimFile := none
  nextInode : ℕ := 0
  clock : Instant := 0
  spawned : ℕ := 0

/-- The operations of a worker. The job runs between `spawn` and `wait`. -/
inductive FileOp where
  | statCache
  | readCache
  | statClaim
  | readClaim
  | readClock
  | createClaim
  | writeClaim (inode : ℕ) (record : JsonDict)
  | writeCache (record : JsonDict)
  | unlinkClaim
  | spawn
  | wait

/-- What an operation changes. -/
def FileOp.exec : FileOp → WorkerFiles → WorkerFiles
  | createClaim, s =>
    if s.claim.isNone then
      { s with
        claim := some ⟨s.nextInode, [], s.clock⟩
        nextInode := s.nextInode + 1 }
    else s
  | writeClaim inode record, s =>
    { s with
      claim := s.claim.map fun file =>
        if file.inode = inode then { file with content := record, mtime := s.clock } else file }
  | writeCache record, s => { s with cache := some (record, s.clock) }
  | unlinkClaim, s => { s with claim := none }
  | spawn, s => { s with spawned := s.spawned + 1 }
  | _, s => s

abbrev WorkerProg := Prog FileOp WorkerFiles

namespace WorkerProg

/-- `_read_json_object` of the cache. -/
def readCache : WorkerProg JsonDict :=
  .call .readCache fun s => .ok ((s.cache.map Prod.fst).getD [])

/-- `_read_json_object` of the claim. -/
def readClaim : WorkerProg JsonDict :=
  .call .readClaim fun s => .ok ((s.claim.map ClaimFile.content).getD [])

/-- `cache.is_file()`. -/
def cacheIsFile : WorkerProg Bool := .call .statCache fun s => .ok s.cache.isSome

/-- `cache.stat().st_mtime`; an `OSError` is `none`. -/
def cacheTime : WorkerProg (Option Instant) := .call .statCache fun s => .ok (s.cache.map Prod.snd)

/-- `claim.stat().st_mtime`; an `OSError` is `none`. -/
def claimTime : WorkerProg (Option Instant) :=
  .call .statClaim fun s => .ok (s.claim.map ClaimFile.mtime)

/-- `datetime.now(UTC)`. -/
def now : WorkerProg Instant := .call .readClock fun s => .ok s.clock

/-- `_open_exclusive_claim`: the inode of the new file, or `none` for `FileExistsError`. -/
def openExclusiveClaim : WorkerProg (Option ℕ) :=
  .call .createClaim fun s => .ok (if s.claim.isNone then some s.nextInode else none)

/-- `os.write(fd, record)`. -/
def writeClaim (inode : ℕ) (record : JsonDict) : WorkerProg Unit :=
  .call (.writeClaim inode record) fun _ => .ok ()

def storeCache (record : JsonDict) : WorkerProg Unit := .call (.writeCache record) fun _ => .ok ()

/-- `claim.unlink()`, with `OSError` suppressed. -/
def unlinkClaim : WorkerProg Unit := .call .unlinkClaim fun _ => .ok ()

end WorkerProg

open WorkerProg

/-! ### Records -/

section

variable (env : WorkerEnv) (identity : String)

def zeroExit (value : JsonValue) : Bool :=
  match value.toInt env.text with
  | .ok exitCode => exitCode == 0
  | .error _ => false

variable (payload : JsonDict)

/-- The record is a `COMPLETE` one of the identity. -/
def isComplete : Bool :=
  payload.getText env.text "authority_identity" == identity &&
    payload.getText env.text "claim_state" == "COMPLETE"

/-- `payload.get("ok") is True and _zero_exit(payload.get("exit_code"))`. -/
def isSuccess : Bool :=
  (match payload.get "ok" with
    | .bool true => true
    | _ => false) && zeroExit env (payload.get "exit_code")

/-- A successful `COMPLETE` record. -/
def succeeded : Bool := isComplete env identity payload && isSuccess env payload

def parseUtc : JsonValue → Option Instant
  | .str text =>
    if pyStrip text = "" then none else env.fromisoformat (replaceZulu (pyStrip text))
  | _ => none

/-! ### Claiming -/

def loadCache : WorkerProg (Option JsonDict) := do
  if ← cacheIsFile then
    let payload ← readCache
    return if succeeded env identity payload then some (payload.set "duplicate" (.bool true))
      else none
  else return none

def isFailedComplete : WorkerProg Bool := do
  if ← cacheIsFile then
    let payload ← readCache
    return isComplete env identity payload && !isSuccess env payload
  else return false

def staleFailedCompleteClaim : WorkerProg Bool := do
  if ← isFailedComplete env identity then
    let cachePayload ← readCache
    let claimed ← readClaim
    match parseUtc env (claimed.get "started_at_utc"),
        parseUtc env (cachePayload.get "completed_at_utc") with
    | some started, some completed => return decide (started ≤ completed)
    | _, _ =>
      match ← claimTime with
      | none => return false
      | some claimTime =>
        let cacheTime ← cacheTime
        return cacheTime.any fun cacheTime => decide (claimTime ≤ cacheTime)
  else return false

/-- How the execution of a job ends: a resource limit or a timeout, an `OSError` that leaves
its outcome open, another exception, or the end of the child process. -/
inductive JobEnding where
  | failed (reason : String)
  | lost
  | raised (error : PyError)
  | completed (returncode : ℤ) (truncated : Bool) (report : JsonDict)

/-- What is read of a job. `preparation` raises if the owner of the claim cannot be recorded,
and may say why the job is refused after it was claimed. -/
structure WorkerJob where
  jobId : String
  fence : String := ""
  principal : String := ""
  sourceSha : String := ""
  pid : ℤ := 0
  preparation : Except PyError (Option String) := .ok none
  ending : JobEnding

variable (job : WorkerJob)

def claimRecord (started : Instant) : JsonDict :=
  [("claim_state", .str "RUNNING"), ("authority_identity", .str identity),
    ("job_id", .str job.jobId), ("fence", .str job.fence), ("principal", .str job.principal),
    ("source_sha", .str job.sourceSha), ("pid", .int job.pid),
    ("started_at_utc", .str (env.isoformat started))]

inductive ClaimReply where
  | duplicate (result : JsonDict)
  | refused (reason : String)
  | claimed

/-- The end of `_claim_worker_execution`: write to both files. -/
def publishClaim (record : JsonDict) (inode : ℕ) : WorkerProg ClaimReply := do
  writeClaim inode record
  storeCache (record ++ [("ok", .bool false), ("exit_code", .null)])
  return .claimed

/-- `_claim_worker_execution` when the claim exists. -/
def contestClaim (record : JsonDict) : WorkerProg ClaimReply := do
  match ← loadCache env identity with
  | some existing => return .duplicate existing
  | none =>
    let claimed ← readClaim
    let claimedIdentity := claimed.getText env.text "authority_identity"
    if claimedIdentity ≠ "" ∧ claimedIdentity ≠ identity then
      return .refused "incompatible_cache_identity"
    else if ← staleFailedCompleteClaim env identity then
      unlinkClaim
      match ← openExclusiveClaim with
      | some inode => publishClaim record inode
      | none => return .refused "unresolved_in_flight"
    else return .refused "unresolved_in_flight"

def claimWorkerExecution : WorkerProg ClaimReply := do
  match ← loadCache env identity with
  | some cached => return .duplicate cached
  | none =>
    let started ← now
    match ← openExclusiveClaim with
    | some inode => publishClaim (claimRecord env identity job started) inode
    | none => contestClaim env identity (claimRecord env identity job started)

/-! ### Running -/

/-- The answer of a worker: a result, or the reason of a failure. -/
inductive WorkerReply where
  | result (payload : JsonDict)
  | failed (reason : String)

def workerResult (returncode : ℤ) (truncated : Bool) (report : JsonDict) :
    JsonDict :=
  [("ok", .bool (returncode == 0 && !truncated)), ("exit_code", .int returncode),
    ("pid", .int job.pid), ("job_id", .str job.jobId), ("fence", .str job.fence),
    ("principal", .str job.principal), ("source_sha", .str job.sourceSha),
    ("duplicate", .bool false), ("truncated", .bool truncated),
    ("authority_identity", .str identity)] ++ report

def completeWorkerClaim (result : JsonDict) : WorkerProg Unit := do
  let completed ← now
  storeCache ((result.set "claim_state" (.str "COMPLETE")).set "completed_at_utc"
    (.str (env.isoformat completed)))
  unlinkClaim

/-- `run_envelope` from where the claim was taken. The `finally` block releases the claim. -/
def runClaimed : WorkerProg WorkerReply := do
  match job.preparation with
  | .error error => .raise error
  | .ok (some reason) =>
    unlinkClaim
    return .failed reason
  | .ok none =>
    .call .spawn fun _ => .ok ()
    .call .wait fun _ => .ok ()
    match job.ending with
    | .failed reason =>
      unlinkClaim
      return .failed reason
    | .lost => return .failed "unknown_outcome"
    | .raised error =>
      unlinkClaim
      .raise error
    | .completed returncode truncated report =>
      let result := workerResult identity job returncode truncated report
      completeWorkerClaim env result
      return .result result

/-- `run_envelope`, from the claim on. -/
def runEnvelope : WorkerProg WorkerReply := do
  match ← claimWorkerExecution env identity job with
  | .duplicate result => return .result result
  | .refused reason => return .failed reason
  | .claimed => runClaimed env identity job

end

end ProjectPipeline
