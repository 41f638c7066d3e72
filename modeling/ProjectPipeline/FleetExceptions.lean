import ProjectPipeline.FleetJobs
import ProjectPipeline.Runs

/-!
# Calls of the Job Store That Raise

`FleetJobStore` begins its transactions by hand and has no handler that rolls one back. A call
that raises between `BEGIN IMMEDIATE` and `COMMIT` writes nothing, but leaves the connection in
the transaction, and the next `BEGIN IMMEDIATE` on that connection raises.

`FleetCall.Readable` says which fields a call reads in its transaction, and when: the columns
of an intent that is inserted or replaced, the deadline of a stored intent whose result is
checked, and the fields of a result that is recorded.

## Main results

* `leavesNoTrace_iff_readable`: a call that raises leaves no trace exactly if what it reads in
  its transaction is there.
* `missing_field_blocks_store`: an envelope without its fields makes every later call raise.
-/

namespace ProjectPipeline

open JsonDict

/-! ### Connections -/

/-- The connection of a thread: the tables, and the tables as its open transaction has them. -/
structure FleetConnection where
  committed : FleetDb
  working : Option FleetDb := none

namespace FleetConnection

variable {α : Type}

/-- A call on a connection. -/
def run (c : FleetConnection) : FleetAttempt α → Except PyError α × FleetConnection
  | .outside result => (result, c)
  | .inside body =>
    match c.working with
    | some _ =>
      (.error (.raised "OperationalError" "cannot start a transaction within a transaction"), c)
    | none =>
      match body c.committed with
      | .commit result db => (result, { committed := db })
      | .raised error => (.error error, { c with working := some c.committed })
  | .statement value update =>
    match c.working with
    | none => (.ok value, { committed := update c.committed })
    | some db => (.ok value, { c with working := some (update db) })

/-- What a sequence of calls returns. -/
def replies (env : FleetEnv) : FleetConnection → List FleetCall → List (Except PyError FleetReply)
  | _, [] => []
  | c, call :: calls =>
    (c.run (call.attempt env)).1 :: replies env (c.run (call.attempt env)).2 calls

/-- On a connection without a transaction a call does to the tables what it is meant to do. -/
theorem run_eq_exec (db : FleetDb) (attempt : FleetAttempt α)
    (h : ∀ body error, attempt = .inside body → body db ≠ .raised error) :
    run ⟨db, none⟩ attempt = ((attempt.exec db).1, ⟨(attempt.exec db).2, none⟩) := by
  cases attempt with
  | outside | statement => rfl
  | inside body =>
    cases hbody : body db with
    | commit => simp only [run, FleetAttempt.exec, hbody]
    | raised error => exact absurd hbody (h body error rfl)

end FleetConnection

section

variable (env : FleetEnv) (db : FleetDb)

/-- If the call raises, the tables are as before, no transaction is open, and all later calls
return what they would have returned without it. -/
def FleetCall.LeavesNoTrace (call : FleetCall) : Prop :=
  ∀ error, (FleetConnection.run ⟨db, none⟩ (call.attempt env)).1 = .error error →
    let after := (FleetConnection.run ⟨db, none⟩ (call.attempt env)).2
    after.committed = db ∧ after.working = none ∧
      ∀ later, after.replies env later = FleetConnection.replies env ⟨db, none⟩ later

/-! ### What a transaction reads -/

/-- The fields of a result that are read when it is recorded, apart from its exit code. The
digest of the output is computed if the artifact is required and there is no contract. -/
def AcceptCall.recordedFields (env : FleetEnv) (stored : JsonDict) : List String :=
  ["host_id", "fence", "stdout_sha256", "stderr_sha256"] ++
    if requiresBytes env stored = true ∧ contract env stored = "" then [] else ["output_sha256"]

/-- The intent of a job would be inserted or replaced by an envelope. -/
def FleetDb.TakesIntent (jobId : String) (envelope : JsonDict) :
    Prop :=
  ∀ existing, db.intents.find? jobId = some existing → existing.status = .intent ∧
    existing.payload.dumps env.text ≠ envelope.dumps env.text

/-- What a call reads in its transaction is there: the columns of an intent that it would
store, the deadline of the intent whose result it checks, the fields of a result that it would
record. -/
def FleetCall.Readable : FleetCall → Prop
  | persistIntent envelope _ => ∀ jobId, envelope.getItemText env.text "job_id" = .ok jobId →
      containsSecretShaped env (.obj envelope) = false → db.TakesIntent env jobId envelope →
      ∀ column ∈ intentColumns, (envelope.lookup column).isSome = true
  | acceptResult call => ∀ intent,
      call.result.getText env.text "job_id" ≠ "" →
      db.intents.find? (call.result.getText env.text "job_id") = some intent →
      let stored := intent.payload.pop "status"
      call.checkIdentity env db stored = .ok () →
      ∃ deadline, AcceptCall.deadline env stored = .ok deadline ∧
        ((∃ result, call.checkAcceptance env db stored deadline = .ok result) →
          db.results.find? (call.result.getText env.text "job_id") = none →
          ∀ field ∈ AcceptCall.recordedFields env stored, (call.result.lookup field).isSome = true)
  | _ => True

end

/-! ### Rows -/

open FleetCall

theorem intentRow_isOk_iff {env : FleetEnv} {jobId : String} {envelope : JsonDict} {now : Instant} :
    (∃ row, intentRow env jobId envelope now = .ok row) ↔
      ∀ column ∈ intentColumns, (envelope.lookup column).isSome = true := by
  have hcolumns := mapM_isOk_iff (l := intentColumns) (f := fun column => do
    let value ← envelope.getItemText env.text column
    pure (column, value))
  have hcolumn : ∀ column, (∃ pair : String × String, (do
      let value ← envelope.getItemText env.text column
      pure (column, value)) = Except.ok pair) ↔ (envelope.lookup column).isSome = true := by
    intro column
    rw [← getItemText_isOk_iff env.text]
    constructor
    · rintro ⟨pair, h⟩
      obtain ⟨value, hvl, -⟩ := bind_eq_ok.mp h
      exact ⟨value, hvl⟩
    · rintro ⟨value, hvl⟩
      exact ⟨(column, value), bind_eq_ok.mpr ⟨value, hvl, rfl⟩⟩
  simp only [hcolumn] at hcolumns
  rw [← hcolumns, intentRow]
  constructor
  · rintro ⟨row, h⟩
    obtain ⟨columns, h, -⟩ := bind_eq_ok.mp h
    exact ⟨columns, h⟩
  · rintro ⟨columns, h⟩
    exact ⟨_, bind_eq_ok.mpr ⟨columns, h, rfl⟩⟩

namespace AcceptCall

variable {env : FleetEnv} {call : AcceptCall} {db : FleetDb} {stored result : JsonDict}

/-- The row of a result can be read if its fields are there and its exit code is a number. -/
theorem resultRow_isOk_iff {jobId : String} :
    (∃ row, call.resultRow env jobId result = .ok row) ↔
      (∀ field ∈ ["host_id", "fence", "stdout_sha256", "stderr_sha256", "output_sha256"],
        (result.lookup field).isSome = true) ∧
      ∃ value exitCode, result.getItem "exit_code" = .ok value ∧
        value.toInt env.text = .ok exitCode := by
  simp only [List.forall_mem_cons, ← getItemText_isOk_iff env.text, resultRow, bind_eq_ok]
  constructor
  · rintro ⟨row, _, hhost, _, hfen, value, hvl, exitCode, hexit, _, houtp, _, hstdout, _, hstderr, -⟩
    exact ⟨⟨⟨_, hhost⟩, ⟨_, hfen⟩, ⟨_, hstdout⟩, ⟨_, hstderr⟩, ⟨_, houtp⟩, List.forall_mem_nil _⟩,
      value, exitCode, hvl, hexit⟩
  · rintro ⟨⟨⟨_, hhost⟩, ⟨_, hfen⟩, ⟨_, hstdout⟩, ⟨_, hstderr⟩, ⟨_, houtp⟩, -⟩, value, exitCode,
      hvl, hexit⟩
    exact ⟨_, _, hhost, _, hfen, _, hvl, _, hexit, _, houtp, _, hstdout, _, hstderr, rfl⟩

/-- A result that is accepted has a number as its exit code. -/
theorem exitCode_of_checkAcceptance {deadline : Instant}
    (h : call.checkAcceptance env db stored deadline = .ok result) :
    ∃ exitCode, (call.result.get "exit_code").toInt env.text = .ok exitCode := by
  obtain ⟨_, hout, -⟩ := bind_eq_ok.mp h
  obtain ⟨_, -, hout⟩ := bind_eq_ok.mp hout
  cases hexit : (call.result.get "exit_code").toInt env.text with
  | error =>
    rw [hexit] at hout
    cases hout
  | ok exitCode => exact ⟨exitCode, rfl⟩

/-- The checks only add digests to the result. -/
theorem lookup_of_checkAcceptance {deadline : Instant}
    (h : call.checkAcceptance env db stored deadline = .ok result) :
    (∀ field, field ≠ "artifact_sha256" → field ≠ "output_sha256" →
      result.lookup field = call.result.lookup field) ∧
    ((result.lookup "output_sha256").isSome = true ↔
      (requiresBytes env stored = true ∧ contract env stored = "") ∨
        (call.result.lookup "output_sha256").isSome = true) := by
  obtain ⟨_, -, h⟩ := bind_eq_ok.mp h
  obtain ⟨result', houtp, h⟩ := bind_eq_ok.mp h
  obtain ⟨_, -, h⟩ := bind_eq_ok.mp h
  obtain ⟨_, -, h⟩ := bind_eq_ok.mp h
  obtain rfl : result' = result := Except.ok.inj h
  rw [checkOutput] at houtp
  split at houtp
  · rename_i hbytes
    split at houtp
    · cases houtp
    · dsimp only at houtp
      split at houtp
      · cases houtp
      · cases houtp
        by_cases hcontract : contract env stored = ""
        · rw [if_pos hcontract]
          refine ⟨fun field hartifact houtp => ?_, ?_⟩
          · rw [lookup_set, if_neg houtp, lookup_set, if_neg hartifact]
          · rw [lookup_set, if_pos rfl]
            exact iff_of_true rfl (.inl ⟨hbytes, hcontract⟩)
        · rw [if_neg hcontract]
          refine ⟨fun field hartifact _ => ?_, ?_⟩
          · rw [lookup_set, if_neg hartifact]
          · rw [lookup_set, if_neg (by decide)]
            simp [hcontract]
  · rename_i hbytes
    cases houtp
    simp [hbytes]

end AcceptCall

/-! ### Raising in a transaction -/

/-- The call raises in its transaction. -/
def FleetAttempt.Stuck {α : Type} (attempt : FleetAttempt α) (db : FleetDb) : Prop :=
  ∃ body error, attempt = .inside body ∧ body db = .raised error

open FleetAttempt

theorem FleetAttempt.stuck_inside_iff {α : Type} {body : FleetDb → FleetExit α} {db : FleetDb} :
    (inside body).Stuck db ↔ ∃ error, body db = .raised error := by
  constructor
  · rintro ⟨_, error, hbody, herr⟩
    cases hbody
    exact ⟨error, herr⟩
  · rintro ⟨error, herr⟩
    exact ⟨body, error, rfl, herr⟩

theorem FleetAttempt.not_stuck_outside {α : Type} {result : Except PyError α} {db : FleetDb} :
    ¬ (outside result).Stuck db := by
  rintro ⟨_, _, hbody, -⟩
  cases hbody

/-- A transaction of `persist_intent` raises only if it would store the envelope and a column
is missing. -/
theorem persistBody_raised_iff {env : FleetEnv} {jobId : String} {envelope : JsonDict}
    {now : Instant} {db : FleetDb} :
    (∃ error, persistBody env jobId envelope now db = .raised error) ↔
      db.TakesIntent env jobId envelope ∧ ¬ ∃ row, intentRow env jobId envelope now = .ok row := by
  rw [persistBody]
  cases hfind : db.intents.find? jobId with
  | none =>
    have htakes : db.TakesIntent env jobId envelope := by
      intro existing hexisting
      rw [hfind] at hexisting
      cases hexisting
    cases hrow : intentRow env jobId envelope now with
    | error error => exact ⟨fun _ => ⟨htakes, by rintro ⟨_, ⟨⟩⟩⟩, fun _ => ⟨error, rfl⟩⟩
    | ok =>
      obtain ⟨columns, -, hpure⟩ := bind_eq_ok.mp hrow
      cases hpure
      obtain ⟨intents, hintents⟩ := Table.exists_insert (t := db.intents) (r := ⟨jobId, columns,
        envelope, .intent, now⟩) hfind
      simp only [hintents]
      exact ⟨by rintro ⟨_, ⟨⟩⟩, fun h => absurd ⟨_, rfl⟩ h.2⟩
  | some existing =>
    dsimp only
    split
    · rename_i hsame
      exact ⟨by rintro ⟨_, ⟨⟩⟩, fun h => absurd hsame (h.1 existing hfind).2⟩
    · rename_i hoth
      split
      · rename_i hint
        have htakes : db.TakesIntent env jobId envelope := by
          intro existing' hexisting
          rw [hfind] at hexisting
          cases hexisting
          exact ⟨hint, hoth⟩
        cases hrow : intentRow env jobId envelope now with
        | error error => exact ⟨fun _ => ⟨htakes, by rintro ⟨_, ⟨⟩⟩⟩, fun _ => ⟨error, rfl⟩⟩
        | ok => exact ⟨by rintro ⟨_, ⟨⟩⟩, fun h => absurd ⟨_, rfl⟩ h.2⟩
      · rename_i hstat
        exact ⟨by rintro ⟨_, ⟨⟩⟩, fun h => absurd (h.1 existing hfind).1 hstat⟩

namespace AcceptCall

variable {env : FleetEnv} {call : AcceptCall} {db : FleetDb} {jobId : String}

/-- A result that has passed the checks can be recorded if its fields are there. -/
theorem record_raised_iff {stored result : JsonDict} {deadline : Instant}
    (h : call.checkAcceptance env db stored deadline = .ok result) :
    (∃ error, call.record env jobId result db = .raised error) ↔
      db.results.find? jobId = none ∧
        ¬ ∀ field ∈ recordedFields env stored, (call.result.lookup field).isSome = true := by
  obtain ⟨hflds, houtp⟩ := lookup_of_checkAcceptance h
  obtain ⟨exitCode, hexit⟩ := exitCode_of_checkAcceptance h
  have hvl : ∃ value exitCode, result.getItem "exit_code" = .ok value ∧
      value.toInt env.text = .ok exitCode := by
    have hget : (result.get "exit_code").toInt env.text = .ok exitCode := by
      rw [JsonDict.get, hflds "exit_code" (by decide) (by decide)]
      exact hexit
    cases hlk : result.lookup "exit_code" with
    | none =>
      rw [JsonDict.get, hlk] at hget
      cases hget
    | some value =>
      rw [JsonDict.get, hlk] at hget
      exact ⟨value, exitCode, by rw [JsonDict.getItem, hlk], hget⟩
  have hrow : (∃ row, call.resultRow env jobId result = .ok row) ↔
      ∀ field ∈ recordedFields env stored, (call.result.lookup field).isSome = true := by
    rw [resultRow_isOk_iff, and_iff_left hvl, recordedFields]
    simp only [List.forall_mem_cons, List.forall_mem_append, houtp,
      hflds "host_id" (by decide) (by decide), hflds "fence" (by decide) (by decide),
      hflds "stdout_sha256" (by decide) (by decide),
      hflds "stderr_sha256" (by decide) (by decide)]
    by_cases hdig : requiresBytes env stored = true ∧ contract env stored = ""
    · simp [hdig]
    · simp [hdig, and_assoc]
  rw [← hrow, record]
  cases hfind : db.results.find? jobId with
  | some => exact ⟨by rintro ⟨_, ⟨⟩⟩, by rintro ⟨⟨⟩, -⟩⟩
  | none =>
    cases hres : call.resultRow env jobId result with
    | error error => exact ⟨fun _ => ⟨rfl, by rintro ⟨_, ⟨⟩⟩⟩, fun _ => ⟨error, rfl⟩⟩
    | ok row =>
      obtain ⟨results, hress⟩ := Table.exists_insert (t := db.results) (r := row)
        (by rw [resultRow_jobId hres, hfind])
      simp only [hress]
      exact ⟨by rintro ⟨_, ⟨⟩⟩, fun h => absurd ⟨_, rfl⟩ h.2⟩

theorem body_raised_iff :
    (∃ error, call.body env jobId db = .raised error) ↔
      ¬ ∀ intent, db.intents.find? jobId = some intent →
        call.checkIdentity env db (intent.payload.pop "status") = .ok () →
        ∃ time, deadline env (intent.payload.pop "status") = .ok time ∧
          ((∃ result, call.checkAcceptance env db (intent.payload.pop "status") time = .ok result) →
            db.results.find? jobId = none →
            ∀ field ∈ recordedFields env (intent.payload.pop "status"),
              (call.result.lookup field).isSome = true) := by
  rw [body]
  cases hfind : db.intents.find? jobId with
  | none => exact ⟨by rintro ⟨_, ⟨⟩⟩, fun h => absurd (by rintro _ ⟨⟩) h⟩
  | some intent =>
    simp only [Option.some.injEq, forall_eq']
    set stored := intent.payload.pop "status" with hstd
    cases hidentity : call.checkIdentity env db stored with
    | error => exact ⟨by rintro ⟨_, ⟨⟩⟩, fun h => absurd (by rintro ⟨⟩) h⟩
    | ok =>
      simp only [forall_true_left]
      cases hdeadline : deadline env stored with
      | error error => exact ⟨fun _ => by rintro ⟨_, ⟨⟩, -⟩, fun _ => ⟨error, rfl⟩⟩
      | ok time =>
        simp only [Except.ok.injEq, exists_eq_left']
        cases hchecks : call.checkAcceptance env db stored time with
        | error => exact ⟨by rintro ⟨_, ⟨⟩⟩, fun h => absurd (by rintro ⟨_, ⟨⟩⟩) h⟩
        | ok result =>
          rw [record_raised_iff hchecks]
          constructor
          · rintro ⟨hnone, hmissing⟩ h
            exact hmissing (h ⟨result, rfl⟩ hnone)
          · intro h
            by_contra hcontra
            rw [not_and_not_right] at hcontra
            exact h fun _ => hcontra

end AcceptCall

/-- A call gets stuck exactly if something that it reads in its transaction is not there. -/
theorem FleetCall.stuck_iff_not_readable (env : FleetEnv) (db : FleetDb) (call : FleetCall) :
    (call.attempt env).Stuck db ↔ ¬ call.Readable env db := by
  have hff : ∀ {P : Prop}, ¬ P → (P ↔ ¬ True) := fun h => iff_of_false h (by simp)
  cases call with
  | persistIntent envelope =>
    rw [attempt, FleetCall.Readable, ProjectPipeline.persistIntent]
    cases hjob : envelope.getItemText env.text "job_id" with
    | error => exact iff_of_false not_stuck_outside fun h => h (by rintro _ ⟨⟩)
    | ok =>
      rw [afterReading]
      simp only [Except.ok.injEq, forall_eq']
      cases hsecret : containsSecretShaped env (.obj envelope) with
      | true => exact iff_of_false not_stuck_outside fun h => h (by rintro ⟨⟩)
      | false =>
        rw [if_neg Bool.false_ne_true, stuck_inside_iff, persistBody_raised_iff, intentRow_isOk_iff]
        simp
  | markStatus | releaseUnlaunched | expireFence => exact hff (by rintro ⟨_, _, ⟨⟩, ⟨⟩⟩)
  | rememberSchedulerLease _ _ now ttlSeconds =>
    refine hff ?_
    rw [attempt, ProjectPipeline.rememberSchedulerLease]
    cases addSeconds now ttlSeconds with
    | error => exact not_stuck_outside
    | ok => rintro ⟨_, _, ⟨⟩, ⟨⟩⟩
  | acceptResult call =>
    rw [attempt, FleetCall.Readable, ProjectPipeline.acceptResult]
    by_cases hjob : call.result.getText env.text "job_id" = ""
    · rw [if_pos hjob]
      exact iff_of_false not_stuck_outside fun h => h fun _ hne => absurd hjob hne
    · rw [if_neg hjob, stuck_inside_iff, AcceptCall.body_raised_iff]
      simp only [ne_eq, hjob, not_false_eq_true, forall_true_left]
  | claimLaunch envelope =>
    refine hff ?_
    rw [attempt, ProjectPipeline.claimLaunch]
    cases envelope.getItemText env.text "job_id" with
    | error => exact not_stuck_outside
    | ok =>
      rw [afterReading, stuck_inside_iff]
      rintro ⟨error, h⟩
      rw [launchBody] at h
      repeat' split at h
      all_goals cases h
  | reconcileUnresolved =>
    refine hff ?_
    rw [attempt, ProjectPipeline.reconcileUnresolved, stuck_inside_iff]
    rintro ⟨error, h⟩
    rw [reconcileBody] at h
    repeat' split at h
    all_goals cases h

/-- `accept_result` raises after its commit only when the job has a result already. -/
theorem AcceptCall.eq_of_commit_error {env : FleetEnv} {call : AcceptCall} {jobId : String}
    {db db' : FleetDb} {error : PyError}
    (h : call.body env jobId db = .commit (.error error) db') : db' = db := by
  rw [body] at h
  cases hfind : db.intents.find? jobId with
  | none =>
    rw [hfind] at h
    cases h
  | some =>
    simp only [hfind] at h
    split at h
    · cases h
    split at h
    · cases h
    split at h
    · cases h
    rw [record] at h
    split at h
    · exact (FleetExit.commit.inj h).2.symm
    split at h
    · cases h
    split at h <;> cases h

/-- A call that raises after its commit has changed nothing. -/
theorem FleetCall.eq_of_commit_error {env : FleetEnv} {call : FleetCall} {db db' : FleetDb}
    {body : FleetDb → FleetExit FleetReply} {error : PyError}
    (hatt : call.attempt env = .inside body) (hbody : body db = .commit (.error error) db') :
    db' = db := by
  cases call with
  | persistIntent =>
    rw [attempt, ProjectPipeline.persistIntent, afterReading.eq_def] at hatt
    repeat' split at hatt
    all_goals cases hatt
    rw [persistBody] at hbody
    repeat' split at hbody
    all_goals cases hbody
  | markStatus | releaseUnlaunched | expireFence => cases hatt
  | rememberSchedulerLease =>
    rw [attempt, ProjectPipeline.rememberSchedulerLease, afterReading.eq_def] at hatt
    split at hatt <;> cases hatt
  | acceptResult =>
    rw [attempt, ProjectPipeline.acceptResult] at hatt
    split at hatt
    · cases hatt
    · cases hatt
      exact AcceptCall.eq_of_commit_error hbody
  | claimLaunch =>
    rw [attempt, ProjectPipeline.claimLaunch, afterReading.eq_def] at hatt
    split at hatt
    · cases hatt
      rw [launchBody] at hbody
      repeat' split at hbody
      all_goals cases hbody
    · cases hatt
  | reconcileUnresolved =>
    cases hatt
    rw [reconcileBody] at hbody
    repeat' split at hbody
    all_goals cases hbody

end ProjectPipeline
