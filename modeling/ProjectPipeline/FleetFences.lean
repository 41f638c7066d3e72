import ProjectPipeline.FleetJobs
import ProjectPipeline.SchedulerStore

/-!
# Expired Fences

A job carries the fencing token of a lease as its fence. The scheduler counts tokens for each
resource key of its own, so two leases of different resources often have the same token, while
`fleet_expired_fences` holds nothing but the text of a token. Expiring the fence of one job
therefore expires the fences of all jobs with the same token.

A `FenceRun` allocates tokens, stores jobs, expires the fences of jobs and calls the other
methods of the store. Next to the tables it keeps which leases have had their fence expired.

## Main results

* `fence_expiry_isolated`: if jobs of different leases never share the text of an expired
  fence, no result is rejected for the expiry of the fence of another lease.
* `fence_expiry_hits_other_lease`: two leases of different resources with the same token.
-/

namespace ProjectPipeline

open List

/-! ### What accept_result rejects for -/

namespace AcceptCall

variable {env : FleetEnv} {call : AcceptCall} {db : FleetDb} {stored : JsonDict}

/-- The reasons of the checks after the deadline was read. -/
def acceptanceReasons : List String :=
  ["late_result", "nonzero_exit", "artifact_bytes_required", "output_tamper", "context_unconsumed",
    "context_wrong_job", "context_wrong_host", "context_wrong_pack", "scheduler_lease_inactive"]

variable {reason : String} {deadline : Instant}

theorem reason_of_checkOutcome
    (h : call.checkOutcome env deadline = .error reason) : reason ∈ acceptanceReasons := by
  rcases bind_eq_error.mp h with h | ⟨_, -, h⟩
  · rw [← (rejectWhen_eq_error.mp h).2]
    decide
  · split at h
    · rw [← Except.error.inj h]
      decide
    · rw [← (rejectWhen_eq_error.mp h).2]
      decide

theorem reason_of_checkOutput (h : call.checkOutput env stored = .error reason) :
    reason ∈ acceptanceReasons := by
  rw [checkOutput] at h
  split at h
  · split at h
    · rw [← Except.error.inj h]
      decide
    · dsimp only at h
      split at h
      · rw [← Except.error.inj h]
        decide
      · cases h
  · cases h

theorem reason_of_checkContext
    (h : call.checkContext env stored = .error reason) : reason ∈ acceptanceReasons := by
  rw [checkContext] at h
  split at h
  · rcases bind_eq_error.mp h with h | ⟨_, -, h⟩
    · rw [← (rejectWhen_eq_error.mp h).2]
      decide
    rcases bind_eq_error.mp h with h | ⟨_, -, h⟩
    · rw [← (rejectWhen_eq_error.mp h).2]
      decide
    rcases bind_eq_error.mp h with h | ⟨_, -, h⟩
    · rw [← (rejectWhen_eq_error.mp h).2]
      decide
    · rw [← (rejectWhen_eq_error.mp h).2]
      decide
  · cases h

theorem reason_of_checkAcceptance
    (h : call.checkAcceptance env db stored deadline = .error reason) :
    reason ∈ acceptanceReasons := by
  rcases bind_eq_error.mp h with h | ⟨_, -, h⟩
  · exact reason_of_checkOutcome h
  rcases bind_eq_error.mp h with h | ⟨_, -, h⟩
  · exact reason_of_checkOutput h
  rcases bind_eq_error.mp h with h | ⟨_, -, h⟩
  · exact reason_of_checkContext h
  rcases bind_eq_error.mp h with h | ⟨_, -, h⟩
  · rw [← (rejectWhen_eq_error.mp h).2]
    decide
  · cases h

/-- `expired_fence` is the reason of a fence that differs from the stored one or has
expired. -/
theorem fence_of_checkIdentity (h : call.checkIdentity env db stored = .error "expired_fence") :
    call.result.getText env.text "fence" ≠ stored.getText env.text "fence" ∨
      db.fenceExpired (stored.getText env.text "fence") = true := by
  rcases bind_eq_error.mp h with h | ⟨_, -, h⟩
  · exact absurd (rejectWhen_eq_error.mp h).2 (by decide)
  rcases bind_eq_error.mp h with h | ⟨_, -, h⟩
  · exact absurd (rejectWhen_eq_error.mp h).2 (by decide)
  rcases bind_eq_error.mp h with h | ⟨_, -, h⟩
  · exact .inl (rejectWhen_eq_error.mp h).1
  · exact .inr (rejectWhen_eq_error.mp h).1

/-- A job that has a result is not rejected for its fence. -/
theorem reason_of_replay {existing : ResultRow} {result : JsonDict} {reply : FleetReply}
    (h : replay env existing result = .ok reply) : reply.reason ≠ some "expired_fence" := by
  have hend : ∀ same : Bool,
      (if same then pure { ok := true, duplicate := some true, result := existing.payload }
        else pure (.refused "conflicting_replay") : Except PyError FleetReply) = .ok reply →
      reply.reason ≠ some "expired_fence" := by
    intro same hsame
    split at hsame
    · rw [← Except.ok.inj hsame]
      nofun
    · rw [← Except.ok.inj hsame]
      exact fun hrsn => absurd (Option.some.inj hrsn) (by decide)
  obtain ⟨output, -, h⟩ := bind_eq_ok.mp h
  split at h
  · obtain ⟨exitCode, -, h⟩ := bind_eq_ok.mp h
    obtain ⟨code, -, h⟩ := bind_eq_ok.mp h
    exact hend _ h
  · exact hend false h

/-- Neither is one whose result is recorded. -/
theorem reason_of_record {jobId : String} {result : JsonDict} {reply : FleetReply} {db' : FleetDb}
    (h : call.record env jobId result db = .commit (.ok reply) db') :
    reply.reason ≠ some "expired_fence" := by
  rw [record] at h
  split at h
  · exact reason_of_replay (FleetExit.commit.inj h).1
  split at h
  · cases h
  split at h
  · cases h
  · rw [← Except.ok.inj (FleetExit.commit.inj h).1]
    rintro ⟨⟩

end AcceptCall

/-- The fence of a job, as `accept_result` reads it from the stored envelope. -/
def jobFence (env : FleetEnv) (envelope : JsonDict) : String :=
  (envelope.pop "status").getText env.text "fence"

def jobLease (env : FleetEnv) (envelope : JsonDict) : String :=
  (envelope.pop "status").getText env.text "lease_id"

section

variable {env : FleetEnv} {call : AcceptCall} {db : FleetDb} {reply : FleetReply}

/-- A reply with the reason `expired_fence` comes from the transaction. -/
theorem acceptResult_eq_ok (h : ((acceptResult env call).exec db).1 = .ok reply)
    (hrsn : reply.reason = some "expired_fence") :
    ∃ db', call.body env (call.result.getText env.text "job_id") db = .commit (.ok reply) db' := by
  rw [acceptResult] at h
  split at h
  · rw [← Except.ok.inj h] at hrsn
    exact absurd (Option.some.inj hrsn) (by decide)
  · rw [FleetAttempt.exec] at h
    cases hbody : call.body env (call.result.getText env.text "job_id") db with
    | commit _ db' =>
      rw [hbody] at h
      exact ⟨db', congrArg (FleetExit.commit · db') h⟩
    | raised =>
      rw [hbody] at h
      cases h

/-- A result is rejected with `expired_fence` only if its fence differs from the stored one, or
the stored one has expired. -/
theorem fence_of_acceptResult (h : ((acceptResult env call).exec db).1 = .ok reply)
    (hrsn : reply.reason = some "expired_fence") :
    ∃ intent, db.intents.find? (call.result.getText env.text "job_id") = some intent ∧
      (call.result.getText env.text "fence" ≠ jobFence env intent.payload ∨
        db.fenceExpired (jobFence env intent.payload) = true) := by
  -- What a transaction that is committed answers is what the call returns.
  have hrefused : ∀ {reason : String} {db' : FleetDb}, (FleetExit.commit (.ok (.refused reason)) db :
      FleetExit FleetReply) = .commit (.ok reply) db' → reason = "expired_fence" := by
    intro reason db' heq
    rw [← Except.ok.inj (FleetExit.commit.inj heq).1] at hrsn
    exact Option.some.inj hrsn
  obtain ⟨db', hbody⟩ := acceptResult_eq_ok h hrsn
  rw [AcceptCall.body] at hbody
  cases hfind : db.intents.find? (call.result.getText env.text "job_id") with
  | none =>
    rw [hfind] at hbody
    exact absurd (hrefused hbody) (by decide)
  | some intent =>
    rw [hfind] at hbody
    dsimp only at hbody
    split at hbody
    · rename_i hchk
      obtain rfl := hrefused hbody
      exact ⟨intent, rfl, AcceptCall.fence_of_checkIdentity hchk⟩
    split at hbody
    · cases hbody
    split at hbody
    · rename_i hchk
      obtain rfl := hrefused hbody
      exact absurd (AcceptCall.reason_of_checkAcceptance hchk) (by decide)
    · exact absurd hrsn (AcceptCall.reason_of_record hbody)

end

/-! ### Runs -/

/-- The methods that neither store an intent nor expire a fence. -/
def FleetCall.leavesFences : FleetCall → Bool
  | persistIntent .. | expireFence .. => false
  | _ => true

/-- A lease is given the next token of its resource; a job is stored; the fence of a stored job
is expired; or another method of the job store is called. -/
inductive FenceEvent where
  | allocate (leaseId resourceKey : String)
  | persist (envelope : JsonDict) (now : Instant)
  | expire (jobId : String) (now : Instant)
  | call (call : FleetCall)

/-- The scheduler's tokens, the leases with the tokens they were given, the tables of the job
store, and the leases and fences of which an expiry was asked. -/
structure FenceRun where
  scheduler : SchedulerStore := ⟨.empty, .empty, .empty⟩
  leases : List (String × ℤ) := []
  db : FleetDb := {}
  expired : List (String × String) := []

namespace FenceRun

variable (env : FleetEnv)

def step (s : FenceRun) : FenceEvent → FenceRun
  | .allocate leaseId resourceKey =>
    let token := s.scheduler.nextToken resourceKey
    { s with
      scheduler := s.scheduler.storeToken resourceKey token
      leases := (leaseId, token) :: s.leases }
  | .persist envelope now => { s with db := (FleetCall.persistIntent envelope now).step env s.db }
  | .expire jobId now =>
    match s.db.intents.find? jobId with
    | none => s
    | some job =>
      { s with
        db := (FleetCall.expireFence (jobFence env job.payload) now).step env s.db
        expired := (jobLease env job.payload, jobFence env job.payload) :: s.expired }
  | .call call => { s with db := call.step env s.db }

/-- Leases have identifiers of their own, a job carries a lease and its token, and jobs are
stored and fences expired by the events for it. -/
def Regular (s : FenceRun) : FenceEvent → Prop
  | .allocate leaseId _ => ∀ lease ∈ s.leases, lease.1 ≠ leaseId
  | .persist envelope _ =>
    ∃ lease ∈ s.leases, jobLease env envelope = lease.1 ∧ jobFence env envelope = toString lease.2
  | .expire .. => True
  | .call call => call.leavesFences = true

instance Regular.decidable (s : FenceRun) : DecidablePred (s.Regular env) := fun event => by
  cases event <;> dsimp only [Regular] <;> infer_instance

/-- The fence of a job is expired only if no stored job of another lease has the same one, and
a job is stored only if its fence was not expired for another lease. -/
def Isolated (s : FenceRun) : FenceEvent → Prop
  | .persist envelope _ =>
    ∀ pair ∈ s.expired, pair.2 = jobFence env envelope → pair.1 = jobLease env envelope
  | .expire jobId _ =>
    ∀ job ∈ s.db.intents.find? jobId, ∀ other ∈ s.db.intents.rows,
      jobFence env other.payload = jobFence env job.payload →
        jobLease env other.payload = jobLease env job.payload
  | _ => True

instance Isolated.decidable (s : FenceRun) : DecidablePred (s.Isolated env) := fun event => by
  cases event <;> dsimp only [Isolated] <;> infer_instance

end FenceRun

/-! ### What the calls make of payloads and fences -/

/-- The envelopes of `db'` are those of `db`. -/
def FleetDb.KeepsPayloads (db db' : FleetDb) : Prop :=
  ∀ row ∈ db'.intents.rows, ∃ old ∈ db.intents.rows, old.payload = row.payload

open FleetCall

theorem FleetDb.KeepsPayloads.refl (db : FleetDb) : db.KeepsPayloads db :=
  fun row hrow => ⟨row, hrow, rfl⟩

theorem FleetDb.KeepsPayloads.setStatus (db : FleetDb) (jobId : String) (status : JobStatus) :
    db.KeepsPayloads (db.setStatus jobId status) := by
  intro row hrow
  obtain ⟨old, hold, rfl⟩ := mem_map.mp hrow
  refine ⟨old, hold, ?_⟩
  split <;> rfl

/-- Storing an intent adds at most its own envelope. -/
theorem FleetCall.mem_persistIntent {env : FleetEnv} {db : FleetDb} {envelope : JsonDict}
    {now : Instant} {row : IntentRow}
    (h : row ∈ ((persistIntent envelope now).step env db).intents.rows) :
    row ∈ db.intents.rows ∨ row.payload = envelope := by
  have hwrs := (persistIntent envelope now).step_writes env db
  generalize (persistIntent envelope now).step env db = db' at *
  cases hwrs with
  | nothing => exact .inl h
  | insertIntent _ _ hins =>
    rw [(Table.insert_eq_some_iff.mp hins).2] at h
    rcases mem_append.mp h with hold | hnew
    · exact .inl hold
    · rw [mem_singleton.mp hnew]
      exact .inr rfl
  | replaceIntent =>
    rcases Table.mem_replace.mp h with ⟨rfl, -⟩ | ⟨hold, -⟩
    · exact .inr rfl
    · exact .inl hold

theorem FleetCall.expiredFences_persistIntent (env : FleetEnv) (db : FleetDb) (envelope : JsonDict)
    (now : Instant) :
    ((persistIntent envelope now).step env db).expiredFences = db.expiredFences := by
  have hwrs := (persistIntent envelope now).step_writes env db
  generalize (persistIntent envelope now).step env db = db' at *
  cases hwrs <;> rfl

/-- The calls that neither store an intent nor expire a fence keep the envelopes and the expired
fences. -/
theorem FleetCall.keeps (env : FleetEnv) (db : FleetDb) {call : FleetCall}
    (hoth : call.leavesFences = true) :
    db.KeepsPayloads (call.step env db) ∧ (call.step env db).expiredFences = db.expiredFences := by
  have hwrs := call.step_writes env db
  generalize call.step env db = db' at *
  cases hwrs with
  | nothing | lease => exact ⟨.refl db, rfl⟩
  | insertIntent | replaceIntent | expire => cases hoth
  | mark | release | launch | reconcile => exact ⟨.setStatus db _ _, rfl⟩
  | @record accept row results old hjob hstd hfr hins =>
    exact ⟨.setStatus { db with results := results } _ _, rfl⟩

theorem FleetDb.fenceExpired_congr {db db' : FleetDb} (h : db'.expiredFences = db.expiredFences)
    (fence : String) :
    db'.fenceExpired fence = db.fenceExpired fence := by
  rw [fenceExpired, h, fenceExpired]

/-! ### The invariant -/

namespace FenceRun

variable {env : FleetEnv} {s : FenceRun}

/-- Each stored expiry was asked for some lease, and a stored job whose fence has expired holds
the lease of which the expiry was asked. -/
structure Inv (env : FleetEnv) (s : FenceRun) : Prop where
  fences : ∀ fence, s.db.fenceExpired fence = true → ∃ pair ∈ s.expired, pair.2 = fence
  jobs : ∀ job ∈ s.db.intents.rows, ∀ pair ∈ s.expired,
    pair.2 = jobFence env job.payload → pair.1 = jobLease env job.payload

theorem Inv.step (h : s.Inv env) {event : FenceEvent} (hregular : s.Regular env event)
    (hisolated : s.Isolated env event) : (s.step env event).Inv env := by
  cases event with
  | allocate => exact ⟨h.fences, h.jobs⟩
  | persist envelope now =>
    refine ⟨fun fence hexpired => ?_, fun job hjob pair hpair hfen => ?_⟩
    · have hsame := FleetCall.expiredFences_persistIntent env s.db envelope now
      exact h.fences fence ((FleetDb.fenceExpired_congr hsame fence).symm.trans hexpired)
    · rcases FleetCall.mem_persistIntent hjob with hold | hnew
      · exact h.jobs job hold pair hpair hfen
      · rw [hnew] at hfen ⊢
        exact hisolated pair hpair hfen
  | expire jobId now =>
    rw [FenceRun.step]
    cases hfind : s.db.intents.find? jobId with
    | none => exact h
    | some job =>
      refine ⟨fun fence hexpired => ?_, fun other hoth pair hpair hfen => ?_⟩
      · by_cases hnew : jobFence env job.payload = fence
        · exact ⟨_, mem_cons_self, hnew⟩
        · have hsame : (FleetCall.step env s.db (.expireFence _ now)).fenceExpired fence = _ :=
            congrArg Option.isSome (s.db.expiredFences.find?_upsert_of_ne ⟨_, now⟩ _ _ hnew)
          obtain ⟨pair, hpair, hfen⟩ := h.fences fence (hsame.symm.trans hexpired)
          exact ⟨pair, mem_cons_of_mem _ hpair, hfen⟩
      · rcases mem_cons.mp hpair with rfl | hold
        · exact (hisolated job hfind other hoth hfen.symm).symm
        · exact h.jobs other hoth pair hold hfen
  | call =>
    obtain ⟨hpayloads, hfences⟩ := FleetCall.keeps env s.db hregular
    refine ⟨fun fence hexpired => ?_, fun job hjob pair hpair hfen => ?_⟩
    · exact h.fences fence ((FleetDb.fenceExpired_congr hfences fence).symm.trans hexpired)
    · obtain ⟨old, hold, hpay⟩ := hpayloads job hjob
      rw [← hpay] at hfen ⊢
      exact h.jobs old hold pair hpair hfen

theorem Inv.initial (env : FleetEnv) : Inv env {} :=
  ⟨nofun, nofun⟩

end FenceRun

/-- Fence expiry is isolated per lease, if no expired fence is shared with a job of another
lease: the result of a job, presented with the job's fence, is never rejected with
`expired_fence` unless the expiry of this fence was asked for the lease of the job. -/
theorem fence_expiry_isolated (env : FleetEnv) (events : List FenceEvent)
    (h : Along (fun s event => s.Regular env event ∧ s.Isolated env event) (FenceRun.step env)
      {} events) :
    let s := runCalls (FenceRun.step env) {} events
    ∀ job ∈ s.db.intents.rows,
      (jobLease env job.payload, jobFence env job.payload) ∉ s.expired →
      ∀ accept : AcceptCall, accept.result.getText env.text "job_id" = job.jobId →
        accept.result.getText env.text "fence" = jobFence env job.payload →
        ∀ reply, ((acceptResult env accept).exec s.db).1 = .ok reply →
          reply.reason ≠ some "expired_fence" := by
  intro s job hjob hls accept hid hfen reply hreply hrsn
  have hinv : s.Inv env := h.invariant (fun hs hok => hs.step hok.1 hok.2) (.initial env)
  obtain ⟨intent, hfind, hcause⟩ := fence_of_acceptResult hreply hrsn
  obtain rfl : job = intent := by
    rw [hid, Table.find?_of_mem s.db.intents hjob] at hfind
    exact Option.some.inj hfind
  rcases hcause with hdiffers | hexpired
  · exact hdiffers hfen
  · obtain ⟨pair, hpair, heq⟩ := hinv.fences _ hexpired
    have hholds := hinv.jobs job hjob pair hpair heq
    rw [← hholds, ← heq] at hls
    exact hls hpair

/-- The jobs `job-a` and `job-b`, stored with the tokens of their leases. -/
def twoJobs (resourceA resourceB tokenA tokenB : String) : List FenceEvent :=
  [.allocate "lease-a" resourceA, .allocate "lease-b" resourceB,
    .persist (plainEnvelope "job-a" "lease-a" tokenA "900000000") 0,
    .persist (plainEnvelope "job-b" "lease-b" tokenB "900000000") 0,
    .call (.rememberSchedulerLease "lease-b" tokenB 0 3600)]

/-- Two leases of one resource have the tokens 1 and 2. After the first has expired, the result
of the job of the second is accepted. -/
theorem fence_expiry_isolated_one_resource :
    let s := runCalls (FenceRun.step .plain) {}
      (twoJobs "resource" "resource" "1" "2" ++ [.expire "job-a" 1])
    let accept : AcceptCall := { result := plainResult "job-b" "2", now := 1000000 }
    s.expired = [("lease-a", "1")] ∧
      ((acceptResult .plain accept).exec s.db).1.toOption.map FleetReply.ok = some true ∧
      ∀ reply, ((acceptResult .plain accept).exec s.db).1 = .ok reply →
        reply.reason ≠ some "expired_fence" := by
  intro s accept
  have hrun : Along (fun s event => s.Regular .plain event ∧ s.Isolated .plain event)
        (FenceRun.step .plain) {} (twoJobs "resource" "resource" "1" "2" ++ [.expire "job-a" 1]) ∧
      s.expired = [("lease-a", "1")] ∧
      ((acceptResult .plain accept).exec s.db).1.toOption.map FleetReply.ok = some true ∧
      ∃ job ∈ s.db.intents.rows,
        (jobLease .plain job.payload, jobFence .plain job.payload) ∉ s.expired ∧
        accept.result.getText FleetEnv.plain.text "job_id" = job.jobId ∧
        accept.result.getText FleetEnv.plain.text "fence" = jobFence .plain job.payload := by
    decide +kernel
  obtain ⟨halong, hexpired, hacc, job, hjob, hls, hid, hfen⟩ := hrun
  exact ⟨hexpired, hacc, fence_expiry_isolated .plain _ halong job hjob hls accept hid hfen⟩

/-- Two leases of two resources both have the token 1. After the fence of `job-a` has expired,
the result of `job-b` is rejected. -/
theorem fence_expiry_hits_other_lease :
    let events := twoJobs "resource-a" "resource-b" "1" "1"
    let s := runCalls (FenceRun.step .plain) {} (events ++ [.expire "job-a" 1])
    let accept : AcceptCall := { result := plainResult "job-b" "1", now := 1000000 }
    Along (FenceRun.Regular .plain) (FenceRun.step .plain) {} (events ++ [.expire "job-a" 1]) ∧
      s.expired = [("lease-a", "1")] ∧
      (∃ job ∈ s.db.intents.find? "job-b", jobLease .plain job.payload = "lease-b" ∧
        jobFence .plain job.payload = "1") ∧
      ((acceptResult .plain accept).exec s.db).1.toOption.bind FleetReply.reason =
        some "expired_fence" ∧
      ((acceptResult .plain accept).exec
        (runCalls (FenceRun.step .plain) {} events).db).1.toOption.map FleetReply.ok =
        some true := by
  decide +kernel

end ProjectPipeline
