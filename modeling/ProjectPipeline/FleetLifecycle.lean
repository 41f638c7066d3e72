import ProjectPipeline.FleetJobs
import ProjectPipeline.Runs

/-!
# The Life of a Job

The statuses of a job along every sequence of calls of the job store. Each call is one atomic
step, so the calls of any number of clients in any interleaving are one sequence.

A call changes the status of at most one job (`FleetMove`), or it records a result and sets the
status of its job to `ACCEPTED` (`FleetRecord`). `mark_status` sets a status whatever the
stored one is, and `accept_result` does not look at the status at all. What one expects of the
two — a status is only reported of a job that is in flight, and so is a result — is the
condition `FleetCall.InFlightOnly`.

Whether a job was launched, and whether its absence was proved, is not stored; `FleetRun`
keeps it next to the tables.

## Main results

* `FleetCall.step_cases`: what a call does to the statuses and the results.
* `accepted_is_final`: under that condition a result is recorded once, for a job that was
  launched and was not proved absent, and the job is `ACCEPTED` from then on.
* `accepted_without_launch`: a result of a job that was never launched is accepted, and a late
  status overwrites `ACCEPTED`.
-/

namespace ProjectPipeline

open FleetDb Option

/-! ### Statuses after a statement -/

variable {jobId : String} {old : JobStatus} {call : FleetCall}

namespace FleetDb

theorem status_setStatus (db : FleetDb) (jobId other : String) (status : JobStatus) :
    (db.setStatus jobId status).status other =
      if other = jobId then (db.status other).map fun _ => status else db.status other := by
  rw [FleetDb.status, setStatus, Table.find?_updateWhere, FleetDb.status]
  cases hfind : db.intents.find? other with
  | none => simp
  | some row =>
    have hkey : row.jobId = other := (Table.find?_eq_some_iff.mp hfind).2
    by_cases hoth : other = jobId
    · simp [hkey, hoth]
    · simp [hkey, hoth]

/-- The status of a job that is stored. -/
theorem status_setStatus_of_some {db : FleetDb} (h : db.status jobId = some old) (other : String)
    (status : JobStatus) :
    (db.setStatus jobId status).status other =
      if other = jobId then some status else db.status other := by
  rw [status_setStatus]
  split
  · rename_i heq
    rw [heq, h, map_some]
  · rfl

theorem status_insert {db : FleetDb} {row : IntentRow}
    {intents : Table String IntentRow IntentRow.jobId} (h : db.intents.insert row = some intents)
    (other : String) :
    { db with intents := intents }.status other =
      if other = row.jobId then some row.status else db.status other := by
  rw [status, Table.find?_insert h, status]
  by_cases hoth : other = row.jobId
  · rw [if_pos hoth.symm, if_pos hoth, map_some]
  · rw [if_neg (Ne.symm hoth), if_neg hoth]

theorem status_replace {db : FleetDb} {row : IntentRow} (h : db.status row.jobId = some old)
    (other : String) :
    { db with intents := db.intents.replace row }.status other =
      if other = row.jobId then some row.status else db.status other := by
  rw [status, Table.find?_replace, status]
  by_cases hoth : other = row.jobId
  · subst hoth
    obtain ⟨existing, hexisting, -⟩ := map_eq_some_iff.mp h
    rw [if_pos rfl, if_pos rfl, hexisting, map_some, map_some]
  · rw [if_neg (Ne.symm hoth), if_neg hoth]

end FleetDb

/-! ### What a call does -/

/-- A call sets the status of a job, from the status that it finds. -/
inductive FleetMove (db : FleetDb) : FleetCall → String → JobStatus → Prop
  | persist {envelope : JsonDict} {now : Instant} {jobId : String}
      (hold : db.status jobId = none ∨ db.status jobId = some .intent) :
      FleetMove db (.persistIntent envelope now) jobId .intent
  | launch {envelope : JsonDict} {jobId : String} (hold : db.status jobId = some .intent) :
      FleetMove db (.claimLaunch envelope) jobId .dispatched
  | release {jobId : String} (hold : db.status jobId = some .dispatched) :
      FleetMove db (.releaseUnlaunched jobId) jobId .intent
  | mark {jobId : String} {old status : JobStatus} (hold : db.status jobId = some old) :
      FleetMove db (.markStatus jobId status) jobId status
  | reconcile {jobId reason : String} {absenceProof : Bool} {old : JobStatus}
      (hold : db.status jobId = some old) (haccepted : old ≠ .accepted)
      (hresult : db.results.find? jobId = none) :
      FleetMove db (.reconcileUnresolved jobId reason absenceProof) jobId .reconciling

/-- `accept_result` records the first result of a job that has an intent. -/
structure FleetRecord (env : FleetEnv) (db db' : FleetDb) (call : AcceptCall) (row : ResultRow) :
    Prop where
  jobId : row.jobId = call.result.getText env.text "job_id"
  intent : ∃ old, db.status row.jobId = some old
  fresh : db.results.find? row.jobId = none
  results : db'.results.rows = db.results.rows ++ [row]
  status : ∀ other, db'.status other =
    if other = row.jobId then some .accepted else db.status other

variable {env : FleetEnv} {db : FleetDb}

/-- The statuses and the results after a transaction that sets one status. -/
def FleetDb.Sets (db db' : FleetDb) (jobId : String) (status : JobStatus) : Prop :=
  (∀ other, db'.status other = if other = jobId then some status else db.status other) ∧
    db'.results = db.results

theorem FleetDb.Sets.setStatus (h : db.status jobId = some old) (status : JobStatus) :
    db.Sets (db.setStatus jobId status) jobId status :=
  ⟨fun other => status_setStatus_of_some h other status, rfl⟩

/-- A call leaves the statuses and the results alone, or sets one status, or records one
result. -/
theorem FleetCall.step_cases (env : FleetEnv) (db : FleetDb) (call : FleetCall) :
    ((∀ other, (call.step env db).status other = db.status other) ∧
      (call.step env db).results = db.results) ∨
    (∃ jobId status, FleetMove db call jobId status ∧ db.Sets (call.step env db) jobId status) ∨
    ∃ accept row, call = .acceptResult accept ∧
      FleetRecord env db (call.step env db) accept row := by
  have hwrs := call.step_writes env db
  generalize call.step env db = db' at *
  cases hwrs with
  | nothing | lease | expire => exact .inl ⟨fun _ => rfl, rfl⟩
  | insertIntent hint habs hins =>
    refine .inr (.inl ⟨_, .intent, .persist (.inl habs), ?_⟩)
    rw [← hint]
    exact ⟨status_insert hins, rfl⟩
  | replaceIntent hint hstd =>
    refine .inr (.inl ⟨_, .intent, .persist (.inr hstd), ?_⟩)
    rw [← hint]
    exact ⟨status_replace hstd, rfl⟩
  | @mark jobId status =>
    cases hold : db.status jobId with
    | none =>
      refine .inl ⟨fun other => ?_, rfl⟩
      refine (status_setStatus db jobId other status).trans ?_
      split
      · rename_i heq
        rw [heq, hold, map_none]
      · rfl
    | some => exact .inr (.inl ⟨jobId, status, .mark hold, .setStatus hold status⟩)
  | release hstd => exact .inr (.inl ⟨_, .intent, .release hstd, .setStatus hstd .intent⟩)
  | launch hstd => exact .inr (.inl ⟨_, .dispatched, .launch hstd, .setStatus hstd .dispatched⟩)
  | reconcile hstd hacc hfr =>
    exact .inr (.inl ⟨_, .reconciling, .reconcile hstd hacc hfr, .setStatus hstd .reconciling⟩)
  | @record accept row results old hjob hstd hfr hins =>
    refine .inr (.inr ⟨accept, row, rfl, hjob, ⟨old, hstd⟩, hfr,
      (Table.insert_eq_some_iff.mp hins).2, fun other => ?_⟩)
    have hstd' : { db with results := results }.status row.jobId = some old := hstd
    exact status_setStatus_of_some hstd' other .accepted

/-! ### Runs -/

/-- `reconcile_unresolved(absence_proof=True)` that moves the job to `RECONCILING`. -/
def FleetCall.provesAbsence (db : FleetDb) (jobId : String) : FleetCall → Bool
  | reconcileUnresolved job _ true =>
    job == jobId && (db.results.find? job).isNone &&
      (db.status job).any fun status => status != .accepted
  | _ => false

/-- The tables, and for each job whether its status has been `DISPATCHED` since it was last
`INTENT`, and whether its absence was proved. -/
structure FleetRun where
  db : FleetDb := {}
  launched : String → Bool := fun _ => false
  absent : String → Bool := fun _ => false

def FleetRun.step (env : FleetEnv) (s : FleetRun) (call : FleetCall) : FleetRun where
  db := call.step env s.db
  launched jobId :=
    match (call.step env s.db).status jobId with
    | some .intent => false
    | some .dispatched => true
    | _ => s.launched jobId
  absent jobId := s.absent jobId || call.provesAbsence s.db jobId

/-- A status is reported, and a first result is delivered, only of a job that is in flight. -/
def FleetCall.InFlightOnly (env : FleetEnv) (db : FleetDb) : FleetCall → Prop
  | markStatus jobId status =>
    (status = .running ∨ status = .unknownOutcome ∨ status = .reconciling) ∧
      ∀ old ∈ db.status jobId, old.inFlight = true
  | acceptResult call =>
    (db.results.find? (call.result.getText env.text "job_id")).isNone = true →
    ∀ old ∈ db.status (call.result.getText env.text "job_id"), old.inFlight = true
  | _ => True

/-- What holds between two calls. -/
structure FleetRun.Inv (s : FleetRun) : Prop where
  accepted : ∀ row ∈ s.db.results.rows, s.db.status row.jobId = some .accepted
  launched : ∀ jobId status, s.db.status jobId = some status → status.inFlight = true →
    s.launched jobId = true
  absent : ∀ jobId, s.absent jobId = true → s.db.status jobId = some .reconciling

open FleetRun

/-- A job whose absence is proved is `RECONCILING`. -/
theorem FleetCall.status_of_provesAbsence (h : call.provesAbsence db jobId = true) :
    (call.step env db).status jobId = some .reconciling := by
  cases call with
  | reconcileUnresolved job reason absenceProof =>
    cases absenceProof with
    | false => cases h
    | true =>
      simp only [provesAbsence, Bool.and_eq_true, beq_iff_eq] at h
      obtain ⟨⟨rfl, hres⟩, hstat⟩ := h
      cases hfind : db.intents.find? job with
      | none => simp [status, hfind] at hstat
      | some intent =>
        have hold : db.status job = some intent.status := by rw [status, hfind, map_some]
        have hacc : intent.status ≠ .accepted := by simpa [hold] using hstat
        have hstep : (FleetCall.reconcileUnresolved job reason true).step env db =
            db.setStatus job .reconciling := by
          rw [FleetCall.step, FleetCall.attempt, ProjectPipeline.reconcileUnresolved,
            FleetAttempt.exec_inside, reconcileBody, if_neg (by simpa using hres)]
          simp only [hfind, hacc, if_false, Bool.true_eq_false, and_false]
          rfl
        rw [hstep, status_setStatus_of_some hold, if_pos rfl]
  | _ => cases h

/-- What a call that meets the condition moves from. -/
theorem FleetMove.old_status {status : JobStatus} (h : FleetMove db call jobId status)
    (hok : call.InFlightOnly env db) :
    db.status jobId ≠ some .accepted ∧
      (db.status jobId = some .reconciling → status = .reconciling) ∧
      (status.inFlight = true → status = .dispatched ∨
        ∃ old, db.status jobId = some old ∧ old.inFlight = true) := by
  cases h with
  | persist hold =>
    rcases hold with hold | hold <;> rw [hold] <;> exact ⟨nofun, nofun, nofun⟩
  | launch hold =>
    rw [hold]
    exact ⟨nofun, nofun, fun _ => .inl rfl⟩
  | release hold =>
    rw [hold]
    exact ⟨nofun, nofun, nofun⟩
  | @mark _ old _ hold =>
    have hfl : old.inFlight = true := hok.2 old hold
    rw [hold]
    refine ⟨fun h => ?_, fun h => ?_, fun _ => .inr ⟨old, rfl, hfl⟩⟩
    · rw [some.inj h] at hfl
      cases hfl
    · rw [some.inj h] at hfl
      cases hfl
  | reconcile hold hacc =>
    rw [hold]
    exact ⟨fun h => hacc (some.inj h), fun _ => rfl, nofun⟩

namespace FleetRun

variable {s : FleetRun}

/-- The launches after a call. -/
theorem launched_step {status : JobStatus} (hstat : (call.step env s.db).status jobId = some status)
    (hfl : status.inFlight = true) (hold : status = .dispatched ∨ s.launched jobId = true) :
    (s.step env call).launched jobId = true := by
  rw [step]
  dsimp only
  rw [hstat]
  cases status with
  | dispatched => rfl
  | running | unknownOutcome => exact hold.resolve_left nofun
  | _ => cases hfl

theorem Inv.step (h : s.Inv) (hok : call.InFlightOnly env s.db) : (s.step env call).Inv := by
  have habs : ∀ jobId, (s.step env call).absent jobId = true →
      s.absent jobId = true ∨ (call.step env s.db).status jobId = some .reconciling := by
    intro jobId hjob
    refine (Bool.or_eq_true_iff.mp hjob).imp id fun hproof => ?_
    exact FleetCall.status_of_provesAbsence hproof
  rcases call.step_cases env s.db with ⟨hstat, hress⟩ | ⟨jobId, status, hmove, hstat, hress⟩ |
    ⟨accept, row, rfl, hrec⟩
  · refine ⟨fun row hrow => ?_, fun jobId status hjob hfl => ?_, fun jobId hjob => ?_⟩
    · exact (hstat row.jobId).trans (h.accepted row (hress ▸ hrow))
    · have hlaunched := h.launched jobId status ((hstat jobId).symm.trans hjob) hfl
      exact launched_step hjob hfl (.inr hlaunched)
    · rcases habs jobId hjob with hold | hnew
      · exact (hstat jobId).trans (h.absent jobId hold)
      · exact hnew
  · obtain ⟨hacc, hreconciling, hlaunch⟩ := hmove.old_status hok
    refine ⟨fun row hrow => ?_, fun job status' hjob hfl => ?_, fun job hjob => ?_⟩
    · have hold := h.accepted row (hress ▸ hrow)
      have hoth : row.jobId ≠ jobId := fun heq => hacc (heq ▸ hold)
      exact (hstat row.jobId).trans ((if_neg hoth).trans hold)
    · refine launched_step hjob hfl ?_
      replace hjob := (hstat job).symm.trans hjob
      split at hjob
      · rename_i heq
        cases hjob
        refine (hlaunch hfl).imp id ?_
        rintro ⟨old, hold, hinFlight⟩
        exact h.launched job old (heq ▸ hold) hinFlight
      · exact .inr (h.launched job status' hjob hfl)
    · rcases habs job hjob with hold | hnew
      · have hjobStatus := h.absent job hold
        refine (hstat job).trans ?_
        split
        · rename_i heq
          rw [hreconciling (heq ▸ hjobStatus)]
        · exact hjobStatus
      · exact hnew
  · have hfl : ∀ old, s.db.status row.jobId = some old → old.inFlight = true := by
      intro old hold
      have hfr := hrec.fresh
      rw [hrec.jobId] at hold hfr
      exact hok (isNone_iff_eq_none.mpr hfr) old hold
    refine ⟨fun row' hrow' => ?_, fun job status hjob hinFlight => ?_, fun job hjob => ?_⟩
    · refine (hrec.status row'.jobId).trans ?_
      split
      · rfl
      · rename_i hoth
        have hmem : row' ∈ s.db.results.rows ++ [row] := hrec.results ▸ hrow'
        rcases List.mem_append.mp hmem with hold | hnew
        · exact h.accepted row' hold
        · exact absurd (congrArg ResultRow.jobId (List.mem_singleton.mp hnew)) hoth
    · refine launched_step hjob hinFlight ?_
      replace hjob := (hrec.status job).symm.trans hjob
      split at hjob
      · rw [← some.inj hjob] at hinFlight
        cases hinFlight
      · exact .inr (h.launched job status hjob hinFlight)
    · rcases habs job hjob with hold | hnew
      · refine (hrec.status job).trans ?_
        have hjobStatus := h.absent job hold
        split
        · rename_i heq
          cases hfl .reconciling (heq ▸ hjobStatus)
        · exact hjobStatus
      · exact hnew

theorem Inv.empty : Inv {} where
  accepted := nofun
  launched := nofun
  absent := nofun

/-- A call keeps the results, and a result that it adds is of a job that was launched and was
not proved absent. -/
theorem Inv.results_step (h : s.Inv) (hok : call.InFlightOnly env s.db) :
    (∀ row ∈ s.db.results.rows, row ∈ (s.step env call).db.results.rows) ∧
    ∀ row ∈ (s.step env call).db.results.rows, row ∉ s.db.results.rows →
      s.launched row.jobId = true ∧ s.absent row.jobId = false := by
  have hsame : (call.step env s.db).results = s.db.results →
      (∀ row ∈ s.db.results.rows, row ∈ (s.step env call).db.results.rows) ∧
      ∀ row ∈ (s.step env call).db.results.rows, row ∉ s.db.results.rows →
        s.launched row.jobId = true ∧ s.absent row.jobId = false := by
    intro hress
    have hrows : (s.step env call).db.results = s.db.results := hress
    rw [hrows]
    exact ⟨fun _ hrow => hrow, fun _ hrow hnew => absurd hrow hnew⟩
  rcases call.step_cases env s.db with ⟨-, hress⟩ | ⟨_, _, -, -, hress⟩ | ⟨accept, row, rfl, hrec⟩
  · exact hsame hress
  · exact hsame hress
  have hrows : (s.step env (.acceptResult accept)).db.results.rows = s.db.results.rows ++ [row] :=
    hrec.results
  rw [hrows]
  refine ⟨fun _ hrow => List.mem_append_left _ hrow, fun row' hrow' hnew => ?_⟩
  obtain rfl := List.mem_singleton.mp ((List.mem_append.mp hrow').resolve_left hnew)
  obtain ⟨old, hold⟩ := hrec.intent
  have hfl : old.inFlight = true := by
    have hfr := hrec.fresh
    have hstat := hold
    rw [hrec.jobId] at hfr hstat
    exact hok (isNone_iff_eq_none.mpr hfr) old hstat
  refine ⟨h.launched row'.jobId old hold hfl, Bool.eq_false_iff.mpr fun habs => ?_⟩
  rw [some.inj (hold.symm.trans (h.absent row'.jobId habs))] at hfl
  cases hfl

/-- The invariant along a run. -/
theorem Inv.run {calls : List FleetCall} (hs : s.Inv)
    (h : Along (fun s call => call.InFlightOnly env s.db) (FleetRun.step env) s calls) :
    (runCalls (FleetRun.step env) s calls).Inv :=
  h.invariant (fun hs hok => hs.step hok) hs

/-- The results stay. -/
theorem Inv.mem_results_run {calls : List FleetCall} (hs : s.Inv)
    (h : Along (fun s call => call.InFlightOnly env s.db) (FleetRun.step env) s calls)
    {row : ResultRow} (hrow : row ∈ s.db.results.rows) :
    row ∈ (runCalls (FleetRun.step env) s calls).db.results.rows := by
  induction calls generalizing s with
  | nil => exact hrow
  | cons _ _ ih => exact ih (hs.step h.1) h.2 ((hs.results_step h.1).1 row hrow)

end FleetRun

/-- In a run that reports statuses and delivers first results only of jobs that are in flight:
a job has at most one result, which stays as it is; a job with a result is `ACCEPTED`; and a
result is recorded only for a job that was launched and was not proved absent. -/
theorem accepted_is_final (env : FleetEnv) (calls : List FleetCall)
    (h : Along (fun s call => call.InFlightOnly env s.db) (FleetRun.step env) {} calls) :
    ((runCalls (FleetRun.step env) {} calls).db.results.rows.map ResultRow.jobId).Nodup ∧
    (∀ earlier later, calls = earlier ++ later →
      ∀ row ∈ (runCalls (FleetRun.step env) {} earlier).db.results.rows,
        row ∈ (runCalls (FleetRun.step env) {} calls).db.results.rows) ∧
    (∀ row ∈ (runCalls (FleetRun.step env) {} calls).db.results.rows,
      (runCalls (FleetRun.step env) {} calls).db.status row.jobId = some .accepted) ∧
    ∀ earlier call later, calls = earlier ++ call :: later →
      let before := runCalls (FleetRun.step env) {} earlier
      ∀ row ∈ (before.step env call).db.results.rows, row ∉ before.db.results.rows →
        before.launched row.jobId = true ∧ before.absent row.jobId = false := by
  refine ⟨(runCalls (FleetRun.step env) {} calls).db.results.nodup, ?_, ?_, ?_⟩
  · rintro earlier later rfl row hrow
    obtain ⟨hearlier, hlat⟩ := h.of_append
    rw [runCalls_append]
    exact (FleetRun.Inv.empty.run hearlier).mem_results_run hlat hrow
  · exact (FleetRun.Inv.empty.run h).accepted
  · rintro earlier call later rfl
    obtain ⟨hearlier, hlat⟩ := h.of_append
    exact ((FleetRun.Inv.empty.run hearlier).results_step hlat.1).2

/-- A job that is stored, launched, reported as running and accepted. -/
def launchedJobCalls : List FleetCall :=
  [.rememberSchedulerLease "lease" "1" 0 3600,
    .persistIntent (plainEnvelope "job" "lease" "1" "900000000") 0,
    .claimLaunch (plainEnvelope "job" "lease" "1" "900000000"),
    .markStatus "job" .running,
    .acceptResult { result := plainResult "job" "1", now := 1000000 }]

instance (db : FleetDb) (call : FleetCall) : Decidable (call.InFlightOnly env db) := by
  cases call with
  | markStatus | acceptResult =>
    rw [FleetCall.InFlightOnly]
    infer_instance
  | _ => exact isTrue trivial

theorem accepted_is_final_of_launched_job :
    let s := runCalls (step .plain) {} launchedJobCalls
    s.db.results.rows.length = 1 ∧
      ∀ row ∈ s.db.results.rows, s.db.status row.jobId = some .accepted := by
  have hrun : Along (fun s call => call.InFlightOnly .plain s.db) (step .plain) {}
      launchedJobCalls ∧
      (runCalls (step .plain) {} launchedJobCalls).db.results.rows.length = 1 := by
    decide +kernel
  exact ⟨hrun.2, (accepted_is_final .plain launchedJobCalls hrun.1).2.2.1⟩

/-- A result is accepted for a job that was never launched, and for one whose absence was
proved; and a job with a result is set back to `RUNNING` by a status that comes late. -/
theorem accepted_without_launch :
    let stored : List FleetCall :=
      [.rememberSchedulerLease "lease" "1" 0 3600,
        .persistIntent (plainEnvelope "job" "lease" "1" "900000000") 0]
    let accept := FleetCall.acceptResult { result := plainResult "job" "1", now := 1000000 }
    let launch := FleetCall.claimLaunch (plainEnvelope "job" "lease" "1" "900000000")
    let run := runCalls (step .plain) {}
    (run stored).launched "job" = false ∧ (run (stored ++ [accept])).db.results.rows.length = 1 ∧
    (run (stored ++ [launch, .reconcileUnresolved "job" "lost" true])).absent "job" = true ∧
      (run (stored ++ [launch, .reconcileUnresolved "job" "lost" true,
        accept])).db.results.rows.length = 1 ∧
    (run (stored ++ [launch, accept, .markStatus "job" .running])).db.results.rows.length = 1 ∧
      (run (stored ++ [launch, accept, .markStatus "job" .running])).db.status "job" =
        some .running := by
  decide +kernel

end ProjectPipeline
