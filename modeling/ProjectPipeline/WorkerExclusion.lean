import ProjectPipeline.WorkerClaims

/-!
# One Execution per Authority Identity

Any number of worker processes run `runEnvelope` for one cache path and one identity, and their
file operations interleave. Two things go wrong. A worker that has not found a result in the
cache may create its claim after another worker has run the job, recorded its success and
unlinked the claim; it then overwrites the record and runs the job again. And a worker that has
found a claim stale may unlink the claim that another worker has created since.

A worker is `waiting` until it creates the claim, then `holding`, and `closing` once it has
written a successful result.

## Main results

* `one_execution_per_identity`: if claims are created only while no success is recorded, and a
  stale claim is unlinked only while no worker holds the claim, at most one worker executes the
  job at any moment, and a recorded success is final.
* `worker_starts_after_success`: runs in which they go wrong.
-/

namespace ProjectPipeline

open Function Option

/-! ### Modes -/

/-- How far a worker has got. -/
inductive WorkerMode where
  | waiting | holding | closing
  deriving DecidableEq

section

variable (env : WorkerEnv) (identity : String)

def WorkerMode.shift : WorkerMode → FileOp → WorkerFiles → WorkerMode
  | waiting, .createClaim, s => if s.claim.isNone then holding else waiting
  | holding, .writeCache record, _ => if succeeded env identity record then closing else holding
  | _, .unlinkClaim, _ => waiting
  | mode, _, _ => mode

/-- The operations that change no file. -/
def FileOp.reads : FileOp → Bool
  | statCache | readCache | statClaim | readClaim | readClock => true
  | _ => false

/-- A worker writes and runs the job only while it holds the claim. -/
def workerDiscipline : Discipline FileOp WorkerFiles WorkerMode WorkerReply where
  allowed mode op _ :=
    match mode with
    | .waiting => op.reads = true ∨ op = .createClaim ∨ op = .unlinkClaim
    | .holding => op ≠ .createClaim
    | .closing => op.reads = true ∨ op = .unlinkClaim
  ends _ _ := True

/-- The workers of one cache path and one identity. The clock is set from outside. -/
def workerProtocol : Protocol FileOp WorkerFiles WorkerMode WorkerJob Instant WorkerReply where
  exec := FileOp.exec
  initial := .waiting
  shift := WorkerMode.shift env identity
  program := runEnvelope env identity
  outside now s := { s with clock := now }

end

/-! ### The programs obey -/

section

variable {env : WorkerEnv} {identity : String}

theorem consists_loadCache :
    (loadCache env identity).Consists fun op => op.reads = true := by
  refine .bind (.call rfl) fun isFile => ?_
  refine .ite (.bind (.call rfl) fun payload => .pure _) (.pure _)

theorem consists_stale :
    (staleFailedCompleteClaim env identity).Consists fun op => op.reads = true := by
  have hfailed : (isFailedComplete env identity).Consists fun op => op.reads = true :=
    .bind (.call rfl) fun isFile => .ite (.bind (.call rfl) fun payload => .pure _) (.pure _)
  refine .bind hfailed fun failed => .ite ?_ (.pure _)
  refine .bind (.call rfl) fun cachePayload => .bind (.call rfl) fun claimed => ?_
  split
  · exact .pure _
  · refine .bind (.call rfl) fun claimTime => ?_
    split
    · exact .pure _
    · exact .bind (.call rfl) fun cacheTime => .pure _

/-- Reading is allowed in every mode and shifts none. -/
theorem reads_allowed (mode : WorkerMode) (op : FileOp) (s : WorkerFiles) (h : op.reads = true) :
    workerDiscipline.allowed mode op s ∧ WorkerMode.shift env identity mode op s = mode := by
  cases mode <;> cases op <;> simp_all [workerDiscipline, FileOp.reads, WorkerMode.shift]

/-- A worker that was given the claim holds it. -/
def claimEnds (mode : WorkerMode) : Except PyError ClaimReply → Prop
  | .ok .claimed => mode = .holding
  | _ => True

/-- The discipline of a worker up to the answer of `_claim_worker_execution`. -/
abbrev claimDiscipline : Discipline FileOp WorkerFiles WorkerMode ClaimReply :=
  ⟨workerDiscipline.allowed, claimEnds⟩

theorem obeys_publishClaim {record : JsonDict} {inode : ℕ}
    (hrec : succeeded env identity (record ++ [("ok", .bool false), ("exit_code", .null)]) =
      false) :
    (publishClaim record inode).Obeys claimDiscipline (WorkerMode.shift env identity) .holding := by
  intro s
  refine ⟨nofun, fun s' => ⟨nofun, ?_⟩⟩
  simp only [WorkerMode.shift, hrec]
  rfl

/-- An attempt to create the claim. -/
theorem obeys_create {rest : Option ℕ → WorkerProg ClaimReply}
    (hnone : (rest none).Obeys claimDiscipline (WorkerMode.shift env identity) .waiting)
    (hsome : ∀ inode,
      (rest (some inode)).Obeys claimDiscipline (WorkerMode.shift env identity) .holding) :
    (WorkerProg.openExclusiveClaim >>= rest).Obeys claimDiscipline
      (WorkerMode.shift env identity) .waiting := by
  refine .call_bind fun s => ⟨.inr (.inl rfl), ?_⟩
  cases hcl : s.claim with
  | none =>
    simp only [WorkerMode.shift, hcl, isNone_none, if_true]
    exact hsome _
  | some =>
    simp only [WorkerMode.shift, hcl, isNone_some]
    exact hnone

theorem obeys_contestClaim {record : JsonDict}
    (hrec : succeeded env identity (record ++ [("ok", .bool false), ("exit_code", .null)]) =
      false) :
    (contestClaim env identity record).Obeys claimDiscipline (WorkerMode.shift env identity)
      .waiting := by
  refine .reads_bind consists_loadCache (reads_allowed .waiting) fun existing => ?_
  cases existing with
  | some => trivial
  | none =>
    refine .call_bind fun s => ⟨.inl rfl, ?_⟩
    dsimp only
    split
    · trivial
    refine .reads_bind consists_stale (reads_allowed .waiting) fun stale => ?_
    cases stale with
    | false => trivial
    | true =>
      refine .call_bind fun s => ⟨.inr (.inr rfl), ?_⟩
      exact obeys_create trivial fun inode => obeys_publishClaim hrec

variable (env identity) in
theorem succeeded_claimRecord (job : WorkerJob) (started : Instant) :
    succeeded env identity
      (claimRecord env identity job started ++ [("ok", .bool false), ("exit_code", .null)]) =
        false := by
  simp [succeeded, isComplete, claimRecord, JsonDict.getText, JsonDict.get, JsonValue.truthy,
    JsonValue.toText, List.lookup]

variable (job : WorkerJob)

theorem obeys_claimWorkerExecution :
    (claimWorkerExecution env identity job).Obeys claimDiscipline
      (WorkerMode.shift env identity) .waiting := by
  refine .reads_bind consists_loadCache (reads_allowed .waiting) fun cached => ?_
  cases cached with
  | some => trivial
  | none =>
    refine .call_bind fun s => ⟨.inl rfl, ?_⟩
    have hrec := succeeded_claimRecord env identity job s.clock
    exact obeys_create (obeys_contestClaim hrec) fun inode => obeys_publishClaim hrec

theorem obeys_runClaimed :
    (runClaimed env identity job).Obeys workerDiscipline (WorkerMode.shift env identity)
      .holding := by
  rw [runClaimed]
  split
  · trivial
  · exact fun s => ⟨nofun, trivial⟩
  · refine fun s => ⟨nofun, fun s' => ⟨nofun, ?_⟩⟩
    split
    · exact fun s => ⟨nofun, trivial⟩
    · trivial
    · exact fun s => ⟨nofun, trivial⟩
    · refine fun s => ⟨nofun, fun s' => ⟨nofun, fun s'' => ⟨?_, trivial⟩⟩⟩
      -- Whatever was written to the cache, the claim may be unlinked.
      dsimp only [WorkerMode.shift]
      split
      · exact .inr rfl
      · exact nofun

/-- **Workers obey the discipline.** -/
theorem obeys_runEnvelope :
    (runEnvelope env identity job).Obeys workerDiscipline (WorkerMode.shift env identity)
      .waiting := by
  refine .bind (obeys_claimWorkerExecution job) fun mode result hends => ?_
  cases result with
  | error => trivial
  | ok reply =>
    cases reply with
    | duplicate | refused => trivial
    | claimed =>
      obtain rfl : mode = .holding := hends
      exact obeys_runClaimed job

end

/-! ### The invariant -/

section

variable {κ : Type} (env : WorkerEnv) (identity : String)

section

variable (modes : κ → Option WorkerMode) (worker : κ)

/-- The worker has created the claim and not unlinked it. -/
def HoldsClaim : Prop :=
  modes worker = some .holding ∨ modes worker = some .closing

/-- A success is recorded in the cache. -/
def WorkerFiles.Succeeded (s : WorkerFiles) : Prop :=
  ∃ record mtime, s.cache = some (record, mtime) ∧ succeeded env identity record = true

/-- The claim is created only while no success is recorded, and a stale claim is unlinked only
while no worker holds the claim. -/
def ClaimsInTurn (op : FileOp) (s : WorkerFiles) :
    Prop :=
  match op with
  | .createClaim => s.claim.isNone = true → ¬ s.Succeeded env identity
  | .unlinkClaim => modes worker = some .waiting → ∀ other, ¬ HoldsClaim modes other
  | _ => True

end

instance (modes : κ → Option WorkerMode) (worker : κ) : Decidable (HoldsClaim modes worker) :=
  inferInstanceAs (Decidable (_ = some _ ∨ _ = some _))

instance (s : WorkerFiles) : Decidable (s.Succeeded env identity) :=
  decidable_of_iff ((s.cache.any fun file => succeeded env identity file.1) = true) (by
    simp [WorkerFiles.Succeeded, Option.any_eq_true])

/-- The condition on the operations, in the runs of workers. -/
abbrev claimConduct : Conduct κ FileOp WorkerFiles WorkerMode WorkerJob where
  step := ClaimsInTurn env identity

instance [Fintype κ] (modes : κ → Option WorkerMode) (worker : κ) (op : FileOp)
    (s : WorkerFiles) : Decidable (ClaimsInTurn env identity modes worker op s) :=
  match op with
  | .createClaim => inferInstanceAs (Decidable (s.claim.isNone = true → ¬ s.Succeeded env identity))
  | .unlinkClaim =>
    inferInstanceAs (Decidable (modes worker = some .waiting → ∀ other, ¬ HoldsClaim modes other))
  | .statCache | .readCache | .statClaim | .readClaim | .readClock | .writeClaim .. |
    .writeCache _ | .spawn | .wait => isTrue trivial

/-- At most one worker holds the claim, the claim exists while one does, and a worker that is
yet to write its result has not found a success in the cache. -/
structure WorkerInv (s : WorkerFiles) (modes : κ → Option WorkerMode) : Prop where
  one : ∀ a b, HoldsClaim modes a → HoldsClaim modes b → a = b
  exists_claim : ∀ worker, HoldsClaim modes worker → s.claim.isSome = true
  unfinished : s.Succeeded env identity → ∀ worker, modes worker ≠ some .holding

end

section

variable {κ : Type} [DecidableEq κ] {env : WorkerEnv} {identity : String}

variable {modes : κ → Option WorkerMode} {worker : κ}

theorem holdsClaim_update {other : κ} {mode : Option WorkerMode}
    (h : HoldsClaim (update modes worker mode) other) :
    (other = worker ∧ (mode = some .holding ∨ mode = some .closing)) ∨
      (other ≠ worker ∧ HoldsClaim modes other) := by
  by_cases heq : other = worker
  · rw [HoldsClaim, heq, update_self] at h
    exact .inl ⟨heq, h⟩
  · rw [HoldsClaim, update_of_ne heq] at h
    exact .inr ⟨heq, h⟩

variable {s : WorkerFiles} {op : FileOp}

/-- A worker that does not hold the claim comes or goes. -/
theorem WorkerInv.of_outside (h : WorkerInv env identity s modes) {mode : Option WorkerMode}
    (hmode : mode ≠ some .holding ∧ mode ≠ some .closing) :
    WorkerInv env identity s (update modes worker mode) := by
  have hold : ∀ other, HoldsClaim (update modes worker mode) other → HoldsClaim modes other := by
    intro other hoth
    rcases holdsClaim_update hoth with ⟨-, hnew⟩ | ⟨-, hold⟩
    · exact absurd hnew (not_or.mpr hmode)
    · exact hold
  refine ⟨fun a b ha hb => h.one a b (hold a ha) (hold b hb),
    fun other hoth => h.exists_claim other (hold other hoth), fun hsucc other => ?_⟩
  by_cases heq : other = worker
  · rw [heq, update_self]
    exact hmode.1
  · rw [update_of_ne heq]
    exact h.unfinished hsucc other

/-- A worker acts while no other worker holds the claim. -/
theorem WorkerInv.of_sole {mode : WorkerMode}
    (hsole : ∀ other, HoldsClaim modes other → other = worker)
    (hcl : mode ≠ .waiting → s.claim.isSome = true)
    (hsucc : s.Succeeded env identity → mode ≠ .holding) :
    WorkerInv env identity s (update modes worker (some mode)) := by
  have hwk : ∀ other, HoldsClaim (update modes worker (some mode)) other →
      other = worker ∧ mode ≠ .waiting := by
    intro other hoth
    rcases holdsClaim_update hoth with ⟨heq, hnew⟩ | ⟨hne, hold⟩
    · refine ⟨heq, ?_⟩
      rintro rfl
      simp at hnew
    · exact absurd (hsole other hold) hne
  refine ⟨fun a b ha hb => (hwk a ha).1.trans (hwk b hb).1.symm,
    fun other hoth => hcl (hwk other hoth).2, fun hsuccess other => ?_⟩
  by_cases heq : other = worker
  · rw [heq, update_self]
    exact fun hmode => hsucc hsuccess (some.inj hmode)
  · rw [update_of_ne heq]
    exact fun hmode => heq (hsole other (.inl hmode))

/-- What an operation that leaves the mode alone may change. -/
theorem WorkerInv.of_same {s' : WorkerFiles} (h : WorkerInv env identity s modes)
    {mode : WorkerMode} (hmode : modes worker = some mode) (hcache : s'.cache = s.cache)
    (hcl : s.claim.isSome = true → s'.claim.isSome = true) :
    WorkerInv env identity s' (update modes worker (some mode)) := by
  rw [← hmode, update_eq_self]
  refine ⟨h.one, fun other hoth => hcl (h.exists_claim other hoth), ?_⟩
  rintro ⟨record, mtime, hrec, hsucc⟩
  exact h.unfinished ⟨record, mtime, hcache ▸ hrec, hsucc⟩

theorem FileOp.exec_of_reads (h : op.reads = true) (s : WorkerFiles) : op.exec s = s := by
  cases op <;> first | rfl | cases h

section

variable (h : WorkerInv env identity s modes)
include h

/-- A worker that waits. -/
theorem WorkerInv.step_waiting (hmode : modes worker = some .waiting)
    (hallowed : workerDiscipline.allowed .waiting op s)
    (hturn : ClaimsInTurn env identity modes worker op s) :
    WorkerInv env identity (op.exec s)
      (update modes worker (some (WorkerMode.shift env identity .waiting op s))) := by
  rcases hallowed with hreads | rfl | rfl
  · rw [FileOp.exec_of_reads hreads, (reads_allowed .waiting op s hreads).2]
    exact h.of_outside ⟨nofun, nofun⟩
  · cases hcl : s.claim with
    | none =>
      have hnobody : ∀ other, ¬ HoldsClaim modes other := by
        intro other hoth
        have hsome := h.exists_claim other hoth
        rw [hcl] at hsome
        cases hsome
      simp only [FileOp.exec, WorkerMode.shift, hcl, isNone_none, if_true]
      refine .of_sole (fun other hoth => absurd hoth (hnobody other)) (fun _ => rfl) ?_
      exact fun hsucc => absurd hsucc (hturn (by rw [hcl, isNone_none]))
    | some =>
      simp only [FileOp.exec, WorkerMode.shift, hcl, isNone_some]
      exact h.of_outside ⟨nofun, nofun⟩
  · have hnobody := hturn hmode
    exact .of_sole (fun other hoth => absurd hoth (hnobody other)) (fun hne => absurd rfl hne) nofun

/-- A worker that holds the claim. -/
theorem WorkerInv.step_holding
    (hmode : modes worker = some .holding) (hallowed : op ≠ .createClaim) :
    WorkerInv env identity (op.exec s)
      (update modes worker (some (WorkerMode.shift env identity .holding op s))) := by
  have hsole : ∀ other, HoldsClaim modes other → other = worker :=
    fun other hoth => h.one other worker hoth (.inl hmode)
  have hcl := h.exists_claim worker (.inl hmode)
  cases op with
  | createClaim => exact absurd rfl hallowed
  | writeCache =>
    dsimp only [WorkerMode.shift]
    refine .of_sole hsole (fun _ => hcl) ?_
    rintro ⟨stored, mtime, hstd, hsucc⟩
    obtain ⟨rfl, -⟩ := Prod.mk.inj (some.inj hstd)
    rw [if_pos hsucc]
    nofun
  | unlinkClaim => exact .of_sole hsole (fun hne => absurd rfl hne) nofun
  | writeClaim => exact h.of_same hmode rfl (by simp [FileOp.exec])
  | _ => exact h.of_same hmode rfl id

/-- A worker that has written a successful result. -/
theorem WorkerInv.step_closing (hmode : modes worker = some .closing)
    (hallowed : workerDiscipline.allowed .closing op s) :
    WorkerInv env identity (op.exec s)
      (update modes worker (some (WorkerMode.shift env identity .closing op s))) := by
  rcases hallowed with hreads | rfl
  · rw [FileOp.exec_of_reads hreads, (reads_allowed .closing op s hreads).2]
    exact h.of_same hmode rfl id
  · exact .of_sole (fun other hoth => h.one other worker hoth (.inr hmode))
      (fun hne => absurd rfl hne) nofun

end

theorem worker_invariant :
    (workerProtocol env identity).Invariant workerDiscipline (claimConduct env identity)
      fun s (modes : κ → Option WorkerMode) _ => WorkerInv env identity s modes where
  start h _ := h.of_outside ⟨nofun, nofun⟩
  step := by
    intro s modes ended worker mode op h hmode hallowed hturn
    cases mode with
    | waiting => exact h.step_waiting hmode hallowed hturn
    | holding => exact h.step_holding hmode hallowed
    | closing => exact h.step_closing hmode hallowed
  finish h _ _ := h.of_outside ⟨nofun, nofun⟩
  kill h _ := h.of_outside ⟨nofun, nofun⟩
  outside h := ⟨h.one, h.exists_claim, h.unfinished⟩

/-! ### Executions -/

abbrev Workers (κ : Type) := Processes κ FileOp WorkerFiles WorkerMode WorkerReply

/-- The worker has started the job and waits for its end. -/
def Workers.executing (m : Workers κ) (worker : κ) : Bool :=
  match m.running worker with
  | some (_, .step .wait _) => true
  | _ => false

/-- Runs of the workers of one identity whose operations all meet the condition. -/
abbrev WorkerPath (env : WorkerEnv) (identity : String) :=
  Path (Processes.step (κ := κ) (workerProtocol env identity))
    (Processes.Meets (claimConduct env identity))

/-- The invariant holds, and the programs under way obey. -/
abbrev Workers.Orderly (env : WorkerEnv) (identity : String) (m : Workers κ) : Prop :=
  Processes.Obeying workerDiscipline (workerProtocol env identity).shift
    (fun s modes _ => WorkerInv env identity s modes) m

theorem Workers.Orderly.step {m m' : Workers κ} {event : ProcessEvent κ WorkerJob Instant}
    (h : m.Orderly env identity) (hmeets : m.Meets (claimConduct env identity) event)
    (hstep : m.step (workerProtocol env identity) event = some m') : m'.Orderly env identity :=
  Processes.Obeying.step worker_invariant (fun job _ => obeys_runEnvelope job) h hmeets hstep

omit [DecidableEq κ] in
/-- A worker that executes the job holds the claim. -/
theorem Workers.Orderly.holdsClaim {m : Workers κ} (h : m.Orderly env identity)
    (hexecuting : m.executing worker = true) : HoldsClaim m.modes worker := by
  rw [Workers.executing] at hexecuting
  split at hexecuting
  swap
  · cases hexecuting
  rename_i mode next hrunning
  have hallowed := (h.2 worker mode _ hrunning m.state).1
  have hmode : m.modes worker = some mode := by rw [Processes.modes, hrunning, map_some]
  cases mode with
  | waiting => rcases hallowed with h | h | h <;> cases h
  | holding => exact .inl hmode
  | closing => rcases hallowed with h | h <;> cases h

/-- After a success no worker writes to the cache or starts the job. -/
theorem Workers.Orderly.success_step {m m' : Workers κ} {event : ProcessEvent κ WorkerJob Instant}
    (h : m.Orderly env identity) (hsucc : m.state.Succeeded env identity)
    (hstep : m.step (workerProtocol env identity) event = some m') :
    m'.state.cache = m.state.cache ∧ m'.state.spawned = m.state.spawned := by
  cases event with
  | start =>
    rw [Processes.step] at hstep
    split at hstep
    · cases hstep
      exact ⟨rfl, rfl⟩
    · cases hstep
  | kill | outside =>
    cases hstep
    exact ⟨rfl, rfl⟩
  | step worker =>
    rw [Processes.step] at hstep
    cases hrunning : m.running worker with
    | none =>
      rw [hrunning] at hstep
      cases hstep
    | some entry =>
      obtain ⟨mode, p⟩ := entry
      have hobeys := h.2 worker mode p hrunning
      have hmode : m.modes worker = some mode := by rw [Processes.modes, hrunning, map_some]
      rw [hrunning] at hstep
      cases p with
      | done =>
        cases hstep
        exact ⟨rfl, rfl⟩
      | step op =>
        cases hstep
        have hkept : ∀ s : WorkerFiles, op.reads = true ∨ op = .createClaim ∨
            op = .unlinkClaim → (op.exec s).cache = s.cache ∧ (op.exec s).spawned = s.spawned := by
          rintro s (hreads | rfl | rfl)
          · rw [FileOp.exec_of_reads hreads]
            exact ⟨rfl, rfl⟩
          · rw [FileOp.exec]
            split <;> exact ⟨rfl, rfl⟩
          · exact ⟨rfl, rfl⟩
        have hallowed := (hobeys m.state).1
        cases mode with
        | waiting => exact hkept m.state hallowed
        | holding => exact absurd hmode (h.1.unfinished hsucc worker)
        | closing => exact hkept m.state (hallowed.imp_right .inr)

/-- One execution per authority identity, if claims are created only while no success is
recorded and stale claims are unlinked only while no worker holds the claim: at any moment at
most one worker executes the job; and once a success is recorded, its record is not overwritten
and the job is not started again. -/
theorem one_execution_per_identity (env : WorkerEnv) (identity : String) (files : WorkerFiles)
    (events : List (ProcessEvent κ WorkerJob Instant)) (m : Workers κ)
    (hpath : WorkerPath env identity { state := files } events m) :
    (∀ a b, m.executing a = true → m.executing b = true → a = b) ∧
      (m.state.Succeeded env identity → ∀ later m', WorkerPath env identity m later m' →
        m'.state.cache = m.state.cache ∧ m'.state.spawned = m.state.spawned) := by
  have hnobody : ∀ worker : κ, ¬ HoldsClaim (fun _ => none) worker := by
    rintro worker (h | h) <;> cases h
  have hsta : WorkerInv env identity files (fun _ : κ => none) :=
    ⟨fun a _ ha => absurd ha (hnobody a), fun a ha => absurd ha (hnobody a), fun _ _ => nofun⟩
  have horderly : m.Orderly env identity :=
    (workerProtocol env identity).invariant worker_invariant (fun job _ => obeys_runEnvelope job) hsta hpath
  refine ⟨fun a b ha hb => ?_, fun hsucc later m' hlat => ?_⟩
  · exact horderly.1.one a b (horderly.holdsClaim ha) (horderly.holdsClaim hb)
  -- The success stays recorded, so each later step is one after a success.
  let Kept (n : Workers κ) : Prop :=
    n.Orderly env identity ∧ n.state.cache = m.state.cache ∧ n.state.spawned = m.state.spawned
  have hkept : ∀ {n n' event}, Kept n → n.Meets (claimConduct env identity) event →
      n.step (workerProtocol env identity) event = some n' → Kept n' := by
    rintro n n' event ⟨hn, hcache, hspawned⟩ hmeets hstep
    have hsuccess : n.state.Succeeded env identity := by
      obtain ⟨record, mtime, hrec, hrecd⟩ := hsucc
      exact ⟨record, mtime, hcache.trans hrec, hrecd⟩
    obtain ⟨hcache', hspawned'⟩ := hn.success_step hsuccess hstep
    exact ⟨hn.step hmeets hstep, hcache'.trans hcache, hspawned'.trans hspawned⟩
  have hend : Kept m' := hlat.invariant hkept ⟨horderly, rfl, rfl⟩
  exact hend.2

end

/-! ### Two workers -/

/-- Times are written as numbers. -/
def WorkerEnv.plain : WorkerEnv where
  text := .plain
  isoformat := toString
  fromisoformat := readDigits

def plainJob (returncode : ℤ) : WorkerJob :=
  { jobId := "job", ending := .completed returncode false [] }

/-- A worker makes steps. -/
def steps {κ : Type} (worker : κ) (n : ℕ) : List (ProcessEvent κ WorkerJob Instant) :=
  List.replicate n (.step worker)

/-- The workers before the first event, with the files that they find. -/
def noWorkers {κ : Type} (files : WorkerFiles) : Workers κ := { state := files }

/-- One worker runs the job to its end, and then another one starts. -/
def inTurn : List (ProcessEvent Bool WorkerJob Instant) :=
  .start false (plainJob 0) :: steps false 11 ++ .start true (plainJob 0) :: steps true 3

/-- The second worker finds the result of the first. -/
theorem one_execution_per_identity_in_turn :
    ∃ m : Workers Bool, WorkerPath .plain "identity" (noWorkers {}) inTurn m ∧
      m.ended.length = 2 ∧ m.state.Succeeded .plain "identity" ∧ m.state.spawned = 1 ∧
      ∀ later m', WorkerPath .plain "identity" m later m' → m'.state.spawned = 1 := by
  refine Path.exists_of_replay (P := fun m => m.ended.length = 2 ∧
    m.state.Succeeded .plain "identity" ∧ m.state.spawned = 1) (by decide +kernel) ?_
  rintro m hpath ⟨hended, hsucc, hspawned⟩
  refine ⟨hended, hsucc, hspawned, fun later m' hlat => ?_⟩
  have hlast := (one_execution_per_identity .plain "identity" {} inTurn m hpath).2 hsucc
  exact (hlast later m' hlat).2.trans hspawned

/-- Runs without a condition. -/
abbrev AnyWorkerPath {κ : Type} [DecidableEq κ] :=
  Path (Processes.step (κ := κ) (workerProtocol .plain "identity")) fun _ _ => True

/-- One worker has looked into the cache, and another one runs the job to its end. -/
def lookThenRun : List (ProcessEvent Bool WorkerJob Instant) :=
  .start false (plainJob 0) :: steps false 1 ++ .start true (plainJob 0) :: steps true 11

/-- The job fails. A second worker, which has noted the time before, creates its claim after the
failure; a third one takes the claim for one of the failed run. -/
def failThenContest : List (ProcessEvent (Fin 3) WorkerJob Instant) :=
  .start 0 (plainJob 1) :: steps 0 7 ++ .start 1 (plainJob 0) :: steps 1 3 ++
    .outside 5 :: steps 0 4 ++ steps 1 2 ++ .start 2 (plainJob 0) :: steps 2 16 ++ steps 1 2

/-- The worker that has looked too early overwrites the recorded success and starts the job
again; and after a failure two workers execute the job at once. -/
theorem worker_starts_after_success :
    (∃ m m' : Workers Bool, AnyWorkerPath (noWorkers {}) lookThenRun m ∧
      AnyWorkerPath m (steps false 5) m' ∧
      m.state.Succeeded .plain "identity" ∧ m.state.spawned = 1 ∧
      ¬ m'.state.Succeeded .plain "identity" ∧ m'.state.spawned = 2) ∧
    ∃ m : Workers (Fin 3), AnyWorkerPath (noWorkers {}) failThenContest m ∧
      m.executing 1 = true ∧ m.executing 2 = true := by
  constructor
  · exact Path.exists_two_of_replay (by decide +kernel)
  · exact Path.exists_of_replay (by decide +kernel) fun _ _ hfa => hfa

end ProjectPipeline
