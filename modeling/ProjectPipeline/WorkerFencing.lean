import ProjectPipeline.Processes
import ProjectPipeline.RuntimeRuns

/-!
# Workers and Their Epochs

A worker reports by heartbeats, each with a fencing epoch. `save_worker_heartbeat` refuses an
epoch that is smaller than the stored one, but it reads the stored one in a statement before the
one that writes the row. Of several clients that report for one worker, one may have read an
epoch that another one has replaced since. In this module the two statements are two steps.

The second part is about `assign_worker`, which looks at the heartbeat of the worker that it is
given, and not at the worker that the running step is assigned to.

## Main results

* `saveHeartbeat_run`: the two steps, made without a break, are `save_worker_heartbeat`.
* `epochs_never_decrease`: interleavings in which the epoch that a client has read is still
  stored when the client writes.
* `live_worker_kept_iff`: when `assign_worker` leaves a running step to its worker.
-/

namespace ProjectPipeline

open OrchestrationStore Option Prog

variable {env : OrchestrationEnv}

/-! ### Heartbeats in two steps -/

abbrev WorkerTable := Table String WorkerHeartbeat WorkerHeartbeat.workerId

def WorkerTable.epoch (t : WorkerTable) (workerId : String) : Option ℕ :=
  (t.find? workerId).map WorkerHeartbeat.fencingEpoch

/-- The statements of `save_worker_heartbeat`. -/
inductive WorkerSql where
  | selectEpoch (workerId : String)
  | upsertWorker (heartbeat : WorkerHeartbeat)

def WorkerSql.exec : WorkerSql → WorkerTable → WorkerTable
  | selectEpoch _, t => t
  | upsertWorker heartbeat, t => (t.insert heartbeat).getD (t.replace heartbeat)

/-- `save_worker_heartbeat`, statement by statement. -/
def saveHeartbeat (heartbeat : WorkerHeartbeat) : Prog WorkerSql WorkerTable WorkerHeartbeat := do
  let current ← Prog.call (.selectEpoch heartbeat.workerId) fun t =>
    .ok (WorkerTable.epoch t heartbeat.workerId)
  Prog.refuseIf (current.any fun epoch => decide (heartbeat.fencingEpoch < epoch))
    (OrchestrationStore.conflict "stale worker fencing epoch")
  Prog.call (.upsertWorker heartbeat) fun _ => .ok heartbeat

structure HeartbeatCall where
  workerId : String
  fencingEpoch : ℕ
  ttlSeconds : ℤ
  now : Instant

/-- `heartbeat`. -/
def HeartbeatCall.program (c : HeartbeatCall) : Prog WorkerSql WorkerTable WorkerHeartbeat := do
  let record ← Prog.ofExcept (Durable.newHeartbeat c.workerId c.fencingEpoch c.ttlSeconds c.now)
  saveHeartbeat record

open WorkerTable

/-- Without a break the two statements do what `save_worker_heartbeat` does. -/
theorem saveHeartbeat_run (s : OrchestrationStore env) (heartbeat : WorkerHeartbeat) :
    (saveHeartbeat heartbeat).run WorkerSql.exec s.workers =
      ((s.saveWorkerHeartbeat heartbeat).1, (s.saveWorkerHeartbeat heartbeat).2.workers) := by
  have hread : (call (.selectEpoch heartbeat.workerId) fun t =>
      .ok (epoch t heartbeat.workerId)).run WorkerSql.exec s.workers =
    (.ok (epoch s.workers heartbeat.workerId), s.workers) := rfl
  have hany : (epoch s.workers heartbeat.workerId).any
      (fun epoch => decide (heartbeat.fencingEpoch < epoch)) =
    (s.workers.find? heartbeat.workerId).any fun current =>
      decide (heartbeat.fencingEpoch < current.fencingEpoch) := any_map
  rw [saveHeartbeat, run_bind_of_ok hread, saveWorkerHeartbeat, ← hany]
  by_cases hstale : (epoch s.workers heartbeat.workerId).any
      (fun epoch => decide (heartbeat.fencingEpoch < epoch)) = true
  · rw [run_refuseIf_of_pos hstale, if_pos hstale]
  · rw [run_refuseIf_of_neg hstale, if_neg hstale]
    rfl

/-- The same for the whole of `heartbeat`. -/
theorem HeartbeatCall.program_run (s : OrchestrationStore env) (c : HeartbeatCall) :
    (c.program.run WorkerSql.exec s.workers).2 =
      (RuntimeCall.step s (.heartbeat c.workerId c.fencingEpoch c.ttlSeconds c.now)).workers := by
  rw [program, RuntimeCall.step, Durable.heartbeat]
  cases hnew : Durable.newHeartbeat c.workerId c.fencingEpoch c.ttlSeconds c.now with
  | error => rfl
  | ok record => exact congrArg Prod.snd (saveHeartbeat_run s record)

/-! ### Several clients -/

/-- What a client has read: the worker, and its stored epoch. -/
abbrev EpochRead := Option (String × Option ℕ)

/-- Clients that report heartbeats. A client keeps what it has read. -/
def heartbeatProtocol :
    Protocol WorkerSql WorkerTable EpochRead HeartbeatCall Empty WorkerHeartbeat where
  exec := WorkerSql.exec
  initial := none
  shift
    | _, .selectEpoch workerId, t => some (workerId, WorkerTable.epoch t workerId)
    | read, .upsertWorker _, _ => read
  program := HeartbeatCall.program
  outside change _ := change.elim

/-- Clients with connections of their own to one database. -/
abbrev HeartbeatClients (κ : Type) :=
  Processes κ WorkerSql WorkerTable EpochRead WorkerHeartbeat

/-- When a client writes, the epoch that it has read is still the stored one. -/
def WritesAsRead (κ : Type) : Conduct κ WorkerSql WorkerTable EpochRead HeartbeatCall where
  step reads client instr t :=
    match instr with
    | .selectEpoch _ => True
    | .upsertWorker _ =>
      ((reads client).join.all fun read => WorkerTable.epoch t read.1 == read.2) = true

instance {κ : Type} (reads : κ → Option EpochRead) (client : κ) (instr : WorkerSql)
    (t : WorkerTable) : Decidable ((WritesAsRead κ).step reads client instr t) :=
  match instr with
  | .selectEpoch _ => isTrue trivial
  | .upsertWorker _ => inferInstanceAs (Decidable (_ = true))

instance {κ : Type} : DecidablePred (WritesAsRead κ).start := fun _ => isTrue trivial

instance {κ : Type} (reads : κ → Option EpochRead) (client : κ) :
    Decidable ((WritesAsRead κ).kill reads client) := isTrue trivial

/-- A client writes the heartbeat of the worker whose epoch it has read, and no smaller epoch. -/
def heartbeatDiscipline : Discipline WorkerSql WorkerTable EpochRead WorkerHeartbeat where
  allowed read instr _ :=
    match instr with
    | .selectEpoch _ => True
    | .upsertWorker heartbeat => ∃ stored, read = some (heartbeat.workerId, stored) ∧
        ∀ epoch ∈ stored, epoch ≤ heartbeat.fencingEpoch
  ends _ _ := True

theorem HeartbeatCall.program_obeys (c : HeartbeatCall) :
    c.program.Obeys heartbeatDiscipline heartbeatProtocol.shift heartbeatProtocol.initial := by
  rw [program]
  cases Durable.newHeartbeat c.workerId c.fencingEpoch c.ttlSeconds c.now with
  | error => exact trivial
  | ok =>
    refine Prog.Obeys.call_bind fun t => ⟨trivial, ?_⟩
    rw [refuseIf]
    split
    · exact trivial
    · rename_i hfr
      refine fun t' => ⟨⟨_, rfl, fun epoch hep => ?_⟩, trivial⟩
      rw [hep, any_some, decide_eq_true_eq] at hfr
      exact not_lt.mp hfr

/-- No stored epoch of `t` is larger than the one of `t'`. -/
def EpochsGrow (t t' : WorkerTable) : Prop :=
  ∀ workerId, ∀ epoch ∈ t.epoch workerId, ∃ epoch' ∈ t'.epoch workerId, epoch ≤ epoch'

/-- A heartbeat whose epoch is at least the stored one. -/
theorem EpochsGrow.upsert {t₀ t : WorkerTable} (h : EpochsGrow t₀ t) {heartbeat : WorkerHeartbeat}
    (hfr : ∀ epoch ∈ t.epoch heartbeat.workerId, epoch ≤ heartbeat.fencingEpoch) :
    EpochsGrow t₀ (WorkerSql.exec (.upsertWorker heartbeat) t) := by
  intro workerId epoch hep
  obtain ⟨stored, hstd, hle⟩ := h workerId epoch hep
  rw [WorkerSql.exec, WorkerTable.epoch, Table.find?_put]
  by_cases hid : heartbeat.workerId = workerId
  · rw [if_pos hid]
    subst hid
    exact ⟨heartbeat.fencingEpoch, rfl, hle.trans (hfr stored hstd)⟩
  · rw [if_neg hid]
    exact ⟨stored, hstd, hle⟩

/-- No client lets an epoch fall behind the table `t₀`. -/
theorem heartbeat_invariant {κ : Type} [DecidableEq κ] (t₀ : WorkerTable) :
    heartbeatProtocol.Invariant heartbeatDiscipline (WritesAsRead κ)
      fun t _ _ => EpochsGrow t₀ t where
  start h _ := h
  step {t reads _ client read instr} h hread halw hconduct := by
    cases instr with
    | selectEpoch => exact h
    | upsertWorker heartbeat =>
      obtain ⟨stored, rfl, hle⟩ := halw
      have hsame : WorkerTable.epoch t heartbeat.workerId = stored := by
        have hall : (reads client).join.all
          (fun read => WorkerTable.epoch t read.1 == read.2) = true := hconduct
        rw [hread, join_some, all_some, beq_iff_eq] at hall
        exact hall
      exact h.upsert (hsame ▸ hle)
  finish h _ _ := h
  kill h _ := h
  outside {_ _ _ change} _ := change.elim

/-- In every interleaving in which the epoch that a client has read is still stored when it
writes, the stored epoch of no worker decreases between two states. -/
theorem epochs_never_decrease {κ : Type} [DecidableEq κ] (workers : WorkerTable)
    (earlier later : List (ProcessEvent κ HeartbeatCall Empty)) (m m' : HeartbeatClients κ)
    (hearlier : Path (Processes.step heartbeatProtocol) (Processes.Meets (WritesAsRead κ))
      { state := workers } earlier m)
    (hlat : Path (Processes.step heartbeatProtocol) (Processes.Meets (WritesAsRead κ))
      m later m') (workerId : String) (epoch : ℕ)
    (hstd : WorkerTable.epoch m.state workerId = some epoch) :
    ∃ epoch', WorkerTable.epoch m'.state workerId = some epoch' ∧ epoch ≤ epoch' := by
  have hrefl : ∀ t : WorkerTable, EpochsGrow t t := fun t workerId epoch h => ⟨epoch, h, le_rfl⟩
  have hprog := fun (c : HeartbeatCall) (_ : True) => c.program_obeys
  have hfst := Protocol.invariant (heartbeat_invariant workers) hprog (hrefl workers) hearlier
  -- The programs that are under way in between go on, and are measured against the table of `m`.
  have hmiddle : m.Obeying heartbeatDiscipline heartbeatProtocol.shift
    (fun t _ _ => EpochsGrow m.state t) := ⟨hrefl m.state, hfst.2⟩
  have hlast : m'.Obeying heartbeatDiscipline heartbeatProtocol.shift
      (fun t _ _ => EpochsGrow m.state t) :=
    hlat.invariant
      (fun h hmeets hstep => h.step (heartbeat_invariant m.state) hprog hmeets hstep) hmiddle
  exact hlast.1 workerId epoch hstd

def oldReport : HeartbeatCall := ⟨"w", 1, 60, 0⟩

def newReport : HeartbeatCall := ⟨"w", 2, 60, 0⟩

/-- Both clients read before either writes, and the one with the smaller epoch writes last. -/
theorem epoch_decreases :
    ∃ m m' : HeartbeatClients Bool,
      Path (Processes.step heartbeatProtocol) (fun _ _ => True) { state := .empty }
        [.start false oldReport, .start true newReport, .step false, .step true, .step true] m ∧
      Path (Processes.step heartbeatProtocol) (fun _ _ => True) m
        [.step false, .step false, .step true] m' ∧
      epoch m.state "w" = some 2 ∧ epoch m'.state "w" = some 1 ∧
      m'.ended.map (fun report => (report.1, report.2.toOption.map WorkerHeartbeat.fencingEpoch)) =
        [(true, some 2), (false, some 1)] := by
  exact Path.exists_two_of_replay (by decide +kernel)

/-- The second client starts before the first one has finished, and reads after it. -/
theorem epochs_never_decrease_two_clients :
    ∃ m m' : HeartbeatClients Bool, WorkerTable.epoch m.state "w" = some 1 ∧
      ∃ epoch, WorkerTable.epoch m'.state "w" = some epoch ∧ 1 ≤ epoch ∧ epoch ≠ 1 := by
  obtain ⟨m, m', hm, hm', hbef, haft⟩ : ∃ m m',
      Path (Processes.step heartbeatProtocol) (Processes.Meets (WritesAsRead Bool))
        { state := .empty }
        [.start false oldReport, .start true newReport, .step false, .step false] m ∧
      Path (Processes.step heartbeatProtocol) (Processes.Meets (WritesAsRead Bool)) m
        [.step true, .step false, .step true, .step true] m' ∧
      WorkerTable.epoch m.state "w" = some 1 ∧ WorkerTable.epoch m'.state "w" = some 2 :=
    Path.exists_two_of_replay (by decide +kernel)
  obtain ⟨epoch, hep, hle⟩ := epochs_never_decrease .empty _ _ m m' hm hm' "w" 1 hbef
  refine ⟨m, m', hbef, epoch, hep, hle, ?_⟩
  rintro rfl
  rw [hep] at haft
  cases haft

/-! ### Assignments -/

namespace OrchestrationStore

section

variable (s : OrchestrationStore env) (workerId : String)

/-- The worker has a heartbeat that has not expired. -/
def live (now : Instant) : Bool :=
  (s.workers.find? workerId).any fun beat => decide (now < beat.expiresAtUtc)

/-- The worker has a heartbeat that has not expired, with the epoch. -/
def reports (fencingEpoch : ℕ) (now : Instant) :
    Bool :=
  (s.workers.find? workerId).any fun beat =>
    decide (now < beat.expiresAtUtc) && beat.fencingEpoch == fencingEpoch

end

end OrchestrationStore

namespace Durable

variable {s : OrchestrationStore env} {workflow : WorkflowInstance} {workerId : String}
  {fencingEpoch : ℕ} {now : Instant}

/-- A stored workflow is read if it is valid. -/
theorem query_run_eq (h : s.workflows.find? workflow.workflowId = some workflow) :
    (query workflow.workflowId).run StoreCall.exec s = (workflow.validate env.sha, s) := by
  rw [query, getWorkflow, call_bind, run, OrchestrationStore.getWorkflow, h]
  dsimp only
  cases hval : workflow.validate env.sha with
  | error | ok => rfl

/-- What `save` leaves: the changed workflow in the place of the stored one, and the workers. -/
theorem save_frame (updated : WorkflowInstance)
    (hstd : s.workflows.find? updated.workflowId = some workflow)
    (hver : updated.version = workflow.version + 1) (action : WorkflowAction)
    (payload : JsonObject) :
    let s' := ((save updated workflow.version action.eventType now payload).run StoreCall.exec s).2
    s'.workflows.find? updated.workflowId = some updated ∧ s'.workers = s.workers := by
  have hreplaced : (s.workflows.replace updated).find? updated.workflowId = some updated := by
    rw [Table.find?_replace, if_pos rfl, hstd]
    rfl
  have hkn : (workflows
      { s with workflows := s.workflows.replace updated }).find? updated.workflowId |>.isSome :=
    isSome_of_mem hreplaced
  rw [save_run hstd hver, run_bind_pure_snd]
  rcases event_run hkn action now payload none with
    ⟨record, events, -, -, -, -, -, hrun⟩ | ⟨error, other, -, -, hrun⟩
  · rw [hrun]
    exact ⟨hreplaced, rfl⟩
  · rw [hrun]
    exact ⟨hreplaced, rfl⟩

/-- `assign_worker` on a running workflow that can be read: refused, if the worker does not
report with the epoch; otherwise the step is the worker's. -/
theorem assignWorker_run (h : s.workflows.find? workflow.workflowId = some workflow)
    (hval : workflow.validate env.sha = .ok workflow) (hrunning : workflow.state = .running)
    (workerId : String) (fencingEpoch : ℕ) (now : Instant) :
    let call := (assignWorker workflow.workflowId workerId fencingEpoch now).run StoreCall.exec s
    (s.reports workerId fencingEpoch now = false ∧ ∃ error, call = (.error error, s)) ∨
    (s.reports workerId fencingEpoch now = true ∧ call.2.workers = s.workers ∧
      call.2.workflows.find? workflow.workflowId = some
        { workflow with
          state := .running
          version := workflow.version + 1
          assignedWorkerId := some workerId
          retryAvailableAtUtc := none
          updatedAtUtc := now }) := by
  have hquery := query_run_eq h
  rw [hval] at hquery
  have hwk : (worker workerId).run StoreCall.exec s = (.ok (s.workers.find? workerId), s) := rfl
  rw [assignWorker, run_bind_of_ok hquery, run_refuseIf_of_neg (by simp [hrunning]),
    run_refuseIf_of_neg (by simp [hrunning]), run_bind_of_ok hwk,
    reports]
  cases hfind : s.workers.find? workerId with
  | none => exact .inl ⟨rfl, _, run_refuseIf_of_pos rfl⟩
  | some beat =>
    by_cases hexpired : beat.expiresAtUtc ≤ now
    · exact .inl ⟨by simp [hexpired], _, run_refuseIf_of_pos (by simp [hexpired])⟩
    rw [run_refuseIf_of_neg (by simpa using hexpired)]
    by_cases hep : beat.fencingEpoch = fencingEpoch
    · refine .inr ⟨by simp [hep, not_le.mp hexpired], ?_⟩
      rw [run_refuseIf_of_neg (by simp [hep]), if_neg (by simp [hrunning])]
      exact (save_frame { workflow with
        state := .running
        version := workflow.version + 1
        assignedWorkerId := some workerId
        retryAvailableAtUtc := none
        updatedAtUtc := now } h rfl .assign _).symm
    · exact .inl ⟨by simp [hep], _, run_refuseIf_of_pos (by simp [hep])⟩

end Durable

/-- The step is assigned to a worker, and another worker reports. -/
def assignedNote : List (RuntimeOp byteEnv) :=
  noteStarted ++ [.call (.heartbeat "first" 1 60 1), .call (.heartbeat "second" 1 60 1),
    .call (.assignWorker noteWorkflowId "first" 1 2)]

end ProjectPipeline
