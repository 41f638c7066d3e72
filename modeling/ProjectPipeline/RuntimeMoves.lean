import ProjectPipeline.DurableRuntime
import ProjectPipeline.Runs
import ProjectPipeline.WorkflowLifeCycle

/-!
# What the Runtime Does to the History

The operations of the runtime, the recovery and the service end with writes of four kinds: they
create a workflow, save a changed one, note that a signal has been received, or store a wait.
The first three append an event. `Move` says so, once and for all operations, with everything
that is known when the write is made: the state of the workflow and the changed one are a step
of the life cycle, and the changes that only some operations make name their cause. An event is
lost when its identifier belongs to another event; the workflow has been written by then.

Only the definitions, the workflows, the events and the waits matter here (`history`).

## Main results

* `Durable.event_run`: an event is appended under the next number, or clashes with another one.
* `Durable.save_moves`: the write at the end of an operation.
* `RuntimeCall.step_moves`: every operation is a sequence of moves.
-/

namespace ProjectPipeline

open OrchestrationStore List Durable StoreCall Prog Table

variable {env : OrchestrationEnv}

/-! ### Calls -/

namespace RuntimeCall

def now : RuntimeCall env → Instant
  | start _ now | assignWorker _ _ _ now | checkpoint _ _ now | completeStep _ _ now
  | failStep _ _ _ _ now | waitForSignal _ _ now | waitUntil _ _ now | signal _ now
  | releaseDueWaits now | cancel _ now | suspend _ now | resume _ now | heartbeat _ _ _ now
  | recoverStaleWorkers now | startService _ _ _ now => now

/-- What an operation may do to workflows. -/
def actions : RuntimeCall env → List WorkflowAction
  | start _ _ => [.start]
  | assignWorker _ _ _ _ => [.assign]
  | checkpoint _ _ _ => [.checkpoint]
  | completeStep _ _ _ => [.completeStep, .succeed]
  | failStep _ _ _ _ _ => [.scheduleRetry, .failStep]
  | waitForSignal _ _ _ | waitUntil _ _ _ => [.enterWait]
  | signal _ _ => [.receiveSignal, .leaveWait]
  | releaseDueWaits _ => [.leaveWait]
  | cancel _ _ => [.cancel]
  | suspend _ _ => [.suspend]
  | resume _ _ => [.resume]
  | heartbeat _ _ _ _ => []
  | recoverStaleWorkers _ => [.scheduleRetry, .failStep, .loseWorker]
  | startService _ _ _ _ => [.start, .loseOutcome, .lackBackend, .acknowledge]

/-- The operations of `LocalDurableRuntime`. -/
def isLocal : RuntimeCall env → Bool
  | recoverStaleWorkers _ | startService _ _ _ _ => false
  | _ => true

/-- The wait that an operation starts. -/
def wait? : RuntimeCall env → Option (DurableWait env)
  | waitForSignal workflowId signalName now =>
    (Durable.newWait env workflowId .signal (some signalName) none now).toOption
  | waitUntil workflowId release now =>
    (Durable.newWait env workflowId .untilTime none (some release) now).toOption
  | _ => none

end RuntimeCall

/-! ### Moves -/

variable {s : OrchestrationStore env}

namespace OrchestrationStore

/-- The tables that the history of the workflows is in. -/
def history (s : OrchestrationStore env) : OrchestrationStore env where
  definitions := s.definitions
  workflows := s.workflows
  events := s.events
  waits := s.waits

def stepsOf (s : OrchestrationStore env) (definitionId : String) : List WorkflowStepDefinition :=
  ((s.definitions.find? definitionId).map WorkflowDefinition.steps).getD []

/-- A key that is not found is not in use. -/
theorem findWorkflowByIdempotency_eq_none {definitionId idempotencyKey : String}
    (h : s.findWorkflowByIdempotency definitionId idempotencyKey = .ok none) :
    ∀ row ∈ s.workflows.rows,
      ¬ (row.definitionId = definitionId ∧ row.idempotencyKey = idempotencyKey) := by
  rw [findWorkflowByIdempotency] at h
  split at h
  · rename_i hfind
    intro row hrow hkey
    simpa [hkey] using find?_eq_none.mp hfind row hrow
  · rename_i row hfind
    cases hval : row.validate env.sha with
    | error | ok =>
      rw [hval] at h
      cases h

section

variable (s : OrchestrationStore env) (wait : DurableWait env)

theorem saveWait_history :
    (s.saveWait wait).2.history = (s.history.saveWait wait).2 := by
  rw [saveWait, saveWait, apply_ite Prod.snd, apply_ite Prod.snd, apply_ite history]
  rfl

/-- A wait is stored beside the definitions, the workflows and the events. -/
theorem saveWait_frame :
    (s.saveWait wait).2.definitions = s.definitions ∧
      (s.saveWait wait).2.workflows = s.workflows ∧ (s.saveWait wait).2.events = s.events := by
  rw [saveWait]
  split <;> exact ⟨rfl, rfl, rfl⟩

end

variable {event : WorkflowEvent env.sha}

/-- The stored events of a workflow have smaller numbers than the next one. -/
theorem sequence_lt_next (h : event ∈ s.events.rows) :
    event.sequence < s.nextEventSequence event.workflowId := by
  rw [nextEventSequence, foldl_eq_foldr]
  refine Nat.lt_succ_of_le (le_max_of_le' 0 (mem_map_of_mem ?_) le_rfl)
  exact mem_filter.mpr ⟨h, beq_self_eq_true _⟩

/-- An event of a stored workflow under the next number is appended, or another event has its
identifier. -/
theorem appendEvent_next (hkn : (s.workflows.find? event.workflowId).isSome = true)
    (hseq : event.sequence = s.nextEventSequence event.workflowId) :
    (∃ events, s.events.insert event = some events ∧
      s.appendEvent event = (.ok event, { s with events := events })) ∨
    ∃ (error : PyError) (other : WorkflowEvent env.sha), other ∈ s.events.rows ∧
      other.eventId = event.eventId ∧ s.appendEvent event = (.error error, s) := by
  have htaken : (s.events.rows.any fun row =>
      row.workflowId == event.workflowId && row.sequence == event.sequence) = false := by
    rw [any_eq_false]
    intro row hrow hsame
    rw [Bool.and_eq_true, beq_iff_eq, beq_iff_eq] at hsame
    have hlt := sequence_lt_next hrow
    rw [hsame.1, ← hseq, hsame.2] at hlt
    exact lt_irrefl _ hlt
  rw [appendEvent]
  simp only [hkn, htaken, Bool.not_false, Bool.and_self, if_true]
  cases hins : s.events.insert event with
  | some events => exact .inl ⟨events, rfl, rfl⟩
  | none =>
    obtain ⟨other, hoth⟩ : ∃ other, s.events.find? event.eventId = some other := by
      refine Option.ne_none_iff_exists'.mp fun hfr => ?_
      obtain ⟨events, hevs⟩ := exists_insert hfr
      rw [hins] at hevs
      cases hevs
    obtain ⟨hmem, hid⟩ := find?_eq_some_iff.mp hoth
    -- The stored event is another one, for its number is smaller.
    have hne : ¬ s.events.find? event.eventId = some event := by
      intro hsame
      have hlt := sequence_lt_next (find?_eq_some_iff.mp hsame).1
      exact absurd hseq hlt.ne
    exact .inr ⟨_, other, hmem, hid, if_neg hne⟩

end OrchestrationStore

/-- The event of an action has been appended to the events of `s`, or its identifier belongs
to another event. -/
inductive Logged (s : OrchestrationStore env) (workflowId : String) (action : WorkflowAction)
    (payload : JsonObject) : OrchestrationStore env → Prop
  | appended {event : WorkflowEvent env.sha}
      {events : Table String (WorkflowEvent env.sha) WorkflowEvent.eventId}
      (howner : event.workflowId = workflowId) (htype : event.eventType = action.eventType)
      (hpayload : event.payload = payload)
      (hsequence : event.sequence = s.nextEventSequence workflowId)
      (hinsert : s.events.insert event = some events) :
      Logged s workflowId action payload { s with events := events }
  | clashed {event : WorkflowEvent env.sha} (hstored : event ∈ s.events.rows)
      (hid : orchestrationIdentifier env.sha .event
        [workflowId, toString (s.nextEventSequence workflowId), action.eventType] =
          .ok event.eventId) :
      Logged s workflowId action payload s

variable {payload : JsonObject} {workflowId : String}

variable {s' : OrchestrationStore env}

theorem Logged.workflows_eq {action : WorkflowAction} (h : Logged s workflowId action payload s') :
    s'.workflows = s.workflows := by
  cases h <;> rfl

/-- Why a workflow leaves its wait, in a call made in `s₀`: a signal of the awaited name has
been noted since, or the time of the wait has come. -/
inductive Woken (s₀ s : OrchestrationStore env) (now : Instant) (workflow : WorkflowInstance) :
    Prop
  | signal {waitId name : String} {row : WaitRow env} {event : WorkflowEvent env.sha}
      (hwait : workflow.waitId = some waitId) (hrow : s₀.waits.find? waitId = some row)
      (hname : row.payload.signalName = some name) (hstored : event ∈ s.events.rows)
      (hnew : event ∉ s₀.events.rows) (howner : event.workflowId = workflow.workflowId)
      (htype : event.eventType = "SIGNAL_RECEIVED")
      (hpayload : event.payload.lookup "signal_name" = some (jsonString name))
  | release {row : WaitRow env} {release : Instant} (hrow : row ∈ s₀.waits.rows)
      (hwait : workflow.waitId = some row.payload.waitId)
      (hrelease : row.releaseAtUtc = some release) (hdue : release ≤ now)

/-- Why a call made in `s₀` stores a wait: a running workflow enters it, or it is satisfied. -/
inductive Waits (s₀ : OrchestrationStore env) (c : RuntimeCall env) (s : OrchestrationStore env)
    (wait : DurableWait env) : Prop
  | enter {workflow : WorkflowInstance} (hstart : s = s₀) (hcall : c.wait? = some wait)
      (hstored : s₀.workflows.find? wait.workflowId = some workflow)
      (hrunning : workflow.state = .running)
  | satisfy {row : WaitRow env} (hrow : row ∈ s₀.waits.rows)
      (hid : wait.waitId = row.payload.waitId) (hname : wait.signalName = row.payload.signalName)

abbrev WorkflowTable := Table String WorkflowInstance WorkflowInstance.workflowId

/-- The workflow is stored as it is given. -/
def Stored (workflow : WorkflowInstance) (t : WorkflowTable) : Prop :=
  t.find? workflow.workflowId = some workflow

/-- What a change of a workflow keeps, and what it writes in any case. -/
structure Revises (now : Instant) (workflow updated : WorkflowInstance) : Prop where
  workflowId : updated.workflowId = workflow.workflowId
  definitionId : updated.definitionId = workflow.definitionId
  idempotencyKey : updated.idempotencyKey = workflow.idempotencyKey
  createdAt : updated.createdAtUtc = workflow.createdAtUtc
  updatedAt : updated.updatedAtUtc = now
  version : updated.version = workflow.version + 1

/-- A call made in `s₀` may save the changed workflow in `s`. -/
structure Saves (s₀ : OrchestrationStore env) (c : RuntimeCall env) (s : OrchestrationStore env)
    (workflow updated : WorkflowInstance) (action : WorkflowAction) (payload : JsonObject) : Prop
    extends Revises c.now workflow updated where
  stored : Stored workflow s.workflows
  valid : workflow.validate env.sha = .ok workflow
  step : Control.Step (s.stepsOf workflow.definitionId) c.now workflow.control action
    updated.control
  called : action ∈ c.actions
  retry : action = .scheduleRetry → ∃ step,
    (s.stepsOf workflow.definitionId)[workflow.currentStepIndex]? = some step ∧
      payload.lookup "step_id" = some (jsonString step.stepId)
  resume : action = .resume → c = .resume workflow.workflowId c.now ∧ s.workflows = s₀.workflows
  enter : action = .enterWait → truthy updated.waitId = true
  wake : action = .leaveWait → Woken s₀ s c.now workflow

/-- One write of a call made in `s₀`. -/
inductive Move (s₀ : OrchestrationStore env) (c : RuntimeCall env) :
    OrchestrationStore env → OrchestrationStore env → Prop
  | waited {s : OrchestrationStore env} {wait : DurableWait env} (hwaits : Waits s₀ c s wait) :
      Move s₀ c s (s.saveWait wait).2
  | created {s s' : OrchestrationStore env} {workflow : WorkflowInstance} {payload : JsonObject}
      {workflows : WorkflowTable}
      (hknown : (s.definitions.find? workflow.definitionId).isSome = true)
      (hversion : workflow.version = 1)
      (hcontrol : workflow.control = ⟨.running, 0, 1, none, none⟩)
      (hinsert : s.workflows.insert workflow = some workflows)
      (hlogged : Logged { s with workflows := workflows } workflow.workflowId .start payload s') :
      Move s₀ c s s'
  | received {s s' : OrchestrationStore env} {workflow : WorkflowInstance}
      {payload : JsonObject} (hstored : Stored workflow s.workflows)
      (hlogged : Logged s workflow.workflowId .receiveSignal payload s') : Move s₀ c s s'
  | saved {s s' : OrchestrationStore env} {workflow updated : WorkflowInstance}
      {action : WorkflowAction} {payload : JsonObject}
      (hsaves : Saves s₀ c s workflow updated action payload)
      (hlogged : Logged { s with workflows := s.workflows.replace updated } workflow.workflowId
        action payload s') : Move s₀ c s s'

/-- The writes of a call made in `s₀`, up to some point. -/
abbrev Moves (s₀ : OrchestrationStore env) (c : RuntimeCall env) :
    OrchestrationStore env → OrchestrationStore env → Prop :=
  Relation.ReflTransGen (Move s₀ c)

instance (s₀ : OrchestrationStore env) (c : RuntimeCall env) :
    IsPreorder (OrchestrationStore env) (Moves s₀ c) where
  refl _ := .refl
  trans _ _ _ h h' := h.trans h'

/-! ### Programs that write no history -/

/-- The calls that do not write to the history leave it as it is. -/
theorem StoreCall.exec_history {c : StoreCall env} (h : c.writesHistory = false)
    (s : OrchestrationStore env) : (c.exec s).history = s.history := by
  obtain ⟨hdefs, hwfs, hevs, hwaits⟩ := (c.exec_tables s).2.2 h
  rw [history, hdefs, hwfs, hevs, hwaits]
  rfl

namespace Durable

variable {α β τ : Type} {f : OrchestrationStore env → τ} {s₀ : OrchestrationStore env}
  {c : RuntimeCall env} {P : OrchestrationStore env → Prop}

/-- A program that leaves the history as it is. -/
abbrev LeavesHistory (p : Durable env α) : Prop :=
  Prog.Leaves StoreCall.exec OrchestrationStore.history p

/-- From a history with `P` a program of the call `c` makes its moves. -/
abbrev MakesMoves (s₀ : OrchestrationStore env) (c : RuntimeCall env)
    (P : OrchestrationStore env → Prop) (p : Durable env α) : Prop :=
  Prog.Ensures StoreCall.exec OrchestrationStore.history (Moves s₀ c) P p

theorem MakesMoves.run {p : Durable env α} (h : MakesMoves s₀ c (fun _ => True) p)
    (s : OrchestrationStore env) : Moves s₀ c s.history (p.run exec s).2.history :=
  h s trivial

theorem call_leaves_history {instr : StoreCall env}
    {result : OrchestrationStore env → Except PyError α} (h : instr.writesHistory = false) :
    LeavesHistory (.call instr result) :=
  .call (exec_history h)

/-! The programs that only read leave every part of the store as it is. -/

theorem query_leaves (workflowId : String) :
    Prog.Leaves exec f (query workflowId : Durable env WorkflowInstance) := by
  refine .bind (.call fun _ => rfl) fun workflow => ?_
  cases workflow <;> exact .done _

theorem currentStep_leaves (workflowId : String) :
    Prog.Leaves exec f (currentStep workflowId : Durable env (Option WorkflowStepDefinition)) := by
  refine .bind (query_leaves workflowId) fun _ => .bind (.call fun _ => rfl) fun definition => ?_
  cases definition <;> exact .done _

theorem requireCheckpoint_leaves (workflow : WorkflowInstance) (step : WorkflowStepDefinition) :
    Prog.Leaves exec f (requireCheckpoint workflow step : Durable env Unit) := by
  rw [requireCheckpoint]
  split
  · exact .bind (.call fun _ => rfl) fun _ => .refuseIf
  · exact .done _

theorem recoveryStep_leaves (workflow : WorkflowInstance) :
    Prog.Leaves exec f (recoveryStep workflow : Durable env (Option WorkflowStepDefinition)) := by
  rw [recoveryStep]
  split
  · exact .done _
  · exact currentStep_leaves _

/-! ### Reading -/

variable {workflow : WorkflowInstance} {now : Instant}

/-- What a query returns is stored under the identifier, and valid. -/
theorem query_run (h : (query workflowId).run exec s = (.ok workflow, s')) :
    s' = s ∧ workflow.workflowId = workflowId ∧ workflow.validate env.sha = .ok workflow ∧
      s.workflows.find? workflowId = some workflow := by
  have hget : s.getWorkflow workflowId = .ok (some workflow) ∧ s' = s := by
    rw [query, getWorkflow, call_bind, run] at h
    rcases hread : s.getWorkflow workflowId with error | _ | found
    · rw [hread] at h
      cases h
    · rw [hread] at h
      cases h
    · rw [hread] at h
      cases h
      exact ⟨rfl, rfl⟩
  have hfind := getWorkflow_eq_ok hget.1
  exact ⟨hget.2, (find?_eq_some_iff.mp hfind).2, validate_of_getWorkflow_eq_ok hget.1, hfind⟩

/-- A program that goes on with a workflow it has read. -/
theorem MakesMoves.query {rest : WorkflowInstance → Durable env α}
    (hrest : ∀ workflow, workflow.workflowId = workflowId →
      workflow.validate env.sha = .ok workflow →
      MakesMoves s₀ c (fun t => P t ∧ Stored workflow t.workflows) (rest workflow)) :
    MakesMoves s₀ c P (query workflowId >>= rest) := by
  refine Prog.Ensures.bind
    (Q := fun workflow t => workflow.workflowId = workflowId ∧
      workflow.validate env.sha = .ok workflow ∧ P t ∧ Stored workflow t.workflows)
    (.of_leaves (query_leaves workflowId)) ?_ ?_
  · intro s workflow s' hs hrun
    obtain ⟨rfl, rfl, hval, hfind⟩ := query_run hrun
    exact ⟨rfl, hval, hs, hfind⟩
  · rintro workflow s ⟨hid, hval, hs⟩
    exact hrest workflow hid hval s hs

/-- A program that goes on with the definition it has read. -/
theorem MakesMoves.getDefinition {definitionId : String}
    {rest : Option (WorkflowDefinition env.sha) → Durable env α}
    (hrest : ∀ definition, MakesMoves s₀ c
      (fun t => P t ∧ t.definitions.find? definitionId = definition) (rest definition)) :
    MakesMoves s₀ c P (getDefinition definitionId >>= rest) := by
  refine Prog.Ensures.read (fun _ => rfl) fun definition => (hrest definition).mono ?_
  rintro t ⟨ht, s, rfl, hread⟩
  exact ⟨ht, Except.ok.inj hread⟩

/-- A program that goes on with the current step of a stored workflow. -/
theorem MakesMoves.currentStep (hstd : ∀ t, P t → Stored workflow t.workflows)
    {rest : Option WorkflowStepDefinition → Durable env α} (hrest : ∀ step, MakesMoves s₀ c
      (fun t => P t ∧ (t.stepsOf workflow.definitionId)[workflow.currentStepIndex]? = step)
      (rest step)) : MakesMoves s₀ c P (Durable.currentStep workflow.workflowId >>= rest) := by
  rw [Durable.currentStep, bind_assoc]
  refine .query fun again hid _ => ?_
  rw [bind_assoc]
  refine .getDefinition fun definition => ?_
  cases definition with
  | none => exact .of_leaves (.done _)
  | some =>
    refine (hrest _).mono fun t ht => ⟨ht.1.1, ?_⟩
    obtain rfl : again = workflow := by
      have hagain : t.workflows.find? again.workflowId = some again := ht.1.2
      rw [hid, hstd t ht.1.1] at hagain
      exact (Option.some.inj hagain).symm
    rw [stepsOf, ht.2]
    rfl

/-! ### Events -/

/-- The event of an action has an identifier: its type is not blank. -/
theorem eventIdentifier (sha : Sha256) (workflowId : String) (sequence : ℕ)
    (action : WorkflowAction) :
    ∃ eventId, orchestrationIdentifier sha .event
      [workflowId, toString sequence, action.eventType] = .ok eventId := by
  have hvisible : (pyStrip action.eventType == "") = false := by
    cases action <;> decide
  rw [orchestrationIdentifier, if_neg]
  · exact ⟨_, rfl⟩
  · simp [hvisible]

section

variable (hkn : (s.workflows.find? workflowId).isSome = true)
include hkn

section

variable (action : WorkflowAction) (now : Instant) (payload : JsonObject) (correlationId : Option String)

/-- The event of a stored workflow is appended, or its identifier belongs to another event and
the call raises. -/
theorem event_run :
    (∃ (record : WorkflowEvent env.sha)
        (events : Table String (WorkflowEvent env.sha) WorkflowEvent.eventId),
      record.workflowId = workflowId ∧ record.eventType = action.eventType ∧
      record.payload = payload ∧ record.sequence = s.nextEventSequence workflowId ∧
      s.events.insert record = some events ∧
      (event workflowId action.eventType now payload correlationId).run exec s =
        (.ok (), { s with events := events })) ∨
    ∃ (error : PyError) (other : WorkflowEvent env.sha), other ∈ s.events.rows ∧
      orchestrationIdentifier env.sha .event
        [workflowId, toString (s.nextEventSequence workflowId), action.eventType] =
          .ok other.eventId ∧
      (event workflowId action.eventType now payload correlationId).run exec s =
        (.error error, s) := by
  obtain ⟨eventId, hid⟩ := eventIdentifier env.sha workflowId (s.nextEventSequence workflowId) action
  have hpositive : 1 ≤ s.nextEventSequence workflowId := Nat.le_add_left 1 _
  let record : WorkflowEvent env.sha :=
    ⟨eventId, workflowId, s.nextEventSequence workflowId, action.eventType, now, payload,
      correlationId, hid, hpositive⟩
  have hnew : newEvent env.sha workflowId action.eventType (s.nextEventSequence workflowId) now
      payload correlationId = .ok record := by
    rw [newEvent, returned_of_ok hid]
    simp only [bind, Except.bind, dif_pos hpositive, record]
  have hmade : (ofExcept (newEvent env.sha workflowId action.eventType
      (s.nextEventSequence workflowId) now payload correlationId) :
        Durable env (WorkflowEvent env.sha)).run exec s = (.ok record, s) := by
    rw [hnew]
    rfl
  have hnext : (nextEventSequence workflowId).run exec s =
    (.ok (s.nextEventSequence workflowId), s) := rfl
  rw [event, run_bind_of_ok hnext, run_bind_of_ok hmade]
  have happended : (appendEvent record).run exec s = s.appendEvent record := rfl
  rcases appendEvent_next (show (s.workflows.find? record.workflowId).isSome = true from hkn) rfl with
    ⟨events, hins, happend⟩ | ⟨error, other, hmem, hoth, happend⟩
  · rw [happend] at happended
    rw [run_bind_of_ok happended]
    exact .inl ⟨record, events, rfl, rfl, rfl, rfl, hins, rfl⟩
  · rw [happend] at happended
    rw [run_bind_of_error happended]
    exact .inr ⟨error, other, hmem, hid.trans (congrArg Except.ok hoth.symm), rfl⟩

/-- The history behind an event. -/
theorem event_logged :
    Logged s.history workflowId action payload
      ((event workflowId action.eventType now payload correlationId).run exec s).2.history := by
  rcases event_run hkn action now payload correlationId with
    ⟨record, events, hown, htype, hpay, hseq, hins, hrun⟩ |
    ⟨error, other, hmem, hid, hrun⟩
  · rw [hrun]
    exact .appended (s := s.history) hown htype hpay hseq hins
  · rw [hrun]
    exact .clashed (s := s.history) hmem hid

end

end

/-! ### Writing -/

/-- The workflow is replaced if it still has its version; the event comes behind. -/
theorem save_run {updated : WorkflowInstance}
    (hstd : s.workflows.find? updated.workflowId = some workflow)
    (hver : updated.version = workflow.version + 1) (eventType : String) (now : Instant)
    (payload : JsonObject) :
    (save updated workflow.version eventType now payload).run exec s =
      ((event updated.workflowId eventType now payload none >>= fun _ => pure updated).run
        exec { s with workflows := s.workflows.replace updated }) := by
  refine run_bind_of_ok (a := updated) ?_
  change s.updateWorkflow updated workflow.version = _
  rw [OrchestrationStore.updateWorkflow, if_neg (not_not.mpr hver), hstd, if_pos (by simp)]

/-- The write at the end of an operation. -/
theorem save_moves (action : WorkflowAction) {updated : WorkflowInstance}
    (h : ∀ t, P t → Saves s₀ c t workflow updated action payload) :
    MakesMoves s₀ c P (save updated workflow.version action.eventType now payload) := by
  intro s hs
  have hsv := h _ hs
  have hstd : s.workflows.find? updated.workflowId = some workflow := by
    rw [hsv.workflowId]
    exact hsv.stored
  have hkn : ((s.workflows.replace updated).find? updated.workflowId).isSome = true := by
    rw [find?_replace, if_pos rfl, hstd]
    rfl
  rw [save_run hstd hsv.version]
  have hlog := event_logged (s := { s with workflows := s.workflows.replace updated }) hkn
    action now payload none
  rw [run_bind_pure_snd]
  rw [hsv.workflowId] at hlog ⊢
  exact .single (.saved hsv hlog)

variable {wait : DurableWait env}

/-- A wait is stored beside the workflows and the events. -/
theorem MakesMoves.saveWait (hwaits : ∀ t, P t → Waits s₀ c t wait)
    (P' : OrchestrationStore env → Prop) (hP : ∀ t, P t → P' (t.saveWait wait).2)
    {rest : DurableWait env → Durable env α} (hrest : ∀ stored, MakesMoves s₀ c P' (rest stored)) :
    MakesMoves s₀ c P (saveWait wait >>= rest) := by
  refine Prog.Ensures.bind (Q := fun _ => P') ?_ ?_ hrest
  · intro s hs
    change Moves s₀ c s.history (s.saveWait wait).2.history
    rw [saveWait_history]
    exact .single (.waited (hwaits _ hs))
  · intro s stored s' hs hrun
    obtain ⟨-, rfl⟩ := Prod.mk.inj hrun
    change P' (s.saveWait wait).2.history
    rw [saveWait_history]
    exact hP _ hs

/-- A signal is noted. If this succeeds, the event is a new one. -/
theorem MakesMoves.receive {correlationId : Option String}
    (hstd : ∀ t, P t → Stored workflow t.workflows) {rest : Unit → Durable env α}
    (hrest : MakesMoves s₀ c (fun t' => ∃ t record events, P t ∧
      record.workflowId = workflow.workflowId ∧ record.eventType = WorkflowAction.receiveSignal.eventType ∧
      record.payload = payload ∧ t.events.insert record = some events ∧
      t' = { t with events := events }) (rest ())) :
    MakesMoves s₀ c P
      (event workflow.workflowId WorkflowAction.receiveSignal.eventType now payload correlationId >>=
        rest) := by
  intro s hs
  have hwf : Stored workflow s.history.workflows := hstd _ hs
  have hkn : (s.workflows.find? workflow.workflowId).isSome = true :=
    Option.isSome_of_mem hwf
  have hmove : Move s₀ c s.history _ :=
    .received hwf (event_logged hkn .receiveSignal now payload correlationId)
  rcases event_run hkn .receiveSignal now payload correlationId with
    ⟨record, events, hown, htype, hpay, -, hins, hrun⟩ | ⟨error, other, -, -, hrun⟩
  · rw [hrun] at hmove
    rw [run_bind_of_ok hrun]
    exact .head hmove (hrest _ ⟨s.history, record, events, hs, hown, htype, hpay, hins, rfl⟩)
  · rw [run_bind_of_error hrun]

/-! ### Starting -/

section

variable (request : WorkflowStartRequest)

/-- No workflow has the key of the request, and its definition is known. -/
def Startable (t : OrchestrationStore env) : Prop :=
  (t.definitions.find? request.definitionId).isSome = true ∧ ∀ row ∈ t.workflows.rows,
    ¬ (row.definitionId = request.definitionId ∧ row.idempotencyKey = request.idempotencyKey)

/-- A workflow with a new key is inserted, or another workflow has its identifier. -/
theorem createWorkflow_startable {request : WorkflowStartRequest} (hs : Startable request s)
    (hdef : workflow.definitionId = request.definitionId)
    (hkey : workflow.idempotencyKey = request.idempotencyKey) :
    (∃ workflows, s.workflows.insert workflow = some workflows ∧
      s.createWorkflow workflow = (.ok workflow, { s with workflows := workflows })) ∨
    ∃ error, s.createWorkflow workflow = (.error error, s) := by
  have htaken : (s.workflows.rows.any fun row => row.definitionId == workflow.definitionId &&
      row.idempotencyKey == workflow.idempotencyKey) = false := by
    rw [any_eq_false]
    intro row hrow hsame
    rw [Bool.and_eq_true, beq_iff_eq, beq_iff_eq, hdef, hkey] at hsame
    exact hs.2 row hrow hsame
  have hkn : (s.definitions.find? workflow.definitionId).isSome = true := by
    rw [hdef]
    exact hs.1
  rw [OrchestrationStore.createWorkflow]
  simp only [hkn, htaken, Bool.not_false, Bool.and_self, if_true]
  cases hins : s.workflows.insert workflow with
  | some workflows => exact .inl ⟨workflows, rfl, rfl⟩
  | none =>
    refine .inr ?_
    cases hget : s.getWorkflow workflow.workflowId with
    | error error => exact ⟨error, rfl⟩
    | ok existing =>
      have hoth : ¬ existing = some workflow := by
        rintro rfl
        have hfind := OrchestrationStore.getWorkflow_eq_ok hget
        exact hs.2 workflow (find?_eq_some_iff.mp hfind).1 ⟨hdef, hkey⟩
      exact ⟨_, if_neg hoth⟩

theorem create_moves (now : Instant) :
    MakesMoves s₀ c (Startable request) (create request now) := by
  refine .ofExcept fun workflowId _ => .ofExcept fun workflow hval => ?_
  have hwf := WorkflowInstance.validate_eq_ok hval
  have hdef : workflow.definitionId = request.definitionId := by rw [hwf]
  intro s hs
  have hstartable : Startable request s := hs
  rcases createWorkflow_startable hstartable hdef (by rw [hwf]) with
    ⟨workflows, hins, hcr⟩ | ⟨error, hcr⟩
  · have hfst : (createWorkflow workflow : Durable env WorkflowInstance).run exec s =
      (.ok workflow, { s with workflows := workflows }) := hcr
    have hkn : (workflows.find? workflow.workflowId).isSome = true := by
      rw [find?_insert hins, if_pos rfl]
      rfl
    have hlog := event_logged (s := { s with workflows := workflows }) hkn .start now
      [("definition_id", jsonString request.definitionId),
        ("backend", jsonString request.backend.value)] (some request.idempotencyKey)
    rw [run_bind_of_ok hfst, run_bind_pure_snd]
    refine .single (.created ?_ (by rw [hwf]) (by rw [hwf]; rfl) hins hlog)
    rw [hdef]
    exact hs.1
  · have hfst : (createWorkflow workflow : Durable env WorkflowInstance).run exec s =
      (.error error, s) := hcr
    rw [run_bind_of_error hfst]

theorem start_moves (now : Instant) :
    MakesMoves s₀ c P (start request now) := by
  refine .getDefinition fun definition => ?_
  cases definition with
  | none => exact .of_leaves (.done _)
  | some =>
    refine Prog.Ensures.read (fun _ => rfl) fun existing => ?_
    cases existing with
    | some => exact .ite (fun _ => .of_leaves (.done _)) fun _ => .of_leaves (.done _)
    | none =>
      refine (create_moves request now).mono ?_
      rintro t ⟨⟨-, hdef⟩, s, rfl, hread⟩
      refine ⟨Option.isSome_of_mem hdef, ?_⟩
      exact findWorkflowByIdempotency_eq_none hread

end

/-! ### Workers, checkpoints and steps -/

/-- An assignment is a retry if one is scheduled, and is due then. -/
theorem assigned_step {steps : List WorkflowStepDefinition}
    (hst : ¬ (workflow.state ≠ .running ∧ workflow.state ≠ .retryScheduled))
    (hdue : ¬ (workflow.state = .retryScheduled ∧
      workflow.retryAvailableAtUtc.all (fun due => decide (now < due)) = true)) :
    Control.Step steps now workflow.control .assign
      ⟨.running, workflow.currentStepIndex, if workflow.state = .retryScheduled then
        workflow.currentAttempt + 1 else workflow.currentAttempt, none, workflow.waitId⟩ := by
  by_cases hretry : workflow.state = .retryScheduled
  · rw [if_pos hretry]
    cases hsome : workflow.retryAvailableAtUtc with
    | none => exact absurd ⟨hretry, by rw [hsome]; rfl⟩ hdue
    | some due =>
      have hnow : due ≤ now := by
        by_contra hlate
        refine hdue ⟨hretry, ?_⟩
        rw [hsome]
        exact decide_eq_true (not_le.mp hlate)
      exact .retry (c := workflow.control) hretry hsome hnow
  · rw [if_neg hretry]
    have hrunning : workflow.state = .running := by
      by_contra hoth
      exact hst ⟨hoth, hretry⟩
    exact .assign (c := workflow.control) hrunning

theorem assignWorker_moves (hcalled : .assign ∈ c.actions) (workerId : String) (fencingEpoch : ℕ) :
    MakesMoves s₀ c P (assignWorker workflowId workerId fencingEpoch c.now) := by
  refine .query ?_
  rintro workflow rfl hval
  refine .refuseIf fun hst => .refuseIf fun hdue => .after (call_leaves_history rfl) fun _ =>
    .refuseIf fun _ => .refuseIf fun _ => save_moves .assign fun t ht => ?_
  exact ⟨⟨rfl, rfl, rfl, rfl, rfl, rfl⟩, ht.2, hval, assigned_step hst hdue, hcalled, nofun, nofun,
    nofun, nofun⟩

theorem checkpoint_moves (hcalled : .checkpoint ∈ c.actions) (payload : JsonObject) :
    MakesMoves s₀ c P (checkpoint workflowId payload c.now) := by
  refine .query ?_
  rintro workflow rfl hval
  refine .after (currentStep_leaves _) fun step => ?_
  cases step with
  | none => exact .of_leaves (.done _)
  | some =>
    refine .refuseIf fun hst => .after (.done _) fun _ => .after (.done _) fun record =>
      .after (call_leaves_history rfl) fun _ => .seq ?_ fun _ => .of_leaves (.done _)
    refine save_moves .checkpoint fun t ht => ?_
    exact ⟨⟨rfl, rfl, rfl, rfl, rfl, rfl⟩, ht.2, hval, .checkpoint (not_not.mp hst), hcalled,
      nofun, nofun, nofun, nofun⟩

theorem completeStep_moves (hcalled : .completeStep ∈ c.actions)
    (hlastCalled : .succeed ∈ c.actions) (result : JsonObject) :
    MakesMoves s₀ c P (completeStep workflowId result c.now) := by
  refine .query ?_
  rintro workflow rfl hval
  refine .refuseIf fun hst => MakesMoves.getDefinition fun definition => ?_
  have hrunning : workflow.state = .running := not_not.mp hst
  have hsteps : ∀ t : OrchestrationStore env,
      t.definitions.find? workflow.definitionId = definition →
        t.stepsOf workflow.definitionId = (definition.map WorkflowDefinition.steps).getD [] := by
    rintro t rfl
    rfl
  dsimp only
  generalize (definition.map WorkflowDefinition.steps).getD [] = steps at *
  split
  · exact .of_leaves (.done _)
  · rename_i step hstep
    refine .after (requireCheckpoint_leaves _ _) fun _ => ?_
    obtain ⟨hlt, -⟩ := List.getElem?_eq_some_iff.mp hstep
    cases hlast : workflow.currentStepIndex + 1 == steps.length with
    | true =>
      refine save_moves .succeed fun t ht => ?_
      refine ⟨⟨rfl, rfl, rfl, rfl, rfl, rfl⟩, ht.1.2, hval, ?_, hlastCalled, ?_, ?_, ?_, ?_⟩
      · rw [hsteps t ht.2]
        exact .succeed (c := workflow.control) hrunning (beq_iff_eq.mp hlast)
      all_goals rintro ⟨⟩
    | false =>
      refine save_moves .completeStep fun t ht => ?_
      refine ⟨⟨rfl, rfl, rfl, rfl, rfl, rfl⟩, ht.1.2, hval, ?_, hcalled, ?_, ?_, ?_, ?_⟩
      · rw [hsteps t ht.2]
        have hne : workflow.currentStepIndex + 1 ≠ steps.length := beq_eq_false_iff_ne.mp hlast
        have hnext : workflow.currentStepIndex + 1 < steps.length := by omega
        exact .completeStep (c := workflow.control) hrunning hnext
      all_goals rintro ⟨⟩

/-- A step is tried again only if an attempt is left. -/
theorem retryAt_eq_some {step : WorkflowStepDefinition} {retryable : Bool} {due : Instant}
    (h : retryAt env workflow step retryable now = .ok (some due)) :
    workflow.currentAttempt < step.retryPolicy.maxAttempts := by
  rw [retryAt] at h
  split at h
  · rename_i hretry
    rw [Bool.and_eq_true, decide_eq_true_eq] at hretry
    exact hretry.2
  · cases h

theorem failStep_moves (hretryCalled : .scheduleRetry ∈ c.actions) (hcalled : .failStep ∈ c.actions)
    (failureCode failureMessage : String) (retryable : Bool) :
    MakesMoves s₀ c P (failStep workflowId failureCode failureMessage retryable c.now) := by
  refine .query ?_
  rintro workflow rfl hval
  refine .refuseIf fun hst => MakesMoves.currentStep (fun _ ht => ht.2) fun step => ?_
  have hrunning : workflow.state = .running := not_not.mp hst
  cases step with
  | none => exact .of_leaves (.done _)
  | some step =>
    refine .ofExcept fun retry hretry => ?_
    cases retry with
    | none =>
      refine save_moves .failStep fun t ht => ?_
      exact ⟨⟨rfl, rfl, rfl, rfl, rfl, rfl⟩, ht.1.2, hval, .failStep hrunning, hcalled, nofun,
        nofun, nofun, nofun⟩
    | some =>
      refine save_moves .scheduleRetry fun t ht => ?_
      exact ⟨⟨rfl, rfl, rfl, rfl, rfl, rfl⟩, ht.1.2, hval,
        .scheduleRetry hrunning ht.2 (retryAt_eq_some hretry), hretryCalled,
        fun _ => ⟨step, ht.2, rfl⟩, nofun, nofun, nofun⟩

/-! ### Waits and signals -/

theorem newWait_workflowId {kind : WaitKind} {signalName : Option String} {release : Option Instant}
    (h : newWait env workflowId kind signalName release now = .ok wait) :
    wait.workflowId = workflowId := by
  rw [newWait] at h
  generalize returned (orchestrationIdentifier env.sha .wait _) = waitId at h
  rcases waitId with error | waitId
  · cases h
  · simp only [bind, Except.bind] at h
    split_ifs at h
    cases h
    rfl

theorem enterWait_moves (hcalled : .enterWait ∈ c.actions)
    (hval : workflow.validate env.sha = .ok workflow) (hst : workflow.state = .running)
    (hcall : c.wait? = some wait) (hown : wait.workflowId = workflow.workflowId)
    (payload : JsonObject) :
    MakesMoves s₀ c (fun t => t = s₀ ∧ Stored workflow t.workflows)
      (enterWait workflow wait c.now payload) := by
  have hkept : ∀ t, t = s₀ ∧ Stored workflow t.workflows →
      Stored workflow (t.saveWait wait).2.workflows := by
    intro t ht
    rw [(t.saveWait_frame wait).2.1]
    exact ht.2
  have hwaits : ∀ t, t = s₀ ∧ Stored workflow t.workflows → Waits s₀ c t wait := by
    rintro t ⟨rfl, hstd⟩
    exact .enter rfl hcall (hown ▸ hstd) hst
  refine .saveWait hwaits (fun t => Stored workflow t.workflows) hkept fun _ =>
    .seq (save_moves .enterWait fun t ht => ?_) fun _ => .of_leaves (.done _)
  exact ⟨⟨rfl, rfl, rfl, rfl, rfl, rfl⟩, ht, hval, .enterWait hst, hcalled, nofun, nofun,
    fun _ => wait.truthy_waitId, nofun⟩

theorem waitForSignal_moves {signalName : String}
    (hcall : c = .waitForSignal workflowId signalName c.now) :
    MakesMoves s₀ c (fun t => t = s₀) (waitForSignal workflowId signalName c.now) := by
  have hcalled : .enterWait ∈ c.actions := by rw [hcall]; exact mem_cons_self
  refine .query ?_
  rintro workflow rfl hval
  refine .refuseIf fun hst => .ofExcept fun wait hwait => ?_
  refine enterWait_moves hcalled hval (not_not.mp hst) ?_ (newWait_workflowId hwait) _
  rw [hcall, RuntimeCall.wait?, hwait]
  rfl

theorem waitUntil_moves {release : Instant} (hcall : c = .waitUntil workflowId release c.now) :
    MakesMoves s₀ c (fun t => t = s₀) (waitUntil workflowId release c.now) := by
  have hcalled : .enterWait ∈ c.actions := by rw [hcall]; exact mem_cons_self
  refine .refuseIf fun _ => MakesMoves.query ?_
  rintro workflow rfl hval
  refine .refuseIf fun hst => .ofExcept fun wait hwait => ?_
  refine enterWait_moves hcalled hval (not_not.mp hst) ?_ (newWait_workflowId hwait) _
  rw [hcall, RuntimeCall.wait?, hwait]
  rfl

theorem Woken.of_events_eq (h : Woken s₀ s now workflow) (hevs : s'.events = s.events) :
    Woken s₀ s' now workflow := by
  cases h with
  | signal hwait hrow hname hstd hnew hown htype hpay =>
    exact .signal hwait hrow hname (hevs ▸ hstd) hnew hown htype hpay
  | release hrow hwait hrelease hdue => exact .release hrow hwait hrelease hdue

theorem leaveWait_moves (hcalled : .leaveWait ∈ c.actions)
    (hval : workflow.validate env.sha = .ok workflow) (hst : workflow.state = .waiting)
    (hP : ∀ t, P t → Stored workflow t.workflows ∧ Woken s₀ t c.now workflow)
    (wait : DurableWait env) {satisfied : DurableWait env}
    (hwaits : ∀ t, P t → Waits s₀ c t satisfied) :
    MakesMoves s₀ c P (leaveWait workflow wait satisfied c.now) := by
  have hkept : ∀ t, P t → Stored workflow (t.saveWait satisfied).2.workflows ∧
      Woken s₀ (t.saveWait satisfied).2 c.now workflow := by
    intro t ht
    obtain ⟨-, hwfs, hevs⟩ := t.saveWait_frame satisfied
    refine ⟨?_, Woken.of_events_eq (hP t ht).2 hevs⟩
    rw [hwfs]
    exact (hP t ht).1
  refine .saveWait hwaits (fun t => Stored workflow t.workflows ∧ Woken s₀ t c.now workflow) hkept
    fun _ => save_moves .leaveWait fun t ht => ?_
  exact ⟨⟨rfl, rfl, rfl, rfl, rfl, rfl⟩, ht.1, hval, .leaveWait hst, hcalled, nofun, nofun, nofun,
    fun _ => ht.2⟩

/-- A wait that is read is stored. -/
theorem getWait_eq_some {waitId : String} (h : s.getWait waitId = some wait) :
    ∃ row, s.waits.find? waitId = some row ∧ row.payload = wait :=
  Option.map_eq_some_iff.mp h

section

variable (hcalled : .leaveWait ∈ c.actions)
include hcalled

theorem signal_moves (message : WorkflowSignal env.sha) :
    MakesMoves s₀ c (fun t => t = s₀) (signal message c.now) := by
  refine .query ?_
  rintro workflow hid hval
  refine .after (call_leaves_history rfl) fun firstDelivery => .ite (fun _ => ?_) fun _ =>
    .of_leaves (.done _)
  rw [← hid]
  refine MakesMoves.receive (fun _ ht => ht.2) (.ite (fun _ => .of_leaves (.done _)) fun hwaiting => ?_)
  obtain ⟨hst, hwait⟩ := not_or.mp hwaiting
  refine Prog.Ensures.read (fun _ => rfl) fun wait => ?_
  cases wait with
  | none => exact .of_leaves (.done _)
  | some =>
    refine .ite (fun hanswers => ?_) fun _ => .of_leaves (.done _)
    obtain ⟨waitId, hwid⟩ : ∃ waitId, workflow.waitId = some waitId := by
      cases hnone : workflow.waitId with
      | none => rw [hnone] at hwait; exact absurd rfl hwait
      | some waitId => exact ⟨waitId, rfl⟩
    rw [hwid, Option.getD_some]
    refine leaveWait_moves hcalled hval (not_not.mp hst) ?_ _ ?_
    · rintro t' ⟨⟨t, record, events, ⟨rfl, hstd⟩, hown, htype, hpay, hins, rfl⟩, s, hs, hread⟩
      refine ⟨hstd, ?_⟩
      obtain ⟨row, hrow, rfl⟩ := getWait_eq_some (Except.ok.inj hread)
      have hwaits : s.history.waits = t.waits := by rw [hs]
      obtain ⟨hfr, hrows⟩ := insert_eq_some_iff.mp hins
      have hstd' : record ∈ events.rows := by simp [hrows]
      refine .signal hwid (hwaits ▸ hrow) hanswers.2 hstd' ?_ hown htype ?_
      · intro hold
        exact find?_eq_none_iff.mp hfr record hold rfl
      · rw [hpay]
        rfl
    · rintro t' ⟨⟨t, record, events, ⟨rfl, -⟩, -, -, -, -, rfl⟩, s, hs, hread⟩
      obtain ⟨row, hrow, rfl⟩ := getWait_eq_some (Except.ok.inj hread)
      have hwaits : s.history.waits = t.waits := by rw [hs]
      exact .satisfy (hwaits ▸ (find?_eq_some_iff.mp hrow).1) rfl rfl

/-- The waits of a call made in `s₀` that are due. -/
def Due (s₀ : OrchestrationStore env) (now : Instant) (wait : DurableWait env) : Prop :=
  ∃ row ∈ s₀.waits.rows, row.payload = wait ∧
    ∃ release, row.releaseAtUtc = some release ∧ release ≤ now

theorem releaseWaits_moves (waits : List (DurableWait env))
    (hdue : ∀ wait ∈ waits, Due s₀ c.now wait) :
    MakesMoves s₀ c (fun _ => True) (releaseWaits c.now waits) := by
  induction waits with
  | nil => exact .of_leaves (.done _)
  | cons wait _ ih =>
    have hrest := ih fun other hoth => hdue other (mem_cons_of_mem _ hoth)
    refine .query fun workflow _ hval => .ite (fun _ => hrest.mono fun _ _ => trivial) fun hwaiting => ?_
    obtain ⟨hst, hwid⟩ := not_or.mp hwaiting
    obtain ⟨row, hrow, hpay, release, hrelease, hle⟩ := hdue wait mem_cons_self
    have hwoken : ∀ t, Woken s₀ t c.now workflow := fun t =>
      .release hrow (by rw [hpay]; exact not_not.mp hwid) hrelease hle
    refine .seq (leaveWait_moves hcalled hval (not_not.mp hst) ?_ _ ?_) fun _ =>
      .seq hrest fun _ => .of_leaves (.done _)
    · exact fun t ht => ⟨ht.2, hwoken t⟩
    · exact fun t _ => .satisfy hrow (by rw [hpay]) (by rw [hpay])

theorem releaseDueWaits_moves :
    MakesMoves s₀ c (fun t => t = s₀) (releaseDueWaits c.now) := by
  intro s hs
  have hwaits : s.history.waits = s₀.waits := by rw [hs]
  refine releaseWaits_moves hcalled (s.dueWaits c.now) ?_ s trivial
  intro wait hwait
  obtain ⟨row, hrow, rfl⟩ := mem_map.mp hwait
  obtain ⟨hmem, hdue⟩ := mem_filter.mp ((mem_insertionSort _).mp hrow)
  obtain ⟨release, hrelease, hle⟩ := (Option.any_eq_true _ _).mp (Bool.and_eq_true _ _ ▸ hdue).2
  exact ⟨row, hwaits ▸ hmem, rfl, release, hrelease, of_decide_eq_true hle⟩

end

/-! ### Cancelling, suspending and resuming -/

theorem cancel_moves (hcalled : .cancel ∈ c.actions) :
    MakesMoves s₀ c P (cancel workflowId c.now) := by
  refine .query ?_
  rintro workflow rfl hval
  refine .ite (fun _ => .of_leaves (.done _)) fun hopen =>
    save_moves .cancel fun t ht => ?_
  have hterminal : workflow.state.terminal = false := by
    cases hst : workflow.state <;> simp [hst] at hopen <;> rfl
  exact ⟨⟨rfl, rfl, rfl, rfl, rfl, rfl⟩, ht.2, hval, .cancel hterminal, hcalled, nofun, nofun, nofun,
    nofun⟩

theorem suspend_moves (hcalled : .suspend ∈ c.actions) :
    MakesMoves s₀ c P (suspend workflowId c.now) := by
  refine .query ?_
  rintro workflow rfl hval
  refine .refuseIf fun hst => save_moves .suspend fun t ht => ?_
  have hfrom : workflow.state = .running ∨ workflow.state = .waiting ∨
      workflow.state = .retryScheduled := by
    by_contra hoth
    simp only [not_or] at hoth
    exact hst hoth
  exact ⟨⟨rfl, rfl, rfl, rfl, rfl, rfl⟩, ht.2, hval, .suspend hfrom, hcalled, nofun, nofun, nofun,
    nofun⟩

/-- A workflow is resumed only by the call for it, in the state in which the call is made. -/
theorem resume_moves (hcall : c = .resume workflowId c.now) :
    MakesMoves s₀ c (fun t => t = s₀) (resume workflowId c.now) := by
  have hcalled : .resume ∈ c.actions := by rw [hcall]; exact mem_cons_self
  refine .query ?_
  rintro workflow rfl hval
  refine .refuseIf fun hst => save_moves .resume fun t ht => ?_
  have hfrom : workflow.state = .suspended ∨ workflow.state = .recoveryRequired := by
    by_contra hoth
    simp only [not_or] at hoth
    exact hst hoth
  refine ⟨⟨rfl, rfl, rfl, rfl, rfl, rfl⟩, ht.2, hval, .resume hfrom, hcalled, nofun,
    fun _ => ⟨hcall, ?_⟩, nofun, nofun⟩
  rw [ht.1]

/-! ### Recovery -/

theorem markWorkerLost_moves (hcalled : .loseWorker ∈ c.actions) (workerId : String) :
    MakesMoves s₀ c P (markWorkerLost workflowId workerId c.now) := by
  refine Prog.Ensures.read (fun _ => rfl) fun refreshed => ?_
  cases refreshed with
  | none => exact .of_leaves (.done _)
  | some =>
    refine .ite (fun hrunning => .seq (save_moves .loseWorker ?_) fun _ => .of_leaves (.done _))
      fun _ => .of_leaves (.done _)
    rintro t ⟨-, s, rfl, hread⟩
    have hfind := getWorkflow_eq_ok hread
    have hval := validate_of_getWorkflow_eq_ok hread
    obtain ⟨-, rfl⟩ := find?_eq_some_iff.mp hfind
    exact ⟨⟨rfl, rfl, rfl, rfl, rfl, rfl⟩, hfind, hval, .loseWorker hrunning, hcalled, nofun,
      nofun, nofun, nofun⟩

section

variable (hacts : c.actions = [.scheduleRetry, .failStep, .loseWorker])
include hacts

theorem recoverWorkflow_moves (workerId : String) (workflow : WorkflowInstance) :
    MakesMoves s₀ c P (recoverWorkflow workerId workflow c.now) := by
  refine .after (recoveryStep_leaves workflow) fun step => .after (.done _) fun recoveryId =>
    .after (call_leaves_history rfl) fun decision => .seq ?_ fun _ => .of_leaves (.done _)
  refine .ite (fun _ => ?_) fun _ => markWorkerLost_moves (by simp [hacts]) _
  exact .seq (failStep_moves (by simp [hacts]) (by simp [hacts]) _ _ _) fun _ =>
    .of_leaves (.done _)

theorem recoverWorkflows_moves (workerId : String) (workflows : List WorkflowInstance) :
    MakesMoves s₀ c P (recoverWorkflows workerId c.now workflows) := by
  induction workflows generalizing P with
  | nil => exact .of_leaves (.done _)
  | cons workflow _ ih =>
    exact .seq (recoverWorkflow_moves hacts workerId workflow) fun _ =>
      .seq ih fun _ => .of_leaves (.done _)

theorem recoverWorkers_moves (beats : List WorkerHeartbeat) :
    MakesMoves s₀ c P (recoverWorkers c.now beats) := by
  induction beats generalizing P with
  | nil => exact .of_leaves (.done _)
  | cons beat _ ih =>
    exact .after (call_leaves_history rfl) fun workflows =>
      .seq (recoverWorkflows_moves hacts beat.workerId workflows) fun _ =>
        .seq ih fun _ => .of_leaves (.done _)

end

/-! ### The service -/

theorem markRecoveryRequired_moves (hcalled : .loseOutcome ∈ c.actions) (code message : String) :
    MakesMoves s₀ c P (markRecoveryRequired workflowId code message c.now) := by
  refine .query ?_
  rintro workflow rfl hval
  refine save_moves .loseOutcome fun t ht => ?_
  exact ⟨⟨rfl, rfl, rfl, rfl, rfl, rfl⟩, ht.2, hval, .loseOutcome, hcalled, nofun, nofun, nofun,
    nofun⟩

theorem markBackendUnavailable_moves (hcalled : .lackBackend ∈ c.actions) (detail : String) :
    MakesMoves s₀ c P (markBackendUnavailable workflowId detail c.now) := by
  refine .query ?_
  rintro workflow rfl hval
  refine save_moves .lackBackend fun t ht => ?_
  exact ⟨⟨rfl, rfl, rfl, rfl, rfl, rfl⟩, ht.2, hval, .lackBackend, hcalled, nofun, nofun, nofun,
    nofun⟩

theorem acknowledge_moves (hcalled : .acknowledge ∈ c.actions) (operationId : String)
    (backend : DurableBackendKind) (backendRunId : Option String) :
    MakesMoves s₀ c P (acknowledge workflowId operationId backend backendRunId c.now) := by
  refine .query ?_
  rintro workflow rfl hval
  refine save_moves .acknowledge fun t ht => ?_
  exact ⟨⟨rfl, rfl, rfl, rfl, rfl, rfl⟩, ht.2, hval, .acknowledge, hcalled, nofun, nofun, nofun,
    nofun⟩

section

variable (hacts : c.actions = [.start, .loseOutcome, .lackBackend, .acknowledge])
include hacts

theorem send_moves (workflowId : String) (backend : DurableBackendKind)
    (operation : DurableOperation) (outcome : AdapterOutcome) :
    MakesMoves s₀ c P (send workflowId backend operation outcome c.now) := by
  refine .after (call_leaves_history rfl) fun _ => ?_
  cases outcome with
  | raises => exact .of_leaves (.done _)
  | unknownOutcome =>
    exact .after (call_leaves_history rfl) fun _ =>
      markRecoveryRequired_moves (by simp [hacts]) _ _
  | unavailable =>
    exact .after (call_leaves_history rfl) fun _ =>
      markBackendUnavailable_moves (by simp [hacts]) _
  | receipt =>
    exact .after (call_leaves_history rfl) fun _ =>
      acknowledge_moves (by simp [hacts]) _ _ _

variable (request : WorkflowStartRequest) (workflowName : String) (adapter : Option AdapterOutcome)

theorem handOver_moves (workflow : WorkflowInstance) :
    MakesMoves s₀ c P (handOver request workflowName adapter workflow c.now) := by
  cases adapter with
  | none => exact markBackendUnavailable_moves (by simp [hacts]) _
  | some =>
    refine .after (.done _) fun operation => .after (call_leaves_history rfl) fun existing => ?_
    cases existing with
    | none => exact .after (call_leaves_history rfl) fun _ => send_moves hacts _ _ _ _
    | some => exact .ite (fun _ => .of_leaves (query_leaves _)) fun _ => send_moves hacts _ _ _ _

theorem startService_moves :
    MakesMoves s₀ c P (startService request workflowName adapter c.now) :=
  .seq (start_moves request c.now) fun _ =>
    .ite (fun _ => .of_leaves (.done _)) fun _ => handOver_moves hacts _ _ _ _

end

end Durable

/-! ### Every operation -/

/-- Every operation is a sequence of moves, whether it returns or raises. -/
theorem RuntimeCall.step_moves (s : OrchestrationStore env) (c : RuntimeCall env) :
    Moves s.history c s.history (RuntimeCall.step s c).history := by
  cases c with
  | start request now => exact (Durable.start_moves request now).run s
  | assignWorker => exact (Durable.assignWorker_moves (by simp [actions]) _ _).run s
  | checkpoint => exact (Durable.checkpoint_moves (by simp [actions]) _).run s
  | completeStep =>
    exact (Durable.completeStep_moves (by simp [actions]) (by simp [actions]) _).run s
  | failStep =>
    exact (Durable.failStep_moves (by simp [actions]) (by simp [actions])
      _ _ _).run s
  | waitForSignal => exact Durable.waitForSignal_moves rfl s rfl
  | waitUntil => exact Durable.waitUntil_moves rfl s rfl
  | signal message => exact Durable.signal_moves (by simp [actions]) message s rfl
  | releaseDueWaits => exact Durable.releaseDueWaits_moves (by simp [actions]) s rfl
  | cancel => exact (Durable.cancel_moves (by simp [actions])).run s
  | suspend => exact (Durable.suspend_moves (by simp [actions])).run s
  | resume => exact Durable.resume_moves rfl s rfl
  | heartbeat workerId fencingEpoch ttlSeconds now =>
    have hleaves : Durable.LeavesHistory
        (Durable.heartbeat workerId fencingEpoch ttlSeconds now : Durable env WorkerHeartbeat) :=
      .bind (.done _) fun _ => Durable.call_leaves_history rfl
    exact (hleaves s).symm ▸ .refl
  | recoverStaleWorkers now =>
    have hmvs : Durable.MakesMoves s.history (recoverStaleWorkers now) (fun _ => True)
        (Durable.recoverStaleWorkers now) :=
      .after (Durable.call_leaves_history rfl) fun beats => Durable.recoverWorkers_moves rfl beats
    exact hmvs.run s
  | startService => exact (Durable.startService_moves rfl _ _ _).run s

end ProjectPipeline
