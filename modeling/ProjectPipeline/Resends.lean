import ProjectPipeline.Interruptions
import ProjectPipeline.RuntimeRuns

/-!
# Starts That Are Sent Again

`OrchestrationService.start` hands a workflow over to an external engine. The operation is
stored as `SENT`, the adapter of the engine is called, and its answer is stored. If the process
stops in between, or the adapter raises an exception that the service does not know, the
operation stays `SENT`, and nobody knows whether the engine has started the workflow.
`reconcile_operation` asks the engine, but only about operations in `UNKNOWN_OUTCOME`.

Here the call of the adapter is a step of its own, and a log keeps the calls and what has become
known about them.

## Main results

* `Delivery.serviceStart_simulates`: without the log, `serviceStart` is the `startService` of the
  runtime.
* `no_blind_resend`: no operation is sent again while its outcome is open, in runs in which no
  start finds its operation in `SENT`.
-/

namespace ProjectPipeline

open Durable List DurableOperation StoreCall Prog OrchestrationStore

variable {env : OrchestrationEnv}

/-! ### Deliveries -/

/-- What has happened to an operation: the adapter was called for it; the call is stored as a
success, or as one that was not applied; a reconciliation has resolved it. -/
inductive DeliveryEvent where
  | invoked (operationId : String)
  | succeeded (operationId : String)
  | notApplied (operationId : String)
  | resolved (operationId : String)
  deriving DecidableEq, Repr

/-- The store, and the log of the deliveries. -/
structure Delivery (env : OrchestrationEnv) where
  store : OrchestrationStore env
  log : List DeliveryEvent := []

/-- A call of the store, the call of the adapter for an operation, or the `save_operation` of a
reconciliation. -/
inductive DeliveryStep (env : OrchestrationEnv) where
  | store (c : StoreCall env)
  | invoke (operationId : String)
  | resolve (operation : DurableOperation)

/-- What storing an operation says about the call of the adapter. -/
def DurableOperation.recorded (operation : DurableOperation) : List DeliveryEvent :=
  match operation.state with
  | .acknowledged => [.succeeded operation.operationId]
  | .failed => [.notApplied operation.operationId]
  | _ => []

/-- The store and the log after a step. An operation that cannot be stored says nothing. -/
def DeliveryStep.exec : DeliveryStep env → Delivery env → Delivery env
  | store (.saveOperation operation), d =>
    match d.store.saveOperation operation with
    | (.ok _, s) => ⟨s, d.log ++ operation.recorded⟩
    | (.error _, s) => ⟨s, d.log⟩
  | store c, d => ⟨c.exec d.store, d.log⟩
  | invoke operationId, d => { d with log := d.log ++ [.invoked operationId] }
  | resolve operation, d =>
    match d.store.saveOperation operation with
    | (.ok _, s) => ⟨s, d.log ++ [.resolved operation.operationId]⟩
    | (.error _, s) => ⟨s, d.log⟩

/-- Programs of the service. -/
abbrev DeliveryProg (env : OrchestrationEnv) := Prog (DeliveryStep env) (Delivery env)

namespace Delivery

/-- A program of the runtime. -/
def onStore {α : Type} (p : Durable env α) : DeliveryProg env α := p.lift .store Delivery.store

/-- `adapter.start`. -/
def invoke (operationId : String) : DeliveryProg env Unit :=
  .call (.invoke operationId) fun _ => .ok ()

variable (workflowId : String) (backend : DurableBackendKind)

/-- The part of `OrchestrationService.start` behind the call of the adapter. -/
def answer (sent : DurableOperation)
    (outcome : AdapterOutcome) (now : Instant) : Durable env WorkflowInstance :=
  match outcome with
  | .raises error => .raise error
  | .unknownOutcome message => do
      let _ ← Durable.saveOperation { sent with state := .unknownOutcome, lastError := some message }
      Durable.markRecoveryRequired workflowId "REMOTE_START_OUTCOME_UNKNOWN" message now
  | .unavailable message => do
      let _ ← Durable.saveOperation { sent with state := .failed, lastError := some message }
      Durable.markBackendUnavailable workflowId message now
  | .receipt backendOperationId backendRunId => do
      let _ ← Durable.saveOperation
        { sent with
          state := .acknowledged
          backendOperationId := backendOperationId
          lastError := none }
      Durable.acknowledge workflowId sent.operationId backend backendRunId now

/-- The operation is marked as sent, and the adapter is called. -/
def send (operation : DurableOperation)
    (outcome : AdapterOutcome) (now : Instant) : DeliveryProg env WorkflowInstance := do
  let sent : DurableOperation :=
    { operation with
      state := .sent
      attemptCount := operation.attemptCount + 1
      updatedAtUtc := now }
  let _ ← onStore (Durable.saveOperation sent)
  invoke sent.operationId
  onStore (answer workflowId backend sent outcome now)

section

variable (request : WorkflowStartRequest) (workflowName : String) (adapter : Option AdapterOutcome)

/-- The part of `OrchestrationService.start` for a workflow that has no run in its engine. -/
def handOver (workflow : WorkflowInstance) (now : Instant) :
    DeliveryProg env WorkflowInstance :=
  match adapter with
  | none =>
    onStore (Durable.markBackendUnavailable workflow.workflowId "no configured backend adapter" now)
  | some outcome => do
      let operation ← Prog.ofExcept (Durable.startOperation env workflow request workflowName now)
      let existing ← onStore (Durable.getOperation operation.operationId)
      match existing with
      | some existing =>
        if existing.state.answered then onStore (Durable.query workflow.workflowId)
        else send workflow.workflowId request.backend existing outcome now
      | none =>
        let _ ← onStore (Durable.saveOperation operation)
        send workflow.workflowId request.backend operation outcome now

/-- `OrchestrationService.start`. The adapter is missing, or calling it has the given
outcome. -/
def serviceStart (now : Instant) : DeliveryProg env WorkflowInstance := do
  let workflow ← onStore (Durable.start request now)
  if request.backend = .localReference ∨ truthy workflow.backendRunId = true then pure workflow
  else handOver request workflowName adapter workflow now

end

end Delivery

/-- What the observer of a reconciliation says about the effect of an operation. -/
inductive ReconciliationObservation where
  | applied | notApplied | unknown
  deriving DecidableEq, Repr

namespace Delivery

/-- `save_operation` at the end of `reconcile_operation`. -/
def resolve (operation : DurableOperation) : DeliveryProg env DurableOperation :=
  .call (.resolve operation) fun d => (d.store.saveOperation operation).1

/-- `reconcile_operation`. The observer answers, or raises. -/
def reconcileOperation (operationId : String) (observer : Except PyError ReconciliationObservation)
    (now : Instant) :
    DeliveryProg env DurableOperation := do
  let operation ← onStore (Durable.getOperation operationId)
  match operation with
  | none => .raise (.keyError ("unknown orchestration operation: " ++ operationId))
  | some operation =>
    if operation.state ≠ .unknownOutcome then pure operation
    else do
      let observation ← Prog.ofExcept observer
      match observation with
      | .unknown => pure operation
      | .applied =>
        resolve
          { operation with
            state := .reconciled
            updatedAtUtc := now
            lastError := some "remote effect observed after uncertain response" }
      | .notApplied =>
        resolve
          { operation with
            state := .pending
            updatedAtUtc := now
            lastError := some "remote effect absent; operation may be safely reconsidered" }

end Delivery

/-! ### The model of the runtime -/

open Delivery

open DeliveryEvent

theorem DeliveryStep.store_exec (c : StoreCall env) (d : Delivery env) :
    (DeliveryStep.exec (.store c) d).store = c.exec d.store := by
  cases c with
  | saveOperation operation =>
    rw [DeliveryStep.exec, StoreCall.exec]
    rcases d.store.saveOperation operation with ⟨error | stored, s⟩ <;> rfl
  | _ => rfl

namespace Delivery

theorem onStore_simulates {α : Type} (p : Durable env α) :
    Prog.Simulates DeliveryStep.exec StoreCall.exec store (onStore p) p :=
  simulates_lift DeliveryStep.store_exec p

theorem send_simulates (workflowId : String) (backend : DurableBackendKind)
    (operation : DurableOperation) (outcome : AdapterOutcome) (now : Instant) :
    Prog.Simulates DeliveryStep.exec exec store
      (send workflowId backend operation outcome now : DeliveryProg env WorkflowInstance)
      (Durable.send workflowId backend operation outcome now) := by
  have hans := fun sent => onStore_simulates
    (answer workflowId backend sent outcome now : Durable env WorkflowInstance)
  refine .bind (onStore_simulates _) fun _ => .hidden (fun _ => rfl) ?_
  cases outcome <;> exact hans _

/-- Seen without the log, `serviceStart` is the `startService` of the runtime. -/
theorem serviceStart_simulates (request : WorkflowStartRequest) (workflowName : String)
    (adapter : Option AdapterOutcome) (now : Instant) :
    Prog.Simulates DeliveryStep.exec exec store
      (serviceStart request workflowName adapter now : DeliveryProg env WorkflowInstance)
      (startService request workflowName adapter now) := by
  refine .bind (onStore_simulates _) fun workflow => .ite (.done _) ?_
  cases adapter with
  | none => exact onStore_simulates _
  | some =>
    refine .bind (.done _) fun operation => .bind (onStore_simulates _) fun existing => ?_
    cases existing with
    | none => exact .bind (onStore_simulates _) fun _ => send_simulates _ _ _ _ _
    | some => exact .ite (onStore_simulates _) (send_simulates _ _ _ _ _)

end Delivery

/-! ### Open outcomes -/

namespace DeliveryEvent

/-- Whether the outcome of an operation is open, after an event. -/
def leavesOpen (operationId : String) (isOpen : Bool) : DeliveryEvent → Bool
  | invoked other => isOpen || other == operationId
  | succeeded other | notApplied other | resolved other => isOpen && other != operationId

end DeliveryEvent

section

variable (operationId : String) (log : List DeliveryEvent)

/-- The adapter was called for the operation, and nothing has become known about it since. -/
def unsettled : Bool :=
  log.foldl (DeliveryEvent.leavesOpen operationId) false

theorem unsettled_concat (event : DeliveryEvent) :
    unsettled operationId (log ++ [event]) = event.leavesOpen operationId (unsettled operationId log) :=
  foldl_concat _ _ _ _

end

/-- The adapter is never called for an operation whose outcome is open. -/
def NoBlindResend (log : List DeliveryEvent) : Prop :=
  ∀ earlier operationId, earlier ++ [.invoked operationId] <+: log →
    unsettled operationId earlier = false

theorem NoBlindResend.concat {log : List DeliveryEvent} (h : NoBlindResend log)
    {event : DeliveryEvent}
    (hev : ∀ operationId, event = .invoked operationId → unsettled operationId log = false) :
    NoBlindResend (log ++ [event]) := by
  intro earlier operationId hpre
  rcases prefix_concat_iff.mp hpre with hwhole | hpre
  · obtain ⟨rfl, hlast⟩ := append_inj' hwhole rfl
    exact hev operationId (singleton_inj.mp hlast).symm
  · exact h earlier operationId hpre

variable {operation : DurableOperation} {operationId : String} {request : WorkflowStartRequest}
  {workflow : WorkflowInstance}

namespace Delivery

/-- No operation has been sent blindly, and one whose outcome is open is stored as such. -/
structure Good (d : Delivery env) : Prop where
  noBlind : NoBlindResend d.log
  stored : ∀ operationId, unsettled operationId d.log = true →
    ∃ row, d.store.outbox.find? operationId = some row ∧
      (row.state = .sent ∨ row.state = .unknownOutcome)

/-- The log and the outbox are as they were. -/
def Unchanged (d₀ d : Delivery env) : Prop :=
  d.log = d₀.log ∧ d.store.outbox = d₀.store.outbox

theorem Good.of_unchanged {d₀ d : Delivery env} (h : Good d₀) (hd : Unchanged d₀ d) : Good d := by
  refine ⟨hd.1 ▸ h.noBlind, fun operationId hopen => ?_⟩
  rw [hd.2]
  exact h.stored operationId (hd.1 ▸ hopen)

/-- The operation is stored, and the log has grown by what this says. -/
def Saved (d : Delivery env) (operation : DurableOperation) (events : List DeliveryEvent)
    (d' : Delivery env) : Prop :=
  d'.log = d.log ++ events ∧ ∀ operationId, d'.store.outbox.find? operationId =
    if operation.operationId = operationId then some operation
    else d.store.outbox.find? operationId

/-- An operation is stored. It must say so if its outcome is open. -/
theorem Good.save {d d' : Delivery env} {events : List DeliveryEvent} (h : Good d)
    (hd : Saved d operation events d') (hevs : events = [] ∨ ∃ event, events = [event] ∧
      ∀ operationId isOpen, event.leavesOpen operationId isOpen =
        (isOpen && operation.operationId != operationId))
    (hopen : unsettled operation.operationId (d.log ++ events) = true →
      operation.state = .sent ∨ operation.state = .unknownOutcome) : Good d' := by
  obtain ⟨hlog, hfind⟩ := hd
  have hless : ∀ operationId, unsettled operationId (d.log ++ events) = true →
      unsettled operationId d.log = true := by
    intro operationId hopen
    rcases hevs with rfl | ⟨event, rfl, hev⟩
    · rwa [append_nil] at hopen
    · rw [unsettled_concat, hev, Bool.and_eq_true] at hopen
      exact hopen.1
  refine ⟨?_, fun operationId hopen' => ?_⟩
  · rw [hlog]
    rcases hevs with rfl | ⟨event, rfl, hev⟩
    · rw [append_nil]
      exact h.noBlind
    · refine h.noBlind.concat fun operationId hinvoked => ?_
      -- A call of the adapter does not close anything.
      have hff := hev operationId false
      rw [hinvoked] at hff
      simp [leavesOpen] at hff
  · rw [hlog] at hopen'
    rw [hfind]
    split
    · rename_i hid
      exact ⟨operation, rfl, hopen (hid ▸ hopen')⟩
    · exact h.stored operationId (hless operationId hopen')

/-- The adapter is called for an operation that is stored as sent. -/
theorem Good.invoke {d : Delivery env} {row : DurableOperation} (h : Good d)
    (hclosed : unsettled operationId d.log = false)
    (hrow : d.store.outbox.find? operationId = some row) (hsent : row.state = .sent) :
    Good (DeliveryStep.exec (.invoke operationId) d) := by
  refine ⟨h.noBlind.concat fun other hoth => ?_, fun other hopen => ?_⟩
  · obtain rfl := invoked.inj hoth
    exact hclosed
  · have hopen : unsettled other (d.log ++ [.invoked operationId]) = true := hopen
    rw [unsettled_concat, leavesOpen, Bool.or_eq_true, beq_iff_eq] at hopen
    rcases hopen with hopen | rfl
    · exact h.stored other hopen
    · exact ⟨row, hrow, .inl hsent⟩

end Delivery

/-! ### Programs -/

namespace Durable

variable {α : Type}

/-- A program that does not write to the outbox. -/
abbrev SparesOutbox (p : Durable env α) : Prop := p.Uses fun c => c.writesOutbox = false

theorem event_spares (workflowId eventType : String) (now : Instant) (payload : JsonObject)
    (correlationId : Option String) :
    SparesOutbox (event workflowId eventType now payload correlationId : Durable env Unit) :=
  .bind (.call rfl) fun _ => .bind (.ofExcept _) fun _ => .bind (.call rfl) fun _ => .pure _

theorem save_spares (updated : WorkflowInstance) (expectedVersion : ℕ) (eventType : String)
    (now : Instant) (payload : JsonObject) :
    SparesOutbox (save updated expectedVersion eventType now payload :
      Durable env WorkflowInstance) :=
  .bind (.call rfl) fun _ => .bind (event_spares _ _ _ _ _) fun _ => .pure _

theorem query_spares (workflowId : String) :
    SparesOutbox (query workflowId : Durable env WorkflowInstance) := by
  refine .bind (.call rfl) fun workflow => ?_
  cases workflow <;> exact .done _

theorem start_spares (request : WorkflowStartRequest) (now : Instant) :
    SparesOutbox (start request now : Durable env WorkflowInstance) := by
  refine .bind (.call rfl) fun definition => ?_
  cases definition with
  | none => exact .done _
  | some =>
    refine .bind (.call rfl) fun existing => ?_
    cases existing with
    | none =>
      exact .bind (.ofExcept _) fun _ => .bind (.ofExcept _) fun _ => .bind (.call rfl) fun _ =>
        .bind (event_spares _ _ _ _ _) fun _ => .pure _
    | some =>
      dsimp only
      split <;> exact .done _

theorem markBackendUnavailable_spares (workflowId detail : String) (now : Instant) :
    SparesOutbox (markBackendUnavailable workflowId detail now : Durable env WorkflowInstance) :=
  .bind (query_spares _) fun _ => save_spares _ _ _ _ _

/-- A workflow that is started has the identifier of its definition and its key. -/
theorem identifier_of_start {now : Instant} {s s' : OrchestrationStore env}
    (h : (start request now).run exec s = (.ok workflow, s')) :
    orchestrationIdentifier env.sha .workflow [request.definitionId, request.idempotencyKey] =
      .ok workflow.workflowId := by
  obtain ⟨definition, -, h⟩ := run_call_bind_eq_ok h
  cases definition with
  | none => cases h
  | some =>
    obtain ⟨existing, hexisting, h⟩ := run_call_bind_eq_ok h
    cases existing with
    | none =>
      obtain ⟨workflowId, hid, h⟩ := run_ofExcept_bind_eq_ok h
      obtain ⟨created, hval, h⟩ := run_ofExcept_bind_eq_ok h
      obtain ⟨-, s₁, -, h⟩ := run_bind_eq_ok h
      obtain ⟨-, s₂, -, h⟩ := run_bind_eq_ok h
      cases h
      rw [WorkflowInstance.validate_eq_ok hval]
      exact hid
    | some =>
      dsimp only at h
      split at h
      · cases h
      · cases h
        exact identifier_of_findWorkflowByIdempotency hexisting

/-- The operation that starts a workflow has the identifier of the workflow and the key. -/
theorem startOperation_eq_ok {workflowName : String} {now : Instant}
    (h : startOperation env workflow request workflowName now = .ok operation) :
    orchestrationIdentifier env.sha .operation
      [workflow.workflowId, "START_WORKFLOW", request.idempotencyKey] =
        .ok operation.operationId ∧ operation.state = .pending := by
  rw [startOperation] at h
  cases hid : orchestrationIdentifier env.sha .operation
      [workflow.workflowId, "START_WORKFLOW", request.idempotencyKey] with
  | error error =>
    rw [hid] at h
    cases h
  | ok operationId =>
    rw [hid] at h
    rw [validate_eq_ok h]
    exact ⟨rfl, rfl⟩

end Durable

/-! ### Good deliveries -/

/-- `save_operation` raises, or stores the operation. -/
theorem OrchestrationStore.saveOperation_cases (s : OrchestrationStore env)
    (operation : DurableOperation) :
    (∃ error, s.saveOperation operation = (.error error, s)) ∨
    ∃ outbox : Table String DurableOperation DurableOperation.operationId,
      (∀ operationId, outbox.find? operationId =
        if operation.operationId = operationId then some operation
        else s.outbox.find? operationId) ∧
      s.saveOperation operation = (.ok operation, { s with outbox := outbox }) := by
  rw [saveOperation]
  split
  · exact .inl ⟨_, rfl⟩
  · exact .inr ⟨_, Table.find?_put s.outbox operation, rfl⟩

theorem DeliveryStep.exec_of_spares {c : StoreCall env} (h : c.writesOutbox = false)
    (d : Delivery env) : DeliveryStep.exec (.store c) d = ⟨c.exec d.store, d.log⟩ := by
  cases c with
  | saveOperation => cases h
  | _ => rfl

namespace Delivery

variable {α : Type} {d : Delivery env} {p : Durable env α}

/-- A program that spares the outbox changes neither the outbox nor the log at any point. -/
theorem unchanged_throughout (hp : Durable.SparesOutbox p) :
    (onStore p).Throughout DeliveryStep.exec (Unchanged d) d := by
  refine hp.throughout_lift (fun c d' hc hd' => ?_) ⟨rfl, rfl⟩
  rw [DeliveryStep.exec_of_spares hc]
  exact ⟨hd'.1, ((exec_tables c _).2.1 hc).trans hd'.2⟩

theorem Good.spared (h : Good d) (hp : Durable.SparesOutbox p) :
    (onStore p).Throughout DeliveryStep.exec Good d :=
  (unchanged_throughout hp).mono fun _ => h.of_unchanged

/-- `save_operation` stores the operation and logs what this says, or raises. -/
theorem saved_or_unchanged (operation : DurableOperation) (events : List DeliveryEvent)
    {d' : Delivery env} (hd : d' = match d.store.saveOperation operation with
      | (.ok _, s) => ⟨s, d.log ++ events⟩
      | (.error _, s) => ⟨s, d.log⟩) :
    (Unchanged d d' ∧ ∃ error, (d.store.saveOperation operation).1 = .error error) ∨
      Saved d operation events d' := by
  rcases d.store.saveOperation_cases operation with ⟨error, hsave⟩ | ⟨outbox, hfind, hsave⟩
  · rw [hsave] at hd ⊢
    exact .inl ⟨hd ▸ ⟨rfl, rfl⟩, error, rfl⟩
  · rw [hsave] at hd
    exact .inr (hd ▸ ⟨rfl, hfind⟩)

theorem saved_of_run {stored : DurableOperation} {d d' : Delivery env}
    (h : (onStore (saveOperation operation)).run DeliveryStep.exec d = (.ok stored, d')) :
    Saved d operation operation.recorded d' := by
  obtain ⟨hstd, rfl⟩ := Prod.mk.inj h
  rcases saved_or_unchanged operation operation.recorded rfl with ⟨-, error, herr⟩ | hsaved
  · cases herr.symm.trans hstd
  · exact hsaved

/-- An operation may be stored unless this hides that its outcome is open. -/
theorem Good.saveOperation (h : Good d) (hshown : unsettled operation.operationId d.log = true →
      operation.state ≠ .pending ∧ operation.state ≠ .reconciled) :
    (onStore (saveOperation operation)).Throughout DeliveryStep.exec Good d := by
  refine .call h ?_
  rcases saved_or_unchanged operation operation.recorded rfl with ⟨hsame, -⟩ | hsaved
  · exact h.of_unchanged hsame
  cases hst : operation.state with
  | sent | unknownOutcome =>
    refine h.save hsaved (.inl ?_) fun _ => ?_
    · rw [recorded, hst]
    · simp [hst]
  | pending | reconciled =>
    have hrecd : operation.recorded = [] := by rw [recorded, hst]
    refine h.save hsaved (.inl hrecd) fun hopen => ?_
    rw [hrecd, append_nil] at hopen
    exact absurd (hshown hopen) (by simp [hst])
  | acknowledged | failed =>
    refine h.save hsaved (.inr ⟨_, by rw [recorded, hst], fun _ _ => rfl⟩) ?_
    intro hopen
    simp [recorded, hst, unsettled_concat, leavesOpen] at hopen

/-- The answer of the adapter is stored, whatever it is. -/
theorem Good.answer (h : Good d) (workflowId : String) (backend : DurableBackendKind)
    (sent : DurableOperation) (outcome : AdapterOutcome) (now : Instant) :
    (onStore (Delivery.answer workflowId backend sent outcome now :
      Durable env WorkflowInstance)).Throughout DeliveryStep.exec Good d := by
  cases outcome with
  | raises => exact .done h _
  | unknownOutcome | receipt =>
    rw [Delivery.answer, onStore, lift_bind]
    refine .bind (h.saveOperation (by simp)) fun _ _ _ hgood => ?_
    exact hgood.spared (.bind (query_spares _) fun _ => save_spares _ _ _ _ _)
  | unavailable =>
    rw [Delivery.answer, onStore, lift_bind]
    refine .bind (h.saveOperation (by simp)) fun _ _ _ hgood => ?_
    exact hgood.spared (markBackendUnavailable_spares _ _ _)

/-- An operation whose outcome is not open may be sent. -/
theorem Good.send (h : Good d) (hclosed : unsettled operation.operationId d.log = false)
    (workflowId : String) (backend : DurableBackendKind) (outcome : AdapterOutcome) (now : Instant) :
    (Delivery.send workflowId backend operation outcome now :
      DeliveryProg env WorkflowInstance).Throughout DeliveryStep.exec Good d := by
  refine .bind (h.saveOperation (by simp)) fun stored d₁ hrun hgood => ?_
  have hsaved := saved_of_run hrun
  have hclosed' : unsettled operation.operationId d₁.log = false := by
    rw [hsaved.1]
    simpa [recorded] using hclosed
  have hrow := hsaved.2 operation.operationId
  rw [if_pos rfl] at hrow
  refine .bind (.call hgood (hgood.invoke hclosed' hrow rfl)) fun _ d₂ _ hgood => ?_
  exact hgood.answer _ _ _ _ _

/-- An operation that is stored as `PENDING` or `FAILED`, or not at all, is not open. -/
theorem Good.closed (h : Good d) (hstd : ∀ row, d.store.outbox.find? operationId = some row →
      row.state.answered = false ∧ row.state ≠ .sent) : unsettled operationId d.log = false := by
  rw [← Bool.not_eq_true]
  intro hopen
  obtain ⟨row, hrow, hst⟩ := h.stored operationId hopen
  obtain ⟨hanswered, hsent⟩ := hstd row hrow
  rcases hst with hst | hst
  · exact hsent hst
  · rw [hst] at hanswered
    cases hanswered

/-- What `get_operation` returns is what is stored. -/
theorem getOperation_run {existing : Option DurableOperation} {d' : Delivery env}
    (h : (onStore (getOperation operationId)).run DeliveryStep.exec d =
      (.ok existing, d')) : d' = d ∧ d.store.outbox.find? operationId = existing := by
  obtain ⟨hread, rfl⟩ := Prod.mk.inj h
  refine ⟨rfl, ?_⟩
  change d.store.getOperation operationId = _ at hread
  rw [OrchestrationStore.getOperation] at hread
  cases hfind : d.store.outbox.find? operationId with
  | none =>
    rw [hfind] at hread
    exact Except.ok.inj hread
  | some row =>
    rw [hfind] at hread
    dsimp only at hread
    cases hval : row.validate env.sha with
    | error =>
      rw [hval] at hread
      cases hread
    | ok =>
      rw [hval] at hread
      rw [← Except.ok.inj hread, validate_eq_ok hval]

/-- The operation of the workflow is not stored as `SENT`. -/
theorem Good.handOver (h : Good d)
    (hfr : ∀ operationId row, orchestrationIdentifier env.sha .operation
        [workflow.workflowId, "START_WORKFLOW", request.idempotencyKey] = .ok operationId →
      d.store.outbox.find? operationId = some row → row.state ≠ .sent) (workflowName : String)
    (adapter : Option AdapterOutcome) (now : Instant) :
    (handOver request workflowName adapter workflow now :
      DeliveryProg env WorkflowInstance).Throughout DeliveryStep.exec Good d := by
  cases adapter with
  | none => exact h.spared (markBackendUnavailable_spares _ _ _)
  | some =>
    refine .bind (.ofExcept h _) fun operation d₁ hrun _ => ?_
    obtain ⟨hop, rfl⟩ := Prod.mk.inj hrun
    obtain ⟨hid, hpend⟩ := startOperation_eq_ok hop
    refine .bind (.call h h) fun existing d₂ hread _ => ?_
    obtain ⟨rfl, hfind⟩ := getOperation_run hread
    cases existing with
    | none =>
      have hclosed := h.closed fun row hrow => by
        rw [hfind] at hrow
        cases hrow
      refine .bind (h.saveOperation fun hopen => ?_) fun _ d₃ hrun hgood => ?_
      · rw [hclosed] at hopen
        cases hopen
      · refine hgood.send ?_ _ _ _ _
        rw [(saved_of_run hrun).1, recorded, hpend, append_nil]
        exact hclosed
    | some =>
      obtain ⟨-, hkey⟩ := Table.find?_eq_some_iff.mp hfind
      refine .ite (fun _ => h.spared (query_spares _)) fun hanswered => ?_
      refine h.send (h.closed fun row hrow => ?_) _ _ _ _
      rw [hkey] at hrow
      obtain rfl := Option.some.inj (hfind.symm.trans hrow)
      exact ⟨by simpa using hanswered, hfr _ _ hid hfind⟩

end Delivery

namespace OrchestrationStore

/-- The operation with which the request is handed over is stored as `SENT`. -/
def findsSent (s : OrchestrationStore env) (request : WorkflowStartRequest) : Bool :=
  match orchestrationIdentifier env.sha .workflow
      [request.definitionId, request.idempotencyKey] with
  | .error _ => false
  | .ok workflowId =>
    match orchestrationIdentifier env.sha .operation
        [workflowId, "START_WORKFLOW", request.idempotencyKey] with
    | .error _ => false
    | .ok operationId => (s.outbox.find? operationId).any fun operation => operation.state == .sent

end OrchestrationStore

namespace Delivery

theorem Good.serviceStart (h : Good d) (hsent : d.store.findsSent request = false)
    (workflowName : String) (adapter : Option AdapterOutcome) (now : Instant) :
    (serviceStart request workflowName adapter now :
      DeliveryProg env WorkflowInstance).Throughout DeliveryStep.exec Good d := by
  refine .bind (h.spared (start_spares _ _)) fun workflow d₁ hrun hgood => ?_
  refine .ite (fun _ => .pure hgood _) fun _ => hgood.handOver ?_ _ _ _
  intro operationId row hid hrow hst
  have hsame := (unchanged_throughout (d := d) (start_spares request now)).run
  have hwf := (onStore_simulates (start request now) d).1
  rw [hrun] at hsame hwf
  have hident := identifier_of_start (s := d.store) (Prod.ext hwf.symm rfl)
  rw [hsame.2] at hrow
  rw [findsSent, hident] at hsent
  simp only [hid, hrow, Option.any_some, hst, beq_self_eq_true, Bool.true_eq_false] at hsent

theorem Good.reconcileOperation (h : Good d) (operationId : String)
    (observer : Except PyError ReconciliationObservation) (now : Instant) :
    (reconcileOperation operationId observer now :
      DeliveryProg env DurableOperation).Throughout DeliveryStep.exec Good d := by
  have hresolve : ∀ operation : DurableOperation,
      (resolve operation).Throughout DeliveryStep.exec Good d := by
    intro operation
    refine .call h ?_
    rcases saved_or_unchanged operation [.resolved operation.operationId] rfl with
      ⟨hsame, -⟩ | hsaved
    · exact h.of_unchanged hsame
    · refine h.save hsaved (.inr ⟨_, rfl, fun _ _ => rfl⟩) fun hopen => ?_
      simp [unsettled_concat, leavesOpen] at hopen
  refine .bind (.call h h) fun operation d₁ hread _ => ?_
  obtain ⟨rfl, -⟩ := getOperation_run hread
  cases operation with
  | none => exact .done h _
  | some =>
    refine .ite (fun _ => .pure h _) fun _ => ?_
    refine .bind (.ofExcept h _) fun observation d₂ hobserved _ => ?_
    obtain ⟨-, rfl⟩ := Prod.mk.inj hobserved
    cases observation with
    | unknown => exact .pure h _
    | applied | notApplied => exact hresolve _

end Delivery

/-! ### Runs -/

/-- The calls of the service and of the reconciliation. -/
inductive DeliveryCall where
  | start (request : WorkflowStartRequest) (workflowName : String)
      (adapter : Option AdapterOutcome) (now : Instant)
  | reconcile (operationId : String) (observer : Except PyError ReconciliationObservation)
      (now : Instant)

namespace DeliveryCall

def program : DeliveryCall → DeliveryProg env Unit
  | start request workflowName adapter now => do
      let _ ← Delivery.serviceStart request workflowName adapter now
  | reconcile operationId observer now => do
      let _ ← Delivery.reconcileOperation operationId observer now

/-- A start does not find its operation in `SENT`. -/
def FindsNoneSent (d : Delivery env) : DeliveryCall → Prop
  | start request _ _ _ => d.store.findsSent request = false
  | reconcile _ _ _ => True

instance (d : Delivery env) (c : DeliveryCall) : Decidable (c.FindsNoneSent d) :=
  match c with
  | start request _ _ _ => inferInstanceAs (Decidable (d.store.findsSent request = false))
  | reconcile _ _ _ => isTrue trivial

end DeliveryCall

/-- In every run of starts and reconciliations, each of them cut off after any number of steps,
in which no start finds its operation in `SENT`, the adapter is never called again for an
operation whose outcome is open. -/
theorem no_blind_resend (s : OrchestrationStore env) (calls : List (DeliveryCall × ℕ))
    (h : Along (fun d call => call.1.FindsNoneSent d)
      (interrupted DeliveryStep.exec DeliveryCall.program) { store := s } calls) :
    NoBlindResend
      (runCalls (interrupted DeliveryStep.exec DeliveryCall.program) { store := s } calls).log := by
  have hprog : ∀ (d : Delivery env) (c : DeliveryCall), d.Good → c.FindsNoneSent d →
      c.program.Throughout DeliveryStep.exec Delivery.Good d := by
    intro d c hgood hfr
    cases c with
    | start => exact .bind (hgood.serviceStart hfr _ _ _) fun _ _ _ hgood => .pure hgood _
    | reconcile => exact .bind (hgood.reconcileOperation _ _ _) fun _ _ _ hgood => .pure hgood _
  have hemp : Delivery.Good ({ store := s } : Delivery env) := by
    refine ⟨fun earlier operationId hpre => ?_, nofun⟩
    simp at hpre
  exact (interrupted_invariant hprog h hemp).noBlind

def hatchetRequest : WorkflowStartRequest :=
  ⟨noteDefinition.definitionId, "note-1", [], .hatchet, note_key_valid⟩

def hatchetOperationId : String :=
  ((orchestrationIdentifier .bytePolynomial .operation
    [noteWorkflowId, "START_WORKFLOW", "note-1"]).toOption).getD ""

def hatchetStart (outcome : AdapterOutcome) (now : Instant) : DeliveryCall :=
  .start hatchetRequest "note" (some outcome) now

def registeredNote : OrchestrationStore byteEnv :=
  OrchestrationStore.registerDefinition {} noteDefinition

def delivered (calls : List (DeliveryCall × ℕ)) : Delivery byteEnv :=
  runCalls (interrupted DeliveryStep.exec DeliveryCall.program) { store := registeredNote } calls

/-- The process is stopped when it has called the adapter, the ninth of its steps. -/
def crashedStart : List (DeliveryCall × ℕ) :=
  [(hatchetStart (.receipt (some "run-1") (some "run-1")) 1, 9)]

/-- The next start calls the adapter again. -/
theorem resent_after_crash :
    let log := (delivered (crashedStart ++
      [(hatchetStart (.receipt (some "run-2") (some "run-2")) 2, 100)])).log
    unsettled hatchetOperationId (delivered crashedStart).log = true ∧
      log = [.invoked hatchetOperationId, .invoked hatchetOperationId,
        .succeeded hatchetOperationId] ∧
      ¬ NoBlindResend log := by
  have hfa : unsettled hatchetOperationId (delivered crashedStart).log = true ∧
      (delivered (crashedStart ++
        [(hatchetStart (.receipt (some "run-2") (some "run-2")) 2, 100)])).log =
          [.invoked hatchetOperationId, .invoked hatchetOperationId,
            .succeeded hatchetOperationId] := by
    decide +kernel
  -- The logs are not to be computed again.
  generalize (delivered (crashedStart ++
    [(hatchetStart (.receipt (some "run-2") (some "run-2")) 2, 100)])).log = log at hfa ⊢
  obtain ⟨hopen, rfl⟩ := hfa
  refine ⟨hopen, rfl, fun hblind => ?_⟩
  have hclosed := hblind [.invoked hatchetOperationId] hatchetOperationId (by simp)
  simp [unsettled, leavesOpen] at hclosed

/-- The adapter does not know the outcome, a reconciliation finds that the workflow was not
started, and the workflow is started again. -/
def reconciledStart : List (DeliveryCall × ℕ) :=
  [(hatchetStart (.unknownOutcome "lost") 1, 100),
    (.reconcile hatchetOperationId (.ok .notApplied) 2, 100),
    (hatchetStart (.receipt (some "run-1") (some "run-1")) 3, 100)]

theorem no_blind_resend_reconciledStart :
    (delivered reconciledStart).log.count (.invoked hatchetOperationId) = 2 ∧
      NoBlindResend (delivered reconciledStart).log := by
  have hfa : Along (fun d call => call.1.FindsNoneSent d)
        (interrupted DeliveryStep.exec DeliveryCall.program) { store := registeredNote }
        reconciledStart ∧
      (delivered reconciledStart).log.count (.invoked hatchetOperationId) = 2 := by
    decide +kernel
  exact ⟨hfa.2, no_blind_resend registeredNote reconciledStart hfa.1⟩

end ProjectPipeline
