import ProjectPipeline.RuntimeMoves

/-!
# Workflows at Their End

A workflow that has succeeded, failed or been cancelled has come to its end. Every operation
of the runtime reads the workflow and checks its state before it writes it, so that no
operation takes a workflow back from its end, and neither does the recovery of stale workers:
the life cycle (`Control.Step`) has no such step.

There is one exception. `OrchestrationService.start` is idempotent: it returns the workflow
that is stored under its key, in whatever state it is. If that workflow belongs to an
external engine and has no run there, the service hands it over, and if the engine does not
take it, `_mark_backend_unavailable` or `_mark_recovery_required` writes the workflow without
looking at its state. `OrchestrationStore.revives` says which calls do that.

## Main results

* `Moves.respects`: what the moves of an operation do to the workflows at their end.
* `RuntimeCall.step_respects`: what one operation does to the workflows at their end.
* `terminal_stays_terminal`: what a run does.
* `cancelled_workflow_revived`: a cancelled workflow that is suspended by a second start.
-/

namespace ProjectPipeline

open OrchestrationStore Prog RuntimeCall StoreCall

/-- The workflows at their end are still stored, in the same state. -/
def Respects (t t' : WorkflowTable) : Prop :=
  ∀ workflowId workflow, t.find? workflowId = some workflow → workflow.state.terminal = true →
    ∃ workflow', t'.find? workflowId = some workflow' ∧ workflow'.state = workflow.state

instance : IsPreorder WorkflowTable Respects where
  refl _ _ workflow hfind _ := ⟨workflow, hfind, rfl⟩
  trans t t₁ t' h h' := by
    intro workflowId workflow hfind hend
    obtain ⟨workflow₁, hfind₁, hstate₁⟩ := h workflowId workflow hfind hend
    obtain ⟨workflow', hfind', hstate'⟩ := h' workflowId workflow₁ hfind₁ (hstate₁ ▸ hend)
    exact ⟨workflow', hfind', hstate'.trans hstate₁⟩

namespace Respects

variable {t t' : WorkflowTable} {workflow updated : WorkflowInstance}

/-- A new workflow changes no other. -/
theorem insert (h : t.insert workflow = some t') : Respects t t' := by
  intro workflowId old hfind _
  exact ⟨old, Table.find?_insert_of_some h hfind, rfl⟩

/-- A workflow is replaced by one that is at its end if it is. -/
theorem replace (hid : updated.workflowId = workflow.workflowId)
    (hstd : t.find? workflow.workflowId = some workflow)
    (hend : workflow.state.terminal = true → updated.state = workflow.state) :
    Respects t (t.replace updated) := by
  intro workflowId old hfind hterminal
  rw [Table.find?_replace]
  by_cases hk : updated.workflowId = workflowId
  · subst hk
    rw [hid] at hfind
    obtain rfl := Option.some.inj (hstd.symm.trans hfind)
    rw [if_pos rfl, hid, hstd]
    exact ⟨updated, rfl, hend hterminal⟩
  · rw [if_neg hk]
    exact ⟨old, hfind, rfl⟩

end Respects

/-- The engine does not take the workflow, or nobody knows whether it has. -/
def AdapterOutcome.turnsDown : AdapterOutcome → Bool
  | unknownOutcome _ | unavailable _ => true
  | _ => false

/-! ### Moves -/

section Moves

variable {env : OrchestrationEnv} {s₀ s s' : OrchestrationStore env} {c : RuntimeCall env}

/-- A move takes no workflow back from its end, unless the service fails to hand it over. -/
theorem Move.respects (h : Move s₀ c s s') (hout : .loseOutcome ∉ c.actions)
    (hbackend : .lackBackend ∉ c.actions) : Respects s.workflows s'.workflows := by
  cases h with
  | @waited wait _ =>
    rw [(s.saveWait_frame wait).2.1]
    exact refl _
  | created _ _ _ hins hlog =>
    rw [hlog.workflows_eq]
    exact Respects.insert hins
  | received _ hlog =>
    rw [hlog.workflows_eq]
    exact refl _
  | saved hsv hlog =>
    rw [hlog.workflows_eq]
    refine Respects.replace hsv.workflowId hsv.stored fun hend => ?_
    refine congrArg Control.state (hsv.step.of_terminal hend ?_ ?_)
    · rintro rfl
      exact hout hsv.called
    · rintro rfl
      exact hbackend hsv.called

theorem Moves.respects (h : Moves s₀ c s s') (hout : .loseOutcome ∉ c.actions)
    (hbackend : .lackBackend ∉ c.actions) : Respects s.workflows s'.workflows := by
  induction h with
  | refl => exact refl _
  | tail _ hmove ih => exact IsTrans.trans _ _ _ ih (hmove.respects hout hbackend)

end Moves

/-! ### The service -/

variable {adapter : Option AdapterOutcome} {now : Instant}

namespace Durable

variable {env : OrchestrationEnv} {α β : Type} {P : WorkflowTable → Prop}

variable {workflow : WorkflowInstance}

/-- A program that leaves the workflows as they are. -/
abbrev LeavesWorkflows (p : Durable env α) : Prop :=
  Prog.Leaves StoreCall.exec OrchestrationStore.workflows p

/-- From workflows with `P` a program respects those that are at their end. -/
abbrev KeepsEnds (P : WorkflowTable → Prop) (p : Durable env α) : Prop :=
  Prog.Ensures StoreCall.exec OrchestrationStore.workflows Respects P p

theorem call_leaves {c : StoreCall env} {result : OrchestrationStore env → Except PyError α}
    (h : c.writesWorkflows = false) : LeavesWorkflows (.call c result) :=
  .call fun s => (c.exec_tables s).1 h

theorem event_leaves (workflowId eventType : String) (now : Instant) (payload : JsonObject)
    (correlationId : Option String) :
    LeavesWorkflows (event workflowId eventType now payload correlationId : Durable env Unit) :=
  .bind (call_leaves rfl) fun _ => .bind (.done _) fun _ => .bind (call_leaves rfl) fun _ => .done _

/-- A workflow that is read again is still the same. -/
theorem KeepsEnds.requery {rest : WorkflowInstance → Durable env α}
    (hrest : KeepsEnds (Stored workflow) (rest workflow)) :
    KeepsEnds (Stored workflow) (Durable.query workflow.workflowId >>= rest) := by
  refine Prog.Ensures.bind (Q := fun again t => again = workflow ∧ Stored workflow t)
    (.of_leaves (query_leaves _)) ?_ ?_
  · intro s again s' hs hrun
    obtain ⟨rfl, -, -, hfind⟩ := query_run hrun
    exact ⟨Option.some.inj (hfind.symm.trans hs), hs⟩
  · rintro again s ⟨rfl, hs⟩
    exact hrest s hs

section

variable {updated : WorkflowInstance} {eventType : String} {payload : JsonObject}

/-- The write at the end of an operation: a workflow at its end has to keep its state. -/
theorem save_keeps (hid : updated.workflowId = workflow.workflowId)
    (hend : workflow.state.terminal = true → updated.state = workflow.state) :
    KeepsEnds (Stored workflow)
      (save updated workflow.version eventType now payload : Durable env WorkflowInstance) := by
  refine Prog.Ensures.seq ?_ fun _ => .of_leaves (.bind (event_leaves _ _ _ _ _) fun _ => .done _)
  intro s hstd
  change Respects s.workflows (s.updateWorkflow updated workflow.version).2.workflows
  rcases s.updateWorkflow_cases updated workflow.version with
    ⟨error, hsame⟩ | ⟨_, _, _, _, hs'⟩
  · rw [hsame]
    exact refl _
  · rw [hs']
    exact Respects.replace hid hstd hend

theorem save_keeps_of_open (hid : updated.workflowId = workflow.workflowId)
    (hopen : workflow.state.terminal = false) :
    KeepsEnds (Stored workflow)
      (save updated workflow.version eventType now payload : Durable env WorkflowInstance) := by
  refine save_keeps hid ?_
  rw [hopen]
  nofun

end

/-- A workflow at its end is safe with an engine that does not turn it down. -/
theorem send_keeps {outcome : AdapterOutcome}
    (hok : outcome.turnsDown = true → workflow.state.terminal = false)
    (backend : DurableBackendKind) (operation : DurableOperation) (now : Instant) :
    KeepsEnds (Stored workflow) (send workflow.workflowId backend operation outcome now :
      Durable env WorkflowInstance) := by
  refine .after (call_leaves rfl) fun _ => ?_
  cases outcome with
  | raises => exact .of_leaves (.done _)
  | unknownOutcome | unavailable =>
    exact .after (call_leaves rfl) fun _ => KeepsEnds.requery (save_keeps_of_open rfl (hok rfl))
  | receipt =>
    exact .after (call_leaves rfl) fun _ => KeepsEnds.requery (save_keeps rfl fun _ => rfl)

theorem handOver_keeps
    (hok : adapter.all AdapterOutcome.turnsDown = true → workflow.state.terminal = false)
    (request : WorkflowStartRequest) (workflowName : String) (now : Instant) :
    KeepsEnds (Stored workflow) (handOver request workflowName adapter workflow now :
      Durable env WorkflowInstance) := by
  cases adapter with
  | none => exact KeepsEnds.requery (save_keeps_of_open rfl (hok rfl))
  | some =>
    refine .after (.done _) fun operation => .after (call_leaves rfl) fun existing => ?_
    cases existing with
    | none => exact .after (call_leaves rfl) fun _ => send_keeps hok _ _ now
    | some => exact .ite (fun _ => .of_leaves (query_leaves _)) fun _ => send_keeps hok _ _ now

/-- A workflow that `create` returns is stored, and runs. -/
theorem create_run {request : WorkflowStartRequest} {s s' : OrchestrationStore env}
    (h : (create request now).run exec s = (.ok workflow, s')) :
    Stored workflow s'.workflows ∧ workflow.state = .running := by
  obtain ⟨workflowId, s₁, _, h⟩ := run_bind_eq_ok h
  obtain ⟨created, s₂, hval, h⟩ := run_bind_eq_ok h
  obtain ⟨result, s₃, hcr, h⟩ := run_bind_eq_ok h
  obtain ⟨_, s₄, hev, h⟩ := run_bind_eq_ok h
  obtain ⟨hres, rfl⟩ := Prod.mk.inj h
  obtain rfl := Except.ok.inj hres
  have hsame := (event_leaves _ _ _ _ _).eq_of_run hev
  have hstd : Stored created s₃.workflows := createWorkflow_eq_ok hcr
  refine ⟨hsame ▸ hstd, ?_⟩
  rw [WorkflowInstance.validate_eq_ok (Prod.mk.inj hval).1]

end Durable

namespace OrchestrationStore

variable {env : OrchestrationEnv}

/-- The workflow that `start` finds under the key of a request and returns as it is. -/
def reentered (s : OrchestrationStore env) (request : WorkflowStartRequest) :
    Option WorkflowInstance :=
  match s.definitions.find? request.definitionId,
      s.findWorkflowByIdempotency request.definitionId request.idempotencyKey with
  | some _, .ok (some workflow) =>
    if workflow.inputPayload.isPerm request.inputPayload = false ∨
      workflow.backend ≠ request.backend then none else some workflow
  | _, _ => none

section

variable (s : OrchestrationStore env) (workflow : WorkflowInstance) (request : WorkflowStartRequest)

/-- The start operation of the workflow can be sent, for the first time or again. -/
def sendable : Bool :=
  match orchestrationIdentifier env.sha .operation
      [workflow.workflowId, "START_WORKFLOW", request.idempotencyKey] with
  | .error _ => false
  | .ok operationId =>
    match s.getOperation operationId with
    | .error _ => false
    | .ok existing => !existing.any fun operation => operation.state.answered

/-- The adapter is missing, or it is called and turns the workflow down. -/
def turnedDown : Option AdapterOutcome → Bool
  | none => true
  | some outcome => outcome.turnsDown && s.sendable workflow request

end

/-- The call takes a workflow back from its end: it hands a workflow of an external engine
that is at its end over, and the engine does not take it. -/
def revives (s : OrchestrationStore env) : RuntimeCall env → Bool
  | .startService request _ adapter _ =>
    request.backend != .localReference && (s.reentered request).any fun workflow =>
      workflow.state.terminal && !truthy workflow.backendRunId &&
        s.turnedDown workflow request adapter
  | _ => false

end OrchestrationStore

namespace Durable

variable {env : OrchestrationEnv} {s : OrchestrationStore env} {request : WorkflowStartRequest}
  {workflow : WorkflowInstance}

/-- A start that finds its workflow writes nothing. -/
theorem start_of_reentered (h : s.reentered request = some workflow) (now : Instant) :
    (start request now).run exec s = (.ok workflow, s) ∧ Stored workflow s.workflows := by
  rw [reentered] at h
  split at h
  · rename_i definition found hdef hfind
    split at h
    · cases h
    · rename_i hsame
      obtain rfl := Option.some.inj h
      refine ⟨?_, s.workflows.find?_of_mem (findWorkflowByIdempotency_eq_ok hfind)⟩
      rw [start, getDefinition, call_bind, run, hdef]
      simp only [onReturn, findWorkflowByIdempotency]
      change (onReturn _ (s.findWorkflowByIdempotency _ _)).run exec s = _
      rw [hfind]
      simp only [onReturn]
      rw [if_neg hsame]
      rfl
  · cases h

/-- A start that does not find its workflow returns one that it has created. -/
theorem start_of_not_reentered (h : s.reentered request = none) {s' : OrchestrationStore env}
    (hrun : (start request now).run exec s = (.ok workflow, s')) :
    Stored workflow s'.workflows ∧ workflow.state = .running := by
  obtain ⟨definition, hread, hrun⟩ := run_call_bind_eq_ok hrun
  have hdef : s.definitions.find? request.definitionId = definition := Except.ok.inj hread
  cases definition with
  | none => cases hrun
  | some =>
    obtain ⟨existing, hfind, hrun⟩ := run_call_bind_eq_ok hrun
    cases existing with
    | none => exact create_run hrun
    | some =>
      rw [reentered, hdef] at h
      change s.findWorkflowByIdempotency _ _ = _ at hfind
      rw [hfind] at h
      dsimp only at h hrun
      split at h
      · rename_i hoth
        rw [if_pos hoth] at hrun
        cases hrun
      · cases h

/-- A hand-over that does not send the start operation writes no workflow. -/
theorem handOver_of_not_sendable (h : s.sendable workflow request = false) (workflowName : String)
    (outcome : AdapterOutcome) (now : Instant) :
    ((handOver request workflowName (some outcome) workflow now).run exec s).2.workflows =
      s.workflows := by
  rw [handOver]
  cases hop : startOperation env workflow request workflowName now with
  | error => rfl
  | ok operation =>
    have hfst : (ofExcept (Except.ok operation) : Durable env DurableOperation).run
      exec s = (.ok operation, s) := rfl
    rw [run_bind_of_ok hfst]
    obtain ⟨operationId, hid, hval⟩ := bind_eq_ok.mp hop
    have hoperationId : operation.operationId = operationId := by
      rw [DurableOperation.validate_eq_ok hval]
    rw [hoperationId]
    have hread : (getOperation operationId).run exec s = (s.getOperation operationId, s) := rfl
    rcases hget : s.getOperation operationId with error | _ | existing
    · rw [hget] at hread
      rw [run_bind_of_error hread]
    · simp [sendable, hid, hget] at h
    · rw [hget] at hread
      rw [run_bind_of_ok hread]
      have hanswered : existing.state.answered = true := by simpa [sendable, hid, hget] using h
      dsimp only
      rw [if_pos hanswered]
      exact query_leaves _ s

/-- The hand-over of a stored workflow that is not turned down at its end. -/
theorem handOver_respects (hstd : Stored workflow s.workflows)
    (hok : workflow.state.terminal = true → s.turnedDown workflow request adapter = false)
    (workflowName : String) (now : Instant) :
    Respects s.workflows
      ((handOver request workflowName adapter workflow now).run exec s).2.workflows := by
  by_cases hend : workflow.state.terminal = true
  · cases adapter with
    | none => cases hok hend
    | some =>
      rcases Bool.and_eq_false_iff.mp (hok hend) with htaken | hsent
      · refine handOver_keeps (fun hdown => ?_) request workflowName now s hstd
        rw [Option.all_some, htaken] at hdown
        cases hdown
      · rw [handOver_of_not_sendable hsent]
        exact refl _
  · exact handOver_keeps (fun _ => Bool.eq_false_iff.mpr hend) request workflowName now s hstd

/-- A start of the service that does not take a workflow back from its end. -/
theorem startService_respects {workflowName : String}
    (hok : s.revives (.startService request workflowName adapter now) = false) :
    Respects s.workflows
      ((startService request workflowName adapter now).run exec s).2.workflows := by
  rw [startService]
  cases hfd : s.reentered request with
  | some =>
    obtain ⟨hrun, hstd⟩ := start_of_reentered hfd now
    rw [run_bind_of_ok hrun]
    split
    · exact refl _
    · rename_i hexternal
      refine handOver_respects hstd (fun hend => ?_) workflowName now
      simpa [revives, hfd, hend, not_or.mp hexternal] using hok
  | none =>
    have hmvs : Moves s.history (.start request now) s.history
      ((start request now).run exec s).2.history := (start_moves request now).run s
    have hkp : Respects s.workflows ((start request now).run exec s).2.workflows :=
      hmvs.respects (by simp [actions]) (by simp [actions])
    rcases hrun : (start request now).run exec s with ⟨result, s₁⟩
    rw [hrun] at hkp
    cases result with
    | error =>
      rw [run_bind_of_error hrun]
      exact hkp
    | ok =>
      obtain ⟨hstd, hrunning⟩ := start_of_not_reentered hfd hrun
      rw [run_bind_of_ok hrun]
      split
      · exact hkp
      · refine IsTrans.trans _ _ _ hkp (handOver_keeps (fun _ => ?_) _ _ now s₁ hstd)
        rw [hrunning]
        rfl

end Durable

/-! ### Runs -/

variable {env : OrchestrationEnv}

/-- One operation, whether it returns or raises. -/
theorem RuntimeCall.step_respects {s : OrchestrationStore env} {c : RuntimeCall env}
    (hok : s.revives c = false) : Respects s.workflows (step s c).workflows := by
  by_cases hsvc : .lackBackend ∈ c.actions
  · cases c with
    | startService => exact Durable.startService_respects hok
    | _ => simp [actions] at hsvc
  · have hout : .loseOutcome ∉ c.actions := by
      intro hmem
      cases c <;> simp [actions] at hmem hsvc
    exact (step_moves s c).respects hout hsvc

/-- A run of operations. -/
theorem runCalls_respects {s : OrchestrationStore env} {calls : List (RuntimeCall env)}
    (hok : Along (fun s c => s.revives c = false) step s calls) :
    Respects s.workflows (runCalls step s calls).workflows := by
  induction calls generalizing s with
  | nil => exact refl _
  | cons _ _ ih => exact IsTrans.trans _ _ _ (step_respects hok.1) (ih hok.2)

/-- The workflow is started with an engine that has no adapter, and cancelled. -/
def cancelledStart : List (RuntimeCall plainEnv) :=
  [.startService (deployRequest .mock) "deploy" none 0, .cancel deployWorkflowId 1]

end ProjectPipeline
