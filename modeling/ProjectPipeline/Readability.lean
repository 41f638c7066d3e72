import ProjectPipeline.RuntimeRuns

/-!
# Stored Workflows Can Be Read

`update_workflow` stores a record that was made with `model_copy`, which does not validate it;
`get_workflow` validates. Of what `validate_instance` requires, every operation keeps the
identifier, a workflow in `WAITING` gets the identifier of its wait, and one in `RETRY_SCHEDULED`
the time of the retry. The times are another matter: `updated_at_utc` is the clock of the call,
and if this is before the creation of the workflow, the row cannot be read again.

## Main results

* `Saves.validate_iff`: whether the row that an operation writes is valid.
* `written_row_readable_iff`: whether it can be read.
-/

namespace ProjectPipeline

variable {env : OrchestrationEnv} {s s' s₀ : OrchestrationStore env} {c : RuntimeCall env}

/-- The row that an operation writes is valid if the workflow had been created by then. -/
theorem Saves.validate_iff {workflow updated : WorkflowInstance} {action : WorkflowAction}
    {payload : JsonObject} (h : Saves s₀ c s workflow updated action payload) :
    updated.validate env.sha = .ok updated ↔ workflow.createdAtUtc ≤ c.now := by
  have hval := WorkflowInstance.validate_eq_ok_iff.mp h.valid
  rw [WorkflowInstance.validate_eq_ok_iff, ← h.createdAt, ← h.updatedAt]
  refine ⟨fun hupd => hupd.times, fun htimes => ⟨?_, ?_, htimes, ?_, ?_⟩⟩
  · rw [h.version]
    exact Nat.le_add_left 1 _
  · rw [h.definitionId, h.idempotencyKey, h.workflowId]
    exact hval.workflowId
  · intro hwaiting
    rcases h.step.into_waiting hwaiting with henter | hsame
    · exact h.enter henter
    · rw [show updated.waitId = workflow.waitId from congrArg Control.waitId hsame]
      exact hval.wait ((congrArg Control.state hsame).symm.trans hwaiting)
  · intro hsched
    rcases h.step.into_retryScheduled hsched with hdue | hsame
    · exact hdue
    · rw [show updated.retryAvailableAtUtc = workflow.retryAvailableAtUtc from
        congrArg Control.due hsame]
      exact hval.retry ((congrArg Control.state hsame).symm.trans hsched)

/-! ### Operations -/

/-- The row of a workflow that was stored as `before`: it has been left as it is, or whether it
can be read depends on the clock of the call. -/
def ReadableFrom (before : WorkflowInstance) (now : Instant) (s : OrchestrationStore env) : Prop :=
  ∃ row, s.workflows.find? before.workflowId = some row ∧
    row.createdAtUtc = before.createdAtUtc ∧
    (row = before ∨ (row.validate env.sha = .ok row ↔ before.createdAtUtc ≤ now))

theorem ReadableFrom.move {before : WorkflowInstance} (h : ReadableFrom before c.now s)
    (hmove : Move s₀ c s s') :
    ReadableFrom before c.now s' := by
  obtain ⟨row, hfind, hcreated, hrow⟩ := h
  cases hmove with
  | @waited wait _ =>
    refine ⟨row, ?_, hcreated, hrow⟩
    rw [(s.saveWait_frame wait).2.1]
    exact hfind
  | created _ _ _ hins hlog =>
    refine ⟨row, ?_, hcreated, hrow⟩
    rw [hlog.workflows_eq]
    exact Table.find?_insert_of_some hins hfind
  | received _ hlog =>
    refine ⟨row, ?_, hcreated, hrow⟩
    rw [hlog.workflows_eq]
    exact hfind
  | @saved _ workflow updated action payload hsv hlog =>
    by_cases hid : workflow.workflowId = before.workflowId
    · have hstd : s.workflows.find? before.workflowId = some workflow := hid ▸ hsv.stored
      obtain rfl := Option.some.inj (hfind.symm.trans hstd)
      refine ⟨updated, ?_, hsv.createdAt.trans hcreated, .inr ?_⟩
      · rw [hlog.workflows_eq, Table.find?_replace, hsv.workflowId, if_pos hid, hfind]
        rfl
      · rw [hsv.validate_iff, hcreated]
    · refine ⟨row, ?_, hcreated, hrow⟩
      rw [hlog.workflows_eq, Table.find?_replace, hsv.workflowId, if_neg hid, hfind]

/-- The row that a call has written for a workflow can be read again if and only if the clock of
the call is not before the creation of the workflow. -/
theorem written_row_readable_iff (s : OrchestrationStore env) (c : RuntimeCall env)
    (before after : WorkflowInstance) (hbef : s.workflows.find? before.workflowId = some before)
    (haft : (RuntimeCall.step s c).workflows.find? before.workflowId = some after)
    (hwritten : after ≠ before) :
    (RuntimeCall.step s c).getWorkflow before.workflowId = .ok (some after) ↔
      before.createdAtUtc ≤ c.now := by
  have hkp : ReadableFrom before c.now (RuntimeOp.step s (.call c)) := by
    refine RuntimeOp.step_invariant (fun _ => Iff.rfl) ?_ ?_ ⟨before, hbef, rfl, .inl rfl⟩
    · exact fun _ => ⟨before, hbef, rfl, .inl rfl⟩
    · rintro _ ⟨⟩ t t' hmove ht
      exact ht.move hmove
  obtain ⟨row, hrow, -, hreadable⟩ := hkp
  obtain rfl := Option.some.inj (hrow.symm.trans haft)
  rw [← hreadable.resolve_left hwritten, OrchestrationStore.getWorkflow, haft]
  dsimp only
  cases row.validate env.sha with
  | error error =>
    change Except.error error = Except.ok (some row) ↔ _
    simp
  | ok read =>
    change Except.ok (some read) = Except.ok (some row) ↔ _
    rw [Except.ok.injEq, Except.ok.injEq, Option.some.injEq]

def noteStartedLate : List (RuntimeOp byteEnv) :=
  [.registerDefinition noteDefinition,
    .call (.start ⟨noteDefinition.definitionId, "note-1", [], .localReference, note_key_valid⟩ 10)]

/-- A signal that was observed before the workflow was created, and is delivered without another
clock. The workflow cannot be read again. -/
theorem row_of_early_signal_unreadable :
    let run := runCalls RuntimeOp.step ({ definitions := .empty } : OrchestrationStore byteEnv)
    let s := run (noteStartedLate ++ [.call (.waitForSignal noteWorkflowId "go" 11)])
    let s' := run (noteStartedLate ++ [.call (.waitForSignal noteWorkflowId "go" 11),
      .call (.signal noteSignal noteSignal.observedAtUtc)])
    s.inState noteWorkflowId .waiting = true ∧ s'.inState noteWorkflowId .running = true ∧
      s.getWorkflow noteWorkflowId = .ok (s.workflows.find? noteWorkflowId) ∧
      s'.getWorkflow noteWorkflowId = .error (.validationError "WorkflowInstance"
        [("", "Value error, updated_at_utc cannot precede created_at_utc")]) := by
  decide +kernel

/-- The workflow is suspended after its creation. -/
theorem written_row_readable_iff_suspend :
    let s := runCalls RuntimeOp.step ({ definitions := .empty } : OrchestrationStore byteEnv)
      noteStartedLate
    ∃ before after, s.workflows.find? noteWorkflowId = some before ∧ before ≠ after ∧
      (RuntimeCall.step s (.suspend noteWorkflowId 12)).getWorkflow noteWorkflowId =
        .ok (some after) := by
  have hfa :
      let s := runCalls RuntimeOp.step ({ definitions := .empty } : OrchestrationStore byteEnv)
        noteStartedLate
      ((s.workflows.find? noteWorkflowId).map WorkflowInstance.createdAtUtc = some 10) ∧
      (s.workflows.find? noteWorkflowId).map WorkflowInstance.version = some 1 ∧
      ((RuntimeCall.step s (.suspend noteWorkflowId 12)).workflows.find? noteWorkflowId).map
        WorkflowInstance.version = some 2 := by
    decide +kernel
  -- The store is not to be computed again.
  generalize runCalls RuntimeOp.step ({ definitions := .empty } : OrchestrationStore byteEnv)
    noteStartedLate = s at hfa ⊢
  obtain ⟨hcreated, hver, hver'⟩ := hfa
  obtain ⟨before, hbef, hold⟩ := Option.map_eq_some_iff.mp hver
  obtain ⟨after, haft, hnew⟩ := Option.map_eq_some_iff.mp hver'
  rw [hbef, Option.map_some, Option.some.injEq] at hcreated
  obtain ⟨-, hid⟩ := Table.find?_eq_some_iff.mp hbef
  have hne : before ≠ after := by
    rintro rfl
    omega
  refine ⟨before, after, hbef, hne, ?_⟩
  rw [← hid] at hbef haft ⊢
  refine (written_row_readable_iff s _ before after hbef haft hne.symm).mpr ?_
  rw [hcreated]
  exact show (10 : Instant) ≤ 12 by decide

end ProjectPipeline
