import ProjectPipeline.RuntimeRuns

/-!
# Waits Are Honoured

A workflow in `WAITING` is let run by `signal`, when the signal has the name that its wait is
for, and by `release_due_waits`, when the time of its wait has come. The wait is the row under
the `wait_id` of the workflow, and nobody changes its name or its time while the workflow is in
it: another workflow would have to start a wait under the same identifier, which is a digest of
the workflow's (`OrchestrationStore.sharesWait`).

The exception is `resume`, which lets a workflow run that was suspended in its wait, whether or
not the signal has come.

## Main results

* `OrchestrationStore.awaits_step`: the wait of a workflow that does not run is left as it is.
* `waits_honoured`: runs of `LocalDurableRuntime`.
-/

namespace ProjectPipeline

open Option RuntimeOp

variable {env : OrchestrationEnv} {s s' : OrchestrationStore env}

/-- The workflow is in a wait. -/
def Control.awaiting (c : Control) : Bool := c.waitId.isSome

/-! ### The rows of the waits -/

namespace OrchestrationStore

section

variable (s : OrchestrationStore env)

/-- What a wait is for: the name of a signal, or a time. -/
def awaits (waitId : String) :
    Option (Option String × Option Instant) :=
  (s.waits.find? waitId).map fun row => (row.payload.signalName, row.releaseAtUtc)

/-- The operation starts a wait under the identifier of a wait that another workflow is in. -/
def sharesWait : RuntimeOp env → Bool
  | .registerDefinition _ => false
  | .call c => c.wait?.any fun wait => s.workflows.rows.any fun workflow =>
    workflow.waitId == some wait.waitId && workflow.workflowId != wait.workflowId

/-- Every row is stored under the identifier of its wait. -/
def WaitsKeyed : Prop :=
  ∀ waitId row, s.waits.find? waitId = some row → row.payload.waitId = waitId

/-- Storing a wait does not concern the others. -/
theorem find?_saveWait_of_ne {wait : DurableWait env}
    {waitId : String} (hne : wait.waitId ≠ waitId) :
    (s.saveWait wait).2.waits.find? waitId = s.waits.find? waitId := by
  rw [saveWait]
  split
  · rfl
  · exact Table.find?_upsert_of_ne _ _ _ _ hne

/-- The row of a wait that has been stored, with the time of an earlier row. -/
theorem find?_saveWait_self (wait : DurableWait env) :
    (s.saveWait wait).2.waits.find? wait.waitId = s.waits.find? wait.waitId ∨
      ∃ row, (s.saveWait wait).2.waits.find? wait.waitId = some row ∧ row.payload = wait ∧
        ∀ old, s.waits.find? wait.waitId = some old → row.releaseAtUtc = old.releaseAtUtc := by
  rw [saveWait]
  split
  · exact .inl rfl
  · refine .inr ⟨_, Table.find?_upsert_self _ _ _ _, ?_, ?_⟩
    · cases s.waits.find? wait.waitId <;> rfl
    · intro old hold
      change WaitRow.releaseAtUtc ((s.waits.find? wait.waitId).elim _ _) = _
      rw [hold]
      rfl

end

theorem WaitsKeyed.saveWait (h : s.WaitsKeyed) (wait : DurableWait env) :
    (s.saveWait wait).2.WaitsKeyed := by
  intro waitId row hrow
  by_cases hid : wait.waitId = waitId
  · subst hid
    rcases s.find?_saveWait_self wait with hsame | ⟨stored, hstd, hpay, -⟩
    · exact h _ row (hsame ▸ hrow)
    · obtain rfl := some.inj (hstd.symm.trans hrow)
      rw [hpay]
  · rw [s.find?_saveWait_of_ne hid] at hrow
    exact h waitId row hrow

/-- A wait is for the same after it has been stored again under the same name. -/
theorem awaits_saveWait {wait : DurableWait env} {waitId : String}
    (h : wait.waitId = waitId → ∃ release, s.awaits waitId = some (wait.signalName, release)) :
    (s.saveWait wait).2.awaits waitId = s.awaits waitId := by
  by_cases hid : wait.waitId = waitId
  · subst hid
    rcases s.find?_saveWait_self wait with hsame | ⟨row, hrow, hpay, hrelease⟩
    · rw [awaits, hsame, awaits]
    · obtain ⟨release, hawaits⟩ := h rfl
      obtain ⟨old, hold, hsame⟩ := map_eq_some_iff.mp hawaits
      rw [hawaits, ← hsame, awaits, hrow, map_some, hpay, hrelease old hold, (Prod.mk.inj hsame).1]
  · rw [awaits, s.find?_saveWait_of_ne hid, awaits]

end OrchestrationStore

open OrchestrationStore

/-- A move stores a wait, or leaves the waits as they are. -/
theorem Move.waits_cases {s₀ : OrchestrationStore env} {c : RuntimeCall env} (h : Move s₀ c s s') :
    s'.waits = s.waits ∨ ∃ wait, Waits s₀ c s wait ∧ s' = (s.saveWait wait).2 := by
  cases h with
  | waited hwaits => exact .inr ⟨_, hwaits, rfl⟩
  | created _ _ _ _ hlog => exact .inl (by cases hlog <;> rfl)
  | received _ hlog | saved _ hlog => exact .inl (by cases hlog <;> rfl)

theorem OrchestrationStore.WaitsKeyed.step (h : s.WaitsKeyed) (op : RuntimeOp env) :
    (op.step s).WaitsKeyed := by
  refine step_invariant (fun _ => Iff.rfl) (fun _ => h) ?_ h
  rintro c - t t' hmove ht
  rcases hmove.waits_cases with hsame | ⟨wait, -, rfl⟩
  · rw [WaitsKeyed, hsame]
    exact ht
  · exact ht.saveWait wait

/-- The wait of a workflow that does not run is left as it is. -/
theorem OrchestrationStore.awaits_step {op : RuntimeOp env} {workflow : WorkflowInstance}
    {waitId : String} (hkeyed : s.WaitsKeyed) (hshares : s.sharesWait op = false)
    (hstd : workflow ∈ s.workflows.rows) (hwait : workflow.waitId = some waitId)
    (hnot : workflow.state ≠ .running) : (op.step s).awaits waitId = s.awaits waitId := by
  refine @step_invariant env s (fun t => t.awaits waitId = s.awaits waitId) op
    (fun _ => Iff.rfl) (fun _ => rfl) ?_ rfl
  rintro c rfl t t' hmove ht
  rcases hmove.waits_cases with hsame | ⟨wait, hwaits, rfl⟩
  · rw [awaits, hsame]
    exact ht
  · rw [awaits_saveWait, ht]
    rintro rfl
    cases hwaits with
    | @enter running hsta hcall hfind hrunning =>
      -- The workflow that enters the wait runs, so it is another one.
      exfalso
      rw [sharesWait, hcall, any_some, List.any_eq_false] at hshares
      have hoth := hshares workflow hstd
      rw [hwait, beq_self_eq_true, Bool.true_and, bne_iff_ne, not_not] at hoth
      have hsame : s.workflows.find? wait.workflowId = some workflow :=
        hoth ▸ s.workflows.find?_of_mem hstd
      obtain rfl := some.inj (hsame.symm.trans hfind)
      exact hnot hrunning
    | @satisfy row hrow hid hname =>
      have hfind : s.waits.find? row.waitId = some row := s.waits.find?_of_mem hrow
      rw [← hkeyed _ row hfind, ← hid] at hfind
      rw [ht, awaits, hfind, hname]
      exact ⟨_, rfl⟩

/-! ### Runs -/

theorem OrchestrationStore.WaitsKeyed.run (h : s.WaitsKeyed) (ops : List (RuntimeOp env)) :
    (runCalls RuntimeOp.step s ops).WaitsKeyed := by
  induction ops generalizing s with
  | nil => exact h
  | cons op _ ih => exact ih (h.step op)

/-- A workflow in `WAITING` is in a wait. -/
theorem runOps_awaiting (ops : List (RuntimeOp env))
    (h : ∀ row ∈ s.workflows.rows, row.state = .waiting → row.control.awaiting = true) :
    ∀ row ∈ (runCalls RuntimeOp.step s ops).workflows.rows,
      row.state = .waiting → row.control.awaiting = true := by
  induction ops generalizing s with
  | nil => exact h
  | cons op _ ih =>
    refine ih (@RuntimeOp.step_controls env s
      (fun c => c.state = .waiting → c.awaiting = true) nofun ?_ h op)
    intro steps now c action c' hstep hc
    cases hstep with
    | enterWait => exact fun _ => rfl
    | checkpoint | acknowledge => exact hc
    | _ => exact nofun

/-- While a workflow is held back in its wait, the wait is for the same. -/
theorem StillHeld.awaits_run {held : WorkflowInstance} {waitId : String}
    {later : List (RuntimeOp env)} (hkeyed : s.WaitsKeyed) (hheld : held.state = .waiting)
    (hwait : held.waitId = some waitId)
    (hrun : Along (Undisturbed Control.awaiting held) RuntimeOp.step s later)
    (hshares : Along (fun s op => s.sharesWait op = false) RuntimeOp.step s later)
    (hend : (runCalls RuntimeOp.step s later).inState held.workflowId .running = false)
    (h : StillHeld held s) :
    (runCalls RuntimeOp.step s later).awaits waitId = s.awaits waitId := by
  have hholds : Control.awaiting { held.control with state := .suspended } = true := by
    change held.waitId.isSome = true
    rw [hwait]
    rfl
  induction later using List.reverseRecOn with
  | nil => rfl
  | append_singleton later _ ih =>
    obtain ⟨hrun, hbef, -⟩ := hrun.of_append
    obtain ⟨hshares, hlast⟩ := hshares.of_append
    have hstill := h.run (.inl hheld) hholds hrun hbef.2.2
    have hnotRunning := hstill.not_running (.inl hheld)
    obtain ⟨workflow, hfind, state, -, hctl⟩ := hstill
    rw [inState_of_find? hfind, beq_eq_false_iff_ne] at hnotRunning
    rw [runCalls_concat, ← ih hrun hshares hbef.2.2]
    exact awaits_step (hkeyed.run later) hlast.1 (Table.find?_eq_some_iff.mp hfind).1
      ((congrArg Control.waitId hctl).trans hwait) hnotRunning

/-- In a run of `LocalDurableRuntime` in which no suspended workflow that is in a wait is resumed,
and no two workflows are in waits with the same identifier, a workflow in `WAITING` is running
again only if, since then, a signal of the name that its wait is for has been received, or the
time of the wait has come at the clock of the call. -/
theorem waits_honoured (definitions : Table String (WorkflowDefinition env.sha)
      WorkflowDefinition.definitionId) (ops : List (RuntimeOp env))
    (hloc : ∀ op ∈ ops, op.isLocal = true)
    (hshares : Along (fun s op => s.sharesWait op = false) RuntimeOp.step
      { definitions := definitions } ops)
    (hrsm : Along (fun s op => s.resumes Control.awaiting op = false) RuntimeOp.step
      { definitions := definitions } ops) :
    let run := runCalls RuntimeOp.step ({ definitions := definitions } : OrchestrationStore env)
    ∀ earlier later op, earlier ++ (later ++ [op]) <+: ops → ∀ workflow,
      (run earlier).workflows.find? workflow.workflowId = some workflow →
      workflow.state = .waiting →
      Along (fun s _ => s.inState workflow.workflowId .running = false) RuntimeOp.step
        (run earlier) (later ++ [op]) →
      (run (earlier ++ (later ++ [op]))).inState workflow.workflowId .running = true →
      ∃ c waitId row, op = .call c ∧ workflow.waitId = some waitId ∧
        (run earlier).waits.find? waitId = some row ∧
        ((∃ name, row.payload.signalName = some name ∧
          ∃ event ∈ (run (earlier ++ (later ++ [op]))).events.rows,
            event ∉ (run earlier).events.rows ∧ event.workflowId = workflow.workflowId ∧
            event.eventType = "SIGNAL_RECEIVED" ∧
            event.payload.lookup "signal_name" = some (jsonString name)) ∨
        ∃ release, row.releaseAtUtc = some release ∧ release ≤ c.now) := by
  intro run
  rintro earlier later op ⟨rest, rfl⟩ workflow hwf hst hnot hend
  obtain ⟨-, hundisturbed⟩ := ((Along.of_mem hloc _).and hrsm).of_append.1.of_append
  have hundisturbed : Along (Undisturbed Control.awaiting workflow) RuntimeOp.step (run earlier)
      (later ++ [op]) :=
    (hundisturbed.and hnot).imp fun _ _ h => ⟨h.1.1, h.1.2, h.2⟩
  obtain ⟨-, hshares⟩ := hshares.of_append.1.of_append
  have hmem := (Table.find?_eq_some_iff.mp hwf).1
  have hawaiting : workflow.control.awaiting = true :=
    runOps_awaiting earlier (by simp) workflow hmem hst
  obtain ⟨waitId, hwait⟩ := isSome_iff_exists.mp hawaiting
  have hwait : workflow.waitId = some waitId := hwait
  have hheld : StillHeld workflow (run earlier) :=
    ⟨workflow, hwf, _, List.mem_cons_self, rfl⟩
  have hrun : run (earlier ++ (later ++ [op])) =
    runCalls RuntimeOp.step (run earlier) (later ++ [op]) := runCalls_append _ _ _ _
  rw [hrun] at hend ⊢
  obtain ⟨c, rfl, t, before, after, action, payload, hrel⟩ :=
    held_until (.inl hst) hawaiting hundisturbed hheld hend
  -- The wait is still for the same when the last operation is called.
  have hkeyed : (run earlier).WaitsKeyed := WaitsKeyed.run (by simp [WaitsKeyed]) earlier
  have hawaits := hheld.awaits_run hkeyed hst hwait hundisturbed.of_append.1
    hshares.of_append.1 hnot.of_append.2.1
  have hsame : ∀ {row}, (runCalls RuntimeOp.step (run earlier) later).waits.find? waitId = some row →
      ∃ row', (run earlier).waits.find? waitId = some row' ∧
        row'.payload.signalName = row.payload.signalName ∧ row'.releaseAtUtc = row.releaseAtUtc := by
    intro row hrow
    rw [awaits, hrow, map_some, eq_comm] at hawaits
    obtain ⟨row', hrow', hfor⟩ := map_eq_some_iff.mp hawaits
    exact ⟨row', hrow', Prod.mk.inj hfor⟩
  have hbef : before.waitId = some waitId :=
    (congrArg Control.waitId hrel.control).trans hwait
  have hwaiting : before.control.state = .waiting := by
    rw [hrel.control]
    exact hst
  rcases hrel.action with rfl | rfl
  · cases hrel.saves.wake rfl with
    | @signal waitId' name row event hwait' hrow hname hstd hnew hown htype hpay =>
      obtain rfl := some.inj (hbef.symm.trans hwait')
      obtain ⟨row', hrow', hname', -⟩ := hsame hrow
      refine ⟨c, waitId, row', rfl, hwait, hrow', .inl ⟨name, hname'.trans hname, event,
        hrel.events hstd, fun hold => hnew ?_, hown.trans hrel.workflowId, htype,
        hpay⟩⟩
      exact (runOps_events_extend _ later).subset hold
    | @release row release hrow hwait' hrelease hdue =>
      have hrow : (runCalls RuntimeOp.step (run earlier) later).waits.find? row.waitId = some row :=
        Table.find?_of_mem _ hrow
      rw [← (hkeyed.run later) _ row hrow, ← some.inj (hbef.symm.trans hwait')] at hrow
      obtain ⟨row', hrow', -, hrelease'⟩ := hsame hrow
      exact ⟨c, waitId, row', rfl, hwait, hrow', .inr ⟨release, hrelease'.trans hrelease, hdue⟩⟩
  · rcases hrel.saves.step.of_assign with hoth | hoth <;> rw [hwaiting] at hoth <;> cases hoth

/-- The workflow waits for the signal `go`. -/
def waitingNote : List (RuntimeOp byteEnv) :=
  noteStarted ++ [.call (.waitForSignal noteWorkflowId "go" 1)]

/-- A workflow that waits for a signal is suspended and resumed, and runs without the signal. -/
theorem wait_not_honoured :
    let run := runCalls step ({ definitions := .empty } : OrchestrationStore byteEnv)
    let s := run (waitingNote ++ [.call (.suspend noteWorkflowId 2), .call (.resume noteWorkflowId 3)])
    (run waitingNote).inState noteWorkflowId .waiting = true ∧
      (run waitingNote).waits.rows.map (fun row => (row.payload.signalName, row.releaseAtUtc)) =
        [(some "go", none)] ∧
      s.inState noteWorkflowId .running = true ∧
      s.events.rows.all (fun event => event.eventType != "SIGNAL_RECEIVED") = true := by
  decide +kernel

/-- The workflow waits for the signal and gets it. -/
theorem waits_honoured_signal :
    let run := runCalls step ({ definitions := .empty } : OrchestrationStore byteEnv)
    ∃ workflow, (run waitingNote).workflows.find? noteWorkflowId = some workflow ∧
      ∃ waitId row, workflow.waitId = some waitId ∧
        (run waitingNote).waits.find? waitId = some row ∧ row.releaseAtUtc = none ∧
        ∃ name, row.payload.signalName = some name ∧
          ∃ event ∈ (run (waitingNote ++ ([] ++ [.call (.signal noteSignal 2)]))).events.rows,
            event ∉ (run waitingNote).events.rows ∧ event.eventType = "SIGNAL_RECEIVED" ∧
            event.payload.lookup "signal_name" = some (jsonString name) := by
  have hfa :
      let run := runCalls step ({ definitions := .empty } : OrchestrationStore byteEnv)
      let ops := waitingNote ++ ([] ++ [.call (.signal noteSignal 2)])
      Along (fun s op => s.sharesWait op = false) step { definitions := .empty } ops ∧
      Along (fun s op => s.resumes Control.awaiting op = false) step { definitions := .empty } ops ∧
      ((run waitingNote).workflows.find? noteWorkflowId).map WorkflowInstance.state =
        some .waiting ∧
      Along (fun s _ => s.inState noteWorkflowId .running = false) step
        (run waitingNote) ([] ++ [.call (.signal noteSignal 2)]) ∧
      (run ops).inState noteWorkflowId .running = true ∧
      (∀ row ∈ (run waitingNote).waits.rows, row.releaseAtUtc = none) := by
    decide +kernel
  have hhonoured := waits_honoured .empty
    (waitingNote ++ ([] ++ [.call (.signal noteSignal 2)])) (by decide)
  -- The stores are not to be computed again.
  generalize runCalls step ({ definitions := .empty } : OrchestrationStore byteEnv) = run
    at hfa hhonoured ⊢
  obtain ⟨hshares, hrsm, hstd, hnot, hend, htimes⟩ := hfa
  obtain ⟨workflow, hfind, hst⟩ := map_eq_some_iff.mp hstd
  obtain ⟨-, hid⟩ := Table.find?_eq_some_iff.mp hfind
  refine ⟨workflow, hfind, ?_⟩
  rw [← hid] at hfind hnot hend
  obtain ⟨c, waitId, row, hcall, hwait, hrow, hwhy⟩ := hhonoured hshares hrsm waitingNote [] _
    List.prefix_rfl workflow hfind hst hnot hend
  have htime := htimes row (Table.find?_eq_some_iff.mp hrow).1
  rcases hwhy with ⟨name, hname, event, hev, hnew, -, htype, hpay⟩ | ⟨release, hrelease, -⟩
  · exact ⟨waitId, row, hwait, hrow, htime, name, hname, event, hev, hnew, htype, hpay⟩
  · rw [htime] at hrelease
    cases hrelease

end ProjectPipeline
