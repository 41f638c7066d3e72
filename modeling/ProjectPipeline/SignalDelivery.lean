import ProjectPipeline.DurableRuntime

/-!
# Signals That Are Delivered Again

A sender delivers a signal with `LocalDurableRuntime.signal`, and delivers it again as long as
the call raises or its process stops. Between two store calls of a delivery other clients
may make any store calls of their own.

A delivery first records the signal in the inbox, and satisfies the wait only afterwards, in
calls of their own. If a delivery ends between the two, the signal counts as delivered: the
next delivery finds it in the inbox and returns, with the workflow still in its wait
(`recorded_signal_lost`). A delivery that finds the inbox without the signal, and the wait as
it was, takes the workflow out of the wait or raises: a workflow that was changed in the
meantime has another version (`StoreCall.versioned`).

## Main results

* `Durable.wake_inv`, `Durable.signal_inv`: what a delivery that returns has done.
* `signal_not_lost`: the last delivery takes the workflow out of its wait.
* `recorded_signal_lost`: a signal that is recorded and lost.
-/

namespace ProjectPipeline

open OrchestrationStore Durable List StoreCall

variable {env : OrchestrationEnv}

/-- A move of another client: one call of the store. -/
def OtherCall (s s' : OrchestrationStore env) : Prop := ∃ c : StoreCall env, s' = c.exec s

/-- A run of a program of store calls among other clients. -/
abbrev Durable.ExecAmong {α : Type} (p : Durable env α) (s : OrchestrationStore env)
    (trace : List (StoreCall env × OrchestrationStore env)) (out : Option (Except PyError α))
    (s' : OrchestrationStore env) : Prop :=
  Prog.Exec StoreCall.exec OtherCall p s trace out s'

/-- Deliveries of a signal until one returns: the steps of those that have raised or were
stopped, and the steps of the last one. -/
inductive Delivered (signal : WorkflowSignal env.sha) :
    OrchestrationStore env → List (StoreCall env × OrchestrationStore env) →
      List (StoreCall env × OrchestrationStore env) → OrchestrationStore env → Prop
  | last {s s' : OrchestrationStore env} {trace : List (StoreCall env × OrchestrationStore env)}
      {result : WorkflowInstance} (now : Instant)
      (run : (Durable.signal signal now).ExecAmong s trace (some (.ok result)) s') :
      Delivered signal s [] trace s'
  | again {s s₁ s' : OrchestrationStore env}
      {trace earlier last : List (StoreCall env × OrchestrationStore env)}
      {out : Option (Except PyError WorkflowInstance)} (now : Instant)
      (run : (Durable.signal signal now).ExecAmong s trace out s₁)
      (failed : ∀ result, out ≠ some (.ok result))
      (rest : Delivered signal s₁ earlier last s') : Delivered signal s (trace ++ earlier) last s'

namespace StoreCall

def readsWorkflow : StoreCall env → Bool
  | getWorkflow _ => true
  | _ => false

/-- The call records a message in the inbox. -/
def recordsMessage : StoreCall env → Bool
  | recordInbox _ => true
  | _ => false

def readsWait : StoreCall env → Bool
  | getWait _ => true
  | _ => false

end StoreCall

namespace OrchestrationStore

/-- The state of a workflow and the wait it is in. -/
def position (s : OrchestrationStore env) (workflowId : String) :
    Option (WorkflowState × Option String) :=
  (s.workflows.find? workflowId).map fun workflow => (workflow.state, workflow.waitId)

section

variable (s : OrchestrationStore env) (waitId : String) (signal : WorkflowSignal env.sha)

/-- The wait is stored, and it is for the signal. -/
def Awaits :
    Prop :=
  ∃ wait ∈ s.getWait waitId, Durable.answers signal wait

instance (s : OrchestrationStore env) (waitId : String) (signal : WorkflowSignal env.sha) :
    Decidable (s.Awaits waitId signal) :=
  inferInstanceAs (Decidable (∃ wait ∈ s.getWait waitId, Durable.answers signal wait))

/-- The workflow of the signal is `WAITING` for it. -/
def WaitsFor :
    Prop :=
  s.position signal.workflowId = some (.waiting, some waitId) ∧ s.Awaits waitId signal

end

instance (s : OrchestrationStore env) (waitId : String) (signal : WorkflowSignal env.sha) :
    Decidable (s.WaitsFor waitId signal) :=
  inferInstanceAs (Decidable (_ ∧ _))

end OrchestrationStore

/-- The step takes the workflow out of the wait. -/
def LeavesWait (workflowId waitId : String) (step : StoreCall env × OrchestrationStore env) :
    Prop :=
  step.2.position workflowId = some (.waiting, some waitId) ∧
    (step.1.exec step.2).position workflowId = some (.running, none)

instance (workflowId waitId : String) (step : StoreCall env × OrchestrationStore env) :
    Decidable (LeavesWait workflowId waitId step) :=
  inferInstanceAs (Decidable (_ ∧ _))

/-! ### What a delivery does -/

theorem versioned_of_moves {s s' : OrchestrationStore env}
    (h : Relation.ReflTransGen OtherCall s s') : Versioned s s' := by
  induction h with
  | refl => exact refl s
  | tail _ move ih =>
    obtain ⟨c, rfl⟩ := move
    exact IsTrans.trans _ _ _ ih (c.versioned _)

namespace Durable

variable {α β : Type} {s s' : OrchestrationStore env}
  {trace : List (StoreCall env × OrchestrationStore env)} {p : Durable env α}

/-- No run changes a workflow without raising its version. -/
theorem ExecAmong.versioned {out : Option (Except PyError α)}
    (h : p.ExecAmong s trace out s') : Versioned s s' :=
  Prog.Exec.relates (R := Versioned) (fun _ _ move => versioned_of_moves (.single move))
    StoreCall.versioned h

/-- A program that nobody disturbs. -/
theorem ExecAmong.of_returns (h : (p.run StoreCall.exec s).1.toOption.isSome = true) :
    ∃ a, p.ExecAmong s (p.trace StoreCall.exec s) (some (.ok a)) (p.run StoreCall.exec s).2 :=
  Prog.Exec.of_returns h

/-- A store call of a program that returns. -/
theorem ExecAmong.call_inv {c : StoreCall env} {result : OrchestrationStore env → Except PyError β}
    {rest : β → Durable env α} {a : α}
    (h : ExecAmong (Prog.call c result >>= rest) s trace (some (.ok a)) s') :
    ∃ s₁ b trace', Versioned s s₁ ∧ result s₁ = .ok b ∧ trace = (c, s₁) :: trace' ∧
      (rest b).ExecAmong (c.exec s₁) trace' (some (.ok a)) s' := by
  obtain ⟨s₁, b, trace', hmvs, hres, htrace, hrest⟩ := Prog.Exec.call_inv h
  exact ⟨s₁, b, trace', versioned_of_moves hmvs, hres, htrace, hrest⟩

variable {now : Instant}

/-- The end of an operation that returns: its update found the version it expects. -/
theorem save_inv {updated result : WorkflowInstance} {expectedVersion : ℕ} {eventType : String} {payload : JsonObject}
    (h : (save updated expectedVersion eventType now payload).ExecAmong s trace
      (some (.ok result)) s') :
    ∃ s₁ row, Versioned s s₁ ∧ (.updateWorkflow updated expectedVersion, s₁) ∈ trace ∧
      s₁.workflows.find? updated.workflowId = some row ∧ row.version = expectedVersion ∧
      ((StoreCall.updateWorkflow updated expectedVersion).exec s₁).workflows =
        s₁.workflows.replace updated := by
  obtain ⟨s₁, updated', trace', hversioned, hres, rfl, -⟩ := ExecAmong.call_inv h
  rcases s₁.updateWorkflow_cases updated expectedVersion with
    ⟨error, herr⟩ | ⟨row, hrow, hver, -, hok⟩
  · rw [herr] at hres
    cases hres
  · refine ⟨s₁, row, hversioned, mem_cons_self, hrow, hver, ?_⟩
    rw [StoreCall.exec, hok]

variable {signal : WorkflowSignal env.sha} {waitId : String}

/-- A workflow that waits is taken out of its wait, if the wait is for the signal. -/
theorem wake_inv {workflow result : WorkflowInstance}
    (h : (wake signal workflow now).ExecAmong s trace (some (.ok result)) s')
    (hst : workflow.state = .waiting) (hwid : workflow.waitId = some waitId)
    (htruthy : truthy workflow.waitId = true) {s₀ : OrchestrationStore env}
    (hstd : s₀.workflows.find? workflow.workflowId = some workflow) (hs : Versioned s₀ s)
    (hawaits : ∀ step ∈ trace, step.1.readsWait = true → step.2.Awaits waitId signal) :
    ∃ step ∈ trace, LeavesWait workflow.workflowId waitId step := by
  rw [wake, if_neg (by rw [hst, htruthy]; simp), hwid, Option.getD_some] at h
  obtain ⟨s₁, found, trace₁, hs₁, hfd, rfl, h₁⟩ := ExecAmong.call_inv h
  obtain ⟨wait, hwait, hanswers⟩ := hawaits _ mem_cons_self rfl
  obtain rfl : s₁.getWait waitId = found := Except.ok.inj hfd
  rw [Option.mem_def.mp hwait] at h₁
  dsimp only at h₁
  rw [if_pos hanswers] at h₁
  obtain ⟨s₂, saved, trace₂, hs₂, -, rfl, h₂⟩ := ExecAmong.call_inv h₁
  obtain ⟨s₃, row, hs₃, hmem, hrow, hver, hreplace⟩ := save_inv h₂
  -- Nobody has changed the workflow since it was read, as its version shows.
  have hsame : Versioned s₀ s₃ := by
    refine IsTrans.trans _ _ _ hs (IsTrans.trans _ _ _ hs₁ (IsTrans.trans _ _ _ hs₂ ?_))
    exact IsTrans.trans _ _ _ (StoreCall.versioned _ _) hs₃
  obtain rfl := hsame.eq_of_version_eq hstd hrow hver
  refine ⟨_, mem_cons_of_mem _ (mem_cons_of_mem _ hmem), ?_, ?_⟩
  · rw [position, hrow, Option.map_some, hst, hwid]
  · rw [position, hreplace, Table.find?_replace, if_pos rfl]
    rw [hrow]
    rfl

/-- A message that is not in the inbox is new. -/
theorem recordInbox_eq_ok {message : InboxRow} {new : Bool}
    (h : (s.recordInbox message).1 = .ok new) (hfr : s.inbox.find? message.messageId = none) :
    new = true := by
  rw [OrchestrationStore.recordInbox, hfr] at h
  dsimp only at h
  split at h
  · cases h
  · exact (Except.ok.inj h).symm

/-- A delivery that returns has read the workflow and recorded the signal. If the signal was
new, and the workflow in a wait for it, the workflow has left the wait. -/
theorem signal_inv {result : WorkflowInstance} (h : (Durable.signal signal now).ExecAmong s trace (some (.ok result)) s')
    (hwaiting : ∀ step ∈ trace, step.1.readsWorkflow = true → step.2.WaitsFor waitId signal)
    (hfr : ∀ step ∈ trace, step.1.recordsMessage = true →
      (step.2.inbox.find? signal.signalId).isNone = true)
    (hawaits : ∀ step ∈ trace, step.1.readsWait = true → step.2.Awaits waitId signal) :
    ∃ step ∈ trace, LeavesWait signal.workflowId waitId step := by
  obtain ⟨workflow, sq, first, second, rfl, hquery, h₁⟩ := Prog.Exec.bind_inv h
  obtain ⟨s₁, found, first', hs₁, hget, rfl, hfd⟩ := ExecAmong.call_inv hquery
  obtain ⟨hposition, -⟩ := hwaiting _ mem_cons_self rfl
  cases found with
  | none => cases (Prog.Exec.done_inv hfd).1
  | some =>
    obtain ⟨hread, rfl⟩ := Prog.Exec.done_inv hfd
    cases hread
    have hstd := getWorkflow_eq_ok hget
    have htruthy := WorkflowInstance.truthy_waitId (validate_of_getWorkflow_eq_ok hget)
    rw [position, hstd, Option.map_some, Option.some.injEq, Prod.mk.injEq] at hposition
    obtain ⟨hst, hwid⟩ := hposition
    obtain ⟨s₂, new, trace₂, hs₂, hnew, rfl, h₂⟩ := ExecAmong.call_inv h₁
    have hfst : new = true := recordInbox_eq_ok hnew
      (Option.isNone_iff_eq_none.mp (hfr _ (mem_append_right _ mem_cons_self) rfl))
    rw [if_pos hfst] at h₂
    obtain ⟨_, s₃, events, third, rfl, hev, h₃⟩ := Prog.Exec.bind_inv h₂
    obtain ⟨_, hid⟩ := Table.find?_eq_some_iff.mp hstd
    have hsame : Versioned s₁ s₃ := by
      refine IsTrans.trans _ _ _ hfd.versioned (IsTrans.trans _ _ _ hs₂ ?_)
      exact IsTrans.trans _ _ _ (versioned _ _) (ExecAmong.versioned hev)
    rw [← hid] at hstd ⊢
    obtain ⟨step, hmem, hleaves⟩ := wake_inv h₃ hst hwid (htruthy hst) hstd hsame
      fun step hmem => hawaits step (by simp [hmem])
    exact ⟨step, by simp [hmem], hleaves⟩

end Durable

/-! ### Deliveries until one returns -/

/-- The workflow waits for the signal when the last delivery reads it, the signal is not in
the inbox when this delivery records it, and the wait is still for the signal when this
delivery reads it. Then this delivery takes the workflow out of the wait. -/
theorem signal_not_lost (signal : WorkflowSignal env.sha) (waitId : String)
    {s s' : OrchestrationStore env} {earlier last : List (StoreCall env × OrchestrationStore env)}
    (h : Delivered signal s earlier last s')
    (hwaiting : ∀ step ∈ last, step.1.readsWorkflow = true → step.2.WaitsFor waitId signal)
    (hfr : ∀ step ∈ last, step.1.recordsMessage = true →
      (step.2.inbox.find? signal.signalId).isNone = true)
    (hawaits : ∀ step ∈ last, step.1.readsWait = true → step.2.Awaits waitId signal) :
    ∃ step ∈ earlier ++ last, LeavesWait signal.workflowId waitId step := by
  induction h with
  | last _ run => exact signal_inv run hwaiting hfr hawaits
  | again _ _ _ _ ih =>
    obtain ⟨step, hmem, hleaves⟩ := ih hwaiting hfr hawaits
    exact ⟨step, by simp_all, hleaves⟩

def goWaitId : String :=
  ((orchestrationIdentifier .polynomial .wait
    [deployWorkflowId, "SIGNAL", "go", ""]).toOption).getD ""

/-- The workflow has been started and waits for the signal. -/
def waitingStore : OrchestrationStore plainEnv :=
  RuntimeCall.step
    (RuntimeCall.step deployStore (.start (deployRequest .localReference) 0))
    (.waitForSignal deployWorkflowId "go" 1)

/-- A first delivery stops when it has recorded the signal. -/
def recordedStore : OrchestrationStore plainEnv :=
  Prog.stateAfter StoreCall.exec 2 (Durable.signal goSignal 2) waitingStore

/-- The second delivery returns, and the workflow still waits. -/
theorem recorded_signal_lost :
    ∃ (s' : OrchestrationStore plainEnv)
      (earlier last : List (StoreCall plainEnv × OrchestrationStore plainEnv)),
      Delivered goSignal waitingStore earlier last s' ∧
      (∀ step ∈ last, step.2.WaitsFor goWaitId goSignal) ∧ s'.WaitsFor goWaitId goSignal ∧
      ∀ step ∈ earlier ++ last, ¬ LeavesWait goSignal.workflowId goWaitId step := by
  have hfa : ((signal goSignal 3).run exec recordedStore).1.toOption.isSome = true ∧
      (∀ step ∈ (signal goSignal 3).trace exec recordedStore, step.2.WaitsFor goWaitId goSignal) ∧
      ((signal goSignal 3).run exec recordedStore).2.WaitsFor goWaitId goSignal ∧
      ∀ step ∈ ((signal goSignal 2).trace exec waitingStore).take 2 ++ [] ++
          (signal goSignal 3).trace exec recordedStore,
        ¬ LeavesWait goSignal.workflowId goWaitId step := by
    decide +kernel
  obtain ⟨hreturns, hwaiting, hstill, hnever⟩ := hfa
  obtain ⟨result, hret⟩ := Durable.ExecAmong.of_returns hreturns
  have hstopped : (signal goSignal 2).ExecAmong waitingStore _ none recordedStore :=
    .of_steps 2 (signal goSignal 2) waitingStore
  exact ⟨_, _, _, .again 2 hstopped (fun _ => (Option.some_ne_none _).symm) (.last 3 hret), hwaiting, hstill, hnever⟩

/-- A delivery that is not disturbed. -/
theorem signal_not_lost_undisturbed :
    ∃ (s' : OrchestrationStore plainEnv)
      (earlier last : List (StoreCall plainEnv × OrchestrationStore plainEnv)),
      Delivered goSignal waitingStore earlier last s' ∧
      ∃ step ∈ earlier ++ last, LeavesWait goSignal.workflowId goWaitId step := by
  have hfa : ((signal goSignal 2).run exec waitingStore).1.toOption.isSome = true ∧
      ∀ step ∈ (signal goSignal 2).trace exec waitingStore,
        (step.1.readsWorkflow = true → step.2.WaitsFor goWaitId goSignal) ∧
        (step.1.recordsMessage = true → (step.2.inbox.find? goSignal.signalId).isNone = true) ∧
        (step.1.readsWait = true → step.2.Awaits goWaitId goSignal) := by
    decide +kernel
  obtain ⟨result, hret⟩ := Durable.ExecAmong.of_returns hfa.1
  have hdelivered := Delivered.last 2 hret
  refine ⟨_, _, _, hdelivered, signal_not_lost goSignal goWaitId hdelivered ?_ ?_ ?_⟩
  · intro step hmem
    exact (hfa.2 step hmem).1
  · intro step hmem
    exact (hfa.2 step hmem).2.1
  · intro step hmem
    exact (hfa.2 step hmem).2.2

end ProjectPipeline
