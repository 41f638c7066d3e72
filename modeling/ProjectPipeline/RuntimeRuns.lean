import ProjectPipeline.RuntimeMoves

/-!
# Runs of the Runtime

Runs of the operations on one store, among them the registration of definitions. What every
move keeps, every run keeps (`RuntimeOp.step_invariant`).

The second half is about the two states in which a workflow is held back, `WAITING` and
`RETRY_SCHEDULED`. Such a workflow stays as it is, or suspended, until it is cancelled or lets
itself be resumed, or until one operation lets it run again; `Released` keeps what is known about
that operation.

## Main results

* `Owned.step`: events belong to stored workflows.
* `held_until`: the operation that lets a held workflow run again.
-/

namespace ProjectPipeline

open OrchestrationStore List Table

variable {env : OrchestrationEnv}

variable {s₀ s s' : OrchestrationStore env} {c : RuntimeCall env}

/-! ### Operations -/

/-- The tables after `register_definition`. A stored definition is left as it is; if it is
another one, the call raises. -/
def OrchestrationStore.registerDefinition (s : OrchestrationStore env)
    (definition : WorkflowDefinition env.sha) : OrchestrationStore env :=
  { s with definitions := (s.definitions.insert definition).getD s.definitions }

/-- A known definition is not changed by a registration. -/
theorem OrchestrationStore.find?_registerDefinition {definitionId : String}
    {known : WorkflowDefinition env.sha} (h : s.definitions.find? definitionId = some known)
    (definition : WorkflowDefinition env.sha) :
    (s.registerDefinition definition).definitions.find? definitionId = some known := by
  rw [registerDefinition]
  cases hins : s.definitions.insert definition with
  | none => exact h
  | some => exact find?_insert_of_some hins h

/-- An operation on the store: a registration, or a call. -/
inductive RuntimeOp (env : OrchestrationEnv) where
  | registerDefinition (definition : WorkflowDefinition env.sha)
  | call (c : RuntimeCall env)

namespace RuntimeOp

/-- The tables after an operation, whether it returns or raises. -/
def step (s : OrchestrationStore env) : RuntimeOp env → OrchestrationStore env
  | registerDefinition definition => s.registerDefinition definition
  | call c => RuntimeCall.step s c

/-- The operations of `LocalDurableRuntime`. -/
def isLocal : RuntimeOp env → Bool
  | registerDefinition _ => true
  | call c => c.isLocal

/-- A property of the history that a registration and every move of an operation keep, the
operation keeps. -/
theorem step_invariant {Inv : OrchestrationStore env → Prop} {op : RuntimeOp env}
    (hhist : ∀ t, Inv t.history ↔ Inv t)
    (hregister : ∀ definition, Inv (s.registerDefinition definition))
    (hmove : ∀ c, op = call c → ∀ t t', Move s.history c t t' → Inv t → Inv t') (h : Inv s) :
    Inv (step s op) := by
  cases op with
  | registerDefinition definition => exact hregister definition
  | call c =>
    have hchn : ∀ t, Moves s.history c s.history t → Inv t := by
      intro t hmvs
      induction hmvs with
      | refl => exact (hhist s).mpr h
      | tail _ hlast ih => exact hmove c rfl _ _ hlast ih
    exact (hhist _).mp (hchn _ (RuntimeCall.step_moves s c))

end RuntimeOp

/-! ### Events -/

namespace OrchestrationStore

def eventsOf (s : OrchestrationStore env) (workflowId : String) : List (WorkflowEvent env.sha) :=
  s.events.rows.filter fun event => event.workflowId == workflowId

theorem eventsOf_append {event : WorkflowEvent env.sha}
    (h : s'.events.rows = s.events.rows ++ [event]) (workflowId : String) :
    s'.eventsOf workflowId =
      s.eventsOf workflowId ++ if event.workflowId = workflowId then [event] else [] := by
  rw [eventsOf, h, filter_append, eventsOf]
  by_cases hown : event.workflowId = workflowId <;> simp [hown]

end OrchestrationStore

variable {action : WorkflowAction} {workflowId : String}

/-- The events after an action: the new one is the last, or there is none. -/
theorem Logged.events_cases {payload : JsonObject} (h : Logged s workflowId action payload s') :
    s'.events.rows = s.events.rows ∨ ∃ event : WorkflowEvent env.sha,
      event.workflowId = workflowId ∧ event.eventType = action.eventType ∧
      event.payload = payload ∧ s'.events.rows = s.events.rows ++ [event] := by
  cases h with
  | clashed => exact .inl rfl
  | appended hown htype hpay _ hins =>
    exact .inr ⟨_, hown, htype, hpay, (insert_eq_some_iff.mp hins).2⟩

theorem Logged.events_extend {payload : JsonObject} (h : Logged s workflowId action payload s')
    : s.events.rows <+: s'.events.rows := by
  rcases h.events_cases with hsame | ⟨event, -, -, -, hrows⟩
  · rw [hsame]
  · rw [hrows]
    exact prefix_append _ _

/-- Events are appended, and none is lost. -/
theorem Move.events_extend (h : Move s₀ c s s') : s.events.rows <+: s'.events.rows := by
  cases h with
  | @waited wait _ => rw [(s.saveWait_frame wait).2.2]
  | created _ _ _ _ hlog => exact hlog.events_extend
  | received _ hlog | saved _ hlog => exact hlog.events_extend

/-- No run loses an event. -/
theorem runOps_events_extend (s : OrchestrationStore env) (ops : List (RuntimeOp env)) :
    s.events.rows <+: (runCalls RuntimeOp.step s ops).events.rows := by
  induction ops generalizing s with
  | nil => exact prefix_rfl
  | cons op _ ih =>
    have hfst := @RuntimeOp.step_invariant env s (fun t => s.events.rows <+: t.events.rows) op
      (fun _ => Iff.rfl) (fun _ => prefix_rfl)
      (fun _ _ _ _ hmove ht => ht.trans hmove.events_extend) prefix_rfl
    exact hfst.trans (ih _)

/-- No move changes the definitions. -/
theorem Move.definitions_eq (h : Move s₀ c s s') : s'.definitions = s.definitions := by
  cases h with
  | @waited wait _ => exact (s.saveWait_frame wait).1
  | created _ _ _ _ hlog => cases hlog <;> rfl
  | received _ hlog | saved _ hlog => cases hlog <;> rfl

/-- No move loses a workflow. -/
theorem Move.find?_isSome (h : Move s₀ c s s')
    (hstd : (s.workflows.find? workflowId).isSome = true) :
    (s'.workflows.find? workflowId).isSome = true := by
  cases h with
  | @waited wait _ =>
    rw [(s.saveWait_frame wait).2.1]
    exact hstd
  | created _ _ _ hins hlog =>
    rw [hlog.workflows_eq, find?_insert hins]
    split
    · rfl
    · exact hstd
  | received _ hlog =>
    rw [hlog.workflows_eq]
    exact hstd
  | saved _ hlog =>
    rw [hlog.workflows_eq, isSome_find?_replace]
    exact hstd

/-- Every event belongs to a stored workflow. -/
def Owned (s : OrchestrationStore env) : Prop :=
  ∀ event ∈ s.events.rows, (s.workflows.find? event.workflowId).isSome = true

/-- A workflow that is not stored has no events. -/
theorem Owned.eventsOf_eq_nil (h : Owned s) (hfr : s.workflows.find? workflowId = none)
    : s.eventsOf workflowId = [] := by
  refine filter_eq_nil_iff.mpr fun event hev hown => ?_
  have hsome := h event hev
  rw [beq_iff_eq.mp hown, hfr] at hsome
  cases hsome

theorem Owned.move (h : Owned s) (hmove : Move s₀ c s s') : Owned s' := by
  intro event hev
  by_cases hold : event ∈ s.events.rows
  · exact hmove.find?_isSome (h event hold)
  · have hnew : ∀ {t : OrchestrationStore env} {workflowId action payload},
        Logged t workflowId action payload s' → t.events = s.events →
          event.workflowId = workflowId := by
      intro t workflowId action payload hlog hevs
      rcases hlog.events_cases with hsame | ⟨new, hown, -, -, hrows⟩
      · rw [hsame, hevs] at hev
        exact absurd hev hold
      · rw [hrows, hevs] at hev
        rcases mem_append.mp hev with hev | hev
        · exact absurd hev hold
        · rw [mem_singleton.mp hev, hown]
    cases hmove with
    | @waited wait _ =>
      rw [(s.saveWait_frame wait).2.2] at hev
      exact absurd hev hold
    | created _ _ _ hins hlog =>
      rw [hnew hlog rfl, hlog.workflows_eq, find?_insert hins, if_pos rfl]
      rfl
    | received hstd hlog =>
      rw [hnew hlog rfl, hlog.workflows_eq]
      exact Option.isSome_of_mem hstd
    | saved hsv hlog =>
      rw [hnew hlog rfl, hlog.workflows_eq, isSome_find?_replace]
      exact Option.isSome_of_mem hsv.stored

/-- Every operation leaves the events with their owners. -/
theorem Owned.step (h : Owned s) (op : RuntimeOp env) : Owned (op.step s) :=
  RuntimeOp.step_invariant (fun _ => Iff.rfl) (fun _ => h) (fun _ _ _ _ hmove ht => ht.move hmove) h

/-! ### Controls -/

/-- What holds of a workflow in its first step, and is kept by every step of the life cycle, an
operation keeps for all workflows. -/
theorem RuntimeOp.step_controls {I : Control → Prop} (hsta : I ⟨.running, 0, 1, none, none⟩)
    (hstep : ∀ {steps now c action c'}, Control.Step steps now c action c' → I c → I c')
    (h : ∀ row ∈ s.workflows.rows, I row.control) (op : RuntimeOp env) :
    ∀ row ∈ (op.step s).workflows.rows, I row.control := by
  refine @RuntimeOp.step_invariant env s (fun t => ∀ row ∈ t.workflows.rows, I row.control) op
    (fun _ => Iff.rfl) (fun _ => h) ?_ h
  intro c _ t t' hmove ht
  cases hmove with
  | @waited wait _ =>
    rw [(t.saveWait_frame wait).2.1]
    exact ht
  | created _ _ hctl hins hlog =>
    intro row hrow
    rw [hlog.workflows_eq] at hrow
    change row ∈ rows _ at hrow
    rw [(insert_eq_some_iff.mp hins).2] at hrow
    rcases mem_append.mp hrow with hrow | hrow
    · exact ht row hrow
    · rw [mem_singleton.mp hrow, hctl]
      exact hsta
  | received _ hlog =>
    rw [hlog.workflows_eq]
    exact ht
  | saved hsv hlog =>
    intro row hrow
    rw [hlog.workflows_eq] at hrow
    rcases mem_replace.mp hrow with ⟨rfl, -⟩ | ⟨hrow, -⟩
    · exact hstep hsv.step (ht _ (find?_eq_some_iff.mp hsv.stored).1)
    · exact ht row hrow

/-! ### Workflows that are held back -/

namespace OrchestrationStore

/-- The workflow is stored, in the state. -/
def inState (s : OrchestrationStore env) (workflowId : String) (state : WorkflowState) : Bool :=
  (s.workflows.find? workflowId).any fun workflow => workflow.state == state

/-- The operation resumes a suspended workflow whose control is as `held` says. -/
def resumes (s : OrchestrationStore env) (held : Control → Bool) : RuntimeOp env → Bool
  | .call (.resume workflowId _) => (s.workflows.find? workflowId).any fun workflow =>
    workflow.state == .suspended && held workflow.control
  | _ => false

theorem inState_of_find? {workflow : WorkflowInstance}
    (h : s.workflows.find? workflowId = some workflow) (state : WorkflowState) :
    s.inState workflowId state = (workflow.state == state) := by
  rw [inState, h, Option.any_some]

end OrchestrationStore

/-- A call made in `s₀` has let a workflow run that was held back with the given control. -/
structure Released (s₀ : OrchestrationStore env) (c : RuntimeCall env) (held : WorkflowInstance)
    (s t : OrchestrationStore env) (workflow updated : WorkflowInstance)
    (action : WorkflowAction) (payload : JsonObject) : Prop where
  saves : Saves s₀ c t workflow updated action payload
  workflowId : workflow.workflowId = held.workflowId
  control : workflow.control = held.control
  running : updated.state = .running
  action : action = .leaveWait ∨ action = .assign
  events : t.events.rows ⊆ s.events.rows

/-- The workflow is still held back as it was, or has been suspended or cancelled. -/
def StillHeld (held : WorkflowInstance) (s : OrchestrationStore env) : Prop :=
  ∃ workflow, s.workflows.find? held.workflowId = some workflow ∧
    ∃ state ∈ [held.state, .suspended, .cancelled],
      workflow.control = { held.control with state := state }

/-- The workflow is still held back as it was, or the call made in `s₀` has let it run. -/
def HeldOrReleased (s₀ : OrchestrationStore env) (c : RuntimeCall env) (held : WorkflowInstance)
    (s : OrchestrationStore env) : Prop :=
  StillHeld held s ∨ (s.inState held.workflowId .running = true ∧
    ∃ t workflow updated action payload, Released s₀ c held s t workflow updated action payload)

/-- A move that leaves the workflow alone. -/
theorem HeldOrReleased.mono {held : WorkflowInstance} (h : HeldOrReleased s₀ c held s)
    (hfind : ∀ workflow, s.workflows.find? held.workflowId = some workflow →
      s'.workflows.find? held.workflowId = some workflow) (hevs : s.events.rows ⊆ s'.events.rows)
    : HeldOrReleased s₀ c held s' := by
  rcases h with ⟨workflow, hstd, hheld⟩ | ⟨hrunning, t, workflow, updated, action, payload, hrel⟩
  · exact .inl ⟨workflow, hfind workflow hstd, hheld⟩
  · obtain ⟨running, hstd, hst⟩ := (Option.any_eq_true _ _).mp hrunning
    refine .inr ⟨?_, t, workflow, updated, action, payload, ?_⟩
    · rw [inState_of_find? (hfind running hstd)]
      exact hst
    · exact { hrel with events := List.Subset.trans hrel.events hevs }

/-- A call that lets workflows run does nothing else to those that run. -/
theorem RuntimeCall.actions_of_release {release : WorkflowAction}
    (hrelease : release = .leaveWait ∨ release = .assign) (hcalled : release ∈ c.actions)
    (hactn : action ∈ c.actions) :
    action = .leaveWait ∨ action = .assign ∨ action = .receiveSignal := by
  rcases hrelease with rfl | rfl <;> cases c <;> simp [actions] at hcalled hactn ⊢ <;> grind

/-- The calls of `LocalDurableRuntime` do not do what the service does. -/
theorem RuntimeCall.service_not_mem (hloc : c.isLocal = true)
    (hactn : action ∈ [.loseOutcome, .lackBackend, .acknowledge]) : action ∉ c.actions := by
  simp only [mem_cons, not_mem_nil, or_false] at hactn
  rcases hactn with rfl | rfl | rfl <;> cases c <;> simp [actions, isLocal] at hloc ⊢

/-- A step of such a call lets the workflow run. -/
theorem Control.Step.running_of_release {steps : List WorkflowStepDefinition} {now : Instant}
    {control control' : Control} (h : Control.Step steps now control action control')
    (hactn : action = .leaveWait ∨ action = .assign ∨ action = .receiveSignal) :
    control'.state = .running := by
  rcases hactn with rfl | rfl | rfl
  · cases h
    rfl
  · cases h <;> rfl
  · exact absurd rfl h.ne_receiveSignal

section Held

variable {s : OrchestrationStore env} {held : WorkflowInstance} {holds : Control → Bool}

/-- What a move does to a workflow that is held back and not resumed. -/
theorem HeldOrReleased.move (hloc : c.isLocal = true)
    (hheld : held.state = .waiting ∨ held.state = .retryScheduled)
    (hholds : holds { held.control with state := .suspended } = true)
    (hrsm : s₀.resumes holds (.call c) = false) (hmove : Move s₀ c s s')
    (h : HeldOrReleased s₀ c held s) : HeldOrReleased s₀ c held s' := by
  cases hmove with
  | @waited wait _ =>
    obtain ⟨-, hwfs, hevs⟩ := s.saveWait_frame wait
    exact h.mono (fun _ hfind => hwfs ▸ hfind) (hevs ▸ List.Subset.refl _)
  | received _ hlog =>
    exact h.mono (fun _ hfind => hlog.workflows_eq ▸ hfind) hlog.events_extend.subset
  | created _ _ _ hins hlog =>
    refine h.mono (fun workflow hfind => ?_) hlog.events_extend.subset
    rw [hlog.workflows_eq]
    exact find?_insert_of_some hins hfind
  | @saved _ workflow updated action payload hsv hlog =>
    by_cases hid : workflow.workflowId = held.workflowId
    swap
    · refine h.mono (fun other hfind => ?_) hlog.events_extend.subset
      rw [hlog.workflows_eq, find?_replace, hsv.workflowId, if_neg hid, hfind]
    have hstd : s.workflows.find? held.workflowId = some workflow := hid ▸ hsv.stored
    have hstd' : s'.workflows.find? held.workflowId = some updated := by
      rw [hlog.workflows_eq, find?_replace, hsv.workflowId, if_pos hid, hstd]
      rfl
    have hsvc : ∀ other ∈ [.loseOutcome, .lackBackend, .acknowledge], action ≠ other := by
      rintro other hoth rfl
      exact RuntimeCall.service_not_mem hloc hoth hsv.called
    rcases h with ⟨found, hfd, state, hst, hctl⟩ | ⟨-, t, before, after, release, _, hrel⟩
    · obtain rfl := Option.some.inj (hfd.symm.trans hstd)
      have hstep := hsv.step
      rw [hctl] at hstep
      simp only [mem_cons, not_mem_nil, or_false] at hst
      rcases hst with rfl | rfl | rfl
      · rcases hstep.of_held hheld with ⟨hrun, hrelease⟩ | hcancel | hsuspend | hoth
        · refine .inr ⟨?_, s, found, updated, action, payload, ?_⟩
          · rw [inState_of_find? hstd', show updated.state = _ from hrun]
            rfl
          · exact ⟨hsv, hid, hctl, hrun, hrelease, hlog.events_extend.subset⟩
        · exact .inl ⟨updated, hstd', .cancelled, by simp, hcancel⟩
        · exact .inl ⟨updated, hstd', .suspended, by simp, hsuspend⟩
        · exact absurd rfl (hsvc action hoth)
      · rcases hstep.of_suspended rfl with hcancel | hoth
        · exact .inl ⟨updated, hstd', .cancelled, by simp, hcancel⟩
        · rcases mem_cons.mp hoth with rfl | hoth
          · -- The workflow was suspended already in the state the call was made in.
            obtain ⟨hcall, hwfs⟩ := hsv.resume rfl
            rw [hcall, resumes, ← hwfs, hid, hstd, Option.any_some,
              show found.state = .suspended from congrArg Control.state hctl, hctl,
              hholds] at hrsm
            cases hrsm
          · exact absurd rfl (hsvc action hoth)
      · refine .inl ⟨updated, hstd', .cancelled, by simp, ?_⟩
        exact hstep.of_terminal rfl (hsvc _ (by simp)) (hsvc _ (by simp))
    · have hactn := RuntimeCall.actions_of_release hrel.action hrel.saves.called hsv.called
      have hrun' : updated.state = .running := hsv.step.running_of_release hactn
      refine .inr ⟨?_, t, before, after, release, _, { hrel with
        events := List.Subset.trans hrel.events hlog.events_extend.subset }⟩
      rw [inState_of_find? hstd', hrun']
      rfl

/-- An operation on a workflow that is still held back. -/
theorem StillHeld.step {op : RuntimeOp env} (hloc : op.isLocal = true)
    (hheld : held.state = .waiting ∨ held.state = .retryScheduled)
    (hholds : holds { held.control with state := .suspended } = true)
    (hrsm : s.resumes holds op = false) (h : StillHeld held s) :
    StillHeld held (op.step s) ∨ (op.step s).inState held.workflowId .running = true ∧
      ∃ c, op = .call c ∧ ∃ t workflow updated action payload,
        Released s.history c held (op.step s) t workflow updated action payload := by
  cases op with
  | registerDefinition => exact .inl h
  | call c =>
    have hchn : ∀ t, Moves s.history c s.history t → HeldOrReleased s.history c held t := by
      intro t hmvs
      induction hmvs with
      | refl => exact .inl h
      | tail _ hlast ih => exact ih.move hloc hheld hholds hrsm hlast
    rcases hchn _ (RuntimeCall.step_moves s c) with
      hstill | ⟨hrunning, t, workflow, updated, action, payload, h⟩
    · exact .inl hstill
    · exact .inr ⟨hrunning, c, rfl, t, workflow, updated, action, payload,
        h.saves, h.workflowId, h.control, h.running, h.action, h.events⟩

/-- A workflow that is still held back does not run. -/
theorem StillHeld.not_running (hheld : held.state = .waiting ∨ held.state = .retryScheduled)
    (h : StillHeld held s) : s.inState held.workflowId .running = false := by
  obtain ⟨workflow, hfind, state, hst, hctl⟩ := h
  rw [inState_of_find? hfind, show workflow.state = state from congrArg Control.state hctl]
  simp only [mem_cons, not_mem_nil, or_false] at hst
  rcases hst with rfl | rfl | rfl
  · rcases hheld with hst | hst <;> rw [hst] <;> rfl
  · rfl
  · rfl

/-- The operation is one of the local runtime that does not resume a workflow which is to be held
back, and the workflow does not run. -/
def Undisturbed (holds : Control → Bool) (held : WorkflowInstance) (s : OrchestrationStore env)
    (op : RuntimeOp env) : Prop :=
  op.isLocal = true ∧ s.resumes holds op = false ∧ s.inState held.workflowId .running = false

variable {later : List (RuntimeOp env)}

section

variable (hheld : held.state = .waiting ∨ held.state = .retryScheduled)
include hheld

section

variable (hholds : holds { held.control with state := .suspended } = true)
include hholds

/-- A workflow that is held back and not resumed is held back as long as it does not run. -/
theorem StillHeld.run (hrun : Along (Undisturbed holds held) RuntimeOp.step s later)
    (hend : (runCalls RuntimeOp.step s later).inState held.workflowId .running = false)
    (h : StillHeld held s) : StillHeld held (runCalls RuntimeOp.step s later) := by
  induction later using reverseRecOn with
  | nil => exact h
  | append_singleton _ _ ih =>
    obtain ⟨hrun, hlast, -⟩ := hrun.of_append
    rw [runCalls_concat] at hend ⊢
    have hstill := ih hrun hlast.2.2
    rcases hstill.step hlast.1 hheld hholds hlast.2.1 with hstill | ⟨hrunning, -⟩
    · exact hstill
    · rw [hend] at hrunning
      cases hrunning

/-- A workflow that is held back, is not resumed and runs in the end for the first time, has
been let run by the last operation. -/
theorem held_until {op : RuntimeOp env}
    (hrun : Along (Undisturbed holds held) RuntimeOp.step s (later ++ [op])) (h : StillHeld held s)
    (hend : (runCalls RuntimeOp.step s (later ++ [op])).inState held.workflowId .running = true) :
    ∃ c, op = .call c ∧ ∃ t workflow updated action payload,
      Released (runCalls RuntimeOp.step s later).history c held
        (runCalls RuntimeOp.step s (later ++ [op])) t workflow updated action payload := by
  obtain ⟨hrun, hlast, -⟩ := hrun.of_append
  have hstill := h.run hheld hholds hrun hlast.2.2
  rw [runCalls_concat] at hend ⊢
  rcases hstill.step hlast.1 hheld hholds hlast.2.1 with hstill | ⟨-, hrel⟩
  · rw [hstill.not_running hheld] at hend
    cases hend
  · exact hrel

end

end

end Held

/-! ### An example -/

/-- An environment with a digest that is computed from the bytes of a text. -/
def byteEnv : OrchestrationEnv := { plainEnv with sha := .bytePolynomial }

def noteDefinition : WorkflowDefinition byteEnv.sha where
  definitionId := ((orchestrationIdentifier .bytePolynomial .workflowDefinition
    ["note", "1"]).toOption).getD ""
  workflowName := "note"
  version := "1"
  steps := [{ stepId := "write" }]
  definitionId_valid := by decide +kernel
  steps_ne_nil := by simp
  steps_nodup := by simp

def noteWorkflowId : String :=
  ((orchestrationIdentifier .bytePolynomial .workflow
    [noteDefinition.definitionId, "note-1"]).toOption).getD ""

def noteSignal : WorkflowSignal byteEnv.sha where
  signalId := ((orchestrationIdentifier .bytePolynomial .signal
    [noteWorkflowId, "go", "go-1"]).toOption).getD ""
  workflowId := noteWorkflowId
  signalName := "go"
  idempotencyKey := "go-1"
  observedAtUtc := 1
  signalName_valid := goSignal.signalName_valid
  idempotencyKey_valid := goSignal.idempotencyKey_valid
  signalId_valid := by decide +kernel

theorem note_key_valid : 1 ≤ "note-1".length ∧ "note-1".length ≤ 300 := by decide

def noteStarted : List (RuntimeOp byteEnv) :=
  [.registerDefinition noteDefinition,
    .call (.start ⟨noteDefinition.definitionId, "note-1", [], .localReference, note_key_valid⟩ 0)]

end ProjectPipeline
