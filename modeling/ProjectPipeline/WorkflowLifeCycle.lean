import ProjectPipeline.Orchestration

/-!
# The Life Cycle of a Workflow

The runtime, the recovery and the service, seen as one state machine. What they look at when
they decide what may happen to a workflow is its `Control`: the state, the step with the number
of its attempt, the time of the next attempt and the wait. `Control.Step` lists what may happen,
one clause for each action, with the check that the code makes before it. Every action has the
event that it is written to the history with.

`ProjectPipeline.RuntimeMoves` shows that the programs do nothing else.

## Main results

* `Control.Step.of_terminal`: what may still happen to a workflow at its end.
* `Control.Step.of_held`, `Control.Step.of_suspended`: the ways out of `WAITING`,
  `RETRY_SCHEDULED` and `SUSPENDED`.
-/

namespace ProjectPipeline

/-- What may happen to a workflow. A worker is lost when its heartbeat has expired, an outcome
when the engine has not said whether it has started the workflow. -/
inductive WorkflowAction where
  | start | assign | checkpoint | completeStep | succeed | scheduleRetry | failStep
  | enterWait | leaveWait | receiveSignal | cancel | suspend | resume
  | loseWorker | loseOutcome | lackBackend | acknowledge
  deriving DecidableEq, Repr

namespace WorkflowAction

def eventType : WorkflowAction → String
  | start => "WORKFLOW_STARTED"
  | assign => "STEP_ASSIGNED"
  | checkpoint => "CHECKPOINT_SAVED"
  | completeStep => "STEP_SUCCEEDED"
  | succeed => "WORKFLOW_SUCCEEDED"
  | scheduleRetry => "STEP_RETRY_SCHEDULED"
  | failStep => "STEP_FAILED"
  | enterWait => "WAIT_STARTED"
  | leaveWait => "WAIT_SATISFIED"
  | receiveSignal => "SIGNAL_RECEIVED"
  | cancel => "WORKFLOW_CANCELLED"
  | suspend => "WORKFLOW_SUSPENDED"
  | resume => "WORKFLOW_RESUMED"
  | loseWorker | loseOutcome => "RECOVERY_REQUIRED"
  | lackBackend => "BACKEND_UNAVAILABLE"
  | acknowledge => "BACKEND_START_ACKNOWLEDGED"

def all : List WorkflowAction :=
  [start, assign, checkpoint, completeStep, succeed, scheduleRetry, failStep, enterWait, leaveWait,
    receiveSignal, cancel, suspend, resume, loseWorker, loseOutcome, lackBackend, acknowledge]

theorem mem_all (action : WorkflowAction) : action ∈ all := by
  cases action <;> decide

/-- Only a received signal has the event of a received signal. -/
theorem eventType_eq_receiveSignal {action : WorkflowAction} :
    action.eventType = "SIGNAL_RECEIVED" ↔ action = receiveSignal := by
  cases action <;> decide

theorem eventType_eq_scheduleRetry {action : WorkflowAction} :
    action.eventType = "STEP_RETRY_SCHEDULED" ↔ action = scheduleRetry := by
  cases action <;> decide

end WorkflowAction

/-- The part of a workflow that decides what may happen to it. -/
structure Control where
  state : WorkflowState
  stepIndex : ℕ
  attempt : ℕ
  due : Option Instant
  waitId : Option String

/-- The control part of a stored workflow. -/
def WorkflowInstance.control (workflow : WorkflowInstance) : Control where
  state := workflow.state
  stepIndex := workflow.currentStepIndex
  attempt := workflow.currentAttempt
  due := workflow.retryAvailableAtUtc
  waitId := workflow.waitId

namespace Control

/-- What may happen at the time `now` to a workflow with the given steps. The last three actions
are those of the service, which does not look at the state. -/
inductive Step (steps : List WorkflowStepDefinition) (now : Instant) :
    Control → WorkflowAction → Control → Prop
  | assign {c : Control} (hstate : c.state = .running) :
      Step steps now c .assign { c with state := .running, due := none }
  | retry {c : Control} {due : Instant} (hstate : c.state = .retryScheduled)
      (hdue : c.due = some due) (hnow : due ≤ now) :
      Step steps now c .assign { c with state := .running, attempt := c.attempt + 1, due := none }
  | checkpoint {c : Control} (hstate : c.state = .running) : Step steps now c .checkpoint c
  | completeStep {c : Control} (hstate : c.state = .running)
      (hnext : c.stepIndex + 1 < steps.length) :
      Step steps now c .completeStep
        { c with state := .running, stepIndex := c.stepIndex + 1, attempt := 1, waitId := none }
  | succeed {c : Control} (hstate : c.state = .running) (hlast : c.stepIndex + 1 = steps.length) :
      Step steps now c .succeed
        { c with state := .succeeded, stepIndex := c.stepIndex + 1, attempt := 0, waitId := none }
  | scheduleRetry {c : Control} {step : WorkflowStepDefinition} {due : Instant}
      (hstate : c.state = .running) (hstep : steps[c.stepIndex]? = some step)
      (hleft : c.attempt < step.retryPolicy.maxAttempts) :
      Step steps now c .scheduleRetry { c with state := .retryScheduled, due := some due }
  | failStep {c : Control} (hstate : c.state = .running) :
      Step steps now c .failStep { c with state := .failed, due := none }
  | enterWait {c : Control} {waitId : String} (hstate : c.state = .running) :
      Step steps now c .enterWait { c with state := .waiting, waitId := some waitId }
  | leaveWait {c : Control} (hstate : c.state = .waiting) :
      Step steps now c .leaveWait { c with state := .running, waitId := none }
  | cancel {c : Control} (hopen : c.state.terminal = false) :
      Step steps now c .cancel { c with state := .cancelled }
  | suspend {c : Control}
      (hstate : c.state = .running ∨ c.state = .waiting ∨ c.state = .retryScheduled) :
      Step steps now c .suspend { c with state := .suspended }
  | resume {c : Control} (hstate : c.state = .suspended ∨ c.state = .recoveryRequired) :
      Step steps now c .resume { c with state := .running }
  | loseWorker {c : Control} (hstate : c.state = .running) :
      Step steps now c .loseWorker { c with state := .recoveryRequired }
  | loseOutcome {c : Control} : Step steps now c .loseOutcome { c with state := .recoveryRequired }
  | lackBackend {c : Control} : Step steps now c .lackBackend { c with state := .suspended }
  | acknowledge {c : Control} : Step steps now c .acknowledge c

namespace Step

variable {steps : List WorkflowStepDefinition} {now : Instant} {c c' : Control}
  {action : WorkflowAction}

section

variable (h : Step steps now c action c')
include h

/-- Receiving a signal is not a step of the workflow. -/
theorem ne_receiveSignal : action ≠ .receiveSignal := by
  rintro rfl
  cases h

/-- Only a service that cannot hand a workflow over takes it back from its end. -/
theorem of_terminal (hend : c.state.terminal = true) (hout : action ≠ .loseOutcome)
    (hbackend : action ≠ .lackBackend) : c' = c := by
  cases h with
  | loseOutcome => exact absurd rfl hout
  | lackBackend => exact absurd rfl hbackend
  | acknowledge => rfl
  | cancel hopen => simp [hopen] at hend
  | suspend hst => rcases hst with h | h | h <;> simp [h, WorkflowState.terminal] at hend
  | resume hst => rcases hst with h | h <;> simp [h, WorkflowState.terminal] at hend
  | assign hst | retry hst | checkpoint hst | completeStep hst | succeed hst
  | scheduleRetry hst | failStep hst | enterWait hst | leaveWait hst
  | loseWorker hst => simp [hst, WorkflowState.terminal] at hend

/-- A workflow leaves `WAITING` and `RETRY_SCHEDULED` by running, cancelled, suspended, or in the
hands of the service. -/
theorem of_held (hheld : c.state = .waiting ∨ c.state = .retryScheduled) :
    (c'.state = .running ∧ (action = .leaveWait ∨ action = .assign)) ∨
      c' = { c with state := .cancelled } ∨ c' = { c with state := .suspended } ∨
        action ∈ [.loseOutcome, .lackBackend, .acknowledge] := by
  cases h with
  | retry | leaveWait | cancel | suspend | loseOutcome | lackBackend | acknowledge => simp
  | resume hst => rcases hheld with h | h <;> rcases hst with h' | h' <;> simp [h] at h'
  | assign hst | checkpoint hst | completeStep hst | succeed hst
  | scheduleRetry hst | failStep hst | enterWait hst | loseWorker hst =>
    rcases hheld with h | h <;> simp [h] at hst

end

/-- A workflow in `RETRY_SCHEDULED` is assigned when the retry is due. -/
theorem due_of_assign (h : Step steps now c .assign c') (hst : c.state = .retryScheduled) :
    ∃ due, c.due = some due ∧ due ≤ now := by
  cases h with
  | assign hrunning => simp [hst] at hrunning
  | retry _ hdue hnow => exact ⟨_, hdue, hnow⟩

theorem of_assign (h : Step steps now c .assign c') :
    c.state = .running ∨ c.state = .retryScheduled := by
  cases h with
  | assign hst => exact .inl hst
  | retry hst => exact .inr hst

/-- Only a workflow that waits leaves a wait. -/
theorem of_leaveWait (h : Step steps now c .leaveWait c') : c.state = .waiting := by
  cases h with
  | leaveWait hst => exact hst

/-- Only a workflow that is suspended or to be recovered is resumed. -/
theorem of_resume (h : Step steps now c .resume c') :
    c.state = .suspended ∨ c.state = .recoveryRequired := by
  cases h with
  | resume hst => exact hst

section

variable (h : Step steps now c action c')
include h

/-- A suspended workflow is resumed or cancelled, or gets into the hands of the service. -/
theorem of_suspended (hsuspended : c.state = .suspended) :
    c' = { c with state := .cancelled } ∨
      action ∈ [.resume, .loseOutcome, .lackBackend, .acknowledge] := by
  cases h with
  | resume | cancel | loseOutcome | lackBackend | acknowledge => simp
  | suspend hst => rcases hst with h | h | h <;> simp [hsuspended] at h
  | assign hst | retry hst | checkpoint hst | completeStep hst | succeed hst
  | scheduleRetry hst | failStep hst | enterWait hst | leaveWait hst
  | loseWorker hst => simp [hsuspended] at hst

/-- A step that leads to `WAITING` enters a wait, or changes nothing. -/
theorem into_waiting (hwaiting : c'.state = .waiting) :
    action = .enterWait ∨ c' = c := by
  cases h with
  | enterWait => exact .inl rfl
  | checkpoint | acknowledge => exact .inr rfl
  | _ => cases hwaiting

/-- A step that leads to `RETRY_SCHEDULED` sets the time of the retry, or changes nothing. -/
theorem into_retryScheduled (hsched : c'.state = .retryScheduled) : c'.due ≠ none ∨ c' = c := by
  cases h with
  | scheduleRetry => exact .inl (Option.some_ne_none _)
  | checkpoint | acknowledge => exact .inr rfl
  | _ => cases hsched

end

end Step

end Control

end ProjectPipeline
