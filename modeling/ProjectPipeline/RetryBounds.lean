import ProjectPipeline.RuntimeRuns

/-!
# Bounded Retries

`fail_step` schedules a retry while attempts of the step are left, and `assign_worker` raises the
attempt when it takes up the retry, at its due time or later. So a step has one retry less than
attempts. The exception is `resume`: a workflow that is suspended while a retry is scheduled is
running again after `resume`, before the due time and in the attempt that has failed, so that the
same attempt can fail any number of times.

`Control.Within` is the invariant of the life cycle: the retries of the current step are fewer
than its next attempt, and there are none of the steps behind it. The events are counted by the
step that their payload names.

## Main results

* `Control.Within.step`: a step of the life cycle that is not such a `resume` keeps the bound.
* `retries_bounded`: runs of `LocalDurableRuntime`.
-/

namespace ProjectPipeline

open OrchestrationStore List Option WorkflowStepDefinition RuntimeOp

variable {env : OrchestrationEnv}

/-! ### Attempts -/

namespace Control

/-- A retry has been scheduled and not been taken up. -/
def delayed (c : Control) : Bool := c.due.isSome

/-- The attempt that is running, or the one of the scheduled retry. -/
def nextAttempt (c : Control) : ℕ := c.attempt + if c.delayed then 1 else 0

/-- Workflows that run or wait have no scheduled retry, and those in `RETRY_SCHEDULED` have
one. -/
structure Timed (c : Control) : Prop where
  taken : c.state = .running ∨ c.state = .waiting ∨ c.state = .recoveryRequired → c.due = none
  scheduled : c.state = .retryScheduled → c.delayed = true

/-- The retries of the steps of a workflow are within the limits. -/
structure Within (steps : List WorkflowStepDefinition) (retries : String → ℕ) (c : Control) :
    Prop where
  timed : c.Timed
  bounded : ∀ step ∈ steps, retries step.stepId < step.retryPolicy.maxAttempts
  untried : ∀ i step, c.stepIndex < i → steps[i]? = some step → retries step.stepId = 0
  current : c.state.terminal = false → ∀ step, steps[c.stepIndex]? = some step →
    retries step.stepId < c.nextAttempt ∧ c.nextAttempt ≤ step.retryPolicy.maxAttempts

variable {steps : List WorkflowStepDefinition} {now : Instant} {c c' : Control}
  {action : WorkflowAction} {retries retries' : String → ℕ}

theorem nextAttempt_of_due_eq_none (h : c.due = none) : c.nextAttempt = c.attempt := by
  simp [nextAttempt, delayed, h]

theorem Timed.step (h : c.Timed) (hstep : Step steps now c action c')
    (hrsm : action = .resume → c.due = none)
    (hsvc : action ∉ [.loseOutcome, .lackBackend]) : c'.Timed := by
  obtain ⟨htaken, hsched⟩ := h
  cases hstep with
  | loseOutcome | lackBackend => simp at hsvc
  | checkpoint | acknowledge => exact ⟨htaken, hsched⟩
  | scheduleRetry => exact ⟨by simp, fun _ => rfl⟩
  | assign | retry => exact ⟨fun _ => rfl, nofun⟩
  | completeStep hst | enterWait hst | loseWorker hst => exact ⟨fun _ => htaken (.inl hst), nofun⟩
  | leaveWait hst => exact ⟨fun _ => htaken (.inr (.inl hst)), nofun⟩
  | resume => exact ⟨fun _ => hrsm rfl, nofun⟩
  | succeed | failStep | cancel | suspend => exact ⟨by simp, nofun⟩

section

variable (h : Within steps retries c)
include h

section

variable (hle : ∀ stepId, retries' stepId ≤ retries stepId)
include hle

/-- The invariant for another control of the same step and attempt. -/
theorem Within.keep (htimed : c'.Timed) (hindex : c'.stepIndex = c.stepIndex)
    (hnext : c'.nextAttempt = c.nextAttempt)
    (hopen : c'.state.terminal = false → c.state.terminal = false) :
    Within steps retries' c' where
  timed := htimed
  bounded step hstep := (hle _).trans_lt (h.bounded step hstep)
  untried i step hi hstep := Nat.le_zero.mp ((hle _).trans_eq (h.untried i step (hindex ▸ hi) hstep))
  current hst step hstep := by
    rw [hindex] at hstep
    obtain ⟨hlt, hmax⟩ := h.current (hopen hst) step hstep
    rw [hnext]
    exact ⟨(hle _).trans_lt hlt, hmax⟩

theorem Within.mono : Within steps retries' c :=
  h.keep hle h.timed rfl rfl id

/-- The retries of the next step, which is in its first attempt. -/
theorem Within.advance (htimed : c'.Timed) (hindex : c'.stepIndex = c.stepIndex + 1)
    (hfst : c'.state.terminal = false → c'.nextAttempt = 1) : Within steps retries' c' where
  timed := htimed
  bounded step hstep := (hle _).trans_lt (h.bounded step hstep)
  untried i step hi hstep :=
    Nat.le_zero.mp ((hle _).trans_eq (h.untried i step (by omega) hstep))
  current hst step hstep := by
    rw [hindex] at hstep
    have hzero := h.untried _ step (Nat.lt_succ_self _) hstep
    have hmax := step.retryPolicy.maxAttempts_valid.1
    rw [hfst hst]
    exact ⟨by have := hle step.stepId; omega, hmax⟩

end

/-- Another retry of the current step. -/
theorem Within.scheduleRetry {step : WorkflowStepDefinition} {due : Instant} (hnd : (steps.map stepId).Nodup)
    (hretries : ∀ stepId, retries' stepId ≤ retries stepId + if step.stepId = stepId then 1 else 0)
    (hst : c.state = .running) (hstep : steps[c.stepIndex]? = some step)
    (hleft : c.attempt < step.retryPolicy.maxAttempts) :
    Within steps retries' { c with state := .retryScheduled, due := some due } := by
  have hdue := h.timed.taken (.inl hst)
  have hopen : c.state.terminal = false := by rw [hst]; rfl
  have hcur := (h.current hopen step hstep).1
  rw [nextAttempt_of_due_eq_none hdue] at hcur
  have hself := hretries step.stepId
  rw [if_pos rfl] at hself
  refine ⟨⟨by simp, fun _ => rfl⟩, ?_, ?_, ?_⟩
  · intro other hoth
    have hbd := hretries other.stepId
    split_ifs at hbd with hid
    · -- Step identifiers are distinct, so this is the current step.
      obtain rfl : other = step :=
        List.inj_on_of_nodup_map hnd hoth (List.mem_of_getElem? hstep) hid.symm
      omega
    · have hold := h.bounded other hoth
      omega
  · intro i other hi hoth
    have hbd := hretries other.stepId
    rw [if_neg, h.untried i other hi hoth] at hbd
    · omega
    · intro hid
      obtain ⟨hlt, -⟩ := List.getElem?_eq_some_iff.mp hoth
      have hsame : (steps.map stepId)[i]? = (steps.map stepId)[c.stepIndex]? := by
        rw [List.getElem?_map, List.getElem?_map, hoth, hstep, map_some, map_some, hid]
      exact hi.ne' ((List.getElem?_inj (by simpa using hlt) hnd).mp hsame)
  · intro _ other hoth
    obtain rfl : step = other := some.inj (hstep.symm.trans hoth)
    have hnext : nextAttempt { c with state := .retryScheduled, due := some due } = c.attempt + 1 := rfl
    omega

/-- A step of the life cycle, if it is not one of the service and does not resume a workflow
with a scheduled retry. -/
theorem Within.step (hstep : Step steps now c action c')
    (hnd : (steps.map WorkflowStepDefinition.stepId).Nodup)
    (hretries : ∀ stepId, retries' stepId ≤ retries stepId +
      if action = .scheduleRetry ∧ steps[c.stepIndex]?.map WorkflowStepDefinition.stepId = some stepId
        then 1 else 0)
    (hrsm : action = .resume → c.due = none)
    (hsvc : action ∉ [.loseOutcome, .lackBackend]) : Within steps retries' c' := by
  have htimed := h.timed.step hstep hrsm hsvc
  have hle : action ≠ .scheduleRetry → ∀ stepId, retries' stepId ≤ retries stepId := by
    intro hoth stepId
    have hbd := hretries stepId
    rwa [if_neg fun hretry => hoth hretry.1] at hbd
  cases hstep with
  | loseOutcome | lackBackend => simp at hsvc
  | checkpoint | acknowledge => exact h.keep (hle nofun) htimed rfl rfl id
  | scheduleRetry hst hstep hleft =>
    refine h.scheduleRetry hnd (fun stepId => ?_) hst hstep hleft
    have hbd := hretries stepId
    simp only [hstep, map_some, some.injEq, true_and] at hbd
    exact hbd
  | assign hst =>
    have hdue := h.timed.taken (.inl hst)
    refine h.keep (hle nofun) htimed rfl ?_ fun _ => by rw [hst]; rfl
    rw [nextAttempt_of_due_eq_none hdue, nextAttempt_of_due_eq_none rfl]
  | retry hst hdue =>
    refine h.keep (hle nofun) htimed rfl ?_ fun _ => by rw [hst]; rfl
    simp [nextAttempt, delayed, hdue]
  | completeStep hst =>
    refine h.advance (hle nofun) htimed rfl fun _ => nextAttempt_of_due_eq_none ?_
    exact h.timed.taken (.inl hst)
  | succeed => exact h.advance (hle nofun) htimed rfl nofun
  | failStep hst =>
    have hdue := h.timed.taken (.inl hst)
    refine h.keep (hle nofun) htimed rfl ?_ nofun
    rw [nextAttempt_of_due_eq_none hdue, nextAttempt_of_due_eq_none rfl]
  | enterWait hst | leaveWait hst | loseWorker hst =>
    exact h.keep (hle nofun) htimed rfl rfl fun _ => by rw [hst]; rfl
  | cancel => exact h.keep (hle nofun) htimed rfl rfl nofun
  | suspend hst =>
    refine h.keep (hle nofun) htimed rfl rfl fun _ => ?_
    rcases hst with hst | hst | hst <;> rw [hst] <;> rfl
  | resume hst =>
    refine h.keep (hle nofun) htimed rfl rfl fun _ => ?_
    rcases hst with hst | hst <;> rw [hst] <;> rfl

end

/-- A workflow in its first step. -/
theorem Within.start (hnone : ∀ stepId, retries stepId = 0) :
    Within steps retries ⟨.running, 0, 1, none, none⟩ where
  timed := ⟨fun _ => rfl, nofun⟩
  bounded step _ := hnone step.stepId ▸ step.retryPolicy.maxAttempts_valid.1
  untried _ step _ _ := hnone step.stepId
  current _ step _ := ⟨hnone step.stepId ▸ Nat.one_pos, step.retryPolicy.maxAttempts_valid.1⟩

end Control

/-! ### Events -/

/-- The event says that a retry of the step has been scheduled. -/
def WorkflowEvent.isRetryOf (stepId : String) (event : WorkflowEvent env.sha) : Bool :=
  event.eventType == "STEP_RETRY_SCHEDULED" &&
    event.payload.lookup "step_id" == some (jsonString stepId)

namespace OrchestrationStore

/-- The number of retries of a step that the events of a workflow record. -/
def retries (s : OrchestrationStore env) (workflowId stepId : String) : ℕ :=
  (s.eventsOf workflowId).countP (WorkflowEvent.isRetryOf stepId)

/-- The steps of a definition have different identifiers. -/
theorem stepsOf_nodup (s : OrchestrationStore env) (definitionId : String) :
    ((s.stepsOf definitionId).map stepId).Nodup := by
  rw [stepsOf]
  cases s.definitions.find? definitionId with
  | none => exact nodup_nil
  | some definition => exact definition.steps_nodup

end OrchestrationStore

variable {s s' : OrchestrationStore env} {workflowId : String} {action : WorkflowAction}
  {payload : JsonObject}

/-- An action records a retry at most, of its workflow and of the step that its payload names. -/
theorem Logged.retries_le (h : Logged s workflowId action payload s') (ownerId stepId : String) :
    s'.retries ownerId stepId ≤ s.retries ownerId stepId +
      if ownerId = workflowId ∧ action = .scheduleRetry ∧
        payload.lookup "step_id" = some (jsonString stepId) then 1 else 0 := by
  rcases h.events_cases with hsame | ⟨event, hown, htype, hpay, hrows⟩
  · rw [retries, eventsOf, hsame]
    exact Nat.le_add_right _ _
  · rw [retries, eventsOf_append hrows, countP_append]
    refine Nat.add_le_add_left ?_ _
    by_cases hid : workflowId = ownerId
    swap
    · simp [hown, hid]
    rw [if_pos (hown.trans hid), countP_singleton]
    cases hretry : WorkflowEvent.isRetryOf stepId event with
    | false => simp
    | true =>
      rw [WorkflowEvent.isRetryOf, Bool.and_eq_true, beq_iff_eq, beq_iff_eq, htype, hpay,
        WorkflowAction.eventType_eq_scheduleRetry] at hretry
      rw [if_pos rfl, if_pos ⟨hid.symm, hretry⟩]

/-! ### Writes -/

/-- The retries of every workflow are within the limits of its definition. -/
structure RetriesWithin (s : OrchestrationStore env) : Prop where
  owned : Owned s
  known : ∀ workflow ∈ s.workflows.rows, (s.definitions.find? workflow.definitionId).isSome = true
  within : ∀ workflow ∈ s.workflows.rows,
    workflow.control.Within (s.stepsOf workflow.definitionId) (s.retries workflow.workflowId)

/-- An action on one workflow, the others being within their limits already. -/
theorem Logged.within (h : Logged s workflowId action payload s')
    (hoths : ∀ row ∈ s.workflows.rows, row.workflowId ≠ workflowId →
      row.control.Within (s.stepsOf row.definitionId) (s.retries row.workflowId))
    (hself : ∀ row, s.workflows.find? workflowId = some row →
      row.control.Within (s.stepsOf row.definitionId) (s'.retries workflowId)) :
    ∀ row ∈ s'.workflows.rows,
      row.control.Within (s'.stepsOf row.definitionId) (s'.retries row.workflowId) := by
  have hsteps : s'.stepsOf = s.stepsOf := by cases h <;> rfl
  intro row hrow
  rw [h.workflows_eq] at hrow
  rw [hsteps]
  by_cases hid : row.workflowId = workflowId
  · rw [hid]
    exact hself row (hid ▸ s.workflows.find?_of_mem hrow)
  · refine (hoths row hrow hid).mono fun stepId => ?_
    have hle := h.retries_le row.workflowId stepId
    rwa [if_neg fun hself => hid hself.1] at hle

variable {s₀ : OrchestrationStore env}

/-- Resuming a workflow with a scheduled retry is excluded. -/
theorem Saves.due_eq_none {c : RuntimeCall env} {workflow updated : WorkflowInstance}
    (h : Saves s₀ c s workflow updated action payload) (htimed : workflow.control.Timed)
    (hrsm : s₀.resumes Control.delayed (.call c) = false) (hactn : action = .resume) :
    workflow.control.due = none := by
  obtain ⟨hcall, hwfs⟩ := h.resume hactn
  rcases (hactn ▸ h.step).of_resume with hst | hst
  · have hstd : s₀.workflows.find? workflow.workflowId = some workflow := hwfs ▸ h.stored
    have hsuspended : workflow.state = .suspended := hst
    rw [hcall, resumes, hstd, any_some, hsuspended, beq_self_eq_true, Bool.true_and] at hrsm
    simpa [Control.delayed] using hrsm
  · exact htimed.taken (.inr (.inr hst))

/-- One write of an operation of `LocalDurableRuntime`. -/
theorem RetriesWithin.move {c : RuntimeCall env} (hloc : c.isLocal = true)
    (hrsm : s₀.resumes Control.delayed (.call c) = false) (hmove : Move s₀ c s s')
    (h : RetriesWithin s) : RetriesWithin s' := by
  have howned := h.owned.move hmove
  have hdefs := hmove.definitions_eq
  cases hmove with
  | @waited wait _ =>
    obtain ⟨-, hwfs, hevs⟩ := s.saveWait_frame wait
    refine ⟨howned, ?_, ?_⟩
    · rw [hwfs, hdefs]
      exact h.known
    · rw [hwfs]
      intro row hrow
      rw [stepsOf, hdefs]
      refine (h.within row hrow).mono fun stepId => ?_
      rw [retries, eventsOf, hevs]
      exact le_refl _
  | @created _ workflow payload workflows hkn hver hctl hins hlog =>
    obtain ⟨hfr, hrows⟩ := Table.insert_eq_some_iff.mp hins
    have hold : ∀ row ∈ workflows.rows, row = workflow ∨ row ∈ s.workflows.rows := by
      intro row hrow
      rw [hrows] at hrow
      simpa [or_comm] using hrow
    refine ⟨howned, ?_, hlog.within ?_ ?_⟩
    · rw [hlog.workflows_eq, hdefs]
      intro row hrow
      rcases hold row hrow with rfl | hrow
      · exact hkn
      · exact h.known row hrow
    · intro row hrow hne
      rcases hold row hrow with rfl | hrow
      · exact absurd rfl hne
      · exact h.within row hrow
    · intro row hrow
      have hstd : workflows.find? workflow.workflowId = some row := hrow
      rw [Table.find?_insert hins, if_pos rfl, some.injEq] at hstd
      rw [← hstd, hctl]
      refine Control.Within.start fun stepId => Nat.le_zero.mp ?_
      have hzero : s.retries workflow.workflowId stepId = 0 := by
        rw [retries, h.owned.eventsOf_eq_nil hfr, countP_nil]
      have hle := hlog.retries_le workflow.workflowId stepId
      rw [if_neg (by simp)] at hle
      exact hle.trans_eq hzero
  | @received _ workflow payload hstd hlog =>
    refine ⟨howned, ?_, hlog.within (fun row hrow _ => h.within row hrow) ?_⟩
    · rw [hlog.workflows_eq, hdefs]
      exact h.known
    · intro row hrow
      obtain ⟨hmem, hid⟩ := Table.find?_eq_some_iff.mp hrow
      refine (h.within row hmem).mono fun stepId => ?_
      have hle := hlog.retries_le workflow.workflowId stepId
      rw [hid]
      rwa [if_neg (by simp)] at hle
  | @saved _ workflow updated action payload hsv hlog =>
    obtain ⟨hmem, -⟩ := Table.find?_eq_some_iff.mp hsv.stored
    refine ⟨howned, ?_, hlog.within ?_ ?_⟩
    · rw [hlog.workflows_eq, hdefs]
      intro row hrow
      rcases Table.mem_replace.mp hrow with ⟨rfl, -⟩ | ⟨hrow, -⟩
      · rw [hsv.definitionId]
        exact h.known workflow hmem
      · exact h.known row hrow
    · intro row hrow hne
      rcases Table.mem_replace.mp hrow with ⟨rfl, -⟩ | ⟨hrow, -⟩
      · exact absurd hsv.workflowId hne
      · exact h.within row hrow
    · intro row hrow
      have hstd : (s.workflows.replace updated).find? workflow.workflowId = some row := hrow
      rw [Table.find?_replace, if_pos hsv.workflowId, hsv.stored, map_some, some.injEq] at hstd
      rw [← hstd, hsv.definitionId]
      refine (h.within workflow hmem).step hsv.step (s.stepsOf_nodup _) (fun stepId => ?_)
        (hsv.due_eq_none (h.within workflow hmem).timed hrsm) ?_
      · refine (hlog.retries_le workflow.workflowId stepId).trans ?_
        refine Nat.add_le_add_left ?_ _
        split_ifs with hretry hnamed hnamed
        · exact le_refl _
        · -- The payload names the current step.
          obtain ⟨step, hstep, hpay⟩ := hsv.retry hretry.2.1
          rw [hpay, some.injEq] at hretry
          refine absurd ⟨hretry.2.1, ?_⟩ hnamed
          change ((s.stepsOf workflow.definitionId)[workflow.currentStepIndex]?).map _ = _
          rw [hstep, map_some, jsonString_injective hretry.2.2]
        · exact Nat.zero_le _
        · exact le_refl _
      · intro hsvc
        refine RuntimeCall.service_not_mem hloc ?_ hsv.called
        simp only [mem_cons, not_mem_nil, or_false] at hsvc ⊢
        tauto

/-! ### Runs -/

theorem RetriesWithin.step {op : RuntimeOp env} (h : RetriesWithin s) (hloc : op.isLocal = true)
    (hrsm : s.resumes Control.delayed op = false) : RetriesWithin (op.step s) := by
  refine step_invariant ?_ ?_ ?_ h
  · exact fun t => ⟨fun h => ⟨h.owned, h.known, h.within⟩, fun h => ⟨h.owned, h.known, h.within⟩⟩
  · intro definition
    have hkn : ∀ row ∈ s.workflows.rows,
        (s.registerDefinition definition).definitions.find? row.definitionId =
          s.definitions.find? row.definitionId := by
      intro row hrow
      obtain ⟨known, hfind⟩ := isSome_iff_exists.mp (h.known row hrow)
      rw [hfind]
      exact find?_registerDefinition hfind definition
    refine ⟨h.owned, fun row hrow => ?_, fun row hrow => ?_⟩
    · rw [hkn row hrow]
      exact h.known row hrow
    · rw [stepsOf, hkn row hrow]
      exact h.within row hrow
  · rintro c rfl t t' hmove ht
    have hrsm : s.history.resumes Control.delayed (.call c) = false := hrsm
    exact ht.move hloc hrsm hmove

/-- In a run of `LocalDurableRuntime` in which no suspended workflow with a scheduled retry is
resumed, every step of a workflow has at most one retry less than attempts, and a workflow in
`RETRY_SCHEDULED` is running again only by a call at the due time of the retry or later. -/
theorem retries_bounded (definitions : Table String (WorkflowDefinition env.sha)
      WorkflowDefinition.definitionId) (ops : List (RuntimeOp env))
    (hloc : ∀ op ∈ ops, op.isLocal = true)
    (hrsm : Along (fun s op => s.resumes Control.delayed op = false) RuntimeOp.step
      { definitions := definitions } ops) :
    let run := runCalls step ({ definitions := definitions } : OrchestrationStore env)
    (∀ workflow ∈ (run ops).workflows.rows, ∀ definition,
      (run ops).definitions.find? workflow.definitionId = some definition →
      ∀ step ∈ definition.steps, (run ops).retries workflow.workflowId step.stepId ≤
        step.retryPolicy.maxAttempts - 1) ∧
    ∀ earlier later op, earlier ++ (later ++ [op]) <+: ops → ∀ workflow,
      (run earlier).workflows.find? workflow.workflowId = some workflow →
      workflow.state = .retryScheduled →
      Along (fun s _ => s.inState workflow.workflowId .running = false) step
        (run earlier) (later ++ [op]) →
      (run (earlier ++ (later ++ [op]))).inState workflow.workflowId .running = true →
      ∃ c due, op = .call c ∧ workflow.retryAvailableAtUtc = some due ∧ due ≤ c.now := by
  intro run
  have hsta : RetriesWithin ({ definitions := definitions } : OrchestrationStore env) :=
    ⟨by simp [Owned], by simp, by simp⟩
  have hrun := (Along.of_mem hloc _).and hrsm
  refine ⟨?_, ?_⟩
  · intro workflow hwf definition hdef step hstep
    have hwi := (hrun.invariant (fun h hop => h.step hop.1 hop.2) hsta).within workflow hwf
    rw [stepsOf, hdef] at hwi
    exact Nat.le_sub_one_of_lt (hwi.bounded step hstep)
  · rintro earlier later op ⟨rest, rfl⟩ workflow hwf hst hnot hend
    obtain ⟨hearlier, hrest⟩ := hrun.of_append.1.of_append
    have hmem := (Table.find?_eq_some_iff.mp hwf).1
    have htimed :=
      ((hearlier.invariant (fun h hop => h.step hop.1 hop.2) hsta).within workflow hmem).timed
    have hheld : StillHeld workflow (run earlier) := ⟨workflow, hwf, _, mem_cons_self, rfl⟩
    have hend' := hend
    rw [show run (earlier ++ (later ++ [op])) = _ from runCalls_append _ _ _ _] at hend'
    obtain ⟨c, rfl, t, before, after, action, payload, hrel⟩ :=
      held_until (.inr hst) (htimed.scheduled hst)
        ((hrest.and hnot).imp fun _ _ h => ⟨h.1.1, h.1.2, h.2⟩) hheld hend'
    have hsched : before.control.state = .retryScheduled := by
      rw [hrel.control]
      exact hst
    have hstep := hrel.saves.step
    rcases hrel.action with rfl | rfl
    · rw [hstep.of_leaveWait] at hsched
      cases hsched
    · obtain ⟨due, hdue, hle⟩ := hstep.due_of_assign hsched
      rw [hrel.control] at hdue
      exact ⟨c, due, rfl, hdue, hle⟩

/-- The step fails, and the workflow is suspended and resumed at once. -/
def failAndResume (now : Instant) : List (RuntimeOp byteEnv) :=
  [.call (.failStep noteWorkflowId "LOST" "worker lost" true now),
    .call (.suspend noteWorkflowId now), .call (.resume noteWorkflowId now)]

/-- The only attempt of the step fails three times, with three retries where two are allowed. The
first retry is due at `1000001`, and the workflow is running again at `1`. -/
theorem retries_unbounded :
    let run := runCalls step ({ definitions := .empty } : OrchestrationStore byteEnv)
    let first := noteStarted ++ [.call (.failStep noteWorkflowId "LOST" "worker lost" true 1)]
    let s := run (noteStarted ++ failAndResume 1 ++ failAndResume 2 ++ failAndResume 3)
    noteDefinition.steps.map (fun step => (step.stepId, step.retryPolicy.maxAttempts)) =
        [("write", 3)] ∧
      s.workflows.rows.map WorkflowInstance.definitionId = [noteDefinition.definitionId] ∧
      s.retries noteWorkflowId "write" = 3 ∧
      ((run first).workflows.find? noteWorkflowId).map
        (fun workflow => (workflow.state, workflow.retryAvailableAtUtc)) =
          some (.retryScheduled, some 1000001) ∧
      (run (noteStarted ++ failAndResume 1)).inState noteWorkflowId .running = true := by
  decide +kernel

def failedNote : List (RuntimeOp byteEnv) :=
  noteStarted ++ [.call (.failStep noteWorkflowId "LOST" "worker lost" true 1)]

/-- The retry is taken up after its due time. -/
def retriedNote : List (RuntimeOp byteEnv) :=
  failedNote ++ ([.call (.heartbeat "w" 1 60 1000001)] ++
    [.call (.assignWorker noteWorkflowId "w" 1 1000002)])

theorem retries_bounded_retriedNote :
    let run := runCalls step ({ definitions := .empty } : OrchestrationStore byteEnv)
    (∃ workflow ∈ (run retriedNote).workflows.rows, ∃ definition,
      (run retriedNote).definitions.find? workflow.definitionId = some definition ∧
      ∃ step ∈ definition.steps, (run retriedNote).retries workflow.workflowId step.stepId = 1 ∧
        (run retriedNote).retries workflow.workflowId step.stepId ≤
          step.retryPolicy.maxAttempts - 1) ∧
    ∃ workflow, (run failedNote).workflows.find? noteWorkflowId = some workflow ∧
      ∃ due, workflow.retryAvailableAtUtc = some due ∧ due ≤ 1000002 := by
  have hfa :
      let run := runCalls step ({ definitions := .empty } : OrchestrationStore byteEnv)
      Along (fun s op => s.resumes Control.delayed op = false) step
        { definitions := .empty } retriedNote ∧
      (∃ workflow ∈ (run retriedNote).workflows.rows,
        ((run retriedNote).definitions.find? workflow.definitionId).any (fun definition =>
          definition.steps.any fun step =>
            (run retriedNote).retries workflow.workflowId step.stepId == 1) = true) ∧
      ((run failedNote).workflows.find? noteWorkflowId).map WorkflowInstance.state =
        some .retryScheduled ∧
      Along (fun s _ => s.inState noteWorkflowId .running = false) step
        (run failedNote) ([.call (.heartbeat "w" 1 60 1000001)] ++
          [.call (.assignWorker noteWorkflowId "w" 1 1000002)]) ∧
      (run retriedNote).inState noteWorkflowId .running = true := by
    decide +kernel
  have hbounded := retries_bounded .empty retriedNote (by decide)
  -- The stores are not to be computed again.
  generalize runCalls step ({ definitions := .empty } : OrchestrationStore byteEnv) = run
    at hfa hbounded ⊢
  obtain ⟨hrsm, ⟨row, hrow, hcnt⟩, hstd, hnot, hend⟩ := hfa
  obtain ⟨hbd, hdue⟩ := hbounded hrsm
  obtain ⟨definition, hdef, hsteps⟩ := (any_eq_true _ _).mp hcnt
  obtain ⟨step, hstep, hone⟩ := any_eq_true.mp hsteps
  obtain ⟨workflow, hfind, hst⟩ := map_eq_some_iff.mp hstd
  obtain ⟨-, hid⟩ := Table.find?_eq_some_iff.mp hfind
  refine ⟨⟨row, hrow, definition, hdef, step, hstep, beq_iff_eq.mp hone,
    hbd row hrow definition hdef step hstep⟩, workflow, hfind, ?_⟩
  rw [← hid] at hfind hnot hend
  obtain ⟨c, due, hcall, hsome, hle⟩ :=
    hdue failedNote [.call (.heartbeat "w" 1 60 1000001)] _ prefix_rfl workflow hfind hst hnot hend
  cases hcall
  exact ⟨due, hsome, hle⟩

end ProjectPipeline
