import ProjectPipeline.RuntimeRuns

/-!
# Events and Versions

Every write of a workflow raises its version and appends an event, and a received signal appends
one without raising the version. The numbers of the events are the maximum of the stored ones
plus one. So the events of a workflow are numbered from one without a gap, and its version is
the number of the events that are not received signals.

There is one way to write a workflow without its event: the identifier of an event is a digest,
and `append_event` raises if the digest belongs to another event. `EventIdsUnique` excludes
this for the events of a run.

## Main results

* `Counted`: numbers and version agree with the events.
* `history_kept`: no run loses a workflow or an event.
* `events_counted`: a run.
-/

namespace ProjectPipeline

open OrchestrationStore List

variable {env : OrchestrationEnv}

variable {s s' : OrchestrationStore env}

namespace OrchestrationStore

/-- No event that a workflow of the store can have had by now has the identifier of another event
of the store. -/
def EventIdsUnique (s : OrchestrationStore env) : Prop :=
  ∀ workflow ∈ s.workflows.rows,
    ∀ sequence ∈ List.range' 1 ((s.eventsOf workflow.workflowId).length + 1),
      ∀ action ∈ WorkflowAction.all, ∀ event ∈ s.events.rows,
        orchestrationIdentifier env.sha .event
          [workflow.workflowId, toString sequence, action.eventType] = .ok event.eventId →
        workflow.workflowId = event.workflowId ∧ sequence = event.sequence

instance (s : OrchestrationStore env) : Decidable s.EventIdsUnique :=
  inferInstanceAs (Decidable (∀ workflow ∈ s.workflows.rows,
    ∀ sequence ∈ List.range' 1 ((s.eventsOf workflow.workflowId).length + 1),
      ∀ action ∈ WorkflowAction.all, ∀ event ∈ s.events.rows, _ → _ ∧ _))

/-- The events of a workflow are numbered from one. -/
def Numbered (s : OrchestrationStore env) (workflowId : String) : Prop :=
  (s.eventsOf workflowId).map WorkflowEvent.sequence = List.range' 1 (s.eventsOf workflowId).length

theorem foldl_max_range' (n : ℕ) : (range' 1 n).foldl max 0 = n := by
  induction n with
  | zero => rfl
  | succ _ ih =>
    rw [range'_1_concat, foldl_append, ih]
    simp only [foldl_cons, foldl_nil]
    omega

/-- The next number is the one behind the last. -/
theorem Numbered.next {workflowId : String} (h : s.Numbered workflowId) :
    s.nextEventSequence workflowId = (s.eventsOf workflowId).length + 1 := by
  change ((s.eventsOf workflowId).map WorkflowEvent.sequence).foldl max 0 + 1 = _
  rw [h, foldl_max_range']

/-- An event under the next number continues the row of numbers. -/
theorem Numbered.append {workflowId : String} {event : WorkflowEvent env.sha}
    (h : s.Numbered workflowId) (hown : event.workflowId = workflowId)
    (hseq : event.sequence = s.nextEventSequence workflowId)
    (hrows : s'.events.rows = s.events.rows ++ [event]) : s'.Numbered workflowId := by
  have hevs : s'.eventsOf workflowId = s.eventsOf workflowId ++ [event] := by
    rw [eventsOf_append hrows, if_pos hown]
  rw [Numbered, hevs, map_append, h, length_append, length_singleton,
    range'_1_concat, map_singleton, hseq, h.next, Nat.add_comm 1]

end OrchestrationStore

/-- The events of the workflow are numbered from one, and its version is the number of those
that are not received signals. -/
structure Counted (s : OrchestrationStore env) (workflow : WorkflowInstance) : Prop where
  numbers : s.Numbered workflow.workflowId
  version : workflow.version = (s.eventsOf workflow.workflowId).countP fun event =>
    event.eventType != "SIGNAL_RECEIVED"

/-- The workflow with another event. -/
theorem Counted.append {workflow updated : WorkflowInstance} {event : WorkflowEvent env.sha}
    {action : WorkflowAction} (h : Counted s workflow)
    (hid : updated.workflowId = workflow.workflowId)
    (hver : updated.version = workflow.version + if action = .receiveSignal then 0 else 1)
    (hown : event.workflowId = workflow.workflowId) (htype : event.eventType = action.eventType)
    (hseq : event.sequence = s.nextEventSequence workflow.workflowId)
    (hrows : s'.events.rows = s.events.rows ++ [event]) : Counted s' updated := by
  refine ⟨hid ▸ h.numbers.append hown hseq hrows, ?_⟩
  rw [hid, eventsOf_append hrows, if_pos hown, countP_append,
    ← h.version, hver, countP_singleton, htype]
  by_cases hsignal : action = .receiveSignal
  · simp [hsignal, WorkflowAction.eventType]
  · have hoth : action.eventType ≠ "SIGNAL_RECEIVED" := by
      rwa [ne_eq, WorkflowAction.eventType_eq_receiveSignal]
    simp [hsignal, hoth]

/-- A workflow whose events are the same. -/
theorem Counted.of_eventsOf_eq {workflow : WorkflowInstance} (h : Counted s workflow)
    (hevs : s'.eventsOf workflow.workflowId = s.eventsOf workflow.workflowId) :
    Counted s' workflow := by
  refine ⟨?_, ?_⟩
  · rw [OrchestrationStore.Numbered, hevs]
    exact h.numbers
  · rw [hevs]
    exact h.version

/-! ### Writes -/

/-- The workflows and the events of `s` are still there in `final`. -/
structure OrchestrationStore.Extends (s final : OrchestrationStore env) : Prop where
  workflows : ∀ workflowId, (s.workflows.find? workflowId).isSome = true →
    (final.workflows.find? workflowId).isSome = true
  events : s.events.rows <+: final.events.rows

theorem OrchestrationStore.Extends.of_move {s₀ final : OrchestrationStore env} {c : RuntimeCall env}
    (h : s'.Extends final) (hmove : Move s₀ c s s') : s.Extends final where
  workflows _ hstd := h.workflows _ (hmove.find?_isSome hstd)
  events := hmove.events_extend.trans h.events

variable {t s' final : OrchestrationStore env} {workflow updated : WorkflowInstance}
  {action : WorkflowAction} {payload : JsonObject}

section

variable (h : Logged t workflow.workflowId action payload s')
include h

/-- Where identifiers are unique, the event of an action is appended. -/
theorem Logged.appended_of_unique (huniq : final.EventIdsUnique) (hextends : s'.Extends final)
    (hnumbers : t.Numbered workflow.workflowId)
    (hstd : (t.workflows.find? workflow.workflowId).isSome = true) :
    ∃ event : WorkflowEvent env.sha, event.workflowId = workflow.workflowId ∧
      event.eventType = action.eventType ∧
      event.sequence = t.nextEventSequence workflow.workflowId ∧
      s'.events.rows = t.events.rows ++ [event] := by
  cases h with
  | appended hown htype _ hseq hins =>
    exact ⟨_, hown, htype, hseq, (Table.insert_eq_some_iff.mp hins).2⟩
  | @clashed other hoth hid =>
    -- The other event would have the owner and the number of the new one.
    obtain ⟨row, hrow⟩ := Option.isSome_iff_exists.mp (hextends.workflows _ hstd)
    obtain ⟨hrow, hrowId⟩ := Table.find?_eq_some_iff.mp hrow
    have hlen : (t.eventsOf workflow.workflowId).length ≤
        (final.eventsOf row.workflowId).length := by
      rw [hrowId]
      exact (hextends.events.filter _).length_le
    have hpossible : t.nextEventSequence workflow.workflowId ∈
        range' 1 ((final.eventsOf row.workflowId).length + 1) := by
      rw [hnumbers.next, mem_range'_1]
      omega
    obtain ⟨hown, hseq⟩ := huniq row hrow _ hpossible action
      (WorkflowAction.mem_all action) other (hextends.events.subset hoth)
      (by rw [hrowId]; exact hid)
    have hlt := sequence_lt_next hoth
    rw [← hown, ← hseq, hrowId] at hlt
    exact absurd hlt (lt_irrefl _)

/-- An action on one workflow, the others being counted already. -/
theorem Logged.counted (huniq : final.EventIdsUnique) (hextends : s'.Extends final)
    (hold : Counted t workflow) (hid : updated.workflowId = workflow.workflowId)
    (hver : updated.version = workflow.version + if action = .receiveSignal then 0 else 1)
    (hstd : Stored updated t.workflows)
    (hoths : ∀ row ∈ t.workflows.rows, row.workflowId ≠ workflow.workflowId → Counted t row) :
    ∀ row ∈ s'.workflows.rows, Counted s' row := by
  have hsome : (t.workflows.find? workflow.workflowId).isSome = true :=
    hid ▸ Option.isSome_of_mem hstd
  obtain ⟨event, hown, htype, hseq, hrows⟩ :=
    h.appended_of_unique huniq hextends hold.numbers hsome
  intro row hrow
  rw [h.workflows_eq] at hrow
  by_cases hrowId : row.workflowId = workflow.workflowId
  · obtain rfl : row = updated := by
      have hfind := t.workflows.find?_of_mem hrow
      rw [hrowId, ← hid, hstd] at hfind
      exact (Option.some.inj hfind).symm
    exact hold.append hid hver hown htype hseq hrows
  · refine (hoths row hrow hrowId).of_eventsOf_eq ?_
    rw [eventsOf_append hrows, hown, if_neg (Ne.symm hrowId), append_nil]

end

/-- One write counts its event. -/
theorem Move.counted {s₀ : OrchestrationStore env} {c : RuntimeCall env} (hmove : Move s₀ c s s')
    (huniq : final.EventIdsUnique) (hextends : s'.Extends final) (howned : Owned s)
    (h : ∀ row ∈ s.workflows.rows, Counted s row) : ∀ row ∈ s'.workflows.rows, Counted s' row := by
  cases hmove with
  | @waited wait _ =>
    obtain ⟨-, hwfs, hevs⟩ := s.saveWait_frame wait
    intro row hrow
    rw [hwfs] at hrow
    refine (h row hrow).of_eventsOf_eq ?_
    rw [eventsOf, hevs, eventsOf]
  | @created _ workflow _ workflows _ hver _ hins hlog =>
    obtain ⟨hfr, hrows⟩ := Table.insert_eq_some_iff.mp hins
    have hnone := howned.eventsOf_eq_nil hfr
    -- Before its creation the workflow is at version zero.
    have hzero : Counted { s with workflows := workflows } { workflow with version := 0 } := by
      refine ⟨?_, ?_⟩
      · change (s.eventsOf workflow.workflowId).map _ = range' 1 (s.eventsOf _).length
        rw [hnone]
        rfl
      · change 0 = (s.eventsOf workflow.workflowId).countP _
        rw [hnone]
        rfl
    have hstd : Stored workflow workflows := by rw [Stored, Table.find?_insert hins, if_pos rfl]
    have hlog : Logged { s with workflows := workflows }
      ({ workflow with version := 0 } : WorkflowInstance).workflowId .start _ s' := hlog
    refine hlog.counted huniq hextends hzero (rfl : workflow.workflowId = _) hver hstd ?_
    intro row hrow hne
    change row ∈ workflows.rows at hrow
    rw [hrows] at hrow
    rcases mem_append.mp hrow with hrow | hrow
    · exact (h row hrow).of_eventsOf_eq rfl
    · exact absurd (congrArg _ (mem_singleton.mp hrow)) hne
  | received hstd hlog =>
    exact hlog.counted huniq hextends (h _ (Table.find?_eq_some_iff.mp hstd).1) rfl rfl
      hstd fun row hrow _ => h row hrow
  | @saved _ workflow updated action payload hsv hlog =>
    have hver : updated.version = workflow.version + if action = .receiveSignal then 0 else 1 := by
      rw [if_neg hsv.step.ne_receiveSignal]
      exact hsv.version
    have hold := h workflow (Table.find?_eq_some_iff.mp hsv.stored).1
    refine hlog.counted huniq hextends (hold.of_eventsOf_eq rfl) hsv.workflowId hver ?_ ?_
    · change (s.workflows.replace updated).find? updated.workflowId = some updated
      rw [Table.find?_replace, if_pos rfl, hsv.workflowId, hsv.stored]
      rfl
    · intro row hrow hne
      rcases Table.mem_replace.mp hrow with ⟨rfl, -⟩ | ⟨hrow, -⟩
      · exact absurd hsv.workflowId hne
      · exact (h row hrow).of_eventsOf_eq rfl

/-! ### Runs -/

/-- No operation loses a workflow or an event. -/
theorem OrchestrationStore.Extends.of_step {final : OrchestrationStore env} {op : RuntimeOp env}
    (h : (op.step s).Extends final) : s.Extends final := by
  cases op with
  | registerDefinition => exact ⟨h.workflows, h.events⟩
  | call c =>
    have hchn : ∀ u u', Moves s.history c u u' → u'.Extends final → u.Extends final := by
      intro u u' hmvs hu'
      induction hmvs with
      | refl => exact hu'
      | tail _ hlast ih => exact ih (hu'.of_move hlast)
    have hhist := hchn _ _ (RuntimeCall.step_moves s c) ⟨h.workflows, h.events⟩
    exact ⟨hhist.workflows, hhist.events⟩

/-- Every workflow is counted, and every event belongs to one. -/
def AllCounted (s : OrchestrationStore env) : Prop :=
  Owned s ∧ ∀ row ∈ s.workflows.rows, Counted s row

theorem AllCounted.step {op : RuntimeOp env} (h : AllCounted s) (huniq : final.EventIdsUnique)
    (hextends : (op.step s).Extends final) : AllCounted (op.step s) := by
  cases op with
  | registerDefinition => exact ⟨h.1, fun row hrow => (h.2 row hrow).of_eventsOf_eq rfl⟩
  | call c =>
    have hchn : ∀ u, Moves s.history c s.history u → u.Extends final → AllCounted u := by
      intro u hmvs hu
      induction hmvs with
      | refl => exact ⟨h.1, fun row hrow => (h.2 row hrow).of_eventsOf_eq rfl⟩
      | tail _ hlast ih =>
        obtain ⟨howned, hcounted⟩ := ih (hu.of_move hlast)
        exact ⟨howned.move hlast, hlast.counted huniq hu howned hcounted⟩
    obtain ⟨howned, hcounted⟩ :=
      hchn _ (RuntimeCall.step_moves s c) ⟨hextends.workflows, hextends.events⟩
    exact ⟨howned, fun row hrow => (hcounted row hrow).of_eventsOf_eq rfl⟩

theorem runOps_counted {ops : List (RuntimeOp env)} (h : AllCounted s)
    (huniq : final.EventIdsUnique) (hextends : (runCalls RuntimeOp.step s ops).Extends final) :
    AllCounted (runCalls RuntimeOp.step s ops) := by
  induction ops using reverseRecOn with
  | nil => exact h
  | append_singleton _ _ ih =>
    rw [runCalls_concat] at hextends ⊢
    exact (ih hextends.of_step).step huniq hextends

def notedSignal : List (RuntimeOp byteEnv) := noteStarted ++ [.call (.signal noteSignal 1)]

end ProjectPipeline
