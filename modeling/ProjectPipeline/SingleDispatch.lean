import ProjectPipeline.AutonomyService
import ProjectPipeline.Completion
import ProjectPipeline.Interruptions

/-!
# At Most One Dispatch

The service calls the dispatch adapter right after it has taken the operation from
`DISPATCH_INTENT_RECORDED` to `DISPATCHED`. No transition leads back, so a process that is
restarted after a stop does not dispatch the operation again, wherever the first one was stopped.

## Main results

* `Autonomy.dispatch_throughout`: the adapter is called for an operation that has never been
  dispatched before.
* `dispatched_at_most_once`: the statement about all runs.
-/

namespace ProjectPipeline

open Supervisor AutonomyStep

/-! ### Operations that have left the intent -/

/-- The dispatch of an operation lies behind it. -/
def SupervisorDb.PastIntent (operationId : String) (db : SupervisorDb) : Prop :=
  ∃ state, db.stateOf operationId = some state ∧ state ≠ .planning ∧ state ≠ .dispatchIntentRecorded

/-- No transition leads back to the intent. -/
theorem OperationState.Allowed.past_intent {a b : OperationState} (h : a.Allowed b)
    (ha : a ≠ .planning ∧ a ≠ .dispatchIntentRecorded) :
    b ≠ .planning ∧ b ≠ .dispatchIntentRecorded := by
  revert h ha
  cases a <;> cases b <;> decide

namespace Supervisor

open Txn SupervisorDb

variable {operationId target : String} {db db' : SupervisorDb}

/-- An operation stays past its intent when another one, or itself, makes a transition. -/
theorem pastIntent_transition {a b : OperationState} (h : db.PastIntent target)
    (hfrom : db.stateOf operationId = some a) (halw : a.Allowed b)
    (haft : ∀ k, db'.stateOf k = if k = operationId then some b else db.stateOf k) :
    db'.PastIntent target := by
  obtain ⟨state, hst, hpast⟩ := h
  by_cases htgt : target = operationId
  · rw [htgt, hfrom] at hst
    cases hst
    exact ⟨b, by rw [haft, if_pos htgt], halw.past_intent hpast⟩
  · exact ⟨state, by rw [haft, if_neg htgt, hst], hpast⟩

theorem pastIntent_stable (target : String) : Stable (PastIntent target) where
  congr h hst _ _ := by
    rw [PastIntent, hst]
    exact h
  insert h hfr hst _ _ := by
    obtain ⟨state, hold, hpast⟩ := h
    refine ⟨state, ?_, hpast⟩
    rw [hst, if_neg fun htgt => ?_, hold]
    rw [htgt, hfr] at hold
    cases hold
  transition h hfrom halw _ haft _ _ := pastIntent_transition h hfrom halw haft

/-- Only the operations count. -/
theorem modify_past {f : SupervisorDb → SupervisorDb}
    (hf : ∀ db, (f db).operations = db.operations) :
    Triple (PastIntent target) (modify f) fun _ => PastIntent target := by
  refine .modify fun db h => ?_
  rw [PastIntent, stateOf, hf]
  exact h

/-- Also the write-off leads on. -/
theorem transition_past (operationId : String) (nextState : OperationState) :
    Session.Keeps (PastIntent target) (transition operationId nextState) := by
  refine .transaction fun db u db' h hrun => ?_
  obtain ⟨state, hst, halw, haft, -⟩ := transitionConn_eq_ok hrun
  exact pastIntent_transition h hst halw haft

/-- An operation that is marked was not past its intent before, and is now. -/
theorem markDispatched_eq_ok {u : Unit} (h : markDispatched operationId db = (.ok u, db')) :
    ¬ db.PastIntent operationId ∧ db'.PastIntent operationId := by
  have hrun : transitionConn operationId .dispatched db = .ok (u, db') := by
    rw [markDispatched, transition, Session.transaction] at h
    split at h
    · cases h
    · rename_i hrun
      obtain ⟨hu, hdb⟩ := Prod.mk.inj h
      rw [hrun, Except.ok.inj hu, hdb]
  obtain ⟨state, hst, halw, haft, -⟩ := transitionConn_eq_ok hrun
  have hint : state = .dispatchIntentRecorded := by
    revert halw
    cases state <;> decide
  refine ⟨?_, .dispatched, by rw [haft, if_pos rfl], by decide, by decide⟩
  rintro ⟨state', hst', -, hne⟩
  rw [hst, hint] at hst'
  exact hne (Option.some.inj hst').symm

end Supervisor

namespace Autonomy

variable {α : Type}

/-! ### Steps that dispatch nothing -/

/-- A statement that takes no operation back to its intent, or the call of another adapter. -/
inductive Quiet : AutonomyStep → Prop
  | statement {effect : SupervisorDb → SupervisorDb}
      (h : ∀ target db, db.PastIntent target → (effect db).PastIntent target) :
      Quiet (.statement effect)
  | verify (operationId : String) : Quiet (.invoke (.verify operationId))
  | integrate (operationId : String) : Quiet (.invoke (.integrate operationId))

/-- No operation has been dispatched twice, and those that have been are past their intent. -/
structure DispatchedOnce (s : Autonomy) : Prop where
  once : ∀ operationId, s.invoked.count (.execute operationId) ≤ 1
  past : ∀ operationId, .execute operationId ∈ s.invoked → s.db.PastIntent operationId

variable {s : Autonomy}

theorem DispatchedOnce.quiet {instr : AutonomyStep} (hqt : Quiet instr) (h : DispatchedOnce s) :
    DispatchedOnce (instr.exec s) := by
  cases hqt with
  | statement hadvances => exact ⟨h.once, fun target ht => hadvances target _ (h.past target ht)⟩
  | verify | integrate =>
    refine ⟨fun target => ?_, fun target ht => h.past target ?_⟩
    · simpa [exec] using h.once target
    · simpa [exec] using ht

variable {session : Session SupervisorDb α}

theorem quiet_store (h : ∀ target, session.Keeps (SupervisorDb.PastIntent target)) :
    (store session).Uses Quiet :=
  .call (.statement fun target db hpast => h target db hpast)

/-- The methods of the supervisor take no operation back. -/
theorem quiet_stable
    (h : ∀ {Inv : SupervisorDb → Prop}, SupervisorDb.Stable Inv → session.Keeps Inv) :
    (store session).Uses Quiet :=
  quiet_store fun target => h (pastIntent_stable target)

theorem quiet_select (query : SupervisorDb → Except PyError α) : (select query).Uses Quiet :=
  .call (.statement fun _ _ hpast => hpast)

theorem quiet_tryExcept {β : Type} {body : AutonomyProg α} {caught : PyError → Bool}
    {handler : PyError → AutonomyProg β} {rest : α → AutonomyProg β} (hbody : body.Uses Quiet)
    (hhandler : ∀ error, (handler error).Uses Quiet) (hrest : ∀ a, (rest a).Uses Quiet) :
    (tryExcept body caught handler rest).Uses Quiet := by
  refine hbody.andThen fun result => ?_
  cases result with
  | ok a => exact hrest a
  | error error => exact .ite (hhandler error) (.done _)

/-! ### The parts of the service -/

section

variable (operationId : String)

theorem quiet_operationRecord : (operationRecord operationId).Uses Quiet :=
  quiet_store fun _ => .transaction (operation_keeps operationId)

theorem quiet_markUnknownOutcome :
    (markUnknownOutcome operationId).Uses Quiet := by
  refine .bind (quiet_store fun _ => transition_past _ _) fun _ =>
    quiet_stable fun hinv => .transaction ?_
  exact .bind (updateOperation_keeps hinv.preserved _ _ _ fun _ => rfl) fun _ =>
    .modify fun _ h => hinv.congr h (fun _ => rfl) rfl rfl

theorem quiet_reconcileUnknownOutcome (applied : Bool) :
    (reconcileUnknownOutcome operationId applied).Uses Quiet := by
  refine .bind (quiet_operationRecord _) fun _ => ?_
  refine .bind (.ite (quiet_store fun _ => transition_past _ _) (.pure _)) fun _ =>
    quiet_stable fun hinv => .transaction ?_
  exact .bind (updateOperation_keeps hinv.preserved _ _ _ fun _ => rfl) fun _ =>
    .modify fun _ h => hinv.congr h (fun _ => rfl) rfl rfl

theorem quiet_completeOperation :
    (completeOperation operationId).Uses Quiet := by
  refine .bind (quiet_operationRecord _) fun row => .ite (.done _) ?_
  refine quiet_store fun target => .transaction (.bind (operation_keeps _) fun _ => ?_)
  refine .bind (R := fun _ => SupervisorDb.PastIntent target)
    (.onlyIf (fun _ => transitionConn_keeps (pastIntent_stable target).preserved
      fun _ => by decide) fun _ _ h => h) fun _ => ?_
  exact .bind (modify_past fun _ => rfl) fun _ => modify_past fun _ => rfl

end

variable (env : AutonomyEnv) (call : RunOnce)

section

variable (operationId : String) (payload : JsonDict)

theorem quiet_integrateAndFinish (verification : Option Verification)
    (receipt : Option DispatchReceipt) :
    (integrateAndFinish env call operationId payload verification receipt).Uses Quiet := by
  refine .bind (quiet_operationRecord _) fun record => ?_
  refine .bind (.ite (quiet_store fun _ => transition_past _ _) (.pure _)) fun _ => ?_
  refine quiet_tryExcept (.call (.integrate operationId)) (fun error => ?_) fun ref => ?_
  · exact .bind (quiet_markUnknownOutcome _) fun _ => .pure _
  · refine .bind (quiet_stable fun hinv => markIntegrated_keeps hinv.preserved _ _) fun _ => ?_
    refine .bind (quiet_completeOperation _) fun _ => ?_
    exact .bind (quiet_select _) fun _ => .pure _

theorem quiet_verifyAndFinish (result : JsonValue) (receipt : Option DispatchReceipt) :
    (verifyAndFinish env call operationId payload result receipt).Uses Quiet := by
  refine .bind (quiet_operationRecord _) fun record => ?_
  dsimp only
  split
  · refine .bind (.call (.verify operationId)) fun verification => .ite ?_ ?_
    · exact .bind (quiet_stable fun hinv => markVerified_keeps hinv.preserved _ _) fun _ =>
        quiet_integrateAndFinish env call operationId payload _ _
    · refine .bind (quiet_stable fun hinv => ?_) fun _ => .pure _
      exact markVerificationFailed_keeps hinv.preserved _ _ _ (by decide)
  · refine .bind (quiet_stable fun hinv => ?_) fun _ => .pure _
    exact markVerificationFailed_keeps hinv.preserved _ _ _ (by decide)

theorem quiet_recordDispatch (operationId status : String)
    (result : JsonDict) : (recordDispatch env call operationId status result).Uses Quiet :=
  .bind (.ofExcept _) fun _ => quiet_stable fun hinv =>
    recordResult_keeps hinv.preserved _ _ _ (by decide)

theorem quiet_afterDispatch (operationId : String) (payload result : JsonDict) :
    (afterDispatch env call operationId payload result).Uses Quiet := by
  refine .ite (.bind (quiet_recordDispatch ..) fun receipt => ?_)
    (.bind (quiet_recordDispatch ..) fun receipt => quiet_verifyAndFinish ..)
  refine .bind (.ofExcept _) fun fingerprint => ?_
  refine .bind (quiet_stable fun hinv => ?_) fun _ => .pure _
  exact markVerificationFailed_keeps hinv.preserved _ _ _ (by decide)

theorem quiet_activeOperation : activeOperation.Uses Quiet := by
  refine .bind (quiet_select _) fun active => ?_
  cases active with
  | none => exact .pure _
  | some =>
    refine .bind (quiet_select _) fun row => .ite ?_ ?_
    · refine .bind (quiet_store fun _ => .transaction ?_) fun _ => .pure _
      exact modify_past fun _ => rfl
    · exact .bind (quiet_operationRecord _) fun _ => .pure _

/-! ### The dispatch -/

/-- The adapter is called for an operation that has never been dispatched before. -/
theorem dispatch_throughout (command : List JsonValue) (worktree : String) (hs : DispatchedOnce s) :
    (dispatch env call operationId payload command worktree).Throughout exec DispatchedOnce s := by
  have hmark := (quiet_store fun _ => transition_past operationId .dispatched).throughout
    (fun _ _ => DispatchedOnce.quiet) hs
  refine hmark.bind fun u s₁ hrun hs₁ => ?_
  -- The mark was set in this call, so the operation was not past its intent.
  obtain ⟨hres, rfl⟩ := Prod.mk.inj hrun
  obtain ⟨hbef, haft⟩ := markDispatched_eq_ok (Prod.ext hres rfl)
  have hnever : AdapterCall.execute operationId ∉ s.invoked := fun h => hbef (hs.past _ h)
  refine Prog.Throughout.bind (.ofExcept hs₁ _) fun timeout s₂ hrun hs₂ => ?_
  obtain ⟨-, rfl⟩ := Prod.mk.inj hrun
  refine .call hs₂ ⟨fun target => ?_, fun target htgt => ?_⟩
  · have honce := hs.once target
    have hzero := List.count_eq_zero.mpr hnever
    by_cases hsame : operationId = target
    · subst hsame
      simp [exec, hzero]
    · simpa [exec, hsame] using honce
  · rcases List.mem_append.mp htgt with hold | hnew
    · exact hs₂.past target hold
    · obtain rfl := AdapterCall.execute.inj (List.mem_singleton.mp hnew)
      exact haft

theorem advanceFromIntent_throughout (hs : DispatchedOnce s) :
    (advanceFromIntent env call operationId payload).Throughout exec DispatchedOnce s := by
  rw [advanceFromIntent]
  split
  · have hrec := (quiet_operationRecord operationId).throughout (fun _ _ => DispatchedOnce.quiet) hs
    refine hrec.bind fun record s₁ _ hs₁ => ?_
    refine (dispatch_throughout _ _ _ _ _ _ hs₁).andThen fun result s₂ _ hs₂ => ?_
    cases result with
    | ok => exact (quiet_afterDispatch ..).throughout (fun _ _ => DispatchedOnce.quiet) hs₂
    | error =>
      refine Prog.Uses.throughout (.ite ?_ (.done _)) (fun _ _ => DispatchedOnce.quiet) hs₂
      exact .bind (quiet_markUnknownOutcome _) fun _ => .pure _
  · refine Prog.Uses.throughout ?_ (fun _ _ => DispatchedOnce.quiet) hs
    exact .bind (quiet_markUnknownOutcome _) fun _ => .pure _

end

theorem resume_throughout (operationId : String) (hs : DispatchedOnce s) :
    (resume env call operationId).Throughout exec DispatchedOnce s := by
  have hrec := (quiet_operationRecord operationId).throughout (fun _ _ => DispatchedOnce.quiet) hs
  refine hrec.bind fun record s₁ _ hs₁ => ?_
  have hpay : (operationPayload env operationId).Uses Quiet := by
    refine .bind (quiet_operationRecord _) fun row => .bind (.ofExcept _) fun payload => ?_
    cases payload <;> exact .done _
  refine (hpay.throughout (fun _ _ => DispatchedOnce.quiet) hs₁).bind
    fun payload s₂ _ hs₂ => ?_
  have hverify : ∀ receipt, (do
      let dispatch ← storedDispatch env receipt
      verifyAndFinish env call operationId payload dispatch none).Uses Quiet := fun receipt =>
    .bind (.ofExcept _) fun dispatch => quiet_verifyAndFinish ..
  have hintegrate : (integrateAndFinish env call operationId payload none none).Uses Quiet :=
    quiet_integrateAndFinish ..
  -- Only from the intent is there a dispatch.
  cases record.state with
  | planning | dispatchIntentRecorded => exact advanceFromIntent_throughout env call operationId payload hs₂
  | dispatched =>
    refine Prog.Uses.throughout (.bind (quiet_select _) fun receipt => ?_)
      (fun _ _ => DispatchedOnce.quiet) hs₂
    cases receipt with
    | none => exact .bind (quiet_markUnknownOutcome _) fun _ => .pure _
    | some receipt => exact hverify receipt
  | unknownOutcome =>
    refine Prog.Uses.throughout (.bind (quiet_select _) fun receipt => ?_)
      (fun _ _ => DispatchedOnce.quiet) hs₂
    cases receipt with
    | none => exact .pure _
    | some receipt => exact .bind (quiet_reconcileUnknownOutcome _ _) fun _ => hverify receipt
  | resultObserved | verificationStarted =>
    refine Prog.Uses.throughout (.bind (quiet_select _) fun receipt => ?_)
      (fun _ _ => DispatchedOnce.quiet) hs₂
    cases receipt with
    | none => exact quiet_verifyAndFinish ..
    | some receipt => exact hverify receipt
  | verifiedResult | integrationIntentRecorded =>
    exact hintegrate.throughout (fun _ _ => DispatchedOnce.quiet) hs₂
  | reconciled =>
    refine Prog.Uses.throughout (.bind (quiet_completeOperation _) fun _ => ?_)
      (fun _ _ => DispatchedOnce.quiet) hs₂
    exact .bind (quiet_select _) fun _ => .pure _
  | integrated | failed | blockedExternal | completed => exact .done hs₂ _

theorem runOnce_throughout (hs : DispatchedOnce s) :
    (runOnce env call).Throughout exec DispatchedOnce s := by
  refine (quiet_activeOperation.throughout (fun _ _ => DispatchedOnce.quiet) hs).bind
    fun active s₁ _ hs₁ => ?_
  cases active with
  | some operationId => exact resume_throughout env call operationId hs₁
  | none =>
    refine ((quiet_select _).throughout (fun _ _ => DispatchedOnce.quiet) hs₁).bind
      fun next s₂ _ hs₂ => ?_
    cases next with
    | none => exact .done hs₂ _
    | some =>
      dsimp only
      split
      · exact .done hs₂ _
      · refine ((quiet_stable fun hinv => startOperation_keeps hinv.preserved _).throughout
          (fun _ _ => DispatchedOnce.quiet) hs₂).bind fun operationId s₃ _ hs₃ => ?_
        exact advanceFromIntent_throughout env call operationId _ hs₃

end Autonomy

/-- **At most one dispatch.** Any tables of the supervisor, and any sequence of calls of
`run_once`, one after the other, with adapters that may raise or return anything; every process
makes any number of steps of its call and is then stopped. The dispatch adapter has been called at
most once for each operation. -/
theorem dispatched_at_most_once (env : AutonomyEnv) (db : SupervisorDb)
    (calls : List (Autonomy.RunOnce × ℕ)) (operationId : String) :
    (runCalls (interrupted AutonomyStep.exec (Autonomy.runOnce env)) { db := db }
      calls).invoked.count (.execute operationId) ≤ 1 := by
  have hsta : Autonomy.DispatchedOnce { db := db } := ⟨fun _ => Nat.zero_le _, nofun⟩
  refine Autonomy.DispatchedOnce.once ?_ operationId
  refine (Along.of_mem (fun _ _ => trivial) _).invariant ?_ hsta
  intro s call h _
  exact (Autonomy.runOnce_throughout env call.1 h).stateAfter call.2

end ProjectPipeline
