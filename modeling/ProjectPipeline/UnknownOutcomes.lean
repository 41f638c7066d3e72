import ProjectPipeline.Completion

/-!
# The Pointer to an Unknown Outcome

`pending_unknown_outcome` is to name the operation in `UNKNOWN_OUTCOME`. It holds one
identifier, and it is written in a transaction of its own, after the one of the state. It is
right (`unknown_outcomes_named`) in every run in which no second outcome becomes unknown
before the first one is reconciled, no result and no failed verification is recorded for an
operation whose outcome is unknown, and no process stops between the two transactions.
-/

namespace ProjectPipeline

open OperationState Supervisor SupervisorDb Txn

variable {db db' : SupervisorDb} {operationId : String} {known : Option String}

/-- The pointer names the operation whose outcome is unknown, if there is one, and this is
not the `known` one. -/
structure SupervisorDb.Tracked (known : Option String) (db : SupervisorDb) : Prop where
  pending : ∀ k, db.stateOf k = some unknownOutcome ↔ db.pendingUnknownOutcome = some k
  known : ∀ k ∈ known, db.stateOf k ≠ some unknownOutcome

/-- The outcome of an operation is known before and after a write. -/
theorem SupervisorDb.Tracked.write (h : db.Tracked known) {state : OperationState}
    (hne : db.stateOf operationId ≠ some unknownOutcome) (hstate : state ≠ unknownOutcome)
    (hst : ∀ k, db'.stateOf k = if k = operationId then some state else db.stateOf k)
    (hpend : db'.pendingUnknownOutcome = db.pendingUnknownOutcome) : db'.Tracked known := by
  have hiff : ∀ k, db'.stateOf k = some unknownOutcome ↔ db.stateOf k = some unknownOutcome := by
    intro k
    rw [hst]
    by_cases hk : k = operationId
    · simp [hk, hstate, hne]
    · rw [if_neg hk]
  refine ⟨fun k => ?_, fun k hk hunk => h.known k hk ((hiff k).mp hunk)⟩
  rw [hiff, hpend]
  exact h.pending k

theorem tracked_preserved (known : Option String) :
    Preserved (fun operationId state => known = some operationId ∧ state ≠ unknownOutcome)
      (Tracked known) where
  congr h hst _ _ hpend := by
    refine ⟨fun k => ?_, fun k hk => ?_⟩
    · rw [hst, hpend]
      exact h.pending k
    · rw [hst]
      exact h.known k hk
  insert h hfr hst _ _ hpend := h.write (by simp [hfr]) (by decide) hst hpend
  transition h hfrom _ hfine hst _ _ hpend := by
    refine h.write (fun hunk => ?_) (fun hunk => (hfine (.inr hunk)).2 hunk) hst hpend
    have hknown := (hfine (.inl (Option.some.inj (hfrom.symm.trans hunk)))).1
    exact h.known _ hknown hunk

namespace Supervisor

theorem completeOperation_tracked (operationId : String) :
    Session.Keeps (Tracked none) (completeOperation operationId) := by
  refine .bind (.transaction (operation_keeps _)) fun row => .ite (fun _ => .raise) fun _ => ?_
  refine .transaction (.bind (operation_keeps _) fun current => ?_)
  refine .bind (R := fun _ => Tracked none) (.onlyIf
    (fun _ => transitionConn_keeps (tracked_preserved none) (absurd · (by decide))) fun _ _ h => h)
    fun _ => ?_
  exact .bind (R := fun _ => Tracked none) (.modify fun _ h => ⟨h.pending, h.known⟩) fun _ =>
    .modify fun _ h => ⟨h.pending, h.known⟩

/-- The last transaction of the two methods notes the incident and writes the pointer. -/
theorem point_tracked (incident : String) (point : Option String → Option String)
    (h : ∀ k, db.stateOf k = some unknownOutcome ↔ point db.pendingUnknownOutcome = some k) :
    (Session.transaction (do
      updateOperation operationId (fun row => { row with incident := some incident }) (fun _ => rfl)
      modify fun db => { db with pendingUnknownOutcome := point db.pendingUnknownOutcome })
      db).2.Tracked none :=
  ⟨fun k => (Eq.congr_left (stateOf_update_of_state db
    (fun row => { row with incident := some incident }) (fun _ => rfl) (fun _ => rfl) k)).trans
    (h k), nofun⟩

/-- No other outcome is unknown when this one becomes so. -/
theorem markUnknownOutcome_tracked (h : db.Tracked none)
    (hpend : ∀ k ∈ db.pendingUnknownOutcome, k = operationId) :
    (markUnknownOutcome operationId db).2.Tracked none := by
  rw [markUnknownOutcome, transition]
  cases hrun : transitionConn operationId unknownOutcome db with
  | error =>
    rw [Session.bind_of_error (Session.transaction_of_error hrun)]
    exact h
  | ok =>
    rw [Session.bind_of_ok (Session.transaction_of_ok hrun)]
    obtain ⟨state, -, -, haft, -⟩ := transitionConn_eq_ok hrun
    refine point_tracked _ (fun _ => some operationId) fun k => ?_
    rw [haft]
    by_cases hk : k = operationId
    · simp [hk]
    · rw [if_neg hk, h.pending, Option.some.injEq]
      exact ⟨fun heq => (hpend k heq).symm, fun heq => absurd heq.symm hk⟩

/-- The pointer is taken from an operation that is reconciled, and from no other. -/
theorem reconcileUnknownOutcome_tracked (h : db.Tracked none) (applied : Bool) :
    (reconcileUnknownOutcome operationId applied db).2.Tracked none := by
  rw [reconcileUnknownOutcome, transition]
  rcases read_operation db operationId with ⟨error, hread⟩ | ⟨row, hfind, hread⟩
  · rw [Session.bind_of_error hread]
    exact h
  rw [Session.bind_of_ok hread, Session.onlyIf]
  have hrow : db.stateOf operationId = some row.state := by rw [stateOf, hfind, Option.map_some]
  by_cases hunk : row.state = unknownOutcome
  · rw [if_pos hunk]
    rw [hunk, h.pending] at hrow
    cases hrun : transitionConn operationId (if applied then resultObserved else reconciled) db with
    | error =>
      rw [Session.bind_of_error (Session.transaction_of_error hrun)]
      exact h
    | ok =>
      rw [Session.bind_of_ok (Session.transaction_of_ok hrun)]
      obtain ⟨state, -, -, haft, -, -, hpend⟩ := transitionConn_eq_ok hrun
      refine point_tracked _ (fun pending => if pending = some operationId then none else pending)
        fun k => ?_
      rw [haft, hpend, hrow, if_pos rfl]
      by_cases hk : k = operationId
      · cases applied <;> simp [hk]
      · simpa [hk, h.pending, hrow] using Ne.symm hk
  · rw [if_neg hunk]
    refine point_tracked _ (fun pending => if pending = some operationId then none else pending)
      fun k => ?_
    have hne : db.pendingUnknownOutcome ≠ some operationId := by
      rw [Ne, ← h.pending, hrow, Option.some.injEq]
      exact hunk
    rw [if_neg hne]
    exact h.pending k

end Supervisor

/-! ### Runs -/

namespace SupervisorCall

/-- The tables when the process stops in a call, between two of its transactions. The other
methods write in one transaction. -/
def stopped (db : SupervisorDb) : SupervisorCall → SupervisorDb
  | markUnknownOutcome operationId => (transition operationId .unknownOutcome db).2
  | reconcileUnknownOutcome operationId applied =>
    if db.stateOf operationId = some .unknownOutcome then
      (transition operationId (if applied then .resultObserved else .reconciled) db).2
    else db
  | _ => db

/-- A call, and whether the process stops in it. -/
def run (sha : Sha256) (db : SupervisorDb) (call : SupervisorCall × Bool) : SupervisorDb :=
  if call.2 then call.1.stopped db else call.1.step sha db

/-- What the pointer needs of the call and of the tables before it. -/
def Tidy (db : SupervisorDb) : SupervisorCall × Bool → Prop
  | (markUnknownOutcome operationId, stops) =>
    stops = false ∧ ∀ k ∈ db.pendingUnknownOutcome, k = operationId
  | (reconcileUnknownOutcome _ _, stops) => stops = false
  | (recordResult receipt _, _) => db.stateOf receipt.operationId ≠ some .unknownOutcome
  | (markVerificationFailed operationId _ _, _) => db.stateOf operationId ≠ some .unknownOutcome
  | _ => True

theorem run_tracked {sha : Sha256} {call : SupervisorCall × Bool} (h : db.Tracked none)
    (hok : Tidy db call) : (run sha db call).Tracked none := by
  have hkept := tracked_preserved none
  have hknown {operationId : String} (hne : db.stateOf operationId ≠ some .unknownOutcome) :
      db.Tracked (some operationId) := ⟨h.pending, by rintro k ⟨⟩; exact hne⟩
  obtain ⟨c, stops⟩ := call
  cases stops with
  | true =>
    cases c with
    | markUnknownOutcome => cases hok.1
    | reconcileUnknownOutcome => cases hok
    | _ => exact h
  | false =>
    cases c with
    | startOperation args => exact startOperation_keeps hkept args db h
    | markDispatched => exact transition_keeps hkept (absurd · (by decide)) db h
    | recordResult receipt now =>
      have hkp := recordResult_keeps (tracked_preserved _) sha receipt now ⟨rfl, by decide⟩ db
        (hknown hok)
      exact ⟨hkp.pending, nofun⟩
    | markUnknownOutcome => exact markUnknownOutcome_tracked h hok.2
    | reconcileUnknownOutcome _ applied => exact reconcileUnknownOutcome_tracked h applied
    | markVerified operationId fingerprint =>
      exact markVerified_keeps hkept operationId fingerprint db h
    | markVerificationFailed operationId fingerprint reason =>
      have hkp := markVerificationFailed_keeps (tracked_preserved _) operationId fingerprint reason
        ⟨rfl, by decide⟩ db (hknown hok)
      exact ⟨hkp.pending, nofun⟩
    | markIntegrationIntent => exact transition_keeps hkept (absurd · (by decide)) db h
    | markIntegrated operationId ref => exact markIntegrated_keeps hkept operationId ref db h
    | completeOperation operationId => exact completeOperation_tracked operationId db h

end SupervisorCall

/-- **No unknown outcome is hidden** in a run of tidy calls: the pointer is null exactly when
no outcome is unknown, and it names an operation whose outcome is. -/
theorem unknown_outcomes_named (sha : Sha256) (calls : List (SupervisorCall × Bool))
    (hok : Along SupervisorCall.Tidy (SupervisorCall.run sha) {} calls) :
    let db := runCalls (SupervisorCall.run sha) {} calls
    (db.pendingUnknownOutcome = none ↔ ∀ k, db.stateOf k ≠ some unknownOutcome) ∧
      ∀ k, db.pendingUnknownOutcome = some k → db.stateOf k = some unknownOutcome := by
  intro db
  have hstart : Tracked none {} := ⟨fun k => by simp [stateOf], nofun⟩
  have h : db.Tracked none := hok.invariant SupervisorCall.run_tracked hstart
  refine ⟨?_, fun k => (h.pending k).mpr⟩
  rw [Option.eq_none_iff_forall_ne_some]
  exact forall_congr' fun k => not_congr (h.pending k).symm

theorem unknown_outcomes_named_once :
    (runCalls (SupervisorCall.run .polynomial) {}
      ((writeOffCalls.take 3).map (·, false))).stateOf "SUP-OP-000001" = some unknownOutcome :=
  (unknown_outcomes_named .polynomial ((writeOffCalls.take 3).map (·, false))
    ⟨trivial, trivial, ⟨rfl, by decide +kernel⟩, trivial⟩).2 "SUP-OP-000001" (by decide +kernel)

/-- A result that comes after all leaves the pointer at an operation whose outcome is known. -/
theorem late_result_keeps_pointer :
    let db := runCalls (SupervisorCall.run .polynomial) {} ((writeOffCalls.take 3).map (·, false) ++
      [(.recordResult ⟨"SUP-OP-000001", "worker-A", "out:1", "SUCCESS", "\x7b\x7d"⟩ 0, false)])
    db.pendingUnknownOutcome = some "SUP-OP-000001" ∧
      db.stateOf "SUP-OP-000001" = some resultObserved := by
  decide +kernel

end ProjectPipeline
