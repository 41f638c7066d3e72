import ProjectPipeline.Supervisor

/-!
# What a Completed Task Has Gone Through

Every method of the supervisor changes the state of an operation by transitions of the
table alone, so the history of an operation is a `Trail` of the table, from `PLANNING` to
the state that it has. A completed operation is found by walking the table backwards: from
`COMPLETED` to `RECONCILED`, and from there either to `INTEGRATED`, before which lies
`VERIFIED_RESULT`, or to `UNKNOWN_OUTCOME`. The second step is only taken by
`reconcile_unknown_outcome` with `applied=False`.

## Main results

* `completed_accounted_for`: a completed task was verified and integrated, or written off.
* `operations_explained`: the history leads to the stored states.
* `written_off_operation_completes`: a run that completes a task that was never verified.
-/

namespace ProjectPipeline

open OperationState Supervisor List SupervisorCall

/-! ### Walking the table backwards -/

/-- The history of an operation that is completed: the transitions into `VERIFIED_RESULT`
and then into `INTEGRATED`, or the write-off of an unknown outcome. -/
theorem completed_trail {edges : List (OperationState × OperationState)}
    (h : Trail Allowed planning edges completed) :
    [verifiedResult, integrated].Sublist (edges.map Prod.snd) ∨
      (unknownOutcome, reconciled) ∈ edges := by
  obtain ⟨a, before₁, hstep, h₁, rfl⟩ := h.exists_last (by decide)
  have ha : a = reconciled := by cases a <;> revert hstep <;> decide
  subst ha
  obtain ⟨b, before₂, hstep, h₂, rfl⟩ := h₁.exists_last (by decide)
  have hb : b = integrated ∨ b = unknownOutcome := by cases b <;> revert hstep <;> decide
  rcases hb with rfl | rfl
  · -- Integrated: an intent was recorded before, for a verified result.
    obtain ⟨c, before₃, hstep, h₃, rfl⟩ := h₂.exists_last (by decide)
    have hc : c = integrationIntentRecorded := by cases c <;> revert hstep <;> decide
    subst hc
    obtain ⟨d, before₄, hstep, h₄, rfl⟩ := h₃.exists_last (by decide)
    have hd : d = verifiedResult := by cases d <;> revert hstep <;> decide
    subst hd
    obtain ⟨e, before₅, -, -, rfl⟩ := h₄.exists_last (by decide)
    left
    simp only [map_append, map_cons, map_nil, append_assoc, cons_append, nil_append]
    refine sublist_append_of_sublist_right (.cons_cons _ (.cons _ (.cons_cons _ ?_)))
    exact nil_sublist _
  · right
    simp

variable {operationId : String}

namespace SupervisorDb

def stateOf (db : SupervisorDb) (operationId : String) : Option OperationState :=
  (db.operations.find? operationId).map fun row => row.state

/-- The transitions of one operation. -/
def edges (db : SupervisorDb) (operationId : String) : List (OperationState × OperationState) :=
  (db.transitions.filter fun t => t.operationId == operationId).map fun t =>
    (t.fromState, t.toState)

/-- The history accounts for the states. `W` are the operations that were written off. -/
structure Recorded (W : String → Prop) (db : SupervisorDb) : Prop where
  trail : ∀ operationId state, db.stateOf operationId = some state →
    Trail Allowed planning (db.edges operationId) state
  known : ∀ t ∈ db.transitions, db.stateOf t.operationId ≠ none
  writtenOff : ∀ t ∈ db.transitions, t.fromState = unknownOutcome → t.toState = reconciled →
    W t.operationId
  finished : ∀ row ∈ db.completedTasks.rows, db.stateOf row.operationId = some completed

/-- Nothing is recorded in empty tables. -/
theorem Recorded.empty (W : String → Prop) : Recorded W {} where
  trail := by
    intro operationId state h
    cases h
  known := by simp
  writtenOff := by simp
  finished := by simp

section Changes

variable {W W' : String → Prop} {db db' : SupervisorDb}

section

variable (h : Recorded W db)
include h

/-- More operations may count as written off. -/
theorem Recorded.mono (hW : ∀ operationId, W operationId → W' operationId) :
    Recorded W' db :=
  { h with writtenOff := fun t ht hfrom hto => hW _ (h.writtenOff t ht hfrom hto) }

/-- Only states, transitions and completed tasks are recorded. -/
theorem Recorded.congr (hst : ∀ operationId, db'.stateOf operationId = db.stateOf operationId)
    (htrs : db'.transitions = db.transitions)
    (hcompleted : db'.completedTasks = db.completedTasks) : Recorded W db' where
  trail := by
    intro operationId state hs
    rw [edges, htrs]
    exact h.trail operationId state (by rw [← hst, hs])
  known := by
    intro t ht
    rw [htrs] at ht
    rw [hst]
    exact h.known t ht
  writtenOff := by
    intro t ht
    rw [htrs] at ht
    exact h.writtenOff t ht
  finished := by
    intro row hrow
    rw [hcompleted] at hrow
    rw [hst]
    exact h.finished row hrow

/-- A new operation is planned, and has no history. -/
theorem Recorded.insert (hfr : db.stateOf operationId = none)
    (hst : ∀ k, db'.stateOf k = if k = operationId then some planning else db.stateOf k)
    (htrs : db'.transitions = db.transitions)
    (hcompleted : db'.completedTasks = db.completedTasks) : Recorded W db' where
  trail := by
    intro k state hs
    rw [edges, htrs]
    rw [hst] at hs
    by_cases hk : k = operationId
    · rw [if_pos hk] at hs
      cases hs
      have hnone : db.transitions.filter (fun t => t.operationId == k) = [] := by
        refine filter_eq_nil_iff.mpr fun t ht hkey => h.known t ht ?_
        rw [beq_iff_eq.mp hkey, hk]
        exact hfr
      rw [hnone]
      exact .nil
    · rw [if_neg hk] at hs
      exact h.trail k state hs
  known := by
    intro t ht
    rw [htrs] at ht
    rw [hst]
    split
    · simp
    · exact h.known t ht
  writtenOff := by
    intro t ht
    rw [htrs] at ht
    exact h.writtenOff t ht
  finished := by
    intro row hrow
    rw [hcompleted] at hrow
    have hold := h.finished row hrow
    rw [hst, if_neg fun hk => ?_, hold]
    rw [hk, hfr] at hold
    cases hold

/-- A transition of the table. A completed operation has none, so it is another one. -/
theorem Recorded.transition {a b : OperationState} (hfrom : db.stateOf operationId = some a)
    (halw : Allowed a b) (hW : a = unknownOutcome → b = reconciled → W operationId)
    (hst : ∀ k, db'.stateOf k = if k = operationId then some b else db.stateOf k)
    (htrs : db'.transitions = db.transitions ++ [⟨operationId, a, b⟩])
    (hcompleted : db'.completedTasks = db.completedTasks) : Recorded W db' where
  trail := by
    intro k state hs
    rw [hst] at hs
    rw [edges, htrs, filter_append, map_append]
    by_cases hk : k = operationId
    · rw [if_pos hk] at hs
      cases hs
      subst hk
      have htrail := h.trail k a hfrom
      rw [edges] at htrail
      simpa using htrail.snoc halw
    · rw [if_neg hk] at hs
      have hoth : ([⟨operationId, a, b⟩] : List Transition).filter
          (fun t => t.operationId == k) = [] := by
        simpa using fun heq => hk heq.symm
      rw [hoth, map_nil, append_nil]
      exact h.trail k state hs
  known := by
    intro t ht
    rw [htrs, mem_append, mem_singleton] at ht
    rw [hst]
    split
    · simp
    · rename_i hk
      rcases ht with ht | rfl
      · exact h.known t ht
      · exact absurd rfl hk
  writtenOff := by
    intro t ht hfrom hto
    rw [htrs, mem_append, mem_singleton] at ht
    rcases ht with ht | rfl
    · exact h.writtenOff t ht hfrom hto
    · exact hW hfrom hto
  finished := by
    intro row hrow
    rw [hcompleted] at hrow
    have hold := h.finished row hrow
    rw [hst, if_neg fun hk => ?_, hold]
    rw [hk, hfrom] at hold
    cases hold
    cases halw

end

/-- An invariant of the states, the transitions and the completed tasks that the methods keep: it
holds with a new operation, and after every transition of the table but the write-off. -/
structure Stable (Inv : SupervisorDb → Prop) : Prop where
  congr : ∀ {db db' : SupervisorDb}, Inv db → (∀ k, db'.stateOf k = db.stateOf k) →
    db'.transitions = db.transitions → db'.completedTasks = db.completedTasks → Inv db'
  insert : ∀ {db db' : SupervisorDb} {operationId : String}, Inv db →
    db.stateOf operationId = none →
    (∀ k, db'.stateOf k = if k = operationId then some planning else db.stateOf k) →
    db'.transitions = db.transitions → db'.completedTasks = db.completedTasks → Inv db'
  transition : ∀ {db db' : SupervisorDb} {operationId : String} {a b : OperationState}, Inv db →
    db.stateOf operationId = some a → Allowed a b → (a = unknownOutcome → b ≠ reconciled) →
    (∀ k, db'.stateOf k = if k = operationId then some b else db.stateOf k) →
    db'.transitions = db.transitions ++ [⟨operationId, a, b⟩] →
    db'.completedTasks = db.completedTasks → Inv db'

/-- What a method needs of an invariant that it is to keep. Transitions from and to
`UNKNOWN_OUTCOME` are kept if they are `fine` for the operation. -/
structure Preserved (fine : String → OperationState → Prop) (Inv : SupervisorDb → Prop) : Prop where
  congr : ∀ {db db' : SupervisorDb}, Inv db → (∀ k, db'.stateOf k = db.stateOf k) →
    db'.transitions = db.transitions → db'.completedTasks = db.completedTasks →
    db'.pendingUnknownOutcome = db.pendingUnknownOutcome → Inv db'
  insert : ∀ {db db' : SupervisorDb} {operationId : String}, Inv db →
    db.stateOf operationId = none →
    (∀ k, db'.stateOf k = if k = operationId then some planning else db.stateOf k) →
    db'.transitions = db.transitions → db'.completedTasks = db.completedTasks →
    db'.pendingUnknownOutcome = db.pendingUnknownOutcome → Inv db'
  transition : ∀ {db db' : SupervisorDb} {operationId : String} {a b : OperationState}, Inv db →
    db.stateOf operationId = some a → Allowed a b →
    (a = unknownOutcome ∨ b = unknownOutcome → fine operationId b) →
    (∀ k, db'.stateOf k = if k = operationId then some b else db.stateOf k) →
    db'.transitions = db.transitions ++ [⟨operationId, a, b⟩] →
    db'.completedTasks = db.completedTasks →
    db'.pendingUnknownOutcome = db.pendingUnknownOutcome → Inv db'

theorem Stable.preserved {Inv : SupervisorDb → Prop} (h : Stable Inv) :
    Preserved (fun _ state => state ≠ reconciled) Inv where
  congr hi hst htrs hcompleted _ := h.congr hi hst htrs hcompleted
  insert hi hfr hst htrs hcompleted _ := h.insert hi hfr hst htrs hcompleted
  transition hi hfrom halw hfine hst htrs hcompleted _ :=
    h.transition hi hfrom halw (fun ha => hfine (.inl ha)) hst htrs hcompleted

theorem recorded_stable (W : String → Prop) : Stable (Recorded W) where
  congr h := h.congr
  insert h := h.insert
  transition h hfrom halw hne :=
    h.transition hfrom halw fun ha hb => absurd hb (hne ha)

end Changes

end SupervisorDb

namespace Supervisor

open Txn SupervisorDb

variable {W : String → Prop} {Inv : SupervisorDb → Prop}

/-! ### Statements -/

/-- A read returns the stored row and changes nothing. -/
theorem operation_triple (P : SupervisorDb → Prop) (operationId : String) :
    Triple P (operation operationId)
      fun row db => P db ∧ db.operations.find? operationId = some row := by
  intro db row db' hP hrun
  rw [operation, get_bind] at hrun
  cases hfind : db.operations.find? operationId with
  | none =>
    rw [hfind] at hrun
    cases hrun
  | some =>
    rw [hfind] at hrun
    obtain ⟨rfl, rfl⟩ := ok_pair_inj hrun
    exact ⟨hP, hfind⟩

theorem operation_keeps (operationId : String) :
    Triple Inv (operation operationId) fun _ => Inv :=
  (operation_triple _ _).mono (fun _ h => h) fun _ _ h => h.1

/-- An update of a row changes the state of no other row. -/
theorem stateOf_update (db : SupervisorDb) (operationId : String)
    (set : SupervisorOperation → SupervisorOperation)
    (hset : ∀ row, (set row).operationId = row.operationId) (k : String) :
    ({ db with
      operations := db.operations.updateWhere (fun row => row.operationId == operationId) set
        hset } : SupervisorDb).stateOf k =
      (db.operations.find? k).map fun row =>
        if k = operationId then (set row).state else row.state := by
  rw [stateOf]
  rw [Table.find?_updateWhere]
  cases hfind : db.operations.find? k with
  | none => rfl
  | some row =>
    have hkey : row.operationId = k := (Table.find?_eq_some_iff.mp hfind).2
    subst hkey
    by_cases hk : row.operationId = operationId <;> simp [hk]

/-- Columns other than the state do not count. -/
theorem stateOf_update_of_state (db : SupervisorDb) (set : SupervisorOperation → SupervisorOperation)
    (hset : ∀ row, (set row).operationId = row.operationId)
    (hst : ∀ row, (set row).state = row.state) (k : String) :
    ({ db with
      operations := db.operations.updateWhere (fun row => row.operationId == operationId) set
        hset } : SupervisorDb).stateOf k = db.stateOf k := by
  rw [stateOf_update, stateOf]
  simp [hst]

/-- A transition, as an equation for the states. The two writes make one step of the history. -/
theorem transitionConn_eq_ok {nextState : OperationState} {db db' : SupervisorDb} {u : Unit}
    (h : transitionConn operationId nextState db = .ok (u, db')) :
    ∃ state, db.stateOf operationId = some state ∧ state.Allowed nextState ∧
      (∀ k, db'.stateOf k = if k = operationId then some nextState else db.stateOf k) ∧
      db'.transitions = db.transitions ++ [⟨operationId, state, nextState⟩] ∧
      db'.completedTasks = db.completedTasks ∧
      db'.pendingUnknownOutcome = db.pendingUnknownOutcome := by
  obtain ⟨row, db₁, hread, hrest⟩ := run_bind.mp h
  obtain ⟨rfl, hfind⟩ := operation_triple (fun db₁ => db₁ = db) operationId db row db₁ rfl hread
  obtain ⟨_, db₂, hchk, hwrs⟩ := run_bind.mp hrest
  obtain ⟨halw, rfl⟩ : row.state.Allowed nextState ∧ db₂ = db₁ :=
    Triple.refuseIf (P := fun db₂ => db₂ = db₁)
      (Q := fun _ db₂ => row.state.Allowed nextState ∧ db₂ = db₁)
      (fun hc _ hs => ⟨not_not.mp hc, hs⟩) db₁ _ db₂ rfl hchk
  obtain ⟨_, db₃, hup, hlog⟩ := run_bind.mp hwrs
  obtain ⟨-, rfl⟩ := ok_pair_inj hup
  obtain ⟨-, rfl⟩ := ok_pair_inj hlog
  refine ⟨row.state, by rw [stateOf, hfind, Option.map_some], halw, fun k => ?_, rfl, rfl, rfl⟩
  refine (stateOf_update db₂ operationId (fun row => { row with state := nextState })
    (fun _ => rfl) k).trans ?_
  by_cases hk : k = operationId
  · rw [hk, hfind, if_pos rfl, Option.map_some, if_pos rfl]
  · rw [if_neg hk, stateOf]
    simp [hk]

section Methods

variable {fine : String → OperationState → Prop} (hinv : Preserved fine Inv)

include hinv

theorem updateOperation_keeps (operationId : String)
    (set : SupervisorOperation → SupervisorOperation)
    (hset : ∀ row, (set row).operationId = row.operationId)
    (hst : ∀ row, (set row).state = row.state) :
    Triple Inv (updateOperation operationId set hset) fun _ => Inv :=
  .modify fun db h => hinv.congr h (stateOf_update_of_state db set hset hst) rfl rfl rfl

variable {nextState : OperationState}

/-- A transition puts the operation into the next state. -/
theorem transitionConn_triple :
    Triple (fun db => Inv db ∧ (Allowed unknownOutcome nextState ∧
        db.stateOf operationId = some unknownOutcome ∨ nextState = unknownOutcome →
          fine operationId nextState))
      (transitionConn operationId nextState)
      fun _ db => Inv db ∧ db.stateOf operationId = some nextState := by
  intro db u db' ⟨h, hfine⟩ hrun
  obtain ⟨state, hst, halw, haft, hlog, hcompleted, hpend⟩ := transitionConn_eq_ok hrun
  refine ⟨hinv.transition h hst halw (fun hunk => hfine (hunk.imp_left ?_)) haft hlog hcompleted
    hpend, (haft operationId).trans (if_pos rfl)⟩
  rintro rfl
  exact ⟨halw, hst⟩

/-- A transition between known outcomes, or a fine one. -/
theorem transitionConn_keeps (hnext : Allowed unknownOutcome nextState ∨
      nextState = unknownOutcome → fine operationId nextState) :
    Triple Inv (transitionConn operationId nextState) fun _ => Inv :=
  (transitionConn_triple hinv).mono (fun _ h => ⟨h, fun hunk => hnext (hunk.imp_left And.left)⟩)
    fun _ _ h => h.1

/-- A new operation. -/
theorem insertOperation_keeps {row : SupervisorOperation} (hplanning : row.state = planning) :
    Triple Inv (insertOperation row) fun _ => Inv := by
  intro db _ db' h hrun
  rw [insertOperation, get_bind] at hrun
  cases hins : db.operations.insert row with
  | none =>
    rw [hins] at hrun
    cases hrun
  | some =>
    rw [hins] at hrun
    obtain ⟨-, rfl⟩ := ok_pair_inj hrun
    have hfr : db.stateOf row.operationId = none := by
      rw [stateOf, (Table.insert_eq_some_iff.mp hins).1, Option.map_none]
    refine hinv.insert h hfr (fun k => ?_) rfl rfl rfl
    rw [stateOf, Table.find?_insert hins]
    by_cases hk : k = row.operationId
    · rw [if_pos hk.symm, if_pos hk, Option.map_some, hplanning]
    · rw [if_neg fun heq => hk heq.symm, if_neg hk, stateOf]

/-! ### Methods -/

theorem createOperation_keeps (args : StartOperation) :
    Triple Inv (createOperation args) fun _ => Inv := by
  refine .bind (R := fun _ => Inv) (.get fun _ h => h) fun db => ?_
  refine .bind (insertOperation_keeps hinv rfl) fun _ => ?_
  refine .bind (R := fun _ => Inv) (.modify fun _ h => hinv.congr h (fun _ => rfl) rfl rfl rfl)
    fun _ => ?_
  exact .bind (transitionConn_keeps hinv (absurd · (by decide))) fun _ => .pure fun _ h => h

theorem startOperation_keeps (args : StartOperation) :
    Session.Keeps Inv (startOperation args) := by
  refine .transaction (.bind (R := fun _ => Inv) (.get fun _ h => h) fun db => ?_)
  cases db.operations.rows.find? fun row => row.idempotencyKey == args.idempotencyKey with
  | none => exact createOperation_keeps hinv args
  | some => exact .bind (R := fun _ => Inv) (.refuseIf fun _ _ h => h) fun _ => .pure fun _ h => h

/-- The methods that make one transition. -/
theorem transition_keeps (hnext : Allowed unknownOutcome nextState ∨
      nextState = unknownOutcome → fine operationId nextState) :
    Session.Keeps Inv (transition operationId nextState) :=
  .transaction (transitionConn_keeps hinv hnext)

theorem insertReceipt_keeps (row : ReceiptRow) :
    Triple Inv (insertReceipt row) fun _ => Inv := by
  intro db _ db' h hrun
  rw [insertReceipt, get_bind] at hrun
  cases hins : db.receipts.insert row with
  | none =>
    rw [hins] at hrun
    cases hrun
  | some =>
    rw [hins] at hrun
    obtain ⟨-, rfl⟩ := ok_pair_inj hrun
    exact hinv.congr h (fun _ => rfl) rfl rfl rfl

theorem recordResult_keeps (sha : Sha256) (receipt : ReceiptPayload) (now : Instant)
    (hfine : fine receipt.operationId resultObserved) :
    Session.Keeps Inv (recordResult sha receipt now) := by
  refine .transaction (.bind (operation_keeps _) fun row => ?_)
  refine .bind (R := fun _ => Inv) (.get fun _ h => h) fun db => ?_
  cases db.receipts.find? receipt.operationId with
  | some => exact .bind (R := fun _ => Inv) (.refuseIf fun _ _ h => h) fun _ => .pure fun _ h => h
  | none =>
    refine .bind (R := fun _ => Inv)
      (.onlyIf (fun _ => transitionConn_keeps hinv fun _ => hfine) fun _ _ h => h) fun _ => ?_
    refine .bind (updateOperation_keeps hinv _ _ _ fun _ => rfl) fun _ => ?_
    exact .bind (insertReceipt_keeps hinv _) fun _ => .pure fun _ h => h

theorem startVerification_keeps (operationId : String) :
    Triple Inv (startVerification operationId) fun _ => Inv := by
  refine .bind (operation_keeps _) fun row => ?_
  exact .onlyIf (fun _ => transitionConn_keeps hinv (absurd · (by decide))) fun _ _ h => h

theorem markVerified_keeps (operationId fingerprint : String) :
    Session.Keeps Inv (markVerified operationId fingerprint) := by
  refine .transaction (.bind (startVerification_keeps hinv _) fun _ => ?_)
  exact .bind (updateOperation_keeps hinv _ _ _ fun _ => rfl) fun _ =>
    transitionConn_keeps hinv (absurd · (by decide))

theorem markVerificationFailed_keeps (operationId fingerprint reason : String)
    (hfine : fine operationId failed) :
    Session.Keeps Inv (markVerificationFailed operationId fingerprint reason) := by
  refine .transaction (.bind (startVerification_keeps hinv _) fun _ => ?_)
  refine .bind (updateOperation_keeps hinv _ _ _ fun _ => rfl) fun _ => ?_
  exact .bind (transitionConn_keeps hinv fun _ => hfine) fun _ =>
    .modify fun _ h => hinv.congr h (fun _ => rfl) rfl rfl rfl

/-- The reconciliation of an integrated operation comes from `INTEGRATED`. -/
theorem markIntegrated_keeps (operationId integratedRef : String) :
    Session.Keeps Inv (markIntegrated operationId integratedRef) := by
  refine .transaction (.bind (operation_keeps _) fun row => ?_)
  refine .bind (R := fun _ => Inv)
    (.onlyIf (fun _ => transitionConn_keeps hinv (absurd · (by decide))) fun _ _ h => h)
    fun _ => ?_
  refine .bind (updateOperation_keeps hinv _ _ _ fun _ => rfl) fun _ => ?_
  refine .bind ((transitionConn_triple hinv).mono
    (fun _ h => ⟨h, fun hunk => absurd (hunk.imp_left And.left) (by decide)⟩) fun _ _ h => h)
    fun _ => ?_
  refine (transitionConn_triple hinv).mono (fun db h => ⟨h.1, fun hunk => ?_⟩) fun _ _ h => h.1
  rw [h.2] at hunk
  exact absurd hunk (by decide)

end Methods

theorem markUnknownOutcome_keeps (hinv : Stable Inv) (operationId : String) :
    Session.Keeps Inv (markUnknownOutcome operationId) := by
  refine .bind (transition_keeps hinv.preserved fun _ => by decide) fun _ => .transaction ?_
  exact .bind (updateOperation_keeps hinv.preserved _ _ _ fun _ => rfl) fun _ =>
    .modify fun _ h => hinv.congr h (fun _ => rfl) rfl rfl

/-- A completed task is entered for a completed operation. -/
theorem saveCompleted_keeps (task : CompletedTask) :
    Triple (fun db => Recorded W db ∧ db.stateOf task.operationId = some completed)
      (saveCompleted task) fun _ => Recorded W := by
  refine .modify fun db h => ⟨h.1.trail, h.1.known, h.1.writtenOff, fun row hrow => ?_⟩
  have hrow' := Table.find?_of_mem _ hrow
  by_cases hk : task.taskId = row.taskId
  · rw [← hk, Table.find?_upsert_self] at hrow'
    obtain hrow' := Option.some.inj hrow'
    have hid : row.operationId = task.operationId := by
      rw [← hrow']
      cases db.completedTasks.find? task.taskId <;> rfl
    rw [hid]
    exact h.2
  · rw [Table.find?_upsert_of_ne _ _ _ _ hk] at hrow'
    exact h.1.finished row (Table.find?_eq_some_iff.mp hrow').1

/-- A completed task is entered together with the transition to `COMPLETED`, or for an
operation that is completed already. -/
theorem completeOperation_keeps (operationId : String) :
    Session.Keeps (Recorded W) (completeOperation operationId) := by
  have hinv := recorded_stable W
  refine .bind (.transaction (operation_keeps _)) fun row => ?_
  refine .ite (fun _ => .raise) fun _ => ?_
  refine .transaction (.bind (operation_triple _ _) fun current => ?_)
  refine .bind (R := fun _ db => Recorded W db ∧ db.stateOf operationId = some completed)
    (.onlyIf (fun _ => ?_) fun hdone db h => ⟨h.1, ?_⟩) fun _ => ?_
  · exact (transitionConn_triple hinv.preserved).mono (fun _ h => ⟨h.1, fun _ => by decide⟩)
      fun _ _ h => h
  · rw [stateOf, h.2, Option.map_some, not_not.mp hdone]
  · exact .bind (saveCompleted_keeps ⟨row.taskId, operationId, row.integratedRef⟩) fun _ =>
      .modify fun _ h => hinv.congr h (fun _ => rfl) rfl rfl

/-- Reading an operation outside of a block. -/
theorem read_operation (db : SupervisorDb) (operationId : String) :
    (∃ error, Session.transaction (operation operationId) db = (.error error, db)) ∨
      ∃ row, db.operations.find? operationId = some row ∧
        Session.transaction (operation operationId) db = (.ok row, db) := by
  rw [Session.transaction, operation, get_bind]
  cases db.operations.find? operationId with
  | none => exact .inl ⟨_, rfl⟩
  | some row => exact .inr ⟨row, rfl, rfl⟩

/-- A reconciliation writes off at most its own operation, and only from an unknown outcome
that was not applied. -/
theorem reconcileUnknownOutcome_recorded {db : SupervisorDb} {applied : Bool} (h : Recorded W db)
    (hW : applied = false → db.stateOf operationId = some unknownOutcome → W operationId) :
    Recorded W (reconcileUnknownOutcome operationId applied db).2 := by
  rw [reconcileUnknownOutcome]
  rcases read_operation db operationId with ⟨error, hread⟩ | ⟨row, hfind, hread⟩
  · rw [Session.bind_of_error hread]
    exact h
  · have hmiddle : Session.Keeps (Recorded W) (.onlyIf (row.state = unknownOutcome)
        (transition operationId (if applied then .resultObserved else .reconciled))) := by
      refine .onlyIf fun hunk => ?_
      cases applied with
      | true => exact transition_keeps (recorded_stable W).preserved fun _ => by decide
      | false =>
        have hoff : W operationId := hW rfl (by rw [stateOf, hfind, Option.map_some, hunk])
        refine .transaction fun db u db' h hrun => ?_
        obtain ⟨state, hst, halw, haft, hlog, hcompleted, -⟩ := transitionConn_eq_ok hrun
        exact h.transition hst halw (fun _ _ => hoff) haft hlog hcompleted
    rw [Session.bind_of_ok hread]
    refine Session.Keeps.bind hmiddle (fun _ => .transaction ?_) db h
    exact .bind (updateOperation_keeps (recorded_stable W).preserved _ _ _ fun _ => rfl) fun _ =>
      .modify fun _ h => h.congr (fun _ => rfl) rfl rfl

end Supervisor

/-! ### Runs -/

open SupervisorDb

variable (sha : Sha256) (calls : List SupervisorCall)

/-- Some call of the run has reconciled the operation as not applied when its outcome was
unknown. -/
def WrittenOff (operationId : String) : Prop :=
  ∃ before after, calls = before ++ .reconcileUnknownOutcome operationId false :: after ∧
    (runCalls (SupervisorCall.step sha) {} before).stateOf operationId = some unknownOutcome

/-- One call more. -/
theorem WrittenOff.concat {sha : Sha256} {calls : List SupervisorCall}
    (h : WrittenOff sha calls operationId) (c : SupervisorCall) :
    WrittenOff sha (calls ++ [c]) operationId := by
  obtain ⟨before, after, rfl, hst⟩ := h
  exact ⟨before, after ++ [c], by simp, hst⟩

/-- A call keeps the record. -/
theorem SupervisorCall.step_recorded {sha : Sha256} {W : String → Prop} {db : SupervisorDb}
    (h : Recorded W db) (c : SupervisorCall)
    (hW : ∀ operationId, c = .reconcileUnknownOutcome operationId false →
      db.stateOf operationId = some unknownOutcome → W operationId) :
    Recorded W (c.step sha db) := by
  have hinv := (recorded_stable W).preserved
  cases c with
  | startOperation args => exact startOperation_keeps hinv args db h
  | markDispatched | markIntegrationIntent => exact transition_keeps hinv (absurd · (by decide)) db h
  | recordResult receipt now => exact recordResult_keeps hinv sha receipt now (by decide) db h
  | markUnknownOutcome operationId =>
    exact markUnknownOutcome_keeps (recorded_stable W) operationId db h
  | reconcileUnknownOutcome operationId =>
    refine reconcileUnknownOutcome_recorded h fun happ => hW operationId ?_
    rw [happ]
  | markVerified operationId fingerprint =>
    exact markVerified_keeps hinv operationId fingerprint db h
  | markVerificationFailed operationId fingerprint reason =>
    exact markVerificationFailed_keeps hinv operationId fingerprint reason (by decide) db h
  | markIntegrated operationId ref => exact markIntegrated_keeps hinv operationId ref db h
  | completeOperation operationId => exact completeOperation_keeps operationId db h

/-- The record of a whole run. -/
theorem run_recorded :
    Recorded (WrittenOff sha calls) (runCalls (step sha) {} calls) := by
  induction calls using reverseRecOn with
  | nil => exact Recorded.empty _
  | append_singleton calls c ih =>
    rw [runCalls_concat]
    refine step_recorded (ih.mono fun _ h => h.concat c) c ?_
    rintro operationId rfl hunk
    exact ⟨calls, [], rfl, hunk⟩

/-- **Completion.** After any sequence of calls on empty tables, refused calls included,
every completed task names an operation that has passed through `VERIFIED_RESULT` and then
`INTEGRATED`, or that a call of `reconcile_unknown_outcome` with `applied=False` found in
`UNKNOWN_OUTCOME`. -/
theorem completed_accounted_for (sha : Sha256) (calls : List SupervisorCall) :
    ∀ row ∈ (runCalls (SupervisorCall.step sha) {} calls).completedTasks.rows,
      [(row.operationId, verifiedResult), (row.operationId, integrated)].Sublist
          ((runCalls (SupervisorCall.step sha) {} calls).transitions.map fun t =>
            (t.operationId, t.toState)) ∨
        WrittenOff sha calls row.operationId := by
  have hrec := run_recorded sha calls
  generalize runCalls (step sha) {} calls = db at *
  intro row hrow
  rcases completed_trail (hrec.trail _ _ (hrec.finished row hrow)) with hpassed | hoff
  · -- The history of the operation is a part of the whole history.
    left
    have hown : ((db.transitions.filter fun t => t.operationId == row.operationId).map fun t =>
        (t.operationId, t.toState)).Sublist
          (db.transitions.map fun t => (t.operationId, t.toState)) :=
      filter_sublist.map _
    refine List.Sublist.trans ?_ hown
    have hpairs := hpassed.map fun state => (row.operationId, state)
    rw [edges, map_map, map_map] at hpairs
    have hsame : (db.transitions.filter fun t => t.operationId == row.operationId).map
        (fun t => (t.operationId, t.toState)) =
        (db.transitions.filter fun t => t.operationId == row.operationId).map
          fun t => (row.operationId, t.toState) := by
      refine map_congr_left fun t ht => ?_
      rw [beq_iff_eq.mp (mem_filter.mp ht).2]
    rw [hsame]
    exact hpairs
  · right
    obtain ⟨t, ht, hedge⟩ := mem_map.mp hoff
    obtain ⟨hmem, hid⟩ := mem_filter.mp ht
    obtain ⟨hfrom, hto⟩ := Prod.mk.inj hedge
    rw [← beq_iff_eq.mp hid]
    exact hrec.writtenOff t hmem hfrom hto

/-- A dispatched operation whose outcome is unknown, is reconciled as not applied, and is
completed. -/
def writeOffCalls : List SupervisorCall :=
  [.startOperation
      { taskId := "PP-TASK-000381"
        inputFingerprint := "in:1"
        workerId := "worker-A"
        baseBranch := "main"
        worktreePath := "."
        leaseFence := "lease-1"
        idempotencyKey := "idempotent-unknown"
        payloadJson := "\x7b\x7d" },
    .markDispatched "SUP-OP-000001",
    .markUnknownOutcome "SUP-OP-000001",
    .reconcileUnknownOutcome "SUP-OP-000001" false,
    .completeOperation "SUP-OP-000001"]

theorem written_off_operation_completes :
    ∃ row ∈ (runCalls (SupervisorCall.step .polynomial) {} writeOffCalls).completedTasks.rows,
      row.taskId = "PP-TASK-000381" ∧ row.operationId = "SUP-OP-000001" ∧
        ¬ [(row.operationId, verifiedResult), (row.operationId, integrated)].Sublist
          ((runCalls (SupervisorCall.step .polynomial) {} writeOffCalls).transitions.map
            fun t => (t.operationId, t.toState)) := by
  decide +kernel

/-- The completed task of that run is accounted for by the call that wrote it off. -/
theorem completed_accounted_for_write_off :
    ∃ row ∈ (runCalls (SupervisorCall.step .polynomial) {} writeOffCalls).completedTasks.rows,
      WrittenOff .polynomial writeOffCalls row.operationId := by
  have hrun : ∃ row ∈
      (runCalls (step .polynomial) {} writeOffCalls).completedTasks.rows,
      ¬ [(row.operationId, verifiedResult), (row.operationId, integrated)].Sublist
        ((runCalls (step .polynomial) {} writeOffCalls).transitions.map
          fun t => (t.operationId, t.toState)) := by
    decide +kernel
  obtain ⟨row, hrow, hpassed⟩ := hrun
  exact ⟨row, hrow,
    (completed_accounted_for .polynomial writeOffCalls row hrow).resolve_left hpassed⟩

end ProjectPipeline
