import ProjectPipeline.LaneWrites

/-!
# Invariants of the Lane Registry

What the operations of `LaneRegistry` do to the tables, when they are executed one after
another.

An operation fences leases that are due, in some order, and then makes at most one further
write, which its arguments and the tables at that moment must allow (`LaneCall.Allows`,
`LaneStep`); an operation that raises or rolls back does nothing. All the invariants are
consequences of this.

## Main results

* `LaneCall.laneStep`: every operation is a `LaneStep`.
* `LaneInv.laneStep`: a `LaneStep` keeps the invariant of the tables.
* `lane_registry_invariant`: what holds after every sequence of operations.
-/

namespace ProjectPipeline

open Prog LaneDb List LaneWrite

/-! ### Steps -/

def LaneCall.now : LaneCall → Instant
  | claim _ _ _ _ inputs | renew _ _ _ _ inputs | release _ _ _ inputs
  | heartbeat _ _ _ _ inputs | recordResult _ _ _ _ inputs | recoverLostWorker _ _ _ inputs =>
    inputs.now

/-- The lane and the token that a call presents. -/
def LaneCall.presents : LaneCall → Option (String × String)
  | claim .. => none
  | renew laneId _ token _ _ | release laneId _ token _ | heartbeat laneId _ token _ _
  | recordResult laneId token _ _ _ | recoverLostWorker laneId token _ _ => some (laneId, token)

/-- A lease that is due is fenced. -/
def LaneExpiry (now : Instant) (db db' : LaneDb) : Prop :=
  ∃ lease ∈ db.leases.rows, lease.expiresAtUtc ≤ now ∧ ∃ fencedAt row,
    (LaneWrite.fence lease.attemptId lease.logicalLaneId fencedAt row).exec db = some db'

/-- The writes that a call may make, once no lease is due. -/
inductive LaneCall.Allows (env : LaneEnv) (maxAttempts : ℕ) (db : LaneDb) :
    LaneCall → LaneWrite → Prop
  | incident (call : LaneCall) (row : LaneIncident) : Allows env maxAttempts db call (.incident row)
  | fence (call : LaneCall) {lease : LaneLeaseRow} (hlease : lease ∈ db.leases.rows)
      (fencedAt : Instant) (row : LaneIncident) :
      Allows env maxAttempts db call (.fence lease.attemptId lease.logicalLaneId fencedAt row)
  | claim {laneId workerId : String} {resources : List String} {leaseSeconds : ℤ}
      {inputs : LaneInputs} {attempt : LaneAttempt} (hlane : attempt.logicalLaneId = laneId)
      (hresources : checkClaim env resources leaseSeconds = .ok attempt.resources)
      (hstate : attempt.state = .active)
      (hnumber : attempt.attemptNumber = db.countAttempts laneId + 1)
      (hmax : db.countAttempts laneId < maxAttempts)
      (hlive : ∀ lease ∈ db.leases.rows, inputs.now < lease.expiresAtUtc) :
      Allows env maxAttempts db (.claim laneId workerId resources leaseSeconds inputs)
        (.attempt attempt)
  | renew {laneId workerId token : String} {leaseSeconds : ℤ} {inputs : LaneInputs}
      {lease : LaneLeaseRow} (expiresAt : Instant)
      (hlease : db.selectAuthorized laneId (some workerId) token inputs.now = some lease) :
      Allows env maxAttempts db (.renew laneId workerId token leaseSeconds inputs)
        (.renew laneId workerId token expiresAt inputs.now)
  | heartbeat {laneId workerId token : String} {intent : JsonObject} {inputs : LaneInputs}
      {lease : LaneLeaseRow}
      (hlease : db.selectAuthorized laneId (some workerId) token inputs.now = some lease) :
      Allows env maxAttempts db (.heartbeat laneId workerId token intent inputs)
        (.heartbeat ⟨lease.attemptId, laneId, workerId, token, intent, inputs.now⟩)
  | recordResult {laneId token fingerprint : String} {workerId : Option String}
      {inputs : LaneInputs} {lease : LaneLeaseRow}
      (hlease : db.selectAuthorized laneId workerId token inputs.now = some lease) :
      Allows env maxAttempts db (.recordResult laneId token fingerprint workerId inputs)
        (.result ⟨lease.attemptId, laneId, token, fingerprint, inputs.now⟩)

/-- What a call does: it fences leases that are due, and then makes at most one more write. -/
def LaneStep (env : LaneEnv) (maxAttempts : ℕ) (call : LaneCall) (db db' : LaneDb) : Prop :=
  ∃ db₁, Relation.ReflTransGen (LaneExpiry call.now) db db₁ ∧
    (db' = db₁ ∨ ∃ w, call.Allows env maxAttempts db₁ w ∧ w.exec db₁ = some db')

variable {laneId token workerId : String} {lease : LaneLeaseRow} {now : Instant}

namespace LaneDb

variable {db : LaneDb}

/-- The lease that authorizes a worker. -/
theorem selectAuthorized_eq_some {workerId : Option String}
    (h : db.selectAuthorized laneId workerId token now = some lease) :
    lease ∈ db.leases.rows ∧ lease.logicalLaneId = laneId ∧ lease.fencingToken = token ∧
      now < lease.expiresAtUtc := by
  obtain ⟨hfind, hcond⟩ := Option.filter_eq_some_iff.mp h
  obtain ⟨hls, hlane⟩ := Table.find?_eq_some_iff.mp hfind
  simp only [Bool.and_eq_true, beq_iff_eq, decide_eq_true_eq] at hcond
  exact ⟨hls, hlane, hcond.1.2, hcond.2⟩

/-- A renewal that is not authorized changes nothing. -/
theorem renewLease_of_none {expiresAt : Instant}
    (h : db.selectAuthorized laneId (some workerId) token now = none) :
    db.renewLease laneId workerId token expiresAt now = db := by
  have hlss : (db.renewLease laneId workerId token expiresAt now).leases = db.leases := by
    refine Table.ext_rows ((map_congr_left fun lease hls => if_neg fun hcond => ?_).trans
      (map_id _))
    simp only [Bool.and_eq_true, beq_iff_eq, decide_eq_true_eq] at hcond
    obtain ⟨⟨⟨hlane, hwk⟩, htok⟩, hnow⟩ := hcond
    have hfind := db.leases.find?_of_mem hls
    rw [hlane] at hfind
    rw [selectAuthorized, hfind, Option.filter_eq_none_iff] at h
    exact h lease rfl (by simp [hwk, htok, hnow])
  exact congrArg (fun leases => { db with leases := leases }) hlss

end LaneDb

/-- A call that is committed has returned. -/
theorem Prog.run_committing_map_eq_ok {α : Type} {body : LaneProg α} {f : α → LaneReply}
    {db db' : LaneDb} {verdict : Verdict LaneReply}
    (h : (f <$> body).committing.run LaneSql.exec db = (.ok verdict, db')) :
    ∃ result, body.run LaneSql.exec db = (.ok result, db') := by
  obtain ⟨_, -, hrun⟩ := run_committing_eq_ok h
  obtain ⟨result, hrun, -⟩ := run_map_eq_ok hrun
  exact ⟨result, hrun⟩

namespace Lane

variable {env : LaneEnv} {inputs : LaneInputs} {db db' : LaneDb}

/-! ### Expiry -/

/-- An expiry takes away the lease that is due, and no other. -/
theorem mem_leases_of_expiry (h : LaneExpiry now db db') (lease : LaneLeaseRow) :
    (lease ∈ db'.leases.rows → lease ∈ db.leases.rows) ∧
      (lease ∈ db.leases.rows → now < lease.expiresAtUtc → lease ∈ db'.leases.rows) := by
  obtain ⟨due, hdue, hexpired, t, row, hexec⟩ := h
  rw [mem_leases_fence hexec]
  constructor
  · exact And.left
  · refine fun hls hlive => ⟨hls, fun hlane => ?_⟩
    rw [db.leases.eq_of_key_eq hls hdue hlane] at hlive
    exact absurd hexpired (not_le.mpr hlive)

theorem mem_leases_of_expiries (h : Relation.ReflTransGen (LaneExpiry now) db db')
    (lease : LaneLeaseRow) :
    (lease ∈ db'.leases.rows → lease ∈ db.leases.rows) ∧
      (lease ∈ db.leases.rows → now < lease.expiresAtUtc → lease ∈ db'.leases.rows) := by
  induction h with
  | refl => exact ⟨id, fun hls _ => hls⟩
  | tail _ step ih =>
    have hstep := mem_leases_of_expiry step lease
    exact ⟨fun hls => ih.1 (hstep.1 hls),
      fun hls hlive => hstep.2 (ih.2 hls hlive) hlive⟩

/-- The loop, for leases of different lanes that are due: the others are still there when it
comes to them, and none of them is left. -/
theorem expireLeases_eq_ok {number : ℕ} {rows : List LaneLeaseRow} {u : Unit}
    (hrows : ∀ row ∈ rows, row ∈ db.leases.rows ∧ row.expiresAtUtc ≤ now)
    (hnd : (rows.map LaneLeaseRow.logicalLaneId).Nodup)
    (h : (expireLeases env inputs number rows).run LaneSql.exec db = (.ok u, db')) :
    Relation.ReflTransGen (LaneExpiry now) db db' ∧ ∀ row ∈ rows, row ∉ db'.leases.rows := by
  induction rows generalizing db number with
  | nil =>
    cases h
    exact ⟨.refl, nofun⟩
  | cons row rows ih =>
    obtain ⟨incident, db₁, hfen, hrest⟩ := run_bind_eq_ok h
    have hexec := fenceAttempt_eq_ok hfen
    obtain ⟨hrow, hdue⟩ := hrows row mem_cons_self
    have hexpiry : LaneExpiry now db db₁ := ⟨row, hrow, hdue, _, _, hexec⟩
    rw [map_cons, nodup_cons] at hnd
    have hoths : ∀ other ∈ rows, other ∈ db₁.leases.rows ∧ other.expiresAtUtc ≤ now := by
      intro other hoth
      obtain ⟨hls, hdue'⟩ := hrows other (mem_cons_of_mem row hoth)
      refine ⟨(mem_leases_fence hexec).mpr ⟨hls, fun hlane => hnd.1 ?_⟩, hdue'⟩
      exact hlane ▸ mem_map_of_mem hoth
    obtain ⟨hpath, hgone⟩ := ih hoths hnd.2 hrest
    refine ⟨.head hexpiry hpath, fun other hoth => ?_⟩
    rcases mem_cons.mp hoth with rfl | hoth
    · intro hleft
      have hleft₁ := (mem_leases_of_expiries hpath other).1 hleft
      exact ((mem_leases_fence hexec).mp hleft₁).2 rfl
    · exact hgone other hoth

/-- After the expiry exactly the leases that are not due are left. -/
theorem expireDueLeases_eq_ok {number : ℕ}
    (h : (expireDueLeases env inputs).run LaneSql.exec db = (.ok number, db')) :
    Relation.ReflTransGen (LaneExpiry inputs.now) db db' ∧
      ∀ lease ∈ db'.leases.rows, inputs.now < lease.expiresAtUtc := by
  obtain ⟨rows, hrows, h⟩ := run_call_bind_eq_ok h
  cases hrows
  obtain ⟨u, db₁, hloop, hpure⟩ := run_bind_eq_ok h
  cases hpure
  have hdue : ∀ row, row ∈ db.selectDue inputs.now ↔
      row ∈ db.leases.rows ∧ row.expiresAtUtc ≤ inputs.now := by
    intro row
    rw [selectDue, mem_filter, decide_eq_true_eq]
  obtain ⟨hpath, hgone⟩ := expireLeases_eq_ok (fun row hrow => (hdue row).mp hrow)
    (db.leases.nodup.sublist (filter_sublist.map _)) hloop
  refine ⟨hpath, fun lease hls => not_le.mp fun hexpired => ?_⟩
  exact hgone lease ((hdue lease).mpr ⟨(mem_leases_of_expiries hpath lease).1 hls, hexpired⟩) hls

/-! ### What the operations write -/

/-- The write of a `claim` that returns: an incident, or a new attempt in a lane without a
lease. -/
theorem claim_eq_ok {maxAttempts : ℕ} {resources : List String} {leaseSeconds : ℤ}
    {result : Option LaneLease}
    (h : (claim env maxAttempts laneId workerId resources leaseSeconds inputs).run LaneSql.exec db =
      (.ok result, db')) :
    ∃ db₁, Relation.ReflTransGen (LaneExpiry inputs.now) db db₁ ∧
      (∀ lease ∈ db₁.leases.rows, inputs.now < lease.expiresAtUtc) ∧
      (result = none ∧ (db' = db₁ ∨ ∃ row, (LaneWrite.incident row).exec db₁ = some db') ∨
        db₁.leases.find? laneId = none ∧ db₁.countAttempts laneId < maxAttempts ∧
        ∃ attempt : LaneAttempt, attempt.logicalLaneId = laneId ∧ attempt.resources = resources ∧
          attempt.state = .active ∧ attempt.attemptNumber = db₁.countAttempts laneId + 1 ∧
          (LaneWrite.attempt attempt).exec db₁ = some db') := by
  obtain ⟨expired, db₁, hexpire, h⟩ := run_bind_eq_ok h
  obtain ⟨hpath, hlive⟩ := expireDueLeases_eq_ok hexpire
  obtain ⟨active, hact, h⟩ := run_call_bind_eq_ok h
  cases hact
  refine ⟨db₁, hpath, hlive, ?_⟩
  split at h
  · cases h
    exact .inl ⟨rfl, .inl rfl⟩
  · rename_i hfree
    obtain ⟨count, hcnt, h⟩ := run_call_bind_eq_ok h
    cases hcnt
    split at h
    · obtain ⟨row, db₂, hincident, hpure⟩ := run_bind_eq_ok h
      cases hpure
      exact .inl ⟨rfl, .inr ⟨row, recordIncident_eq_ok hincident⟩⟩
    · rename_i hmax
      obtain ⟨expiresAt, -, h⟩ := run_ofExcept_bind_eq_ok h
      obtain ⟨lease, db₂, hatt, hpure⟩ := run_bind_eq_ok h
      cases hpure
      refine .inr ⟨by simpa using hfree, not_lt.mp hmax, _, ?_, ?_, ?_, ?_,
        insertAttempt_eq_ok hatt⟩ <;> rfl

variable {maxAttempts : ℕ} {result : Bool}

theorem renew_step {leaseSeconds : ℤ} {expiresAt : Instant}
    (h : (renew env laneId workerId token expiresAt inputs).run LaneSql.exec db =
      (.ok result, db')) :
    LaneStep env maxAttempts (.renew laneId workerId token leaseSeconds inputs) db db' := by
  obtain ⟨expired, db₁, hexpire, h⟩ := run_bind_eq_ok h
  refine ⟨db₁, (expireDueLeases_eq_ok hexpire).1, ?_⟩
  obtain ⟨renewed, hrenewed, h⟩ := run_call_bind_eq_ok h
  cases hrenewed
  cases hls : db₁.selectAuthorized laneId (some workerId) token inputs.now with
  | none =>
    rw [hls] at h
    cases h
    exact .inl (renewLease_of_none hls)
  | some =>
    rw [hls] at h
    cases h
    exact .inr ⟨_, .renew expiresAt hls, rfl⟩

theorem release_step
    (h : (release env laneId workerId token inputs).run LaneSql.exec db = (.ok result, db')) :
    LaneStep env maxAttempts (.release laneId workerId token inputs) db db' := by
  obtain ⟨expired, db₁, hexpire, h⟩ := run_bind_eq_ok h
  refine ⟨db₁, (expireDueLeases_eq_ok hexpire).1, ?_⟩
  obtain ⟨lease, hls, h⟩ := run_call_bind_eq_ok h
  cases lease with
  | none =>
    cases h
    exact .inl rfl
  | some =>
    obtain ⟨row, db₂, hfen, hpure⟩ := run_bind_eq_ok h
    cases hpure
    obtain ⟨hmem, rfl, -⟩ := selectAuthorized_eq_some (Except.ok.inj hls)
    exact .inr ⟨_, .fence _ hmem _ _, fenceAttempt_eq_ok hfen⟩

theorem heartbeat_step {intent : JsonObject}
    (h : (heartbeat env laneId workerId token intent inputs).run LaneSql.exec db =
      (.ok result, db')) :
    LaneStep env maxAttempts (.heartbeat laneId workerId token intent inputs) db db' := by
  obtain ⟨expired, db₁, hexpire, h⟩ := run_bind_eq_ok h
  refine ⟨db₁, (expireDueLeases_eq_ok hexpire).1, ?_⟩
  obtain ⟨lease, hls, h⟩ := run_call_bind_eq_ok h
  cases lease with
  | none =>
    cases h
    exact .inl rfl
  | some =>
    obtain ⟨u, db₂, hins, hpure⟩ := run_bind_eq_ok h
    cases hpure
    exact .inr ⟨_, .heartbeat (Except.ok.inj hls), insert_eq_ok rfl hins⟩

/-- A `record_result` that returns has found a result of the attempt and rolls back, or has
recorded one, or was not authorized. -/
theorem recordResult_eq_ok {fingerprint : String} {workerId : Option String}
    {verdict : Verdict Bool}
    (h : (recordResult env laneId token fingerprint workerId inputs).run LaneSql.exec db =
      (.ok verdict, db')) :
    ∃ db₁, Relation.ReflTransGen (LaneExpiry inputs.now) db db₁ ∧
      (verdict = .rollback false ∨
        ∃ lease, db₁.selectAuthorized laneId workerId token inputs.now = some lease ∧
          ((∃ existing value, db₁.results.find? lease.attemptId = some existing ∧
              verdict = .rollback value) ∨
            verdict = .commit true ∧
              (LaneWrite.result ⟨lease.attemptId, laneId, token, fingerprint,
                inputs.now⟩).exec db₁ = some db')) := by
  obtain ⟨-, -, h⟩ := run_call_bind_eq_ok h
  obtain ⟨expired, db₁, hexpire, h⟩ := run_bind_eq_ok h
  refine ⟨db₁, (expireDueLeases_eq_ok hexpire).1, ?_⟩
  obtain ⟨lease, hls, h⟩ := run_call_bind_eq_ok h
  cases lease with
  | none =>
    cases h
    exact .inl rfl
  | some lease =>
    refine .inr ⟨lease, Except.ok.inj hls, ?_⟩
    obtain ⟨existing, hexisting, h⟩ := run_call_bind_eq_ok h
    cases existing with
    | some existing =>
      cases h
      exact .inl ⟨existing, _, Except.ok.inj hexisting, rfl⟩
    | none =>
      obtain ⟨u, db₂, hins, h⟩ := run_bind_eq_ok h
      cases h
      exact .inr ⟨rfl, Option.map_eq_some_iff.mpr ⟨db₂, insert_eq_ok rfl hins, rfl⟩⟩

theorem recoverLostWorker_step {workerId : Option String} {result : LaneIncident}
    (h : (recoverLostWorker env laneId token workerId inputs).run LaneSql.exec db =
      (.ok result, db')) :
    LaneStep env maxAttempts (.recoverLostWorker laneId token workerId inputs) db db' := by
  obtain ⟨expired, db₁, hexpire, h⟩ := run_bind_eq_ok h
  refine ⟨db₁, (expireDueLeases_eq_ok hexpire).1, ?_⟩
  obtain ⟨lease, hls, h⟩ := run_call_bind_eq_ok h
  cases lease with
  | none =>
    obtain ⟨latest, -, h⟩ := run_call_bind_eq_ok h
    cases latest with
    | none => exact .inr ⟨_, .incident _ _, recordIncident_eq_ok h⟩
    | some =>
      dsimp only at h
      split at h
      · cases h
        exact .inl rfl
      · exact .inr ⟨_, .incident _ _, recordIncident_eq_ok h⟩
  | some =>
    obtain ⟨hmem, rfl⟩ := Table.find?_eq_some_iff.mp (Except.ok.inj hls)
    dsimp only at h
    split at h
    · exact .inr ⟨_, .fence _ hmem _ _, fenceAttempt_eq_ok h⟩
    · exact .inr ⟨_, .incident _ _, recordIncident_eq_ok h⟩

end Lane

/-- Every call is a step. -/
theorem LaneCall.laneStep (env : LaneEnv) (maxAttempts : ℕ) (call : LaneCall) (db : LaneDb) :
    LaneStep env maxAttempts call db (call.step env maxAttempts db) := by
  rcases atomically_cases (call.block env maxAttempts) db with hsame | ⟨value, hrun⟩
  · exact ⟨db, .refl, .inl hsame⟩
  change (call.block env maxAttempts).run LaneSql.exec db =
    (.ok (.commit value), call.step env maxAttempts db) at hrun
  cases call with
  | claim =>
    obtain ⟨keys, hkeys, hrun⟩ := run_ofExcept_bind_eq_ok hrun
    obtain ⟨result, hrun⟩ := run_committing_map_eq_ok hrun
    obtain ⟨db₁, hpath, hlive, ⟨-, hsame | ⟨row, hexec⟩⟩ | ⟨-, hmax, attempt, hlane, rfl, hst,
      hnumber, hexec⟩⟩ := Lane.claim_eq_ok hrun
    · exact ⟨db₁, hpath, .inl hsame⟩
    · exact ⟨db₁, hpath, .inr ⟨_, .incident _ row, hexec⟩⟩
    · exact ⟨db₁, hpath, .inr ⟨_, .claim hlane hkeys hst hnumber hmax hlive, hexec⟩⟩
  | renew =>
    obtain ⟨expiresAt, -, hrun⟩ := run_ofExcept_bind_eq_ok hrun
    obtain ⟨result, hrun⟩ := run_committing_map_eq_ok hrun
    exact Lane.renew_step hrun
  | release =>
    obtain ⟨result, hrun⟩ := run_committing_map_eq_ok hrun
    exact Lane.release_step hrun
  | heartbeat =>
    obtain ⟨result, hrun⟩ := run_committing_map_eq_ok hrun
    exact Lane.heartbeat_step hrun
  | recordResult =>
    obtain ⟨verdict, db₂, hrun, hpure⟩ := run_bind_eq_ok hrun
    obtain ⟨hverdict, rfl⟩ := Prod.mk.inj hpure
    obtain ⟨db₁, hpath, rfl | ⟨lease, hls, ⟨existing, flag, -, rfl⟩ | ⟨-, hexec⟩⟩⟩ :=
      Lane.recordResult_eq_ok hrun
    · cases hverdict
    · cases hverdict
    · exact ⟨db₁, hpath, .inr ⟨_, .recordResult hls, hexec⟩⟩
  | recoverLostWorker =>
    obtain ⟨result, hrun⟩ := run_committing_map_eq_ok hrun
    exact Lane.recoverLostWorker_step hrun

/-! ### The invariant -/

/-- The attempts of a lane, in the order in which they were made. -/
def LaneDb.attemptsOf (db : LaneDb) (laneId : String) : List LaneAttempt :=
  db.attempts.rows.filter fun attempt => attempt.logicalLaneId == laneId

/-- The invariant of the tables between two operations. -/
structure LaneInv (maxAttempts : ℕ) (db : LaneDb) : Prop extends LaneDb.Orphanless db where
  lease : ∀ lease ∈ db.leases.rows, ∃ attempt ∈ db.attempts.rows,
    attempt.attemptId = lease.attemptId ∧ attempt.logicalLaneId = lease.logicalLaneId ∧
      attempt.fencingToken = lease.fencingToken
  numbered : ∀ laneId, (db.attemptsOf laneId).map LaneAttempt.attemptNumber =
    List.range' 1 (db.countAttempts laneId)
  bounded : ∀ laneId, db.countAttempts laneId ≤ maxAttempts
  result : ∀ result ∈ db.results.rows, ∃ attempt ∈ db.attempts.rows,
    attempt.attemptId = result.attemptId ∧ attempt.logicalLaneId = result.logicalLaneId ∧
      attempt.fencingToken = result.fencingToken ∧ attempt.state = .completed

namespace LaneInv

variable {env : LaneEnv} {maxAttempts : ℕ} {db db' : LaneDb}

theorem empty (maxAttempts : ℕ) : LaneInv maxAttempts {} where
  active := nofun
  claim := nofun
  lease := nofun
  numbered _ := rfl
  bounded _ := Nat.zero_le _
  result := nofun

variable {g : LaneAttempt → LaneAttempt}

/-- Rewriting the attempts in place changes neither their lanes nor their numbers. -/
theorem attemptsOf_map (hg : ∀ x : LaneAttempt, x.Follows (g x))
    (hatts : db'.attempts.rows = db.attempts.rows.map g) (laneId : String) :
    db'.attemptsOf laneId = (db.attemptsOf laneId).map g := by
  rw [attemptsOf, hatts, filter_map]
  refine congrArg (map g) (filter_congr fun x _ => ?_)
  simp [(hg x).logicalLaneId]

theorem countAttempts_map (hg : ∀ x : LaneAttempt, x.Follows (g x))
    (hatts : db'.attempts.rows = db.attempts.rows.map g) (laneId : String) :
    db'.countAttempts laneId = db.countAttempts laneId := by
  change (db'.attemptsOf laneId).length = (db.attemptsOf laneId).length
  rw [attemptsOf_map hg hatts laneId, length_map]

section

variable (h : LaneInv maxAttempts db)
include h

/-- A write that rewrites the attempts in place. -/
theorem of_rewrite {w : LaneWrite} (hexec : w.exec db = some db') (hw : ∀ row, w ≠ .attempt row)
    (hsound : w.Sound db)
    (hress : ∀ result ∈ db'.results.rows, result ∈ db.results.rows ∨
      ∃ attempt ∈ db'.attempts.rows, attempt.attemptId = result.attemptId ∧
        attempt.logicalLaneId = result.logicalLaneId ∧
        attempt.fencingToken = result.fencingToken ∧ attempt.state = .completed) :
    LaneInv maxAttempts db' := by
  have horphanless := orphanless hexec hsound h.toOrphanless
  obtain ⟨⟨g, hg, hatts⟩, hlss, -⟩ := exec_rewrites hexec hw
  refine { toOrphanless := horphanless, lease := ?_, numbered := ?_, bounded := ?_, result := ?_ }
  · intro lease' hls'
    obtain ⟨lease, hls, hlane, hid, htok⟩ := hlss lease' hls'
    obtain ⟨x, hx, hxid, hxlane, hxtoken⟩ := h.lease lease hls
    refine ⟨g x, hatts ▸ mem_map_of_mem hx, ?_, ?_, ?_⟩
    · rw [(hg x).attemptId, hxid, hid]
    · rw [(hg x).logicalLaneId, hxlane, hlane]
    · rw [(hg x).fencingToken, hxtoken, htok]
  · intro laneId
    rw [countAttempts_map hg hatts, attemptsOf_map hg hatts, map_map, ← h.numbered laneId]
    exact map_congr_left fun x _ => (hg x).attemptNumber
  · intro laneId
    rw [countAttempts_map hg hatts]
    exact h.bounded laneId
  · intro result hres
    rcases hress result hres with hold | hnew
    · obtain ⟨x, hx, hxid, hxlane, hxtoken, hxstate⟩ := h.result result hold
      exact ⟨g x, hatts ▸ mem_map_of_mem hx, (hg x).attemptId.trans hxid,
        (hg x).logicalLaneId.trans hxlane, (hg x).fencingToken.trans hxtoken,
        (hg x).completed hxstate⟩
    · exact hnew

/-- A new attempt gets the next number of its lane. -/
theorem attempt {row : LaneAttempt}
    (hnumber : row.attemptNumber = db.countAttempts row.logicalLaneId + 1)
    (hmax : db.countAttempts row.logicalLaneId < maxAttempts)
    (hexec : (attempt row).exec db = some db') : LaneInv maxAttempts db' := by
  have horphanless := h.toOrphanless.attempt hexec
  obtain ⟨hatts, hlss, -, hress, -⟩ := exec_attempt hexec
  have hof : ∀ laneId, db'.attemptsOf laneId = db.attemptsOf laneId ++
      if row.logicalLaneId = laneId then [row] else [] := by
    intro laneId
    rw [attemptsOf, hatts, filter_append, attemptsOf]
    by_cases hlane : row.logicalLaneId = laneId <;> simp [hlane]
  have hcnt : ∀ laneId, db'.countAttempts laneId =
      db.countAttempts laneId + if row.logicalLaneId = laneId then 1 else 0 := by
    intro laneId
    change (db'.attemptsOf laneId).length = (db.attemptsOf laneId).length + _
    rw [hof, length_append]
    split <;> rfl
  refine { toOrphanless := horphanless, lease := ?_, numbered := ?_, bounded := ?_, result := ?_ }
  · intro lease hls
    rw [hlss] at hls
    rw [hatts]
    rcases mem_append.mp hls with hls | hls
    · obtain ⟨x, hx, hmt⟩ := h.lease lease hls
      exact ⟨x, mem_append_left _ hx, hmt⟩
    · rw [mem_singleton.mp hls]
      exact ⟨row, mem_append_right _ (mem_singleton_self row), rfl, rfl, rfl⟩
  · intro laneId
    rw [hcnt, hof, map_append, h.numbered laneId]
    by_cases hlane : row.logicalLaneId = laneId
    · subst hlane
      rw [if_pos rfl, if_pos rfl, range'_concat, map_singleton, hnumber, Nat.one_mul,
        Nat.add_comm 1]
    · rw [if_neg hlane, if_neg hlane, map_nil, append_nil, Nat.add_zero]
  · intro laneId
    rw [hcnt]
    by_cases hlane : row.logicalLaneId = laneId
    · subst hlane
      rw [if_pos rfl]
      exact hmax
    · rw [if_neg hlane]
      exact h.bounded laneId
  · intro result hres
    rw [hress] at hres
    obtain ⟨x, hx, hmt⟩ := h.result result hres
    exact ⟨x, hatts ▸ mem_append_left _ hx, hmt⟩

/-- A result completes the attempt whose token it was recorded with. -/
theorem exec_result {row : LaneResult} (hls : lease ∈ db.leases.rows)
    (hid : row.attemptId = lease.attemptId) (hlane : row.logicalLaneId = lease.logicalLaneId)
    (htok : row.fencingToken = lease.fencingToken)
    (hexec : (LaneWrite.result row).exec db = some db') : LaneInv maxAttempts db' := by
  refine h.of_rewrite hexec nofun trivial fun result hres => ?_
  obtain ⟨db₁, hins, rfl⟩ := Option.map_eq_some_iff.mp hexec
  obtain ⟨results, hress, rfl⟩ := insertResult_eq_some hins
  have hmem : result ∈ results.rows := hres
  rw [(Table.insert_eq_some_iff.mp hress).2, mem_append, mem_singleton] at hmem
  rcases hmem with hold | rfl
  · exact .inl hold
  · obtain ⟨x, hx, hxid, hxlane, hxtoken⟩ := h.lease lease hls
    have hcompleted : (x.attemptId == result.attemptId) = true := by
      rw [hxid, hid, beq_self_eq_true]
    refine .inr ⟨{ x with state := .completed }, mem_map.mpr ⟨x, hx, if_pos hcompleted⟩, ?_⟩
    exact ⟨hxid.trans hid.symm, hxlane.trans hlane.symm, hxtoken.trans htok.symm, rfl⟩

/-- The fence of an attempt that has a lease. -/
theorem fence (hls : lease ∈ db.leases.rows) {t : Instant} {row : LaneIncident}
    (hexec : (LaneWrite.fence lease.attemptId lease.logicalLaneId t row).exec db = some db') :
    LaneInv maxAttempts db' := by
  have hsound : (LaneWrite.fence lease.attemptId lease.logicalLaneId t row).Sound db := by
    intro other hoth hlane
    rw [db.leases.eq_of_key_eq hoth hls hlane]
  refine h.of_rewrite hexec nofun hsound fun result hres => ?_
  obtain ⟨_, rfl⟩ := insertIncident_eq_some hexec
  exact .inl hres

theorem allows {call : LaneCall} {w : LaneWrite} (hallows : call.Allows env maxAttempts db w)
    (hexec : w.exec db = some db') :
    LaneInv maxAttempts db' := by
  cases hallows with
  | incident =>
    obtain ⟨_, rfl⟩ := insertIncident_eq_some hexec
    exact { h with }
  | fence _ hls => exact h.fence hls hexec
  | claim hlane _ _ hnumber hmax =>
    subst hlane
    exact h.attempt hnumber hmax hexec
  | renew =>
    refine h.of_rewrite hexec nofun trivial fun result hres => ?_
    cases hexec
    exact .inl hres
  | heartbeat =>
    obtain rfl := insertHeartbeat_eq_some hexec
    exact { h with }
  | recordResult hls =>
    obtain ⟨hmem, rfl, rfl, -⟩ := selectAuthorized_eq_some hls
    exact h.exec_result hmem rfl rfl rfl hexec

theorem expiries
    (hpath : Relation.ReflTransGen (LaneExpiry now) db db') : LaneInv maxAttempts db' := by
  induction hpath with
  | refl => exact h
  | tail _ step ih =>
    obtain ⟨lease, hls, -, t, row, hexec⟩ := step
    exact ih.fence hls hexec

/-- A step keeps the invariant. -/
theorem laneStep {call : LaneCall}
    (hstep : LaneStep env maxAttempts call db db') : LaneInv maxAttempts db' := by
  obtain ⟨db₁, hpath, rfl | ⟨w, hallows, hexec⟩⟩ := hstep
  · exact h.expiries hpath
  · exact (h.expiries hpath).allows hallows hexec

end

/-- The invariant holds after every sequence of calls. -/
theorem run (env : LaneEnv) (maxAttempts : ℕ) (calls : List LaneCall) :
    LaneInv maxAttempts (runCalls (LaneCall.step env maxAttempts) {} calls) := by
  induction calls using reverseRecOn with
  | nil => exact .empty maxAttempts
  | append_singleton _ call ih =>
    rw [runCalls_concat]
    exact ih.laneStep (call.laneStep env maxAttempts _)

end LaneInv

/-! ### Tokens -/

namespace LaneStep

variable {env : LaneEnv} {maxAttempts : ℕ} {call : LaneCall} {db db' : LaneDb}

/-- Expiries add no heartbeat and no result. -/
theorem unchanged_of_expiries (h : Relation.ReflTransGen (LaneExpiry now) db db') :
    db'.heartbeats = db.heartbeats ∧ db'.results = db.results := by
  induction h with
  | refl => exact ⟨rfl, rfl⟩
  | tail _ step ih =>
    obtain ⟨lease, -, -, t, row, hexec⟩ := step
    obtain ⟨_, rfl⟩ := insertIncident_eq_some hexec
    exact ih

/-- A result that a call has added was recorded with the token of a lease of its attempt that
was not due. -/
theorem mem_results (h : LaneStep env maxAttempts call db db') {row : LaneResult}
    (hrow : row ∈ db'.results.rows) :
    row ∈ db.results.rows ∨ ∃ lease ∈ db.leases.rows,
      call.presents = some (lease.logicalLaneId, lease.fencingToken) ∧
      call.now < lease.expiresAtUtc ∧ lease.attemptId = row.attemptId ∧
      lease.logicalLaneId = row.logicalLaneId ∧ lease.fencingToken = row.fencingToken := by
  obtain ⟨db₁, hpath, hlast⟩ := h
  have hress := (unchanged_of_expiries hpath).2
  rw [← hress]
  rcases hlast with rfl | ⟨w, hallows, hexec⟩
  · exact .inl hrow
  cases hallows with
  | incident | fence =>
    obtain ⟨_, rfl⟩ := insertIncident_eq_some hexec
    exact .inl hrow
  | claim =>
    obtain ⟨-, -, -, hsame, -⟩ := exec_attempt hexec
    exact .inl (hsame ▸ hrow)
  | renew =>
    cases hexec
    exact .inl hrow
  | heartbeat =>
    obtain rfl := insertHeartbeat_eq_some hexec
    exact .inl hrow
  | recordResult hls =>
    obtain ⟨hmem, rfl, rfl, hlive⟩ := selectAuthorized_eq_some hls
    obtain ⟨db₂, hins, rfl⟩ := Option.map_eq_some_iff.mp hexec
    obtain ⟨results, htable, rfl⟩ := insertResult_eq_some hins
    have hmem' : row ∈ results.rows := hrow
    rw [(Table.insert_eq_some_iff.mp htable).2, mem_append, mem_singleton] at hmem'
    refine hmem'.imp id fun hnew => ?_
    subst hnew
    exact ⟨_, (Lane.mem_leases_of_expiries hpath _).1 hmem, rfl, hlive, rfl, rfl, rfl⟩

/-- A call with a token that is not the one of its lane's lease adds no heartbeat and no
result, and no lease is extended. -/
theorem unauthorized (h : LaneStep env maxAttempts call db db')
    (hpresents : call.presents = some (laneId, token))
    (hoth : ∀ lease ∈ db.leases.rows, lease.logicalLaneId = laneId → lease.fencingToken ≠ token) :
    db'.heartbeats = db.heartbeats ∧ db'.results = db.results ∧
      ∀ lease ∈ db'.leases.rows, lease ∈ db.leases.rows := by
  obtain ⟨db₁, hpath, hlast⟩ := h
  obtain ⟨hheartbeats, hress⟩ := unchanged_of_expiries hpath
  have hlss : ∀ lease ∈ db₁.leases.rows, lease ∈ db.leases.rows :=
    fun lease => (Lane.mem_leases_of_expiries hpath lease).1
  -- A lease that authorizes the call would be one with the presented token.
  have hno : ∀ {workerId : Option String} {now : Instant} {lease : LaneLeaseRow},
      db₁.selectAuthorized laneId workerId token now ≠ some lease := by
    intro workerId now lease hls
    obtain ⟨hmem, hlane, htok, -⟩ := selectAuthorized_eq_some hls
    exact hoth lease (hlss lease hmem) hlane htok
  rw [← hheartbeats, ← hress]
  rcases hlast with rfl | ⟨w, hallows, hexec⟩
  · exact ⟨rfl, rfl, hlss⟩
  cases hallows with
  | incident =>
    obtain ⟨_, rfl⟩ := insertIncident_eq_some hexec
    exact ⟨rfl, rfl, hlss⟩
  | fence =>
    have hsub : ∀ lease ∈ db'.leases.rows, lease ∈ db₁.leases.rows :=
      fun lease hmem => ((mem_leases_fence hexec).mp hmem).1
    obtain ⟨_, rfl⟩ := insertIncident_eq_some hexec
    exact ⟨rfl, rfl, fun lease hmem => hlss lease (hsub lease hmem)⟩
  | claim => cases hpresents
  | renew _ hls =>
    cases hpresents
    exact absurd hls hno
  | heartbeat hls | recordResult hls =>
    cases hpresents
    exact absurd hls hno

end LaneStep

section

variable (env : LaneEnv) (maxAttempts : ℕ) (calls : List LaneCall)

/-- A result was recorded by one of the calls, which presented the token of a lease that its
attempt held and that was not due. -/
def LaneResult.RecordedUnderLease (result : LaneResult) : Prop :=
  ∃ earlier call later, calls = earlier ++ call :: later ∧
    let before := runCalls (LaneCall.step env maxAttempts) {} earlier
    result ∉ before.results.rows ∧
      result ∈ (call.step env maxAttempts before).results.rows ∧
      ∃ lease ∈ before.leases.rows, ∃ attempt ∈ before.attempts.rows,
        attempt.attemptId = result.attemptId ∧ lease.attemptId = result.attemptId ∧
        attempt.fencingToken = result.fencingToken ∧ lease.fencingToken = result.fencingToken ∧
        call.presents = some (lease.logicalLaneId, lease.fencingToken) ∧
        call.now < lease.expiresAtUtc

/-- The induction over the calls: the result is there before the last call, or the last call
has recorded it. -/
theorem recordedUnderLease_of_mem {result : LaneResult}
    (h : result ∈ (runCalls (LaneCall.step env maxAttempts) {} calls).results.rows) :
    result.RecordedUnderLease env maxAttempts calls := by
  induction calls using reverseRecOn with
  | nil => cases h
  | append_singleton calls call ih =>
    rw [runCalls_concat] at h
    set before := runCalls (LaneCall.step env maxAttempts) {} calls with hbef
    by_cases hold : result ∈ before.results.rows
    · obtain ⟨earlier, call', later, rfl, hrecd⟩ := ih hold
      exact ⟨earlier, call', later ++ [call], by simp, hrecd⟩
    · have hstep := call.laneStep env maxAttempts before
      obtain ⟨lease, hls, hpresents, hlive, hid, -, htok⟩ :=
        (hstep.mem_results h).resolve_left hold
      obtain ⟨attempt, hatt, haid, -, hatoken⟩ :=
        (LaneInv.run env maxAttempts calls).lease lease hls
      exact ⟨calls, call, [], rfl, hold, h, lease, hls, attempt, hatt, haid.trans hid, hid,
        hatoken.trans htok, htok, hpresents, hlive⟩

end

/-- What holds of the tables after every sequence of calls, from an empty database: the keys,
the owners of claims and of active attempts, the numbers of the attempts, the results, and what
a call with another token than the one of the current lease cannot do. -/
theorem lane_registry_invariant (env : LaneEnv) (maxAttempts : ℕ) (calls : List LaneCall) :
    let db := runCalls (LaneCall.step env maxAttempts) {} calls
    (db.leases.rows.map LaneLeaseRow.logicalLaneId).Nodup ∧
    (db.claims.rows.map LaneClaim.resourceKey).Nodup ∧
    (∀ claim ∈ db.claims.rows, ∃ lease ∈ db.leases.rows, lease.attemptId = claim.attemptId) ∧
    (∀ attempt ∈ db.attempts.rows, attempt.state = .active →
      ∃ lease ∈ db.leases.rows, lease.attemptId = attempt.attemptId) ∧
    (∀ laneId, ∃ n ≤ maxAttempts,
      (db.attemptsOf laneId).map LaneAttempt.attemptNumber = List.range' 1 n) ∧
    (db.results.rows.map LaneResult.attemptId).Nodup ∧
    (∀ result ∈ db.results.rows, result.RecordedUnderLease env maxAttempts calls) ∧
    ∀ call : LaneCall, ∀ laneId token, call.presents = some (laneId, token) →
      (∀ lease ∈ db.leases.rows, lease.logicalLaneId = laneId → lease.fencingToken ≠ token) →
      (call.step env maxAttempts db).heartbeats = db.heartbeats ∧
      (call.step env maxAttempts db).results = db.results ∧
      ∀ lease ∈ (call.step env maxAttempts db).leases.rows, lease ∈ db.leases.rows := by
  intro db
  have hinv : LaneInv maxAttempts db := LaneInv.run env maxAttempts calls
  refine ⟨db.leases.nodup, db.claims.nodup, hinv.claim, hinv.active, fun laneId => ?_,
    db.results.nodup, fun result => recordedUnderLease_of_mem env maxAttempts calls, ?_⟩
  · exact ⟨db.countAttempts laneId, hinv.bounded laneId, hinv.numbered laneId⟩
  · intro call laneId token hpresents hoth
    exact (call.laneStep env maxAttempts db).unauthorized hpresents hoth

end ProjectPipeline
