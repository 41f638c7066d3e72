import ProjectPipeline.LaneWrites

/-!
# Races of the Lane Registry

Several clients use the lane registry on one database. In a `with self._conn` block the
statements before the first write are outside of the transaction, so a client may select the
leases that are due, and another client may fence and replace them before the first one goes
on. It then deletes the lease of the lane, which is a lease of the new attempt by now, while it
deletes the claims of the old attempt.

The condition `LaneSql.TakesOwnLease` excludes just that: whenever a client deletes the lease of
a lane, the lease that is there belongs to the attempt that the client fences.

## Main results

* `no_orphans_interleaved`: under that condition, in every interleaving of any number of clients
  every committed database has a lease for each claim and each active attempt.
* `orphan_after_stale_expiry`: an interleaving of two clients after which an attempt is active,
  and holds a resource, without a lease.
-/

namespace ProjectPipeline

/-- A lease that a statement deletes belongs to the attempt that is fenced with it. -/
def LaneSql.TakesOwnLease : LaneSql → LaneDb → Prop
  | deleteLease laneId fenced, db =>
    ∀ lease ∈ db.leases.rows, lease.logicalLaneId = laneId → lease.attemptId = fenced
  | _, _ => True

instance (instr : LaneSql) (db : LaneDb) : Decidable (instr.TakesOwnLease db) := by
  cases instr with
  | deleteLease =>
    rw [LaneSql.TakesOwnLease]
    infer_instance
  | _ => exact isTrue trivial

/-! ### Parts of the blocks -/

namespace Lane

variable {env : LaneEnv} {inputs : LaneInputs}

/-- A part of a block after which there are no orphans. -/
abbrev LeavesNoOrphans {α : Type} (p : LaneProg α) : Prop :=
  p.Steady LaneSql.exec LaneSql.writes LaneDb.Orphanless LaneSql.TakesOwnLease

/-- An insertion that keeps the attempts, the leases and the claims. -/
theorem leavesNoOrphans_insert {instr : LaneSql} {after : LaneDb → Option LaneDb}
    (hwrs : instr.writes = true) (hexec : ∀ db, instr.exec db = (after db).getD db)
    (haft : ∀ db db', db.Orphanless → after db = some db' → db'.Orphanless) :
    LeavesNoOrphans (insert instr after) := by
  refine Prog.Steady.write hwrs fun db hdb _ => ?_
  rw [hexec]
  cases h : after db with
  | none => exact hdb
  | some db' => exact haft db db' hdb h

variable {laneId workerId token : String} {number : ℕ} {kind : LaneIncidentKind}

theorem leavesNoOrphans_recordIncident {attemptId : Option String} :
    LeavesNoOrphans (recordIncident env inputs number laneId attemptId kind) := by
  refine Prog.Steady.bind (leavesNoOrphans_insert rfl (fun _ => rfl) ?_) fun _ => .pure _
  intro db db' hdb hins
  exact LaneWrite.orphanless (w := .incident _) hins trivial hdb

/-- The fence of an attempt is one group. -/
theorem leavesNoOrphans_fenceAttempt {attemptId : String} :
    LeavesNoOrphans (fenceAttempt env inputs number attemptId laneId kind) := by
  refine Prog.Steady.group rfl ?_
  intro db row db' hdb hpasses hrun
  exact LaneWrite.orphanless (fenceAttempt_eq_ok hrun) hpasses.2.1 hdb

theorem leavesNoOrphans_expireLeases {rows : List LaneLeaseRow} :
    LeavesNoOrphans (expireLeases env inputs number rows) := by
  induction rows generalizing number with
  | nil => exact .pure ()
  | cons _ _ ih => exact leavesNoOrphans_fenceAttempt.bind fun _ => ih

theorem leavesNoOrphans_expireDueLeases : LeavesNoOrphans (expireDueLeases env inputs) := by
  refine Prog.Steady.bind (.read rfl fun _ => rfl) fun rows => ?_
  exact leavesNoOrphans_expireLeases.bind fun _ => .pure _

/-- A new attempt with its lease and its claims is one group. -/
theorem leavesNoOrphans_insertAttempt {attempt : LaneAttempt} :
    LeavesNoOrphans (insertAttempt attempt) := by
  refine Prog.Steady.group rfl ?_
  intro db lease db' hdb _ hrun
  exact LaneWrite.orphanless (insertAttempt_eq_ok hrun) trivial hdb

/-! ### The blocks -/

theorem leavesNoOrphans_claim {maxAttempts : ℕ} {resources : List String} {leaseSeconds : ℤ} :
    LeavesNoOrphans (claim env maxAttempts laneId workerId resources leaseSeconds inputs) := by
  refine leavesNoOrphans_expireDueLeases.bind fun expired => ?_
  refine Prog.Steady.bind (.read rfl fun _ => rfl) fun active => ?_
  split
  · exact .pure _
  refine Prog.Steady.bind (.read rfl fun _ => rfl) fun count => ?_
  split
  · exact leavesNoOrphans_recordIncident.bind fun _ => .pure _
  · refine (Prog.Steady.ofExcept _).bind fun expiresAt => ?_
    exact leavesNoOrphans_insertAttempt.bind fun _ => .pure _

/-- A renewal rewrites the lease and the attempt in place, each in a statement of its own. -/
theorem leavesNoOrphans_renew {expiresAt : Instant} :
    LeavesNoOrphans (renew env laneId workerId token expiresAt inputs) := by
  refine leavesNoOrphans_expireDueLeases.bind fun expired => ?_
  refine Prog.Steady.bind (.write rfl fun db hdb _ => ?_) fun renewed => ?_
  · refine hdb.of_follows (fun x hx => ⟨x, hx, .refl x⟩) (fun lease hls => ?_) rfl
    refine ⟨_, List.mem_map.mpr ⟨lease, hls, rfl⟩, ?_⟩
    split <;> rfl
  split
  · refine Prog.Steady.bind (.write rfl fun db hdb _ => ?_) fun _ => .pure _
    refine hdb.of_follows (fun x hx => ?_) (fun lease hls => ⟨lease, hls, rfl⟩) rfl
    obtain ⟨old, hold, rfl⟩ := List.mem_map.mp hx
    refine ⟨old, hold, ?_⟩
    split
    · exact ⟨rfl, rfl, rfl, rfl, id, id⟩
    · exact .refl old
  · exact .pure _

theorem leavesNoOrphans_release : LeavesNoOrphans (release env laneId workerId token inputs) := by
  refine leavesNoOrphans_expireDueLeases.bind fun expired => ?_
  refine Prog.Steady.bind (.read rfl fun _ => rfl) fun lease => ?_
  cases lease with
  | none => exact .pure _
  | some => exact leavesNoOrphans_fenceAttempt.bind fun _ => .pure _

theorem leavesNoOrphans_heartbeat {intent : JsonObject} :
    LeavesNoOrphans (heartbeat env laneId workerId token intent inputs) := by
  refine leavesNoOrphans_expireDueLeases.bind fun expired => ?_
  refine Prog.Steady.bind (.read rfl fun _ => rfl) fun lease => ?_
  cases lease with
  | none => exact .pure _
  | some =>
    refine Prog.Steady.bind (leavesNoOrphans_insert rfl (fun _ => rfl) ?_) fun _ => .pure _
    intro db db' hdb hins
    exact LaneWrite.orphanless (w := .heartbeat _) hins trivial hdb

/-- `record_result` takes the lock at once; its verdict may be to roll back. -/
theorem safe_recordResult {fingerprint : String} {workerId : Option String} :
    (recordResult env laneId token fingerprint workerId inputs).Safe LaneSql.exec LaneSql.writes
      LaneDb.Orphanless LaneSql.TakesOwnLease := by
  refine Prog.Steady.safe (.write rfl fun db hdb _ => hdb) _ fun _ => ?_
  refine leavesNoOrphans_expireDueLeases.safe _ fun expired => ?_
  refine Prog.Steady.safe (.read rfl fun _ => rfl) _ fun lease => ?_
  cases lease with
  | none => exact .done _
  | some lease =>
    refine Prog.Steady.safe (.read rfl fun _ => rfl) _ fun existing => ?_
    cases existing with
    | some => exact .done _
    | none =>
      refine Prog.Steady.safe (leavesNoOrphans_insert rfl (fun _ => rfl) ?_) _ fun _ => ?_
      · intro db db' hdb hins
        obtain ⟨_, -, rfl⟩ := LaneDb.insertResult_eq_some hins
        exact ⟨hdb.active, hdb.claim⟩
      · refine Prog.Steady.safe (.write rfl fun db hdb _ => ?_) _ fun _ => .done _
        refine hdb.of_follows (fun x hx => ?_) (fun lease hls => ⟨lease, hls, rfl⟩) rfl
        obtain ⟨old, hold, rfl⟩ := List.mem_map.mp hx
        refine ⟨old, hold, ?_⟩
        split
        · exact ⟨rfl, rfl, rfl, rfl, nofun, fun _ => rfl⟩
        · exact .refl old

theorem leavesNoOrphans_recoverLostWorker {workerId : Option String} :
    LeavesNoOrphans (recoverLostWorker env laneId token workerId inputs) := by
  refine leavesNoOrphans_expireDueLeases.bind fun expired => ?_
  refine Prog.Steady.bind (.read rfl fun _ => rfl) fun lease => ?_
  cases lease with
  | none =>
    refine Prog.Steady.bind (.read rfl fun _ => rfl) fun latest => ?_
    cases latest with
    | none => exact leavesNoOrphans_recordIncident
    | some =>
      dsimp only
      split
      · exact .pure _
      · exact leavesNoOrphans_recordIncident
  | some =>
    dsimp only
    split
    · exact leavesNoOrphans_fenceAttempt
    · exact leavesNoOrphans_recordIncident

end Lane

/-- The block of every call is safe. -/
theorem LaneCall.safe_block (env : LaneEnv) (maxAttempts : ℕ) (call : LaneCall) :
    (call.block env maxAttempts).Safe LaneSql.exec LaneSql.writes LaneDb.Orphanless
      LaneSql.TakesOwnLease := by
  cases call with
  | claim =>
    exact (Prog.Steady.ofExcept _).safe _ fun keys => .committing Lane.leavesNoOrphans_claim.map
  | renew =>
    exact (Prog.Steady.ofExcept _).safe _ fun expiresAt =>
      .committing Lane.leavesNoOrphans_renew.map
  | release => exact .committing Lane.leavesNoOrphans_release.map
  | heartbeat => exact .committing Lane.leavesNoOrphans_heartbeat.map
  | recordResult => exact Lane.safe_recordResult.map _
  | recoverLostWorker => exact .committing Lane.leavesNoOrphans_recoverLostWorker.map

/-! ### Interleavings -/

/-- Clients with registries of their own, each with its limit of attempts, on one database. -/
abbrev LaneClients (κ : Type) := BlockMachine LaneSql LaneDb κ LaneReply

/-- What can happen next: a client makes a call with its limit of attempts, or goes on with its
block. -/
def LaneClients.step {κ : Type} [DecidableEq κ] (env : LaneEnv) (m : LaneClients κ)
    (e : BlockEvent κ (ℕ × LaneCall)) : Option (LaneClients κ) :=
  BlockMachine.step LaneSql.exec LaneSql.writes (fun call => call.2.block env call.1) m e

/-- In every interleaving in which a lease is deleted only together with its own attempt, each
claim and each active attempt of every committed database has a lease. -/
theorem no_orphans_interleaved {κ : Type} [DecidableEq κ] (env : LaneEnv)
    (events : List (BlockEvent κ (ℕ × LaneCall))) (m : LaneClients κ)
    (h : Path (LaneClients.step env) (fun m e => m.Meets LaneSql.TakesOwnLease e)
      { committed := {} } events m) : m.committed.Orphanless :=
  BlockMachine.invariant (fun call => (call.2.safe_block env call.1).outside) ⟨nofun, nofun⟩ h

/-- The events of a block that a client executes without a break. -/
def wholeBlock (client : Bool) (call : LaneCall) (statements : ℕ) :
    List (BlockEvent Bool (ℕ × LaneCall)) :=
  .start client (3, call) :: (List.replicate statements (.statement client) ++ [.finish client])

/-- A client claims a lane, and claims it again when the lease is due. The other client starts
a renewal in between, but selects the leases that are due only when the claim is committed. -/
theorem no_orphans_interleaved_two_clients :
    ∃ m : LaneClients Bool, Path (LaneClients.step .plain)
      (fun m e => m.Meets LaneSql.TakesOwnLease e) { committed := {} }
      (wholeBlock true (.claim "lane" "worker" ["repo"] 60 (.plain 0 "first")) 6 ++
        .start false (3, .renew "lane" "worker" "first" 60 (.plain 100000000 "third")) ::
        wholeBlock true (.claim "lane" "worker" ["repo"] 60 (.plain 100000000 "second")) 10 ++
        [.statement false, .statement false, .finish false]) m ∧
      m.committed.claims.rows.length = 1 ∧ m.committed.Orphanless := by
  refine Path.exists_of_replay (P := fun m => m.committed.claims.rows.length = 1)
    (by decide +kernel) fun m hpath hlen => ?_
  exact ⟨hlen, no_orphans_interleaved .plain _ m hpath⟩

/-- The second client selects the lease that is due, the first one fences it, claims the lane
again and commits, and the second one then deletes the lease of the new attempt. -/
theorem orphan_after_stale_expiry :
    ∃ m : LaneClients Bool, Path (LaneClients.step .plain) (fun _ _ => True) { committed := {} }
      (wholeBlock true (.claim "lane" "worker" ["repo"] 60 (.plain 0 "first")) 6 ++
        .start false (3, .renew "lane" "worker" "first" 60 (.plain 100000000 "third")) ::
        .statement false ::
        wholeBlock true (.claim "lane" "worker" ["repo"] 60 (.plain 100000000 "second")) 10 ++
        (List.replicate 5 (.statement false) ++ [.finish false])) m ∧
      m.committed.leases.rows = [] ∧
      m.committed.claims.rows = [⟨"repo", "lane", "ATT-second"⟩] ∧
      m.committed.attempts.rows.map (fun attempt => (attempt.attemptId, attempt.state)) =
        [("ATT-first", .fenced), ("ATT-second", .active)] ∧
      ¬ m.committed.Orphanless := by
  refine Path.exists_of_replay (P := fun m => m.committed.leases.rows = [] ∧
    m.committed.claims.rows = [⟨"repo", "lane", "ATT-second"⟩] ∧
    m.committed.attempts.rows.map (fun attempt => (attempt.attemptId, attempt.state)) =
      [("ATT-first", .fenced), ("ATT-second", .active)]) (by decide +kernel) ?_
  rintro m - ⟨hlss, hcls, hatts⟩
  refine ⟨hlss, hcls, hatts, fun horphanless => ?_⟩
  obtain ⟨lease, hls, -⟩ := horphanless.claim ⟨"repo", "lane", "ATT-second"⟩ (by simp [hcls])
  simp [hlss] at hls

end ProjectPipeline
