import ProjectPipeline.LaneInvariants

/-!
# Lanes That Are Finished

`record_result` marks the attempt of a lane as completed. The operations that follow do not
look at that mark: `claim` asks for the lease of the lane and for the number of its attempts
only, and the lease of a completed attempt expires and is released like any other.

A lane is therefore not run again only as long as each `claim` for it is refused for one of
these two reasons (`LaneCall.SparesFinished`).

## Main results

* `finished_lane_not_claimed`: in every run whose claims for finished lanes meet a lease that
  is not due, or the limit of attempts, a finished lane is not leased again and has one result.
* `finished_lane_claimed_again`: a lane that is released after its result is run again.
-/

namespace ProjectPipeline

open List LaneWrite

/-- An attempt of the lane is completed. -/
def LaneDb.Finished (db : LaneDb) (laneId : String) : Prop :=
  ∃ attempt ∈ db.attempts.rows, attempt.logicalLaneId = laneId ∧ attempt.state = .completed

/-- A claim for a finished lane is made while the lane has a lease that is not due, or when
its attempts are used up. -/
def LaneCall.SparesFinished (maxAttempts : ℕ) (db : LaneDb) : LaneCall → Prop
  | claim laneId _ _ _ inputs => db.Finished laneId →
      (∃ lease ∈ db.leases.rows, lease.logicalLaneId = laneId ∧
        inputs.now < lease.expiresAtUtc) ∨ maxAttempts ≤ db.countAttempts laneId
  | _ => True

instance (db : LaneDb) (laneId : String) : Decidable (db.Finished laneId) :=
  inferInstanceAs (Decidable (∃ attempt ∈ db.attempts.rows, _))

instance (maxAttempts : ℕ) (db : LaneDb) (call : LaneCall) :
    Decidable (call.SparesFinished maxAttempts db) := by
  cases call with
  | claim =>
    rw [LaneCall.SparesFinished]
    infer_instance
  | _ => exact isTrue trivial

variable {env : LaneEnv} {maxAttempts : ℕ} {db db' : LaneDb}

/-! ### Completed attempts -/

variable {laneId : String} {inputs : LaneInputs}

open LaneCall

/-- A write other than a new attempt keeps completed attempts. -/
theorem LaneDb.Finished.exec {w : LaneWrite} (h : db.Finished laneId) (hexec : w.exec db = some db') :
    db'.Finished laneId := by
  obtain ⟨x, hx, hlane, hst⟩ := h
  by_cases hw : ∃ row, w = .attempt row
  · obtain ⟨row, rfl⟩ := hw
    obtain ⟨hatts, -⟩ := exec_attempt hexec
    exact ⟨x, hatts ▸ mem_append_left _ hx, hlane, hst⟩
  · obtain ⟨⟨g, hg, hatts⟩, -⟩ :=
      exec_rewrites hexec fun row hrow => hw ⟨row, hrow⟩
    exact ⟨g x, hatts ▸ mem_map_of_mem hx, (hg x).logicalLaneId.trans hlane, (hg x).completed hst⟩

/-- Expiries complete nothing, and make no attempt. -/
theorem Lane.attempts_of_expiries {now : Instant}
    (h : Relation.ReflTransGen (LaneExpiry now) db db') :
    (∀ x ∈ db'.attempts.rows, x.state = .completed → x ∈ db.attempts.rows) ∧
      (∀ laneId, db.Finished laneId → db'.Finished laneId) ∧
      ∀ laneId, db'.countAttempts laneId = db.countAttempts laneId := by
  induction h with
  | refl => exact ⟨fun _ hx _ => hx, fun _ => id, fun _ => rfl⟩
  | tail _ step ih =>
    obtain ⟨lease, -, -, t, row, hexec⟩ := step
    obtain ⟨⟨g, hg, hatts⟩, -⟩ := exec_rewrites hexec nofun
    refine ⟨fun x hx hst => ?_, fun laneId hfin => (ih.2.1 laneId hfin).exec hexec,
      fun laneId => (LaneInv.countAttempts_map hg hatts laneId).trans (ih.2.2 laneId)⟩
    obtain ⟨_, rfl⟩ := LaneDb.insertIncident_eq_some hexec
    obtain ⟨old, hold, rfl⟩ := mem_map.mp hx
    refine ih.1 _ ?_ hst
    by_cases hfenced : (old.attemptId == lease.attemptId && old.state == .active) = true
    · rw [if_pos hfenced] at hst
      cases hst
    · rwa [if_neg hfenced]

/-- A lane that is finished stays so. -/
theorem LaneDb.Finished.step (h : db.Finished laneId) (env : LaneEnv) (maxAttempts : ℕ)
    (call : LaneCall) : (call.step env maxAttempts db).Finished laneId := by
  obtain ⟨db₁, hpath, hlast⟩ := call.laneStep env maxAttempts db
  have hfin := (Lane.attempts_of_expiries hpath).2.1 laneId h
  rcases hlast with heq | ⟨w, -, hexec⟩
  · rwa [heq]
  · exact hfin.exec hexec

theorem LaneDb.Finished.run (h : db.Finished laneId) (env : LaneEnv) (maxAttempts : ℕ)
    (calls : List LaneCall) :
    (runCalls (LaneCall.step env maxAttempts) db calls).Finished laneId := by
  induction calls generalizing db with
  | nil => exact h
  | cons call _ ih => exact ih (h.step env maxAttempts call)

/-! ### What the replies say -/

/-- `record_result` returns `True` only if the lane is finished then. -/
theorem LaneInv.finished_of_recordResult (hinv : LaneInv maxAttempts db)
    {token fingerprint : String} {workerId : Option String}
    (h : ((LaneCall.recordResult laneId token fingerprint workerId inputs).run env maxAttempts
      db).1 = .ok (.flag true)) :
    ((LaneCall.recordResult laneId token fingerprint workerId inputs).step env maxAttempts
      db).Finished laneId := by
  set call := LaneCall.recordResult laneId token fingerprint workerId inputs with hcall
  have hinv' := hinv.laneStep (call.laneStep env maxAttempts db)
  have hrun : (call.block env maxAttempts).atomically LaneSql.exec db =
      (.ok (.flag true), call.step env maxAttempts db) := Prod.ext h rfl
  rcases Prog.atomically_eq_ok hrun with hcom | ⟨hsame, db₂, hrollback⟩
  · obtain ⟨verdict, db₃, hbody, hpure⟩ := Prog.run_bind_eq_ok hcom
    obtain ⟨hverdict, rfl⟩ := Prod.mk.inj hpure
    obtain ⟨db₁, hpath, rfl | ⟨lease, hls, ⟨existing, flag, -, rfl⟩ | ⟨-, hexec⟩⟩⟩ :=
      Lane.recordResult_eq_ok hbody
    · cases hverdict
    · cases hverdict
    · obtain ⟨db₄, hins, hdb'⟩ := Option.map_eq_some_iff.mp hexec
      obtain ⟨results, htable, rfl⟩ := LaneDb.insertResult_eq_some hins
      have hrow : LaneResult.mk lease.attemptId laneId token fingerprint inputs.now ∈
          (call.step env maxAttempts db).results.rows := by
        rw [← hdb']
        change _ ∈ results.rows
        rw [(Table.insert_eq_some_iff.mp htable).2]
        exact mem_append_right _ (mem_singleton_self _)
      obtain ⟨x, hx, -, hlane, -, hst⟩ := hinv'.result _ hrow
      exact ⟨x, hx, hlane, hst⟩
  · obtain ⟨verdict, db₃, hbody, hpure⟩ := Prog.run_bind_eq_ok hrollback
    obtain ⟨hverdict, rfl⟩ := Prod.mk.inj hpure
    obtain ⟨db₁, hpath, rfl | ⟨lease, hls, ⟨existing, flag, hexisting, rfl⟩ | ⟨rfl, -⟩⟩⟩ :=
      Lane.recordResult_eq_ok hbody
    · cases hverdict
    · -- The result that is there belongs to the attempt of the lane's lease.
      obtain ⟨hmem, hlane, -⟩ := LaneDb.selectAuthorized_eq_some hls
      obtain ⟨hexisting, hid⟩ := Table.find?_eq_some_iff.mp hexisting
      rw [(LaneStep.unchanged_of_expiries hpath).2] at hexisting
      obtain ⟨x, hx, hxid, -, -, hst⟩ := hinv.result existing hexisting
      obtain ⟨y, hy, hyid, hylane, -⟩ :=
        hinv.lease lease ((Lane.mem_leases_of_expiries hpath lease).1 hmem)
      have hxy : x = y := db.attempts.eq_of_key_eq hx hy (by rw [hxid, hid, hyid])
      rw [hsame]
      exact ⟨x, hx, by rw [hxy, hylane, hlane], hst⟩
    · cases hverdict

variable {workerId : String} {resources : List String} {leaseSeconds : ℤ}

/-- No new attempt for a finished lane, as long as its claims are refused. -/
theorem Lane.not_attempt_of_spares {db₁ : LaneDb} {attempt : LaneAttempt}
    (hspares : (LaneCall.claim laneId workerId resources leaseSeconds inputs).SparesFinished
      maxAttempts db) (hfin : db.Finished laneId)
    (hpath : Relation.ReflTransGen (LaneExpiry inputs.now) db db₁)
    (hlane : attempt.logicalLaneId = laneId) (hmax : db₁.countAttempts laneId < maxAttempts) :
    (LaneWrite.attempt attempt).exec db₁ ≠ some db' := by
  intro hexec
  obtain ⟨-, -, -, -, -, -, -, hfree⟩ := LaneWrite.exec_attempt hexec
  rcases hspares hfin with ⟨lease, hls, hleaseLane, hlive⟩ | hused
  · exact hfree lease ((Lane.mem_leases_of_expiries hpath lease).2 hls hlive)
      (hleaseLane.trans hlane.symm)
  · rw [(Lane.attempts_of_expiries hpath).2.2 laneId] at hmax
    exact absurd hused (not_le.mpr hmax)

/-- Such a claim returns no lease. -/
theorem LaneCall.claim_ne_some
    (hspares : (LaneCall.claim laneId workerId resources leaseSeconds inputs).SparesFinished
      maxAttempts db) (hfin : db.Finished laneId) (lease : LaneLease) :
    ((LaneCall.claim laneId workerId resources leaseSeconds inputs).run env maxAttempts db).1 ≠
      .ok (.lease (some lease)) := by
  intro h
  set call := LaneCall.claim laneId workerId resources leaseSeconds inputs with hcall
  have hres : ((call.block env maxAttempts).atomically LaneSql.exec db).1 =
      .ok (.lease (some lease)) := by
    change call.reply ((call.block env maxAttempts).atomically LaneSql.exec db).1 = _ at h
    rw [hcall, LaneCall.reply.eq_def] at h
    split at h
    · cases h
    · exact h
  have hrun : ((call.block env maxAttempts).atomically LaneSql.exec db) =
      (.ok (.lease (some lease)), call.step env maxAttempts db) := Prod.ext hres rfl
  rcases Prog.atomically_eq_ok hrun with hcom | ⟨-, db₂, hrollback⟩
  · obtain ⟨keys, -, hcom⟩ := Prog.run_ofExcept_bind_eq_ok hcom
    obtain ⟨reply, hreply, hcom⟩ := Prog.run_committing_eq_ok hcom
    obtain ⟨result, hcl, rfl⟩ := Prog.run_map_eq_ok hcom
    cases hreply
    obtain ⟨db₁, hpath, -, ⟨hnone, -⟩ | ⟨-, hmax, attempt, hlane, -, -, -, hexec⟩⟩ :=
      Lane.claim_eq_ok hcl
    · cases hnone
    · exact Lane.not_attempt_of_spares hspares hfin hpath hlane hmax hexec
  · obtain ⟨keys, -, hrollback⟩ := Prog.run_ofExcept_bind_eq_ok hrollback
    obtain ⟨reply, hreply, -⟩ := Prog.run_committing_eq_ok hrollback
    cases hreply

/-! ### One result for a lane -/

/-- The lease of a finished lane is the one of its completed attempt, and the lane has one
result. -/
structure LaneInv.FinishedOnce (maxAttempts : ℕ) (db : LaneDb) : Prop
    extends LaneInv maxAttempts db where
  ownLease : ∀ x ∈ db.attempts.rows, x.state = .completed → ∀ lease ∈ db.leases.rows,
    lease.logicalLaneId = x.logicalLaneId → lease.attemptId = x.attemptId
  oneResult : ∀ a ∈ db.results.rows, ∀ b ∈ db.results.rows,
    a.logicalLaneId = b.logicalLaneId → a = b

namespace LaneInv.FinishedOnce

theorem empty (maxAttempts : ℕ) : FinishedOnce maxAttempts {} where
  toLaneInv := .empty maxAttempts
  ownLease := nofun
  oneResult := nofun

section

variable (h : FinishedOnce maxAttempts db)
include h

/-- The completed attempts and the leases are from before, but for the expiries of leases. -/
theorem of_old (hinv : LaneInv maxAttempts db')
    (hcompleted : ∀ x ∈ db'.attempts.rows, x.state = .completed → ∃ old ∈ db.attempts.rows,
      old.Follows x ∧ old.state = .completed)
    (hlss : ∀ lease' ∈ db'.leases.rows, ∃ lease ∈ db.leases.rows,
      lease'.logicalLaneId = lease.logicalLaneId ∧ lease'.attemptId = lease.attemptId)
    (hress : db'.results = db.results) : FinishedOnce maxAttempts db' where
  toLaneInv := hinv
  ownLease x hx hst lease' hls' hlane := by
    obtain ⟨old, hold, hfollows, hst⟩ := hcompleted x hx hst
    obtain ⟨lease, hls, hleaseLane, hid⟩ := hlss lease' hls'
    rw [hid, hfollows.attemptId]
    exact h.ownLease old hold hst lease hls (by rw [← hleaseLane, hlane, hfollows.logicalLaneId])
  oneResult := hress ▸ h.oneResult

theorem expiries {now : Instant}
    (hpath : Relation.ReflTransGen (LaneExpiry now) db db') : FinishedOnce maxAttempts db' := by
  refine h.of_old (h.toLaneInv.expiries hpath) (fun x hx hst => ?_) (fun lease hls => ?_)
    (LaneStep.unchanged_of_expiries hpath).2
  · exact ⟨x, (Lane.attempts_of_expiries hpath).1 x hx hst, .refl x, hst⟩
  · exact ⟨lease, (Lane.mem_leases_of_expiries hpath lease).1 hls, rfl, rfl⟩

/-- A result is recorded for the attempt of the lane's lease. If the lane had a result already,
it would be of the same attempt, and the insertion would fail. -/
theorem exec_result {row : LaneResult} {lease : LaneLeaseRow} (hls : lease ∈ db.leases.rows)
    (hid : row.attemptId = lease.attemptId) (hlane : row.logicalLaneId = lease.logicalLaneId)
    (htok : row.fencingToken = lease.fencingToken)
    (hexec : (LaneWrite.result row).exec db = some db') : FinishedOnce maxAttempts db' := by
  have hinv := h.toLaneInv.exec_result hls hid hlane htok hexec
  obtain ⟨db₁, hins, rfl⟩ := Option.map_eq_some_iff.mp hexec
  obtain ⟨results, htable, rfl⟩ := LaneDb.insertResult_eq_some hins
  obtain ⟨hfr, hrows⟩ := Table.insert_eq_some_iff.mp htable
  have hnone : ∀ old ∈ db.results.rows, old.logicalLaneId ≠ row.logicalLaneId := by
    intro old hold hsame
    obtain ⟨x, hx, hxid, hxlane, -, hst⟩ := h.result old hold
    have hown := h.ownLease x hx hst lease hls (by rw [hxlane, hsame, hlane])
    exact Table.find?_eq_none_iff.mp hfr old hold (by rw [hid, hown, hxid])
  refine { toLaneInv := hinv, ownLease := ?_, oneResult := ?_ }
  · intro x hx hst other hoth hsame
    obtain ⟨old, hold, rfl⟩ := mem_map.mp hx
    by_cases hcompleted : (old.attemptId == row.attemptId) = true
    · rw [if_pos hcompleted] at hsame ⊢
      obtain ⟨y, hy, hyid, hylane, -⟩ := h.lease lease hls
      have heq : old = y := db.attempts.eq_of_key_eq hold hy (by
        rw [beq_iff_eq.mp hcompleted, hid, hyid])
      have hlns : other.logicalLaneId = lease.logicalLaneId := by rw [hsame, heq, hylane]
      rw [db.leases.eq_of_key_eq hoth hls hlns, ← hid]
      exact (beq_iff_eq.mp hcompleted).symm
    · rw [if_neg hcompleted] at hsame hst ⊢
      exact h.ownLease old hold hst other hoth hsame
  · intro a ha b hb hsame
    have hmem : ∀ r, r ∈ results.rows ↔ r ∈ db.results.rows ∨ r = row := by
      intro r
      rw [hrows, mem_append, mem_singleton]
    rcases (hmem a).mp ha with haold | rfl <;> rcases (hmem b).mp hb with hbold | rfl
    · exact h.oneResult a haold b hbold hsame
    · exact absurd hsame (hnone a haold)
    · exact absurd hsame.symm (hnone b hbold)
    · rfl

theorem allows {call : LaneCall} {w : LaneWrite} {db₀ : LaneDb}
    (hspares : call.SparesFinished maxAttempts db₀)
    (hpath : Relation.ReflTransGen (LaneExpiry call.now) db₀ db)
    (hallows : call.Allows env maxAttempts db w) (hexec : w.exec db = some db') :
    FinishedOnce maxAttempts db' := by
  have hinv := h.toLaneInv.allows hallows hexec
  cases hallows with
  | incident =>
    obtain ⟨_, rfl⟩ := LaneDb.insertIncident_eq_some hexec
    exact ⟨hinv, h.ownLease, h.oneResult⟩
  | fence =>
    refine h.of_old hinv ?_ ?_ ?_
    · intro x hx hst
      obtain ⟨_, rfl⟩ := LaneDb.insertIncident_eq_some hexec
      obtain ⟨old, hold, rfl⟩ := mem_map.mp hx
      split at hst
      · cases hst
      · rename_i hfenced
        rw [if_neg hfenced]
        exact ⟨old, hold, .refl old, hst⟩
    · intro lease' hls'
      exact ⟨lease', ((LaneWrite.mem_leases_fence hexec).mp hls').1, rfl, rfl⟩
    · obtain ⟨_, rfl⟩ := LaneDb.insertIncident_eq_some hexec
      rfl
  | @claim laneId workerId resources leaseSeconds inputs attempt hlane _ hst _ hmax _ =>
    obtain ⟨hatts, hlss, -, hress, -⟩ := LaneWrite.exec_attempt hexec
    refine { toLaneInv := hinv, ownLease := ?_, oneResult := hress ▸ h.oneResult }
    intro x hx hcompleted lease hls hsame
    rw [hatts, mem_append, mem_singleton] at hx
    rw [hlss, mem_append, mem_singleton] at hls
    rcases hx with hx | rfl
    · rcases hls with hls | rfl
      · exact h.ownLease x hx hcompleted lease hls hsame
      · have hx₀ := (Lane.attempts_of_expiries hpath).1 x hx hcompleted
        have hfin : db₀.Finished attempt.logicalLaneId := ⟨x, hx₀, hsame.symm, hcompleted⟩
        subst hlane
        exact absurd hexec (Lane.not_attempt_of_spares hspares hfin hpath rfl hmax)
    · rw [hst] at hcompleted
      cases hcompleted
  | renew _ hls =>
    obtain rfl := Option.some.inj hexec
    refine h.of_old hinv ?_ ?_ rfl
    · intro x hx hst
      obtain ⟨old, hold, rfl⟩ := mem_map.mp hx
      split at hst
      · rename_i hrenewed
        rw [if_pos hrenewed]
        exact ⟨old, hold, ⟨rfl, rfl, rfl, rfl, id, id⟩, hst⟩
      · rename_i hoth
        rw [if_neg hoth]
        exact ⟨old, hold, .refl old, hst⟩
    · intro lease' hls'
      obtain ⟨lease, hls, hlane, hid, -⟩ :=
        (LaneWrite.exec_rewrites hexec nofun).2.1 lease' hls'
      exact ⟨lease, hls, hlane, hid⟩
  | heartbeat =>
    obtain rfl := LaneDb.insertHeartbeat_eq_some hexec
    exact ⟨hinv, h.ownLease, h.oneResult⟩
  | recordResult hls =>
    obtain ⟨hmem, rfl, rfl, -⟩ := LaneDb.selectAuthorized_eq_some hls
    exact h.exec_result hmem rfl rfl rfl hexec

theorem step {call : LaneCall} (hspares : call.SparesFinished maxAttempts db) :
    FinishedOnce maxAttempts (call.step env maxAttempts db) := by
  obtain ⟨db₁, hpath, heq | ⟨w, hallows, hexec⟩⟩ := call.laneStep env maxAttempts db
  · rw [heq]
    exact h.expiries hpath
  · exact (h.expiries hpath).allows hspares hpath hallows hexec

end

end LaneInv.FinishedOnce

/-! ### Runs -/

/-- In a run whose claims for finished lanes all meet a lease that is not due or the limit of
attempts: once `record_result` has returned `True` for a lane, no later `claim` for that lane
returns a lease, and no lane has two results. -/
theorem finished_lane_not_claimed (env : LaneEnv) (maxAttempts : ℕ) (calls : List LaneCall)
    (h : Along (fun db call => call.SparesFinished maxAttempts db)
      (LaneCall.step env maxAttempts) {} calls) :
    (∀ earlier laneId token fingerprint resultWorker resultInputs middle workerId resources
      leaseSeconds inputs later,
      let result := LaneCall.recordResult laneId token fingerprint resultWorker resultInputs
      let claim := LaneCall.claim laneId workerId resources leaseSeconds inputs
      calls = earlier ++ result :: (middle ++ claim :: later) →
      let before := runCalls (LaneCall.step env maxAttempts) {} earlier
      (result.run env maxAttempts before).1 = .ok (.flag true) →
      let between := runCalls (LaneCall.step env maxAttempts) before (result :: middle)
      ∀ lease, (claim.run env maxAttempts between).1 ≠ .ok (.lease (some lease))) ∧
    ∀ a ∈ (runCalls (LaneCall.step env maxAttempts) {} calls).results.rows,
      ∀ b ∈ (runCalls (LaneCall.step env maxAttempts) {} calls).results.rows,
      a.logicalLaneId = b.logicalLaneId → a = b := by
  constructor
  · intro earlier laneId token fingerprint resultWorker resultInputs middle workerId resources
      leaseSeconds inputs later result claim hcalls before htrue between lease
    have hfin : between.Finished laneId :=
      ((LaneInv.run env maxAttempts earlier).finished_of_recordResult htrue).run env maxAttempts
        middle
    subst hcalls
    obtain ⟨-, hlat⟩ := h.of_append
    obtain ⟨-, hcl⟩ := hlat.2.of_append
    exact LaneCall.claim_ne_some hcl.1 hfin lease
  · exact (Along.invariant (fun hs hok => LaneInv.FinishedOnce.step hs hok) h
      (.empty maxAttempts)).oneResult

/-- A lane is claimed, gets its result, and is claimed once more while the lease of its attempt
is not due. -/
def finishedLaneRun : List LaneCall :=
  [.claim "lane" "worker" ["repo"] 60 (.plain 0 "first"),
    .recordResult "lane" "first" "done" none (.plain 1000000 "second"),
    .claim "lane" "other" ["repo"] 60 (.plain 2000000 "third")]

theorem finished_lane_not_claimed_yet :
    ((LaneCall.recordResult "lane" "first" "done" none (.plain 1000000 "second")).run .plain 3
      (runCalls (LaneCall.step .plain 3) {} (finishedLaneRun.take 1))).1 = .ok (.flag true) ∧
    ∀ lease, ((LaneCall.claim "lane" "other" ["repo"] 60 (.plain 2000000 "third")).run .plain 3
      (runCalls (LaneCall.step .plain 3) {} (finishedLaneRun.take 2))).1 ≠
        .ok (.lease (some lease)) := by
  have hrun : Along (fun db call => call.SparesFinished 3 db) (step .plain 3) {}
      finishedLaneRun ∧
      ((recordResult "lane" "first" "done" none (.plain 1000000 "second")).run .plain 3
        (runCalls (step .plain 3) {} (finishedLaneRun.take 1))).1 = .ok (.flag true) := by
    decide +kernel
  refine ⟨hrun.2, ?_⟩
  exact (finished_lane_not_claimed .plain 3 finishedLaneRun hrun.1).1
    (finishedLaneRun.take 1) "lane" "first" "done" none (.plain 1000000 "second") [] "other"
    ["repo"] 60 (.plain 2000000 "third") [] rfl hrun.2

/-- A lane that is released after its result is leased to another worker, which records a
second result. -/
theorem finished_lane_claimed_again :
    let calls : List LaneCall :=
      [.claim "lane" "worker" ["repo"] 60 (.plain 0 "first"),
        .recordResult "lane" "first" "done" none (.plain 1000000 "second"),
        .release "lane" "worker" "first" (.plain 2000000 "third"),
        .claim "lane" "other" ["repo"] 60 (.plain 3000000 "fourth"),
        .recordResult "lane" "fourth" "done again" none (.plain 4000000 "fifth")]
    let state := fun n => runCalls (step .plain 3) {} (calls.take n)
    ((recordResult "lane" "first" "done" none (.plain 1000000 "second")).run .plain 3
      (state 1)).1 = .ok (.flag true) ∧
    ((claim "lane" "other" ["repo"] 60 (.plain 3000000 "fourth")).run .plain 3
      (state 3)).1 = .ok (.lease (some ⟨"lane", "other", "fourth", 63000000, ["repo"],
        "ATT-fourth", 2⟩)) ∧
    (state 5).results.rows.map (fun row => (row.logicalLaneId, row.attemptId)) =
      [("lane", "ATT-first"), ("lane", "ATT-fourth")] := by
  decide +kernel

end ProjectPipeline
