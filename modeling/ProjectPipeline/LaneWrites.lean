import ProjectPipeline.Lanes

/-!
# Writes of the Lane Registry

The statements of the lane registry come in groups that belong together: the fence of an
attempt, a new attempt with its lease and its claims, a renewal, a heartbeat, a result with the
completion of its attempt. A `LaneWrite` is such a group, and the programs of the registry are
made of them.

Whatever a client has read before, a group leaves no orphans, that is no active attempt and no
claim without a lease, if only the fence of an attempt does not take the lease of another one
(`LaneWrite.Sound`): the lease is deleted by its lane, the claims by their attempt.

## Main results

* `LaneWrite.orphanless`: a sound group of statements leaves no orphans.
* `Lane.fenceAttempt_eq_ok`, `Lane.insertAttempt_eq_ok`, …: the programs execute groups.
-/

namespace ProjectPipeline

open List

/-! ### Groups of statements -/

def LaneAttempt.lease (attempt : LaneAttempt) : LaneLeaseRow :=
  ⟨attempt.logicalLaneId, attempt.attemptId, attempt.workerId, attempt.fencingToken,
    attempt.expiresAtUtc⟩

def LaneAttempt.claims (attempt : LaneAttempt) : List LaneClaim :=
  attempt.resources.map fun resource => ⟨resource, attempt.logicalLaneId, attempt.attemptId⟩

/-- The groups of statements that belong together. -/
inductive LaneWrite where
  | incident (row : LaneIncident)
  | fence (attemptId laneId : String) (fencedAt : Instant) (row : LaneIncident)
  | attempt (row : LaneAttempt)
  | renew (laneId workerId token : String) (expiresAt now : Instant)
  | heartbeat (row : LaneHeartbeat)
  | result (row : LaneResult)

namespace LaneDb

/-- The fence of an attempt. -/
def fence (db : LaneDb) (attemptId laneId : String) (fencedAt : Instant) : LaneDb :=
  ((db.fenceAttempt attemptId fencedAt).deleteLease laneId).deleteClaims attemptId

def insertClaims (db : LaneDb) : List LaneClaim → Option LaneDb
  | [] => some db
  | row :: rows => (db.insertClaim row).bind fun db' => db'.insertClaims rows

end LaneDb

/-- The database after a group, if its insertions succeed. -/
def LaneWrite.exec : LaneWrite → LaneDb → Option LaneDb
  | incident row, db => db.insertIncident row
  | fence attemptId laneId fencedAt row, db =>
    (db.fence attemptId laneId fencedAt).insertIncident row
  | attempt row, db =>
    (db.insertAttempt row).bind fun db₁ =>
      (db₁.insertLease row.lease).bind fun db₂ => db₂.insertClaims row.claims
  | renew laneId workerId token expiresAt now, db =>
    some ((db.renewLease laneId workerId token expiresAt now).renewAttempt token expiresAt)
  | heartbeat row, db => db.insertHeartbeat row
  | result row, db => (db.insertResult row).map fun db' => db'.completeAttempt row.attemptId

variable {attemptId laneId : String} {row : LaneIncident} {t : Instant}

namespace LaneDb

variable {db db' : LaneDb}

/-! ### Rows after a statement -/

theorem mem_fence_leases {lease : LaneLeaseRow} :
    lease ∈ (db.fence attemptId laneId t).leases.rows ↔
      lease ∈ db.leases.rows ∧ lease.logicalLaneId ≠ laneId := by
  simp only [fence, deleteClaims, deleteLease, fenceAttempt, Table.mem_deleteWhere,
    beq_eq_false_iff_ne]

theorem mem_fence_claims {claim : LaneClaim} :
    claim ∈ (db.fence attemptId laneId t).claims.rows ↔
      claim ∈ db.claims.rows ∧ claim.attemptId ≠ attemptId := by
  simp only [fence, deleteClaims, deleteLease, fenceAttempt, Table.mem_deleteWhere,
    beq_eq_false_iff_ne]

theorem insertIncident_eq_some (h : db.insertIncident row = some db') :
    ∃ incidents, db' = { db with incidents := incidents } := by
  obtain ⟨incidents, -, rfl⟩ := Option.map_eq_some_iff.mp h
  exact ⟨incidents, rfl⟩

theorem insertHeartbeat_eq_some {row : LaneHeartbeat} (h : db.insertHeartbeat row = some db') :
    db' = { db with heartbeats := db.heartbeats ++ [row] } := by
  rw [insertHeartbeat] at h
  split at h
  · cases h
  · exact (Option.some.inj h).symm

theorem insertResult_eq_some {row : LaneResult} (h : db.insertResult row = some db') :
    ∃ results, db.results.insert row = some results ∧ db' = { db with results := results } := by
  rw [insertResult] at h
  split at h
  · cases h
  · obtain ⟨results, hress, rfl⟩ := Option.map_eq_some_iff.mp h
    exact ⟨results, hress, rfl⟩

theorem insertAttempt_eq_some {row : LaneAttempt} (h : db.insertAttempt row = some db') :
    ∃ attempts, db.attempts.insert row = some attempts ∧
      (∀ old ∈ db.attempts.rows, old.fencingToken ≠ row.fencingToken) ∧
      db' = { db with attempts := attempts } := by
  rw [insertAttempt] at h
  split at h
  · cases h
  · rename_i hfr
    obtain ⟨attempts, hatts, rfl⟩ := Option.map_eq_some_iff.mp h
    refine ⟨attempts, hatts, fun old hold htok => hfr ?_, rfl⟩
    rw [any_eq_true]
    exact ⟨old, hold, by simp [htok]⟩

theorem insertLease_eq_some {row : LaneLeaseRow} (h : db.insertLease row = some db') :
    ∃ leases, db.leases.insert row = some leases ∧ db' = { db with leases := leases } := by
  rw [insertLease] at h
  split at h
  · cases h
  · obtain ⟨leases, hlss, rfl⟩ := Option.map_eq_some_iff.mp h
    exact ⟨leases, hlss, rfl⟩

theorem insertClaim_eq_some {row : LaneClaim} (h : db.insertClaim row = some db') :
    ∃ claims, db.claims.insert row = some claims ∧ db' = { db with claims := claims } := by
  rw [insertClaim] at h
  split at h
  · cases h
  · obtain ⟨claims, hcls, rfl⟩ := Option.map_eq_some_iff.mp h
    exact ⟨claims, hcls, rfl⟩

/-- The claims of a list are appended, and nothing else changes. -/
theorem insertClaims_eq_some {rows : List LaneClaim} (h : db.insertClaims rows = some db') :
    ∃ claims : Table String LaneClaim LaneClaim.resourceKey,
      claims.rows = db.claims.rows ++ rows ∧ db' = { db with claims := claims } := by
  induction rows generalizing db with
  | nil =>
    obtain rfl := Option.some.inj h
    exact ⟨db.claims, (append_nil _).symm, rfl⟩
  | cons _ _ ih =>
    obtain ⟨db₁, hins, hrest⟩ := Option.bind_eq_some_iff.mp h
    obtain ⟨claims₁, hcls₁, rfl⟩ := insertClaim_eq_some hins
    obtain ⟨claims, hcls, rfl⟩ := ih hrest
    refine ⟨claims, ?_, rfl⟩
    rw [hcls, (Table.insert_eq_some_iff.mp hcls₁).2, append_assoc, singleton_append]

end LaneDb

/-- The leases after a fence. -/
theorem LaneWrite.mem_leases_fence {db db' : LaneDb}
    (h : (LaneWrite.fence attemptId laneId t row).exec db = some db') {lease : LaneLeaseRow} :
    lease ∈ db'.leases.rows ↔ lease ∈ db.leases.rows ∧ lease.logicalLaneId ≠ laneId := by
  obtain ⟨_, rfl⟩ := LaneDb.insertIncident_eq_some h
  exact LaneDb.mem_fence_leases

/-- What a new attempt changes, and what it needs. -/
theorem LaneWrite.exec_attempt {db db' : LaneDb} {row : LaneAttempt}
    (h : (LaneWrite.attempt row).exec db = some db') :
    db'.attempts.rows = db.attempts.rows ++ [row] ∧ db'.leases.rows = db.leases.rows ++ [row.lease] ∧
      db'.claims.rows = db.claims.rows ++ row.claims ∧ db'.results = db.results ∧
      db'.heartbeats = db.heartbeats ∧
      (∀ old ∈ db.attempts.rows, old.attemptId ≠ row.attemptId) ∧
      (∀ old ∈ db.attempts.rows, old.fencingToken ≠ row.fencingToken) ∧
      ∀ lease ∈ db.leases.rows, lease.logicalLaneId ≠ row.logicalLaneId := by
  obtain ⟨db₁, hatt, h⟩ := Option.bind_eq_some_iff.mp h
  obtain ⟨db₂, hls, h⟩ := Option.bind_eq_some_iff.mp h
  obtain ⟨attempts, hatts, htoks, rfl⟩ := LaneDb.insertAttempt_eq_some hatt
  obtain ⟨leases, hlss, rfl⟩ := LaneDb.insertLease_eq_some hls
  obtain ⟨claims, hcls, rfl⟩ := LaneDb.insertClaims_eq_some h
  obtain ⟨hfr, hatts⟩ := Table.insert_eq_some_iff.mp hatts
  obtain ⟨hfree, hlss⟩ := Table.insert_eq_some_iff.mp hlss
  exact ⟨hatts, hlss, hcls, rfl, rfl, Table.find?_eq_none_iff.mp hfr, htoks,
    Table.find?_eq_none_iff.mp hfree⟩

/-! ### No orphans -/

/-- What the writes leave of an attempt: only its state, its expiry and the time of its fence
change, nothing becomes active again, and a completed attempt stays completed. -/
structure LaneAttempt.Follows (old new : LaneAttempt) : Prop where
  attemptId : new.attemptId = old.attemptId
  logicalLaneId : new.logicalLaneId = old.logicalLaneId
  attemptNumber : new.attemptNumber = old.attemptNumber
  fencingToken : new.fencingToken = old.fencingToken
  active : new.state = .active → old.state = .active
  completed : old.state = .completed → new.state = .completed

theorem LaneAttempt.Follows.refl (x : LaneAttempt) : x.Follows x :=
  ⟨rfl, rfl, rfl, rfl, id, id⟩

/-- An update of attempts whose new rows follow the old ones. -/
theorem LaneAttempt.follows_ite {p : LaneAttempt → Bool} {f : LaneAttempt → LaneAttempt}
    (hf : ∀ x, p x = true → x.Follows (f x)) (x : LaneAttempt) :
    x.Follows (if p x then f x else x) := by
  split
  · exact hf x ‹_›
  · exact .refl x

/-- Every attempt that is active, and every claim, has a lease. -/
structure LaneDb.Orphanless (db : LaneDb) : Prop where
  active : ∀ attempt ∈ db.attempts.rows, attempt.state = .active →
    ∃ lease ∈ db.leases.rows, lease.attemptId = attempt.attemptId
  claim : ∀ claim ∈ db.claims.rows, ∃ lease ∈ db.leases.rows, lease.attemptId = claim.attemptId

/-- A fence takes the lease of the attempt that is fenced, or none. -/
def LaneWrite.Sound (db : LaneDb) : LaneWrite → Prop
  | fence attemptId laneId _ _ =>
    ∀ lease ∈ db.leases.rows, lease.logicalLaneId = laneId → lease.attemptId = attemptId
  | _ => True

namespace LaneDb

variable {db db' : LaneDb}

/-- The rows that a write rewrites: attempts that follow the old ones, leases of the same
attempts. -/
theorem Orphanless.of_follows (h : db.Orphanless)
    (hatts : ∀ x ∈ db'.attempts.rows, ∃ old ∈ db.attempts.rows, old.Follows x)
    (hlss : ∀ lease ∈ db.leases.rows, ∃ lease' ∈ db'.leases.rows,
      lease'.attemptId = lease.attemptId)
    (hcls : db'.claims = db.claims) : db'.Orphanless where
  active x hx hst := by
    obtain ⟨old, hold, hfollows⟩ := hatts x hx
    obtain ⟨lease, hls, hid⟩ := h.active old hold (hfollows.active hst)
    obtain ⟨lease', hls', hid'⟩ := hlss lease hls
    exact ⟨lease', hls', by rw [hid', hid, hfollows.attemptId]⟩
  claim claim hcl := by
    rw [hcls] at hcl
    obtain ⟨lease, hls, hid⟩ := h.claim claim hcl
    obtain ⟨lease', hls', hid'⟩ := hlss lease hls
    exact ⟨lease', hls', hid'.trans hid⟩

/-- The fence of an attempt: what is left belongs to other attempts, and these keep their
leases. -/
theorem Orphanless.fence (h : db.Orphanless)
    (hsound : ∀ lease ∈ db.leases.rows, lease.logicalLaneId = laneId →
      lease.attemptId = attemptId) : (db.fence attemptId laneId t).Orphanless := by
  have hkeep : ∀ lease ∈ db.leases.rows, lease.attemptId ≠ attemptId →
      lease ∈ (db.fence attemptId laneId t).leases.rows := by
    intro lease hls hne
    exact mem_fence_leases.mpr ⟨hls, fun hlane => hne (hsound lease hls hlane)⟩
  constructor
  · intro x hx hst
    obtain ⟨old, hold, hx⟩ := mem_map.mp hx
    by_cases hfenced : (old.attemptId == attemptId && old.state == .active) = true
    · rw [if_pos hfenced] at hx
      subst hx
      cases hst
    · rw [if_neg hfenced] at hx
      subst hx
      have hne : old.attemptId ≠ attemptId := by
        intro hid
        simp [hid, hst] at hfenced
      obtain ⟨lease, hls, hid⟩ := h.active old hold hst
      exact ⟨lease, hkeep lease hls (hid ▸ hne), hid⟩
  · intro claim hcl
    obtain ⟨hcl, hne⟩ := mem_fence_claims.mp hcl
    obtain ⟨lease, hls, hid⟩ := h.claim claim hcl
    exact ⟨lease, hkeep lease hls (hid ▸ hne), hid⟩

/-- A new attempt: it comes with its lease. -/
theorem Orphanless.attempt (h : db.Orphanless) {row : LaneAttempt}
    (hexec : (LaneWrite.attempt row).exec db = some db') : db'.Orphanless := by
  obtain ⟨hatts, hlss, hcls, -⟩ := LaneWrite.exec_attempt hexec
  have hold : ∀ id, (∃ lease ∈ db.leases.rows, lease.attemptId = id) →
      ∃ lease ∈ db'.leases.rows, lease.attemptId = id := by
    rintro id ⟨lease, hls, hid⟩
    exact ⟨lease, hlss ▸ mem_append_left _ hls, hid⟩
  have hnew : ∃ lease ∈ db'.leases.rows, lease.attemptId = row.attemptId :=
    ⟨row.lease, hlss ▸ mem_append_right _ (mem_singleton_self _), rfl⟩
  constructor
  · intro x hx hst
    rw [hatts] at hx
    rcases mem_append.mp hx with hx | hx
    · exact hold _ (h.active x hx hst)
    · rw [mem_singleton.mp hx]
      exact hnew
  · intro claim hcl
    rw [hcls] at hcl
    rcases mem_append.mp hcl with hcl | hcl
    · exact hold _ (h.claim claim hcl)
    · obtain ⟨resource, -, rfl⟩ := mem_map.mp hcl
      exact hnew

end LaneDb

namespace LaneWrite

variable {db db' : LaneDb} {w : LaneWrite}

/-- The rows after a write other than a new attempt: the attempts are rewritten in place, the
leases are leases from before, perhaps with a new expiry, and the claims are claims from before. -/
theorem exec_rewrites (h : w.exec db = some db') (hw : ∀ row, w ≠ .attempt row) :
    (∃ g : LaneAttempt → LaneAttempt, (∀ x : LaneAttempt, x.Follows (g x)) ∧
      db'.attempts.rows = db.attempts.rows.map g) ∧
    (∀ lease' ∈ db'.leases.rows, ∃ lease ∈ db.leases.rows,
      lease'.logicalLaneId = lease.logicalLaneId ∧ lease'.attemptId = lease.attemptId ∧
        lease'.fencingToken = lease.fencingToken) ∧
    db'.claims.rows ⊆ db.claims.rows := by
  have hid : ∃ g : LaneAttempt → LaneAttempt, (∀ x : LaneAttempt, x.Follows (g x)) ∧
      db.attempts.rows = db.attempts.rows.map g := ⟨id, .refl, (map_id _).symm⟩
  have hsame : ∀ lease' ∈ db.leases.rows, ∃ lease ∈ db.leases.rows,
      lease'.logicalLaneId = lease.logicalLaneId ∧ lease'.attemptId = lease.attemptId ∧
        lease'.fencingToken = lease.fencingToken :=
    fun lease' hls' => ⟨lease', hls', rfl, rfl, rfl⟩
  cases w with
  | incident =>
    obtain ⟨_, rfl⟩ := LaneDb.insertIncident_eq_some h
    exact ⟨hid, hsame, List.Subset.refl _⟩
  | fence =>
    refine ⟨?_, fun lease' hls' => hsame lease' ((mem_leases_fence h).mp hls').1, ?_⟩
    · obtain ⟨_, rfl⟩ := LaneDb.insertIncident_eq_some h
      refine ⟨_, LaneAttempt.follows_ite fun x hx => ?_, rfl⟩
      have hact : x.state = .active := by simpa using (Bool.and_eq_true_iff.mp hx).2
      refine ⟨rfl, rfl, rfl, rfl, nofun, fun hcompleted => ?_⟩
      rw [hact] at hcompleted
      cases hcompleted
    · obtain ⟨_, rfl⟩ := LaneDb.insertIncident_eq_some h
      exact fun claim hcl => (LaneDb.mem_fence_claims.mp hcl).1
  | attempt row => exact absurd rfl (hw row)
  | renew =>
    obtain rfl := Option.some.inj h
    refine ⟨⟨_, LaneAttempt.follows_ite fun _ _ => ?_, rfl⟩, fun lease' hls' => ?_,
      List.Subset.refl _⟩
    · exact ⟨rfl, rfl, rfl, rfl, id, id⟩
    obtain ⟨lease, hls, rfl⟩ := mem_map.mp hls'
    refine ⟨lease, hls, ?_⟩
    split <;> exact ⟨rfl, rfl, rfl⟩
  | heartbeat =>
    obtain rfl := LaneDb.insertHeartbeat_eq_some h
    exact ⟨hid, hsame, List.Subset.refl _⟩
  | result =>
    obtain ⟨db₁, hins, rfl⟩ := Option.map_eq_some_iff.mp h
    obtain ⟨_, -, rfl⟩ := LaneDb.insertResult_eq_some hins
    refine ⟨⟨_, LaneAttempt.follows_ite fun _ _ => ?_, rfl⟩, hsame, List.Subset.refl _⟩
    exact ⟨rfl, rfl, rfl, rfl, nofun, fun _ => rfl⟩

/-- A write whose fence, if it is one, is sound leaves no orphans. -/
theorem orphanless (h : w.exec db = some db') (hsound : w.Sound db) (hdb : db.Orphanless) :
    db'.Orphanless := by
  have hsame : ∀ {d : LaneDb}, d.leases = db.leases → ∀ lease ∈ db.leases.rows,
      ∃ lease' ∈ d.leases.rows, lease'.attemptId = lease.attemptId := by
    intro d hd lease hls
    exact ⟨lease, hd ▸ hls, rfl⟩
  have hfollows : (∀ row, w ≠ .attempt row) →
      ∀ x ∈ db'.attempts.rows, ∃ old ∈ db.attempts.rows, old.Follows x := by
    intro hw x hx
    obtain ⟨⟨g, hg, hatts⟩, -⟩ := exec_rewrites h hw
    rw [hatts] at hx
    obtain ⟨old, hold, rfl⟩ := mem_map.mp hx
    exact ⟨old, hold, hg old⟩
  cases w with
  | incident =>
    have hatts := hfollows nofun
    obtain ⟨_, rfl⟩ := LaneDb.insertIncident_eq_some h
    exact hdb.of_follows hatts (hsame rfl) rfl
  | fence _ _ t =>
    obtain ⟨_, rfl⟩ := LaneDb.insertIncident_eq_some h
    have hfen := hdb.fence (t := t) hsound
    exact ⟨hfen.active, hfen.claim⟩
  | attempt => exact hdb.attempt h
  | renew =>
    have hatts := hfollows nofun
    obtain rfl := Option.some.inj h
    refine hdb.of_follows hatts (fun lease hls => ?_) rfl
    refine ⟨_, mem_map.mpr ⟨lease, hls, rfl⟩, ?_⟩
    split <;> rfl
  | heartbeat =>
    have hatts := hfollows nofun
    obtain rfl := LaneDb.insertHeartbeat_eq_some h
    exact hdb.of_follows hatts (hsame rfl) rfl
  | result =>
    have hatts := hfollows nofun
    obtain ⟨db₁, hins, rfl⟩ := Option.map_eq_some_iff.mp h
    obtain ⟨_, -, rfl⟩ := LaneDb.insertResult_eq_some hins
    exact hdb.of_follows hatts (hsame rfl) rfl

end LaneWrite

/-! ### The programs of the groups -/

namespace Lane

variable {env : LaneEnv} {inputs : LaneInputs} {db db' : LaneDb}

theorem insert_eq_ok {instr : LaneSql} {after : LaneDb → Option LaneDb} {u : Unit}
    (hexec : instr.exec db = (after db).getD db)
    (h : (insert instr after).run LaneSql.exec db = (.ok u, db')) : after db = some db' := by
  obtain ⟨hres, rfl⟩ := Prod.mk.inj h
  cases haft : after db with
  | none => simp [haft] at hres
  | some => rw [hexec, haft, Option.getD_some]

theorem recordIncident_eq_ok {number : ℕ} {attemptId : Option String} {kind : LaneIncidentKind}
    (h : (recordIncident env inputs number laneId attemptId kind).run LaneSql.exec db =
      (.ok row, db')) : (LaneWrite.incident row).exec db = some db' := by
  obtain ⟨u, db₁, hins, hpure⟩ := Prog.run_bind_eq_ok h
  cases hpure
  exact insert_eq_ok rfl hins

/-- The statements of a fence. -/
theorem fenceAttempt_eq_ok {number : ℕ} {kind : LaneIncidentKind}
    (h : (fenceAttempt env inputs number attemptId laneId kind).run LaneSql.exec db =
      (.ok row, db')) :
    (LaneWrite.fence attemptId laneId (inputs.fencedAt number) row).exec db = some db' := by
  exact recordIncident_eq_ok h

theorem insertClaims_eq_ok {resources : List String} {u : Unit}
    (h : (insertClaims laneId attemptId resources).run LaneSql.exec db = (.ok u, db')) :
    db.insertClaims (resources.map fun resource => ⟨resource, laneId, attemptId⟩) = some db' := by
  induction resources generalizing db with
  | nil =>
    cases h
    rfl
  | cons _ _ ih =>
    obtain ⟨u₁, db₁, hins, hrest⟩ := Prog.run_bind_eq_ok h
    exact Option.bind_eq_some_iff.mpr ⟨db₁, insert_eq_ok rfl hins, ih hrest⟩

/-- The statements of a new attempt. -/
theorem insertAttempt_eq_ok {attempt : LaneAttempt} {lease : LaneLease}
    (h : (insertAttempt attempt).run LaneSql.exec db = (.ok lease, db')) :
    (LaneWrite.attempt attempt).exec db = some db' := by
  obtain ⟨_, db₁, hatt, h⟩ := Prog.run_bind_eq_ok h
  obtain ⟨_, db₂, hls, h⟩ := Prog.run_bind_eq_ok h
  obtain ⟨_, db₃, hcls, hpure⟩ := Prog.run_bind_eq_ok h
  cases hpure
  exact Option.bind_eq_some_iff.mpr ⟨db₁, insert_eq_ok rfl hatt,
    Option.bind_eq_some_iff.mpr ⟨db₂, insert_eq_ok rfl hls, insertClaims_eq_ok hcls⟩⟩

end Lane

end ProjectPipeline
