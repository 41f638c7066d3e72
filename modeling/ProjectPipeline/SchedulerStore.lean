import ProjectPipeline.Resource
import ProjectPipeline.Runs
import ProjectPipeline.Totals

/-!
# The Scheduler's Lease Store

The lease half of `SchedulerStore` (`scheduler/persistence.py`): the pool, fencing-token
and lease tables, and the calls `acquire_bundle`, `renew_lease` and `release_lease`. Every
call takes its time `now` as an argument and returns its result, or the exception it
raises, together with the store it leaves behind.

`acquire_bundle` runs inside one `BEGIN IMMEDIATE` transaction; a refusal or an exception
rolls the store back. `renew_lease` and `release_lease` first read the stored lease and
then write it in a transaction of its own, so each of them is split into a read and a
write. A stored payload is validated whenever it is read.

## Main results

* `acquireBundle_cases`: an acquisition leaves the store alone, or leases every claim.
* `acquireClaims_inv`: the loop rule; what each of the two ways to serve a claim keeps,
  the whole loop keeps.
* `renewLease_cases`, `releaseLease_cases`: what the two other calls can do.
-/

namespace ProjectPipeline

open List

/-! ### Tables -/

/-- A row of `scheduler_resource_leases`: the columns, and the lease in `payload_json`. -/
structure LeaseRow where
  leaseId : String
  taskId : String
  holderId : String
  resourceKey : String
  accessMode : AccessMode
  quantity : ℕ
  fencingToken : ℤ
  acquiredAtUtc : Instant
  expiresAtUtc : Instant
  releasedAtUtc : Option Instant
  payload : ResourceLease
  deriving DecidableEq

namespace LeaseRow

section

variable (lease : ResourceLease)

/-- The row that stores a lease with columns that mirror it. -/
def ofLease : LeaseRow where
  leaseId := lease.leaseId
  taskId := lease.taskId
  holderId := lease.holderId
  resourceKey := lease.claim.resourceKey
  accessMode := lease.claim.accessMode
  quantity := lease.claim.quantity
  fencingToken := lease.fencingToken
  acquiredAtUtc := lease.acquiredAtUtc
  expiresAtUtc := lease.expiresAtUtc
  releasedAtUtc := lease.releasedAtUtc
  payload := lease

/-- `released_at_utc IS NULL AND expires_at_utc > when`, on the columns. -/
def activeAt (row : LeaseRow) (when : Instant) : Bool :=
  row.releasedAtUtc.isNone && decide (when < row.expiresAtUtc)

/-- `ORDER BY resource_key, fencing_token, lease_id`. -/
def le (a b : LeaseRow) : Bool :=
  textLt a.resourceKey b.resourceKey ||
    (a.resourceKey == b.resourceKey &&
      (a.fencingToken < b.fencingToken ||
        (a.fencingToken == b.fencingToken && textLe a.leaseId b.leaseId)))

@[simp] theorem ofLease_leaseId :
    (ofLease lease).leaseId = lease.leaseId := rfl

@[simp] theorem ofLease_payload :
    (ofLease lease).payload = lease := rfl

end

/-- A row that mirrors its lease is active when the lease is. -/
theorem activeAt_of_mirrors {row : LeaseRow} (h : row = ofLease row.payload) (t : Instant) :
    row.activeAt t = row.payload.activeAt t := by
  rw [h]
  rfl

end LeaseRow

/-- A row of `scheduler_fencing_tokens`. -/
structure FencingToken where
  resourceKey : String
  currentToken : ℤ
  deriving DecidableEq

structure SchedulerStore where
  pools : Table String ResourcePool ResourcePool.resourceKey
  fencingTokens : Table String FencingToken FencingToken.resourceKey
  leases : Table String LeaseRow LeaseRow.leaseId

structure AcquireRequest where
  taskId : String
  holderId : String
  claims : List ResourceClaim
  ttlSeconds : ℤ := 900
  now : Instant

structure RenewRequest where
  leaseId : String
  holderId : String
  fencingToken : ℤ
  ttlSeconds : ℤ := 900
  now : Instant

structure ReleaseRequest where
  leaseId : String
  holderId : String
  fencingToken : ℤ
  now : Instant

namespace SchedulerStore

/-! ### Reading -/

def activeLeaseRows (s : SchedulerStore) (when : Instant) : List LeaseRow :=
  (s.leases.rows.filter (·.activeAt when)).insertionSort fun a b => LeaseRow.le a b

/-- `list_active_leases`: the stored leases, validated as they are read. -/
def listActiveLeases (s : SchedulerStore) (when : Instant) :
    Except PyError (List ResourceLease) :=
  (s.activeLeaseRows when).mapM fun row => row.payload.validate

variable {s s' : SchedulerStore} {lease : ResourceLease} {active : List ResourceLease}

/-- Reading validates the payloads and changes none of them. -/
theorem mapM_validate_eq_ok_iff {rows : List LeaseRow} {leases : List ResourceLease} :
    rows.mapM (fun row => row.payload.validate) = .ok leases ↔
      (∀ row ∈ rows, row.payload.validate = .ok row.payload) ∧
        leases = rows.map LeaseRow.payload := by
  induction rows generalizing leases with
  | nil => exact ⟨fun h => ⟨by simp, (Except.ok.inj h).symm⟩, fun h => congrArg Except.ok h.2.symm⟩
  | cons row _ ih =>
    rw [mapM_cons, bind_eq_ok, forall_mem_cons, map_cons]
    constructor
    · rintro ⟨lease, hrow, h⟩
      obtain ⟨rest, hrest, h⟩ := bind_eq_ok.mp h
      obtain ⟨hval, rfl⟩ := ih.mp hrest
      obtain rfl := ResourceLease.validate_eq_ok hrow
      exact ⟨⟨hrow, hval⟩, (Except.ok.inj h).symm⟩
    · rintro ⟨⟨hrow, hval⟩, rfl⟩
      exact ⟨row.payload, hrow, bind_eq_ok.mpr ⟨_, ih.mpr ⟨hval, rfl⟩, rfl⟩⟩

/-- The active leases are the payloads of the active rows, in some order. -/
theorem listActiveLeases_perm {when : Instant} (h : s.listActiveLeases when = .ok active) :
    active.Perm ((s.leases.rows.filter (·.activeAt when)).map LeaseRow.payload) := by
  rw [(mapM_validate_eq_ok_iff.mp h).2]
  exact (perm_insertionSort _ _).map _

/-- A lease is read as active exactly when some active row stores it. -/
theorem mem_listActiveLeases {when : Instant} (h : s.listActiveLeases when = .ok active) :
    lease ∈ active ↔ ∃ row ∈ s.leases.rows, row.activeAt when = true ∧ row.payload = lease := by
  rw [(listActiveLeases_perm h).mem_iff]
  simp only [mem_map, mem_filter, and_assoc]

/-! ### Acquiring -/

section

variable (s : SchedulerStore)

variable (resourceKey : String)

/-- The next token of a key, before it is stored: `1`, or the stored one plus one. -/
def nextToken : ℤ :=
  match s.fencingTokens.find? resourceKey with
  | none => 1
  | some row => row.currentToken + 1

/-- The write of `_next_fencing_token`. -/
def storeToken (token : ℤ) : SchedulerStore :=
  { s with
    fencingTokens := s.fencingTokens.upsert ⟨resourceKey, token⟩
      (fun row => { row with currentToken := token }) (fun _ => rfl) }

/-- The `INSERT` of a lease; a taken identifier is an `IntegrityError`. -/
def insertLease (lease : ResourceLease) : Except PyError SchedulerStore :=
  match s.leases.insert { LeaseRow.ofLease lease with releasedAtUtc := none } with
  | none => .error (.integrityError
      "UNIQUE constraint failed: scheduler_resource_leases.lease_id")
  | some leases => .ok { s with leases := leases }

/-- The units that the listed leases hold of a key. -/
def usedUnits (leases : List ResourceLease) : ℕ :=
  totalWhere (fun lease => lease.claim.resourceKey == resourceKey)
    (fun lease => lease.claim.quantity) leases

theorem usedUnits_append (xs ys : List ResourceLease) :
    usedUnits resourceKey (xs ++ ys) = usedUnits resourceKey xs + usedUnits resourceKey ys :=
  totalWhere_append _ _ xs ys

/-- One lease holds its quantity of its own key, and nothing of another. -/
theorem usedUnits_singleton (lease : ResourceLease) :
    usedUnits resourceKey [lease] =
      if lease.claim.resourceKey = resourceKey then lease.claim.quantity else 0 := by
  simp only [usedUnits, totalWhere_singleton, beq_iff_eq]

/-- Why a claim cannot be leased next to the `held` leases, if there is a reason: a pooled
key is checked against the capacity, any other one against conflicting leases. -/
def refusal (held : List ResourceLease) (claim : ResourceClaim) :
    Option String :=
  match s.pools.find? claim.resourceKey with
  | some pool =>
    let used := usedUnits claim.resourceKey held
    if pool.allocatableUnits < used + claim.quantity then
      some ("capacity:" ++ claim.resourceKey ++ ":" ++ toString claim.quantity ++ ">" ++
        toString (pool.allocatableUnits - used))
    else none
  | none =>
    match held.find? (fun lease => claim.conflictsWith lease.claim) with
    | some lease => some ("lease:" ++ claim.resourceKey ++ ":held_by:" ++ lease.holderId)
    | none => none

end

/-- A claim is admitted exactly when it fits the pool of its key, or has none and conflicts
with no held lease. -/
theorem refusal_eq_none_iff {held : List ResourceLease} {claim : ResourceClaim} :
    s.refusal held claim = none ↔
      (∀ pool, s.pools.find? claim.resourceKey = some pool →
        usedUnits claim.resourceKey held + claim.quantity ≤ pool.allocatableUnits) ∧
      (s.pools.find? claim.resourceKey = none →
        ∀ lease ∈ held, claim.conflictsWith lease.claim = false) := by
  rw [refusal]
  cases hpool : s.pools.find? claim.resourceKey with
  | some => simp
  | none =>
    cases hfind : held.find? (fun lease => claim.conflictsWith lease.claim) with
    | some lease =>
      have hmem := mem_of_find?_eq_some hfind
      have hconf := find?_some hfind
      simp only [reduceCtorEq, false_implies, implies_true, true_and, forall_const, false_iff,
        not_forall]
      exact ⟨lease, hmem, by simpa using hconf⟩
    | none => simpa using find?_eq_none.mp hfind

/-- Lease one admitted claim: draw a token, build the lease, insert it. -/
def createLease (s : SchedulerStore) (sha : Sha256) (req : AcquireRequest)
    (claim : ResourceClaim) : Except PyError (ResourceLease × SchedulerStore) := do
  let token := s.nextToken claim.resourceKey
  let s := s.storeToken claim.resourceKey token
  let leaseId ← schedulerIdentifier sha .lease
    [req.taskId, req.holderId, claim.resourceKey, toString token]
  let expiresAtUtc ← leaseExpiry req.now req.ttlSeconds
  let lease ← ResourceLease.validate
    { leaseId := leaseId, taskId := req.taskId, holderId := req.holderId, claim := claim,
      fencingToken := token, acquiredAtUtc := req.now, expiresAtUtc := expiresAtUtc }
  let s ← s.insertLease lease
  return (lease, s)

/-- The lease that an idempotent reacquisition returns. -/
def existingSame (req : AcquireRequest) (active : List ResourceLease) (claim : ResourceClaim) :
    Option ResourceLease :=
  active.find? fun lease =>
    lease.taskId == req.taskId && lease.holderId == req.holderId && lease.claim == claim

/-- The loop of `acquire_bundle` over the claims: an exception, the reason of the first
refusal, or the leases together with the working store. -/
def acquireClaims (sha : Sha256) (req : AcquireRequest) (active : List ResourceLease) :
    List ResourceClaim → List ResourceLease → SchedulerStore →
      Except PyError (Except String (List ResourceLease × SchedulerStore))
  | [], created, s => .ok (.ok (created, s))
  | claim :: claims, created, s =>
    match existingSame req active claim with
    | some lease => acquireClaims sha req active claims (created ++ [lease]) s
    | none =>
      match s.refusal (active ++ created) claim with
      | some reason => .ok (.error reason)
      | none =>
        match s.createLease sha req claim with
        | .error e => .error e
        | .ok (lease, s') => acquireClaims sha req active claims (created ++ [lease]) s'

section

variable (s : SchedulerStore)

def acquireBundle (sha : Sha256) (req : AcquireRequest) :
    Except PyError LeaseBundle × SchedulerStore :=
  if req.claims.isEmpty then
    (LeaseBundle.validate
      { taskId := req.taskId, holderId := req.holderId, leases := [], acquired := false,
        reasons := ["no_resource_claims"] }, s)
  else
    match s.listActiveLeases req.now with
    | .error e => (.error e, s)
    | .ok active =>
      match acquireClaims sha req active req.claims [] s with
      | .error e => (.error e, s)
      | .ok (.error reason) =>
        (LeaseBundle.validate
          { taskId := req.taskId, holderId := req.holderId, leases := [],
            acquired := false, reasons := [reason] }, s)
      | .ok (.ok (created, s')) =>
        (LeaseBundle.validate
          { taskId := req.taskId, holderId := req.holderId, leases := created,
            acquired := true }, s')

/-! ### Renewing and releasing -/

/-- The read of `renew_lease`: the lease as it will be written. -/
def renewRead (req : RenewRequest) : Except PyError ResourceLease :=
  match s.leases.find? req.leaseId with
  | none => .error (.keyError ("unknown lease: " ++ req.leaseId))
  | some row => do
      let lease ← row.payload.validate
      raiseIf (lease.releasedAtUtc ≠ none ∨ lease.expiresAtUtc ≤ req.now)
        (.valueError "expired or released lease cannot be renewed")
      raiseIf (lease.holderId ≠ req.holderId ∨ lease.fencingToken ≠ req.fencingToken)
        (.valueError "lease renewal rejected by holder/fencing-token check")
      let expiresAtUtc ← addSeconds req.now req.ttlSeconds
      return { lease with renewedAtUtc := some req.now, expiresAtUtc := expiresAtUtc }

def renewWrite (leaseId : String) (renewed : ResourceLease) :
    SchedulerStore :=
  { s with
    leases := s.leases.updateWhere (fun row => row.leaseId == leaseId)
      (fun row => { row with expiresAtUtc := renewed.expiresAtUtc, payload := renewed })
      (fun _ => rfl) }

def renewLease (req : RenewRequest) :
    Except PyError ResourceLease × SchedulerStore :=
  match s.renewRead req with
  | .error e => (.error e, s)
  | .ok renewed => (.ok renewed, s.renewWrite req.leaseId renewed)

/-- What `release_lease` finds: a lease that is released already, or one to release. -/
inductive ReleaseDecision where
  | alreadyReleased (lease : ResourceLease)
  | release (released : ResourceLease)

def releaseRead (req : ReleaseRequest) : Except PyError ReleaseDecision :=
  match s.leases.find? req.leaseId with
  | none => .error (.keyError ("unknown lease: " ++ req.leaseId))
  | some row => do
      let lease ← row.payload.validate
      raiseIf (lease.holderId ≠ req.holderId ∨ lease.fencingToken ≠ req.fencingToken)
        (.valueError "lease release rejected by holder/fencing-token check")
      if lease.releasedAtUtc ≠ none then .ok (.alreadyReleased lease)
      else .ok (.release { lease with releasedAtUtc := some req.now })

def releaseWrite (leaseId : String) (now : Instant) (released : ResourceLease) : SchedulerStore :=
  { s with
    leases := s.leases.updateWhere (fun row => row.leaseId == leaseId)
      (fun row => { row with releasedAtUtc := some now, payload := released })
      (fun _ => rfl) }

def releaseLease (req : ReleaseRequest) :
    Except PyError ResourceLease × SchedulerStore :=
  match s.releaseRead req with
  | .error e => (.error e, s)
  | .ok (.alreadyReleased lease) => (.ok lease, s)
  | .ok (.release released) => (.ok released, s.releaseWrite req.leaseId req.now released)

end

/-! ### What the calls do -/

/-- The facts of one leased claim: the lease that was built and the store with its row. -/
structure Created (s : SchedulerStore) (req : AcquireRequest) (claim : ResourceClaim)
    (lease : ResourceLease) (s' : SchedulerStore) : Prop where
  fresh : s.leases.find? lease.leaseId = none
  taskId : lease.taskId = req.taskId
  holderId : lease.holderId = req.holderId
  claim : lease.claim = claim
  released : lease.releasedAtUtc = none
  expires : leaseExpiry req.now req.ttlSeconds = .ok lease.expiresAtUtc
  pools : s'.pools = s.pools
  fencingTokens : s'.fencingTokens = (s.storeToken lease.claim.resourceKey
    (s.nextToken lease.claim.resourceKey)).fencingTokens
  rows : s'.leases.rows = s.leases.rows ++ [LeaseRow.ofLease lease]

/-- Inserting appends the row of the lease. -/
theorem insertLease_eq_ok (hrel : lease.releasedAtUtc = none) (h : s.insertLease lease = .ok s') :
    s.leases.find? lease.leaseId = none ∧ s'.pools = s.pools ∧
      s'.fencingTokens = s.fencingTokens ∧
      s'.leases.rows = s.leases.rows ++ [LeaseRow.ofLease lease] := by
  have hrow : { LeaseRow.ofLease lease with releasedAtUtc := none } = LeaseRow.ofLease lease := by
    simp only [LeaseRow.ofLease, hrel]
  simp only [insertLease, hrow] at h
  cases hins : s.leases.insert (LeaseRow.ofLease lease) with
  | none =>
    rw [hins] at h
    cases h
  | some =>
    rw [hins] at h
    obtain ⟨hfr, hrows⟩ := Table.insert_eq_some_iff.mp hins
    cases h
    exact ⟨hfr, rfl, rfl, hrows⟩

variable {req : AcquireRequest} {sha : Sha256}

/-- A lease that is created carries the request, and is stored in a row of its own. -/
theorem createLease_eq_ok {claim : ResourceClaim}
    (h : s.createLease sha req claim = .ok (lease, s')) : Created s req claim lease s' := by
  simp only [createLease, bind_eq_ok] at h
  obtain ⟨leaseId, -, expiresAtUtc, hexpires, validated, hval, stored, hins, hpair⟩ := h
  obtain ⟨rfl, rfl⟩ := ok_pair_inj hpair
  obtain rfl := ResourceLease.validate_eq_ok hval
  obtain ⟨hfr, hpls, htoks, hrows⟩ := insertLease_eq_ok rfl hins
  exact ⟨hfr, rfl, rfl, rfl, rfl, hexpires, hpls, htoks, hrows⟩

/-- A lease that is created has the next token of its key, and is valid. -/
theorem createLease_token {claim : ResourceClaim}
    (h : s.createLease sha req claim = .ok (lease, s')) :
    lease.fencingToken = s.nextToken lease.claim.resourceKey ∧ lease.validate = .ok lease := by
  simp only [createLease, bind_eq_ok] at h
  obtain ⟨leaseId, -, expiresAtUtc, -, validated, hval, stored, -, hpair⟩ := h
  obtain ⟨rfl, -⟩ := ok_pair_inj hpair
  obtain rfl := ResourceLease.validate_eq_ok hval
  exact ⟨rfl, hval⟩

/-- **The loop rule.** What is kept when an active lease of the same request is returned
again, and when an admitted claim is leased, holds when the loop over the claims ends. -/
theorem acquireClaims_inv {claims : List ResourceClaim}
    {P : List ResourceLease → SchedulerStore → Prop}
    (hsame : ∀ created s, ∀ claim ∈ claims, ∀ lease, existingSame req active claim = some lease →
      P created s → P (created ++ [lease]) s)
    (hcr : ∀ created s, ∀ claim ∈ claims, ∀ lease s',
      s.refusal (active ++ created) claim = none → s.createLease sha req claim = .ok (lease, s') →
      P created s → P (created ++ [lease]) s') {created created' : List ResourceLease}
    {s s' : SchedulerStore} (hsta : P created s)
    (h : acquireClaims sha req active claims created s = .ok (.ok (created', s'))) :
    P created' s' := by
  induction claims generalizing created s with
  | nil =>
    obtain ⟨rfl, rfl⟩ := h
    exact hsta
  | cons claim _ ih =>
    have hrest := @ih (fun created s c hc => hsame created s c (mem_cons_of_mem claim hc))
      fun created s c hc => hcr created s c (mem_cons_of_mem claim hc)
    rw [acquireClaims] at h
    cases hex : existingSame req active claim with
    | some lease =>
      rw [hex] at h
      exact hrest (hsame created s claim mem_cons_self lease hex hsta) h
    | none =>
      simp only [hex] at h
      cases href : s.refusal (active ++ created) claim with
      | some =>
        rw [href] at h
        cases h
      | none =>
        rw [href] at h
        cases hnew : s.createLease sha req claim with
        | error =>
          rw [hnew] at h
          cases h
        | ok result =>
          obtain ⟨lease, s₁⟩ := result
          rw [hnew] at h
          exact hrest (hcr created s claim mem_cons_self lease s₁ href hnew hsta) h

/-- An acquisition that does not serve every claim leaves the store as it was. -/
theorem acquireBundle_cases (s : SchedulerStore) (sha : Sha256) (req : AcquireRequest) :
    (s.acquireBundle sha req).2 = s ∨
      ∃ active created s', s.listActiveLeases req.now = .ok active ∧
        acquireClaims sha req active req.claims [] s = .ok (.ok (created, s')) ∧
        (s.acquireBundle sha req).2 = s' := by
  rw [acquireBundle]
  split
  · exact .inl rfl
  · cases hact : s.listActiveLeases req.now with
    | error => exact .inl rfl
    | ok active =>
      cases hloop : acquireClaims sha req active req.claims [] s with
      | error => simp only [hloop, true_or]
      | ok outcome =>
        cases outcome with
        | error => simp only [hloop, true_or]
        | ok result => exact .inr ⟨active, result.1, result.2, rfl, hloop, by simp only [hloop]⟩

/-- The read of a renewal: a stored lease that is active at the time of the call, under
the holder and the token of the call. -/
theorem renewRead_eq_ok {req : RenewRequest} {renewed : ResourceLease}
    (h : s.renewRead req = .ok renewed) :
    ∃ row ∈ s.leases.rows, row.leaseId = req.leaseId ∧
      row.payload.activeAt req.now = true ∧
      (row.payload.holderId = req.holderId ∧ row.payload.fencingToken = req.fencingToken) ∧
      addSeconds req.now req.ttlSeconds = .ok renewed.expiresAtUtc ∧
      renewed = { row.payload with
        renewedAtUtc := some req.now, expiresAtUtc := renewed.expiresAtUtc } := by
  rw [renewRead] at h
  cases hfind : s.leases.find? req.leaseId with
  | none =>
    rw [hfind] at h
    cases h
  | some row =>
    obtain ⟨hmem, hid⟩ := Table.find?_eq_some_iff.mp hfind
    simp only [hfind, bind_eq_ok] at h
    obtain ⟨lease, hval, _, hact, _, hhdr, expiresAtUtc, hexpires, hret⟩ := h
    obtain rfl := ResourceLease.validate_eq_ok hval
    cases hret
    rw [raiseIf_eq_ok, not_or, not_not, not_le] at hact
    rw [raiseIf_eq_ok, not_or, not_not, not_not] at hhdr
    exact ⟨row, hmem, hid, ResourceLease.activeAt_iff.mpr hact, hhdr, hexpires, rfl⟩

/-- The read of a release that goes on to write: a stored lease not released yet. -/
theorem releaseRead_eq_release {req : ReleaseRequest} {released : ResourceLease}
    (h : s.releaseRead req = .ok (.release released)) :
    ∃ row ∈ s.leases.rows, row.leaseId = req.leaseId ∧
      released = { row.payload with releasedAtUtc := some req.now } := by
  rw [releaseRead] at h
  cases hfind : s.leases.find? req.leaseId with
  | none =>
    rw [hfind] at h
    cases h
  | some row =>
    obtain ⟨hmem, hid⟩ := Table.find?_eq_some_iff.mp hfind
    simp only [hfind, bind_eq_ok] at h
    obtain ⟨lease, hval, -, -, hret⟩ := h
    obtain rfl := ResourceLease.validate_eq_ok hval
    split at hret
    · cases hret
    · cases hret
      exact ⟨row, hmem, hid, rfl⟩

/-- A renewal leaves the store alone, or writes what it has read. -/
theorem renewLease_cases (s : SchedulerStore) (req : RenewRequest) :
    (s.renewLease req).2 = s ∨
      ∃ renewed, s.renewRead req = .ok renewed ∧
        (s.renewLease req).2 = s.renewWrite req.leaseId renewed := by
  rw [renewLease]
  cases hread : s.renewRead req with
  | error => exact .inl rfl
  | ok renewed => exact .inr ⟨renewed, rfl, rfl⟩

/-- A release leaves the store alone, or writes what it has read. -/
theorem releaseLease_cases (s : SchedulerStore) (req : ReleaseRequest) :
    (s.releaseLease req).2 = s ∨
      ∃ released, s.releaseRead req = .ok (.release released) ∧
        (s.releaseLease req).2 = s.releaseWrite req.leaseId req.now released := by
  rw [releaseLease]
  cases hread : s.releaseRead req with
  | error => exact .inl rfl
  | ok decision =>
    cases decision with
    | alreadyReleased => exact .inl rfl
    | release released => exact .inr ⟨released, rfl, rfl⟩

end SchedulerStore

/-! ### Runs -/

/-- A call on the lease store. -/
inductive LeaseCall where
  | acquire (req : AcquireRequest)
  | renew (req : RenewRequest)
  | release (req : ReleaseRequest)

namespace LeaseCall

def now : LeaseCall → Instant
  | acquire req => req.now
  | renew req => req.now
  | release req => req.now

/-- The store after a call, whether it returns or raises. -/
def step (sha : Sha256) (s : SchedulerStore) : LeaseCall → SchedulerStore
  | acquire req => (s.acquireBundle sha req).2
  | renew req => (s.renewLease req).2
  | release req => (s.releaseLease req).2

end LeaseCall

end ProjectPipeline
