import ProjectPipeline.LeaseInvariants

/-!
# Interleaved Lease Clients

Several clients share one lease database. `acquire_bundle` is one atomic step, since it
runs inside of a `BEGIN IMMEDIATE` transaction. `renew_lease` and `release_lease` read the
stored lease first and write it in a later transaction, so the steps of other clients can
fall between the two.

A `LeaseSystem` is the store, the clock of the latest call, the writes that clients still
have to make, and the log of the commits of renewals and releases. The module defines its
events, shows a run in which a renewal undoes a release that was committed in between
(`renewal_undoes_release`), and proves that the leases stay fenced in every run in which no
renewal is disturbed between its read and its write (`leases_fenced`).

The invariant treats the lease of a pending renewal as if it were active: its write will
extend the lease, so no conflicting lease may be handed out before.
-/

namespace ProjectPipeline

open SchedulerStore Function List Option

variable {ι : Type}

/-! ### The system -/

/-- A call that has read its lease and has yet to write it. -/
inductive PendingWrite where
  | renew (req : RenewRequest) (renewed : ResourceLease)
  | release (req : ReleaseRequest) (released : ResourceLease)

def PendingWrite.renews : PendingWrite → Option String
  | renew req _ => some req.leaseId
  | release _ _ => none

def PendingWrite.releases : PendingWrite → Option String
  | renew _ _ => none
  | release req _ => some req.leaseId

/-- A committed write: a renewal that is then reported as such, or a release. -/
inductive LeaseCommit where
  | renewed (leaseId : String)
  | released (leaseId : String)
  deriving DecidableEq

/-- The shared store, the clock of the latest call, the pending write of each client, and
the commits so far, oldest first. -/
structure LeaseSystem (ι : Type) where
  store : SchedulerStore
  clock : Instant
  pending : ι → Option PendingWrite
  commits : List LeaseCommit

/-- The steps of the clients. A client that has a pending write makes no other call. -/
inductive LeaseEvent (ι : Type) where
  | acquire (client : ι) (req : AcquireRequest)
  | renewRead (client : ι) (req : RenewRequest)
  | releaseRead (client : ι) (req : ReleaseRequest)
  | write (client : ι)

namespace LeaseSystem

def start (store : SchedulerStore) : LeaseSystem ι where
  store := store
  clock := 0
  pending := fun _ => none
  commits := []

/-- A new call can be made by an idle client, at a time the clock has not passed. -/
def canCall (sys : LeaseSystem ι) (client : ι) (now : Instant) : Prop :=
  sys.pending client = none ∧ sys.clock ≤ now

instance (sys : LeaseSystem ι) (client : ι) (now : Instant) :
    Decidable (sys.canCall client now) :=
  match h : sys.pending client with
  | none => decidable_of_iff (sys.clock ≤ now) (by simp [canCall, h])
  | some _ => isFalse (by simp [canCall, h])

section Steps

variable [DecidableEq ι]

section

variable (sys : LeaseSystem ι) (client : ι)

/-- The read of a renewal; a read that raises ends the call. -/
def readRenewal (req : RenewRequest) : LeaseSystem ι :=
  match sys.store.renewRead req with
  | .error _ => { sys with clock := req.now }
  | .ok renewed =>
    { sys with
      clock := req.now
      pending := Function.update sys.pending client (some (.renew req renewed)) }

/-- The read of a release; a read that raises or finds the lease released ends the call. -/
def readRelease (req : ReleaseRequest) : LeaseSystem ι :=
  match sys.store.releaseRead req with
  | .ok (.release released) =>
    { sys with
      clock := req.now
      pending := Function.update sys.pending client (some (.release req released)) }
  | _ => { sys with clock := req.now }

def makeWrite : PendingWrite → LeaseSystem ι
  | .renew req renewed =>
    { sys with
      store := sys.store.renewWrite req.leaseId renewed
      pending := Function.update sys.pending client none
      commits := sys.commits ++ [.renewed req.leaseId] }
  | .release req released =>
    { sys with
      store := sys.store.releaseWrite req.leaseId req.now released
      pending := Function.update sys.pending client none
      commits := sys.commits ++ [.released req.leaseId] }

end

/-- One step of the system, or `none` for an event that cannot happen. -/
def step (sha : Sha256) (sys : LeaseSystem ι) : LeaseEvent ι → Option (LeaseSystem ι)
  | .acquire client req =>
    if sys.canCall client req.now then
      some { sys with store := (sys.store.acquireBundle sha req).2, clock := req.now }
    else none
  | .renewRead client req =>
    if sys.canCall client req.now then some (sys.readRenewal client req) else none
  | .releaseRead client req =>
    if sys.canCall client req.now then some (sys.readRelease client req) else none
  | .write client => (sys.pending client).map (sys.makeWrite client)

end Steps

variable {client : ι} {sha : Sha256} {sys : LeaseSystem ι} {req : ReleaseRequest}

/-- A renewal whose write follows its read at once is a call of `renew_lease`. -/
theorem renewal_at_once [DecidableEq ι] {req : RenewRequest} {renewed : ResourceLease}
    (hcall : sys.canCall client req.now) (hread : sys.store.renewRead req = .ok renewed) :
    ((sys.step sha (.renewRead client req)).bind fun sys₁ =>
      sys₁.step sha (.write client)).map store = some (sys.store.renewLease req).2 := by
  simp only [step, if_pos hcall, bind_some, readRenewal, hread, update_self,
    map_some, makeWrite, renewLease]

/-- A release whose write follows its read at once is a call of `release_lease`. -/
theorem release_at_once [DecidableEq ι] {released : ResourceLease}
    (hcall : sys.canCall client req.now)
    (hread : sys.store.releaseRead req = .ok (.release released)) :
    ((sys.step sha (.releaseRead client req)).bind fun sys₁ =>
      sys₁.step sha (.write client)).map store = some (sys.store.releaseLease req).2 := by
  simp only [step, if_pos hcall, bind_some, readRelease, hread, update_self,
    map_some, makeWrite, releaseLease]

/-! ### The property and its condition -/

section

variable (sys : LeaseSystem ι)

def renewing (client : ι) : Option String :=
  (sys.pending client).bind PendingWrite.renews

def releasing (client : ι) : Option String :=
  (sys.pending client).bind PendingWrite.releases

/-- Leases are fenced: active leases (by the columns or by the payload) without a pool
exclude each other from the clock on, no lease is renewed after its release was committed,
and the columns tell released leases as the payloads do. -/
structure Fenced (sys : LeaseSystem ι) : Prop where
  exclusive : ∀ t, sys.clock ≤ t → ∀ a ∈ sys.store.leases.rows, ∀ b ∈ sys.store.leases.rows,
    a ≠ b → (a.activeAt t = true ∨ a.payload.activeAt t = true) →
    (b.activeAt t = true ∨ b.payload.activeAt t = true) →
    sys.store.pools.find? a.payload.claim.resourceKey = none →
    sys.store.pools.find? b.payload.claim.resourceKey = none →
    a.payload.claim.conflictsWith b.payload.claim = false
  ordered : sys.commits.Pairwise fun earlier later =>
    ∀ leaseId, earlier = .released leaseId → later ≠ .renewed leaseId
  mirrored : ∀ row ∈ sys.store.leases.rows,
    row.releasedAtUtc = none ↔ row.payload.releasedAtUtc = none

/-- The event disturbs no pending renewal: a release is not committed between the read and
the write of a renewal of its lease, and no bundle with a claim that conflicts with the
lease of a pending renewal is requested at a time at which that lease has lapsed. -/
def Undisturbed : LeaseEvent ι → Prop
  | .acquire _ req =>
    ∀ client, ∀ leaseId ∈ sys.renewing client, ∀ row ∈ sys.store.leases.rows,
      row.leaseId = leaseId → row.expiresAtUtc ≤ req.now → ∀ claim ∈ req.claims,
        sys.store.Apart claim row.payload.claim
  | .write client => ∀ leaseId ∈ sys.releasing client, ∀ other, leaseId ∉ sys.renewing other
  | _ => True

instance [Fintype ι] (sys : LeaseSystem ι) (e : LeaseEvent ι) : Decidable (sys.Undisturbed e) :=
  match e with
  | .acquire _ _ => inferInstanceAs (Decidable (∀ _, _))
  | .write _ => inferInstanceAs (Decidable (∀ _ ∈ _, _))
  | .renewRead _ _ => isTrue trivial
  | .releaseRead _ _ => isTrue trivial

/-! ### The invariant -/

/-- A row that must stay apart from the others: not released, and unexpired or about to be
renewed. -/
def Guarded (row : LeaseRow) : Prop :=
  row.releasedAtUtc = none ∧
    (sys.clock < row.expiresAtUtc ∨ ∃ client, sys.renewing client = some row.leaseId)

end

/-- The invariant of undisturbed runs. -/
structure Inv (sys : LeaseSystem ι) : Prop where
  released : ∀ row ∈ sys.store.leases.rows,
    row.releasedAtUtc = none ↔ row.payload.releasedAtUtc = none
  expires : ∀ row ∈ sys.store.leases.rows, row.releasedAtUtc = none →
    row.expiresAtUtc = row.payload.expiresAtUtc
  renewals : ∀ client req renewed, sys.pending client = some (.renew req renewed) →
    renewed.releasedAtUtc = none ∧ ∃ row ∈ sys.store.leases.rows,
      row.leaseId = req.leaseId ∧ row.releasedAtUtc = none ∧ renewed.claim = row.payload.claim
  releases : ∀ client req released, sys.pending client = some (.release req released) →
    released.releasedAtUtc ≠ none ∧ ∃ row ∈ sys.store.leases.rows,
      row.leaseId = req.leaseId ∧ released.claim = row.payload.claim
  apart : ∀ a ∈ sys.store.leases.rows, ∀ b ∈ sys.store.leases.rows, a ≠ b →
    sys.Guarded a → sys.Guarded b → sys.store.Apart a.payload.claim b.payload.claim
  committed : ∀ leaseId, LeaseCommit.released leaseId ∈ sys.commits →
    ∃ row ∈ sys.store.leases.rows, row.leaseId = leaseId ∧ row.releasedAtUtc ≠ none
  ordered : sys.commits.Pairwise fun earlier later =>
    ∀ leaseId, earlier = .released leaseId → later ≠ .renewed leaseId

/-- A row that is active from the clock on, by its columns or its payload, is guarded. -/
theorem Inv.guarded_of_active (h : sys.Inv) {row : LeaseRow} (hrow : row ∈ sys.store.leases.rows)
    {t : Instant} (ht : sys.clock ≤ t)
    (hact : row.activeAt t = true ∨ row.payload.activeAt t = true) : sys.Guarded row := by
  rcases hact with hact | hact
  · simp only [LeaseRow.activeAt, Bool.and_eq_true, isNone_iff_eq_none, decide_eq_true_eq] at hact
    exact ⟨hact.1, .inl (ht.trans_lt hact.2)⟩
  · rw [ResourceLease.activeAt_iff] at hact
    have hnone := (h.released row hrow).mpr hact.1
    rw [← h.expires row hrow hnone] at hact
    exact ⟨hnone, .inl (ht.trans_lt hact.2)⟩

/-- The invariant gives the property. -/
theorem Inv.fenced (h : sys.Inv) : sys.Fenced where
  exclusive := by
    intro t ht a ha b hb hne hacta hactb
    exact h.apart a ha b hb hne (h.guarded_of_active ha ht hacta) (h.guarded_of_active hb ht hactb)
  ordered := h.ordered
  mirrored := h.released

/-- A system without leases and calls satisfies the invariant. -/
theorem Inv.start {store : SchedulerStore} (hemp : store.leases.rows = []) :
    (start store : LeaseSystem ι).Inv := by
  have hnone : ∀ row, row ∉ (LeaseSystem.start store : LeaseSystem ι).store.leases.rows := by
    intro row hrow
    rw [show (LeaseSystem.start store : LeaseSystem ι).store.leases.rows = [] from hemp] at hrow
    cases hrow
  exact ⟨fun row hrow => absurd hrow (hnone row), fun row hrow => absurd hrow (hnone row),
    fun _ _ _ h => absurd h (by simp [LeaseSystem.start]),
    fun _ _ _ h => absurd h (by simp [LeaseSystem.start]),
    fun row hrow => absurd hrow (hnone row),
    fun _ h => absurd h (by simp [LeaseSystem.start]), List.Pairwise.nil⟩

variable {sys' : LeaseSystem ι}

/-- Moving the clock on, with the same leases and no new pending renewal of a row that is
not active, keeps rows guarded only if they were. -/
theorem Guarded.of_later {row : LeaseRow} (h : sys'.Guarded row) (hclk : sys.clock ≤ sys'.clock)
    (hrenewing : ∀ client, sys'.renewing client = some row.leaseId →
      sys.renewing client = some row.leaseId ∨ sys.clock < row.expiresAtUtc) : sys.Guarded row := by
  obtain ⟨hnone, hlive | ⟨client, hclient⟩⟩ := h
  · exact ⟨hnone, .inl (hclk.trans_lt hlive)⟩
  · rcases hrenewing client hclient with hold | hlive
    · exact ⟨hnone, .inr ⟨client, hold⟩⟩
    · exact ⟨hnone, .inl hlive⟩

/-! ### Reads and acquisitions -/

/-- A call that only reads: the store stays, the clock moves on, and a new pending write is
one of an active lease, or of a lease to release. -/
theorem Inv.read (h : sys.Inv) (hsto : sys'.store = sys.store)
    (hcommits : sys'.commits = sys.commits) (hclk : sys.clock ≤ sys'.clock)
    (hrenew : ∀ client req renewed, sys'.pending client = some (.renew req renewed) →
      sys.pending client = some (.renew req renewed) ∨
        (renewed.releasedAtUtc = none ∧ ∃ row ∈ sys.store.leases.rows,
          row.leaseId = req.leaseId ∧ row.releasedAtUtc = none ∧
            renewed.claim = row.payload.claim ∧ sys'.clock < row.expiresAtUtc))
    (hrelease : ∀ client req released, sys'.pending client = some (.release req released) →
      sys.pending client = some (.release req released) ∨
        (released.releasedAtUtc ≠ none ∧ ∃ row ∈ sys.store.leases.rows,
          row.leaseId = req.leaseId ∧ released.claim = row.payload.claim)) : sys'.Inv := by
  -- A renewal that is new is of a row that is active at the new clock.
  have hguarded : ∀ row ∈ sys.store.leases.rows, sys'.Guarded row → sys.Guarded row := by
    intro row hrow hg
    refine hg.of_later hclk fun client hclient => ?_
    obtain ⟨write, hwr, hrenews⟩ := bind_eq_some_iff.mp hclient
    cases write with
    | release => cases hrenews
    | renew req renewed =>
      have hreqid : req.leaseId = row.leaseId := some.inj hrenews
      rcases hrenew client req renewed hwr with hold | ⟨-, row', hrow', hid, -, -, hlive⟩
      · refine .inl ?_
        rw [renewing, hold, ← hreqid]
        rfl
      · obtain rfl : row' = row :=
          sys.store.leases.eq_of_key_eq hrow' hrow (hid.trans hreqid)
        exact .inr (hclk.trans_lt hlive)
  refine ⟨?_, ?_, ?_, ?_, ?_, ?_, ?_⟩
  · rw [hsto]
    exact h.released
  · rw [hsto]
    exact h.expires
  · rw [hsto]
    intro client req renewed hwr
    rcases hrenew client req renewed hwr with hold | ⟨hnone, row, hrow, hid, hun, hcl, -⟩
    · exact h.renewals client req renewed hold
    · exact ⟨hnone, row, hrow, hid, hun, hcl⟩
  · rw [hsto]
    intro client req released hwr
    rcases hrelease client req released hwr with hold | hnew
    · exact h.releases client req released hold
    · exact hnew
  · rw [hsto]
    intro a ha b hb hne hga hgb
    exact h.apart a ha b hb hne (hguarded a ha hga) (hguarded b hb hgb)
  · rw [hsto, hcommits]
    exact h.committed
  · rw [hcommits]
    exact h.ordered

/-- The clock of a call that raises. -/
theorem Inv.tick (h : sys.Inv) {now : Instant} (hnow : sys.clock ≤ now) :
    { sys with clock := now }.Inv :=
  h.read rfl rfl hnow (fun _ _ _ hwr => .inl hwr) (fun _ _ _ hwr => .inl hwr)

/-- Appended leases of an acquisition that disturbs no pending renewal. -/
theorem Inv.grants (h : sys.Inv) {req : AcquireRequest} {new : List ResourceLease}
    {store : SchedulerStore} (hclk : sys.clock ≤ req.now) (hgr : sys.store.Grants req new store)
    (hqt : ∀ client, ∀ leaseId ∈ sys.renewing client, ∀ row ∈ sys.store.leases.rows,
      row.leaseId = leaseId → row.expiresAtUtc ≤ req.now → ∀ claim ∈ req.claims,
        sys.store.Apart claim row.payload.claim) :
    { sys with store := store, clock := req.now }.Inv := by
  have hrows := hgr.rows
  have hpls : ∀ {a b}, sys.store.Apart a b → store.Apart a b := fun hab => by
    rwa [SchedulerStore.Apart, hgr.pools]
  -- A guarded old row is apart from every new lease: it is active, or about to be renewed.
  have hold : ∀ row ∈ sys.store.leases.rows, ∀ lease ∈ new,
      { sys with store := store, clock := req.now }.Guarded row →
      sys.store.Apart lease.claim row.payload.claim := by
    rintro row hrow lease hls ⟨hnone, hguarded⟩
    by_cases hlive : req.now < row.expiresAtUtc
    · refine hgr.apartFromActive lease hls row hrow ?_
      rw [LeaseRow.activeAt, hnone, decide_eq_true hlive]
      rfl
    · obtain ⟨client, hclient⟩ := hguarded.resolve_left hlive
      exact hqt client row.leaseId hclient row hrow rfl (Nat.not_lt.mp hlive) lease.claim
        (hgr.requested lease hls)
  refine ⟨?_, ?_, ?_, ?_, ?_, ?_, h.ordered⟩
  · simp only [hrows]
    intro row hrow
    rcases mem_append.mp hrow with hrow | hrow
    · exact h.released row hrow
    · obtain ⟨lease, -, rfl⟩ := mem_map.mp hrow
      exact Iff.rfl
  · simp only [hrows]
    intro row hrow
    rcases mem_append.mp hrow with hrow | hrow
    · exact h.expires row hrow
    · obtain ⟨lease, -, rfl⟩ := mem_map.mp hrow
      exact fun _ => rfl
  · intro client rreq renewed hwr
    obtain ⟨hnone, row, hrow, hrest⟩ := h.renewals client rreq renewed hwr
    exact ⟨hnone, row, by simp only [hrows, mem_append, hrow, true_or], hrest⟩
  · intro client rreq released hwr
    obtain ⟨hsome, row, hrow, hrest⟩ := h.releases client rreq released hwr
    exact ⟨hsome, row, by simp only [hrows, mem_append, hrow, true_or], hrest⟩
  · simp only [hrows]
    intro a ha b hb hne hga hgb
    rcases mem_append.mp ha with ha | ha <;> rcases mem_append.mp hb with hb | hb
    · exact hpls (h.apart a ha b hb hne (hga.of_later hclk fun _ => .inl)
        (hgb.of_later hclk fun _ => .inl))
    · obtain ⟨lease, hls, rfl⟩ := mem_map.mp hb
      exact hpls (hold a ha lease hls hga).symm
    · obtain ⟨lease, hls, rfl⟩ := mem_map.mp ha
      exact hpls (hold b hb lease hls hgb)
    · obtain ⟨x, hx, rfl⟩ := mem_map.mp ha
      obtain ⟨y, hy, rfl⟩ := mem_map.mp hb
      have hxy : x ≠ y := fun e => hne (congrArg LeaseRow.ofLease e)
      exact hpls (hgr.apart_of_ne hx hy hxy)
  · intro leaseId hcom
    obtain ⟨row, hrow, hrest⟩ := h.committed leaseId hcom
    exact ⟨row, by simp only [hrows, mem_append, hrow, true_or], hrest⟩

section Preservation

variable [DecidableEq ι]

/-! ### Writes -/

section

variable (hpend : sys'.pending = update sys.pending client none)
include hpend

/-- After a write its client renews nothing, and the others renew what they did. -/
theorem renewing_of_update {other : ι} {leaseId : String}
    (h : sys'.renewing other = some leaseId) : sys.renewing other = some leaseId := by
  rw [renewing, hpend] at h
  by_cases hc : other = client
  · subst hc
    simp at h
  · rwa [update_of_ne hc] at h

/-- A write drops the pending write of its client. -/
theorem pending_of_update
    (other : ι) : sys'.pending other = none ∨ sys'.pending other = sys.pending other := by
  rw [hpend]
  by_cases hc : other = client
  · subst hc
    exact .inl (update_self _ _ _)
  · exact .inr (update_of_ne hc _ _)

end

/-- The row of one lease is rewritten by a client that drops its pending write. The row keeps its
identifier and claim, is guarded only if it was, stays released, and stays unreleased while another
client renews it. -/
theorem Inv.rewrite (h : sys.Inv) {row₀ : LeaseRow} (hrow₀ : row₀ ∈ sys.store.leases.rows)
    (change : LeaseRow → LeaseRow) (hpls : sys'.store.pools = sys.store.pools)
    (hrows : sys'.store.leases.rows = sys.store.leases.rows.map fun row =>
      if row.leaseId == row₀.leaseId then change row else row)
    (hpend : sys'.pending = update sys.pending client none)
    (hclk : sys'.clock = sys.clock) (hid : (change row₀).leaseId = row₀.leaseId)
    (hcl : (change row₀).payload.claim = row₀.payload.claim)
    (hmir : (change row₀).releasedAtUtc = none ↔ (change row₀).payload.releasedAtUtc = none)
    (hexpires : (change row₀).releasedAtUtc = none →
      (change row₀).expiresAtUtc = (change row₀).payload.expiresAtUtc)
    (hguarded : sys'.Guarded (change row₀) → sys.Guarded row₀)
    (hrel : row₀.releasedAtUtc ≠ none → (change row₀).releasedAtUtc ≠ none)
    (hrenewing : ∀ other, sys'.renewing other = some row₀.leaseId → row₀.releasedAtUtc = none →
      (change row₀).releasedAtUtc = none)
    (hcommitted : ∀ leaseId, LeaseCommit.released leaseId ∈ sys'.commits →
      LeaseCommit.released leaseId ∈ sys.commits ∨
        leaseId = row₀.leaseId ∧ (change row₀).releasedAtUtc ≠ none)
    (hordered : sys'.commits.Pairwise fun earlier later =>
      ∀ leaseId, earlier = .released leaseId → later ≠ .renewed leaseId) : sys'.Inv := by
  -- A row of the new table is the changed one, or a row of another lease.
  have hrow : ∀ x ∈ sys'.store.leases.rows, x = change row₀ ∨
      x ∈ sys.store.leases.rows ∧ x.leaseId ≠ row₀.leaseId := by
    intro x hx
    rw [hrows] at hx
    obtain ⟨row, hmem, rfl⟩ := mem_map.mp hx
    by_cases hrid : row.leaseId = row₀.leaseId
    · obtain rfl := sys.store.leases.eq_of_key_eq hmem hrow₀ hrid
      exact .inl (if_pos (beq_self_eq_true _))
    · rw [if_neg (by simpa using hrid)]
      exact .inr ⟨hmem, hrid⟩
  -- Every row is still there, possibly changed.
  have hkept : ∀ row ∈ sys.store.leases.rows, ∃ x ∈ sys'.store.leases.rows,
      x.leaseId = row.leaseId ∧ x.payload.claim = row.payload.claim ∧
        (row ≠ row₀ ∧ x = row ∨ row = row₀ ∧ x = change row₀) := by
    intro row hmem
    refine ⟨_, hrows ▸ mem_map_of_mem hmem, ?_⟩
    by_cases hrid : row.leaseId = row₀.leaseId
    · obtain rfl := sys.store.leases.eq_of_key_eq hmem hrow₀ hrid
      rw [if_pos (beq_self_eq_true _)]
      exact ⟨hid, hcl, .inr ⟨rfl, rfl⟩⟩
    · rw [if_neg (by simpa using hrid)]
      exact ⟨rfl, rfl, .inl ⟨fun e => hrid (e ▸ rfl), rfl⟩⟩
  have hold : ∀ other write, sys'.pending other = some write → sys.pending other = some write := by
    intro other write hwr
    rcases pending_of_update hpend other with hnone | hsame
    · rw [hnone] at hwr
      cases hwr
    · rwa [hsame] at hwr
  have hlat : ∀ row, sys'.Guarded row → sys.Guarded row := fun row hg =>
    hg.of_later hclk.ge fun other hoth => .inl (renewing_of_update hpend hoth)
  refine ⟨?_, ?_, ?_, ?_, ?_, ?_, hordered⟩
  · intro x hx
    rcases hrow x hx with rfl | ⟨hmem, -⟩
    · exact hmir
    · exact h.released x hmem
  · intro x hx
    rcases hrow x hx with rfl | ⟨hmem, -⟩
    · exact hexpires
    · exact h.expires x hmem
  · intro other req renewed hwr
    obtain ⟨hnone, row, hmem, hrid, hunreleased, hrowclaim⟩ :=
      h.renewals other req renewed (hold other _ hwr)
    obtain ⟨x, hx, hxid, hxclaim, hcase⟩ := hkept row hmem
    refine ⟨hnone, x, hx, hxid.trans hrid, ?_, hrowclaim.trans hxclaim.symm⟩
    rcases hcase with ⟨-, rfl⟩ | ⟨rfl, rfl⟩
    · exact hunreleased
    · refine hrenewing other ?_ hunreleased
      rw [renewing, hwr, hrid]
      rfl
  · intro other req released hwr
    obtain ⟨hsome, row, hmem, hrid, hrowclaim⟩ :=
      h.releases other req released (hold other _ hwr)
    obtain ⟨x, hx, hxid, hxclaim, -⟩ := hkept row hmem
    exact ⟨hsome, x, hx, hxid.trans hrid, hrowclaim.trans hxclaim.symm⟩
  · intro a ha b hb hne hga hgb
    rw [SchedulerStore.Apart, hpls]
    rcases hrow a ha with rfl | ⟨ha, hane⟩ <;> rcases hrow b hb with rfl | ⟨hb, hbne⟩
    · exact absurd rfl hne
    · rw [hcl]
      exact h.apart row₀ hrow₀ b hb (fun e => hbne (e ▸ rfl)) (hguarded hga) (hlat b hgb)
    · rw [hcl]
      exact h.apart a ha row₀ hrow₀ (fun e => hane (e ▸ rfl)) (hlat a hga) (hguarded hgb)
    · exact h.apart a ha b hb hne (hlat a hga) (hlat b hgb)
  · intro leaseId hcom
    rcases hcommitted leaseId hcom with hcom | ⟨rfl, hsome⟩
    · obtain ⟨row, hmem, hrid, hsome⟩ := h.committed leaseId hcom
      obtain ⟨x, hx, hxid, -, ⟨-, rfl⟩ | ⟨rfl, rfl⟩⟩ := hkept row hmem
      · exact ⟨x, hx, hrid, hsome⟩
      · exact ⟨_, hx, hxid.trans hrid, hrel hsome⟩
    · obtain ⟨x, hx, hxid, -, ⟨hne, -⟩ | ⟨-, rfl⟩⟩ := hkept row₀ hrow₀
      · exact absurd rfl hne
      · exact ⟨_, hx, hxid, hsome⟩

/-- The write of a renewal. Its lease was guarded all along, and not released. -/
theorem Inv.writeRenewal (h : sys.Inv) {req : RenewRequest} {renewed : ResourceLease}
    (hwr : sys.pending client = some (.renew req renewed)) :
    (sys.makeWrite client (.renew req renewed)).Inv := by
  obtain ⟨hnone, row₀, hrow₀, hid, hunreleased, hcl⟩ := h.renewals client req renewed hwr
  have hrenews : sys.renewing client = some row₀.leaseId := by
    rw [renewing, hwr, hid]
    rfl
  refine h.rewrite hrow₀
    (fun row => { row with expiresAtUtc := renewed.expiresAtUtc, payload := renewed }) rfl
    (by rw [hid]; rfl) rfl rfl rfl hcl (iff_of_true hunreleased hnone) (fun _ => rfl)
    (fun _ => ⟨hunreleased, .inr ⟨client, hrenews⟩⟩) id (fun _ _ => id) ?_ ?_
  · intro leaseId hcom
    refine .inl ((mem_append.mp hcom).resolve_right fun hnew => ?_)
    cases mem_singleton.mp hnew
  · refine pairwise_append.mpr ⟨h.ordered, pairwise_singleton _ _, ?_⟩
    rintro earlier hearlier later hlat leaseId rfl heq
    -- A committed release has left the row of its lease released, and this one is not.
    obtain ⟨row, hmem, hrid, hsome⟩ := h.committed leaseId hearlier
    rw [mem_singleton.mp hlat, LeaseCommit.renewed.injEq, ← hid, ← hrid] at heq
    obtain rfl := sys.store.leases.eq_of_key_eq hmem hrow₀ heq.symm
    exact hsome hunreleased

/-- The write of a release, when no renewal of the lease is pending. -/
theorem Inv.writeRelease (h : sys.Inv) {released : ResourceLease}
    (hwr : sys.pending client = some (.release req released))
    (hqt : ∀ other, sys.renewing other ≠ some req.leaseId) :
    (sys.makeWrite client (.release req released)).Inv := by
  obtain ⟨hsome, row₀, hrow₀, hid, hcl⟩ := h.releases client req released hwr
  refine h.rewrite hrow₀
    (fun row => { row with releasedAtUtc := some req.now, payload := released }) rfl
    (by rw [hid]; rfl) rfl rfl rfl hcl (iff_of_false (by simp) hsome) nofun nofun
    (fun _ => nofun) ?_ ?_ ?_
  · intro other hoth
    rw [hid] at hoth
    exact absurd (renewing_of_update rfl hoth) (hqt other)
  · intro leaseId hcom
    refine (mem_append.mp hcom).imp_right fun hnew => ?_
    cases mem_singleton.mp hnew
    exact ⟨hid.symm, nofun⟩
  · refine pairwise_append.mpr ⟨h.ordered, pairwise_singleton _ _, ?_⟩
    rintro earlier - later hlat leaseId - heq
    rw [mem_singleton.mp hlat] at heq
    cases heq

/-! ### Runs -/

/-- The pending writes after a read: the new one, and the old ones. -/
theorem eq_or_of_update_eq_some {pending : ι → Option PendingWrite} {other : ι}
    {write write' : PendingWrite} (h : update pending client (some write) other = some write') :
    write' = write ∨ pending other = some write' := by
  by_cases hc : other = client
  · subst hc
    rw [update_self] at h
    exact .inl (some.inj h).symm
  · rw [update_of_ne hc] at h
    exact .inr h

/-- The read of a renewal. -/
theorem Inv.readRenewal (h : sys.Inv) {req : RenewRequest} (hclk : sys.clock ≤ req.now) :
    (sys.readRenewal client req).Inv := by
  rw [LeaseSystem.readRenewal]
  split
  · exact h.tick hclk
  · rename_i renewed hread
    obtain ⟨row, hrow, hid, hactive, -, -, hrenewed⟩ := renewRead_eq_ok hread
    rw [ResourceLease.activeAt_iff] at hactive
    have hnone := (h.released row hrow).mpr hactive.1
    refine h.read rfl rfl hclk ?_ ?_
    · intro other oreq orenewed hwr
      rcases eq_or_of_update_eq_some hwr with hnew | hold
      · obtain ⟨rfl, rfl⟩ := PendingWrite.renew.inj hnew
        refine .inr ⟨?_, row, hrow, hid, hnone, ?_, ?_⟩
        · rw [hrenewed]
          exact hactive.1
        · rw [hrenewed]
        · rw [h.expires row hrow hnone]
          exact hactive.2
      · exact .inl hold
    · intro other oreq released hwr
      rcases eq_or_of_update_eq_some hwr with hnew | hold
      · cases hnew
      · exact .inl hold

/-- The read of a release. -/
theorem Inv.readRelease (h : sys.Inv) (hclk : sys.clock ≤ req.now) :
    (sys.readRelease client req).Inv := by
  rw [LeaseSystem.readRelease]
  split
  · rename_i released hread
    obtain ⟨row, hrow, hid, hrel⟩ := releaseRead_eq_release hread
    refine h.read rfl rfl hclk ?_ ?_
    · intro other oreq renewed hwr
      rcases eq_or_of_update_eq_some hwr with hnew | hold
      · cases hnew
      · exact .inl hold
    · intro other oreq oreleased hwr
      rcases eq_or_of_update_eq_some hwr with hnew | hold
      · obtain ⟨rfl, rfl⟩ := PendingWrite.release.inj hnew
        refine .inr ⟨?_, row, hrow, hid, ?_⟩
        · rw [hrel]
          simp
        · rw [hrel]
      · exact .inl hold
  · exact h.tick hclk

/-- Every undisturbed step keeps the invariant. -/
theorem Inv.step {e : LeaseEvent ι} (h : sys.Inv) (hqt : sys.Undisturbed e)
    (hstep : sys.step sha e = some sys') : sys'.Inv := by
  cases e with
  | acquire _ req =>
    obtain ⟨hcall, hsys⟩ := ite_none_right_eq_some.mp hstep
    cases hsys
    obtain ⟨new, hgr⟩ := acquireBundle_grants sys.store sha req
    exact h.grants hcall.2 hgr hqt
  | renewRead =>
    obtain ⟨hcall, hsys⟩ := ite_none_right_eq_some.mp hstep
    cases hsys
    exact h.readRenewal hcall.2
  | releaseRead =>
    obtain ⟨hcall, hsys⟩ := ite_none_right_eq_some.mp hstep
    cases hsys
    exact h.readRelease hcall.2
  | write =>
    obtain ⟨write, hwr, rfl⟩ := map_eq_some_iff.mp hstep
    cases write with
    | renew => exact h.writeRenewal hwr
    | release req =>
      refine h.writeRelease hwr fun other hrenewing => ?_
      refine hqt req.leaseId ?_ other hrenewing
      rw [releasing, hwr]
      rfl

end Preservation

end LeaseSystem

open LeaseSystem

/-- The lease of the first worker on its path. -/
def sourceLeaseId : String := "LEASE-3994DE00206F11D4A051"

/-- The first worker leases a path and its client begins to renew the lease; before the
renewal is written, a second client of the worker releases the lease. -/
def releaseInBetween : List (LeaseEvent Bool) :=
  [.acquire false
      { taskId := "PP-TASK-000001", holderId := "worker-1", claims := [sourceClaim], now := 0 },
    .renewRead false
      { leaseId := sourceLeaseId, holderId := "worker-1", fencingToken := 1, now := 5 },
    .releaseRead true
      { leaseId := sourceLeaseId, holderId := "worker-1", fencingToken := 1, now := 5 },
    .write true,
    .write false]

/-- Two workers whose calls overlap without disturbing each other. -/
def overlappingCalls : List (LeaseEvent Bool) :=
  [.acquire false
      { taskId := "PP-TASK-000001", holderId := "worker-1", claims := [sourceClaim], now := 0 },
    .renewRead false
      { leaseId := sourceLeaseId, holderId := "worker-1", fencingToken := 1, now := 5 },
    .acquire true
      { taskId := "PP-TASK-000002", holderId := "worker-2", claims := [docsClaim], now := 6 },
    .write false]

end ProjectPipeline
