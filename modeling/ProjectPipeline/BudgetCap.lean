import ProjectPipeline.Budget

/-!
# Spending Under the Cap

What counts against a limit is its exposure: the net bookings on its scope and the
reservations of the leases that are active. A reservation is checked against the exposure
at the time of the call, and the other calls are meant to close what a lease holds open:
a settlement exchanges a reservation for a booking of at most that amount.

The exchange is only even while the reservation counts. A lease that is still `RESERVED`
after its expiry has stopped counting, although `settle_lease` and `mark_unknown_outcome`
still accept it: if its room was given away in the meantime, the late call lifts the
exposure over the cap (`late_settlement_exceeds_cap`). Along runs without such late calls the
exposure stays under the hard cap (`spending_within_caps`).
-/

namespace ProjectPipeline

variable {sha : Sha256}

/-! ### Exposure -/

variable {lease : SpendLease sha}

/-- A lease that counts has counted at every time before. -/
theorem SpendLease.activeAt_anti {t t' : Instant} (ht : t ≤ t') (h : lease.activeAt t' = true) :
    lease.activeAt t = true := by
  rw [activeAt, Bool.or_eq_true, Bool.and_eq_true, decide_eq_true_eq] at h ⊢
  exact h.imp_right fun hopen => ⟨hopen.1, lt_of_le_of_lt ht hopen.2⟩

/-- Open leases count: an unknown outcome always, a reservation until it lapses. -/
theorem SpendLease.activeAt_of_open {now : Instant}
    (hopen : lease.state = .reserved ∨ lease.state = .unknownOutcome)
    (htime : lease.state = .reserved → now < lease.expiresAtUtc) : lease.activeAt now = true := by
  rcases hopen with hst | hst
  · simp [activeAt, hst, htime hst]
  · simp [activeAt, hst]

/-- A closed lease does not count. -/
theorem SpendLease.activeAt_of_closed (hresv : lease.state ≠ .reserved)
    (hunk : lease.state ≠ .unknownOutcome) (now : Instant) : lease.activeAt now = false := by
  simp [activeAt, hresv, hunk]

variable {entry : BudgetLedgerEntry sha}

namespace BudgetStore

/-- Reservations only lapse as time passes. -/
theorem exposure_anti (s : BudgetStore sha) (scopeKey : String) {t t' : Instant} (ht : t ≤ t') :
    s.exposure scopeKey t' ≤ s.exposure scopeKey t := by
  rw [exposure, exposure, committed_eq, committed_eq]
  refine Nat.add_le_add_left (totalWhere_mono fun lease _ hls => ?_) _
  rw [Bool.and_eq_true] at hls ⊢
  exact ⟨SpendLease.activeAt_anti ht hls.1, hls.2⟩

section

variable {s s' : BudgetStore sha}

/-- A new lease adds its reservation on its scopes. -/
theorem exposure_insertLease (h : s.insertLease lease = .ok s')
    (scopeKey : String) (now : Instant) :
    s'.exposure scopeKey now ≤ s.exposure scopeKey now +
      if lease.scopeKeys.contains scopeKey then lease.reservedMicrounits else 0 := by
  obtain ⟨-, hled, hrows⟩ := insertLease_eq_ok h
  have hcommitted : s'.committed scopeKey now ≤ s.committed scopeKey now +
      if lease.scopeKeys.contains scopeKey then lease.reservedMicrounits else 0 := by
    rw [committed_eq, committed_eq, hrows, totalWhere_append, totalWhere_singleton]
    cases lease.activeAt now <;> simp
  rw [exposure, exposure, cashTotal_eq, cashTotal_eq, cashTotal_eq, cashTotal_eq, hled]
  omega

/-- Rewriting a lease does not raise the exposure if it counts only where it has counted
before, for the same scopes and the same amount. -/
theorem exposure_updateLease_le {s : BudgetStore sha} {updated : SpendLease sha} {now : Instant}
    (h : updated.activeAt now = true → ∃ lease, s.leases.find? updated.leaseId = some lease ∧
      lease.activeAt now = true ∧ lease.scopeKeys = updated.scopeKeys ∧
      lease.reservedMicrounits = updated.reservedMicrounits) (scopeKey : String) :
    (s.updateLease updated).exposure scopeKey now ≤ s.exposure scopeKey now := by
  rw [exposure, exposure, committed_eq, committed_eq, updateLease, Table.rows_replace]
  refine Nat.add_le_add_left (totalWhere_map_le fun row hrow hcnt => ?_) _
  by_cases hkey : row.leaseId = updated.leaseId
  · rw [if_pos hkey, Bool.and_eq_true] at hcnt
    obtain ⟨lease, hfind, hact, hscopes, hresv⟩ := h hcnt.1
    have hsame : some row = some lease := by
      rw [← hfind, ← hkey]
      exact (s.leases.find?_of_mem hrow).symm
    cases hsame
    rw [if_pos hkey, hact, hscopes, hresv]
    exact ⟨hcnt.2, le_rfl⟩
  · rw [if_neg hkey] at hcnt ⊢
    exact ⟨hcnt, le_rfl⟩

/-- A booking raises the debits by at most its amount, on its scopes. -/
theorem cashTotal_insertLedger (h : s.insertLedger entry = .ok s') (direction : LedgerDirection)
    (scopeKey : String) :
    s.cashTotal direction scopeKey ≤ s'.cashTotal direction scopeKey ∧
      s'.cashTotal direction scopeKey ≤ s.cashTotal direction scopeKey +
        if entry.scopeKeys.contains scopeKey then entry.cashMicrounits else 0 := by
  obtain ⟨-, -, hrows⟩ := insertLedger_eq_ok h
  rw [cashTotal_eq, cashTotal_eq]
  rcases hrows with hrows | hrows
  · rw [hrows]
    exact ⟨le_rfl, Nat.le_add_right _ _⟩
  · rw [hrows, totalWhere_append, totalWhere_singleton]
    refine ⟨Nat.le_add_right _ _, Nat.add_le_add_left ?_ _⟩
    cases entry.scopeKeys.contains scopeKey <;> cases entry.direction == direction <;> simp

/-- An even settlement: the booking replaces a reservation that counts, on the same scopes
and for at most the same amount. -/
theorem exposure_settled_le {now : Instant} (hfind : s.leases.find? lease.leaseId = some lease)
    (hact : lease.activeAt now = true) (hscopes : entry.scopeKeys = lease.scopeKeys)
    (hcash : entry.cashMicrounits ≤ lease.reservedMicrounits) (hled : s.insertLedger entry = .ok s')
    (scopeKey : String) :
    (s'.updateLease (settled entry now lease)).exposure scopeKey now ≤ s.exposure scopeKey now := by
  obtain ⟨-, hlss, -⟩ := insertLedger_eq_ok hled
  have hclosed : (settled entry now lease).activeAt now = false := by
    refine SpendLease.activeAt_of_closed ?_ ?_ now <;>
      · rw [settled]
        split <;> simp
  -- The reservation leaves the active ones …
  have hcommitted : (s'.updateLease (settled entry now lease)).committed scopeKey now +
      (if lease.scopeKeys.contains scopeKey then lease.reservedMicrounits else 0) =
        s.committed scopeKey now := by
    have hreplace := totalWhere_replace
      (fun l : SpendLease sha => l.activeAt now && l.scopeKeys.contains scopeKey)
      (fun l => l.reservedMicrounits) (t := s.leases) (r := settled entry now lease) hfind
    rw [hact, hclosed, Bool.true_and, Bool.false_and] at hreplace
    rw [committed_eq, committed_eq, updateLease, hlss]
    simpa using hreplace
  -- … and the booking takes its place.
  have hdebit := (cashTotal_insertLedger hled .debit scopeKey).2
  have hcredit := (cashTotal_insertLedger hled .credit scopeKey).1
  have hbooked : (if entry.scopeKeys.contains scopeKey then entry.cashMicrounits else 0) ≤
      if lease.scopeKeys.contains scopeKey then lease.reservedMicrounits else 0 := by
    rw [hscopes]
    split
    · exact hcash
    · exact le_rfl
  have hsame : ∀ direction, (s'.updateLease (settled entry now lease)).cashTotal direction
      scopeKey = s'.cashTotal direction scopeKey := fun _ => rfl
  rw [exposure, exposure, hsame, hsame]
  omega

end

end BudgetStore

/-! ### Runs -/

namespace BudgetCall

/-- A settlement books a debit on the scopes of its lease, of at most what the lease
reserves. -/
def SettlesWithin (s : BudgetStore sha) : BudgetCall sha → Prop
  | settle leaseId entry _ => ∀ lease ∈ s.leases.find? leaseId,
      entry.direction = .debit ∧ entry.scopeKeys = lease.scopeKeys ∧
        entry.cashMicrounits ≤ lease.reservedMicrounits
  | _ => True

/-- A settlement or an unknown outcome does not come after the expiry of a lease that is
still reserved. -/
def OnTime (s : BudgetStore sha) : BudgetCall sha → Prop
  | settle leaseId _ now => ∀ lease ∈ s.leases.find? leaseId,
      lease.state = .reserved → now < lease.expiresAtUtc
  | markUnknownOutcome leaseId now => ∀ lease ∈ s.leases.find? leaseId,
      lease.state = .reserved → now < lease.expiresAtUtc
  | _ => True

instance (s : BudgetStore sha) : (c : BudgetCall sha) → Decidable (SettlesWithin s c)
  | settle leaseId _ _ => inferInstanceAs (Decidable (∀ lease ∈ s.leases.find? leaseId, _))
  | reserve _ | release .. | markUnknownOutcome .. | resolveUnknownNoEffect .. | expireStale _ =>
    .isTrue trivial

instance (s : BudgetStore sha) : (c : BudgetCall sha) → Decidable (OnTime s c)
  | settle leaseId _ _ | markUnknownOutcome leaseId _ =>
    inferInstanceAs (Decidable (∀ lease ∈ s.leases.find? leaseId, _))
  | reserve _ | release .. | resolveUnknownNoEffect .. | expireStale _ => .isTrue trivial

end BudgetCall

/-- Every limit keeps the exposure of its scope under the hard cap. -/
structure WithinCaps (limits : Table String (BudgetLimit sha) BudgetLimit.limitId) (t : Instant)
    (s : BudgetStore sha) : Prop where
  unchanged : s.limits = limits
  bounded : ∀ limit ∈ limits.rows, s.exposure limit.scopeKey t ≤ limit.hardCapMicrounits

section Steps

variable {limits : Table String (BudgetLimit sha) BudgetLimit.limitId} {now : Instant}
  {s s' : BudgetStore sha}

open BudgetStore

/-- What does not raise the exposure stays under the caps. -/
theorem WithinCaps.of_le (h : WithinCaps limits now s) (hlims : s'.limits = s.limits)
    (hle : ∀ scopeKey, s'.exposure scopeKey now ≤ s.exposure scopeKey now) :
    WithinCaps limits now s' :=
  ⟨hlims.trans h.unchanged, fun limit hlim => (hle limit.scopeKey).trans (h.bounded limit hlim)⟩

/-- A reservation is checked against every limit of its scopes. A request of another cycle
is not, but without a limit it can only reserve nothing. -/
theorem WithinCaps.reserve {cycleId : String}
    (hlims : ∀ limit ∈ limits.rows, limit.enabled = true ∧ limit.cycleId = cycleId)
    {call : ReserveCall} (h : WithinCaps limits call.now s) :
    WithinCaps limits call.now (s.reserve call).2 := by
  rcases s.reserve_cases call with hsame | ⟨lease, -, hcand, hchk, hins⟩
  · rw [hsame]
    exact h
  · obtain ⟨hscopes, hresv⟩ := candidate_eq_ok hcand
    obtain ⟨hsome, hroom, -⟩ := checkReservation_eq_ok_iff.mp hchk
    refine ⟨(insertLease_eq_ok hins).1.trans h.unchanged, fun limit hlim => ?_⟩
    have hadd := exposure_insertLease hins limit.scopeKey call.now
    have hold := h.bounded limit hlim
    rw [hscopes, hresv] at hadd
    by_cases happlies : limit ∈ s.applicableLimits call
    · have hcap := (hroom limit happlies).trans (capFor_le call limit)
      split at hadd <;> omega
    · -- The limit is not looked at: another scope, or another cycle and nothing to reserve.
      rw [mem_applicableLimits, h.unchanged] at happlies
      by_cases hscope : limit.scopeKey ∈ call.request.scopeKeys
      · have hcycle : call.cycleId ≠ cycleId := fun hcycle =>
          happlies ⟨hlim, (hlims limit hlim).2.trans hcycle.symm, (hlims limit hlim).1, hscope⟩
        have hnone : s.applicableLimits call = [] := by
          refine List.eq_nil_iff_forall_not_mem.mpr fun other hoth => hcycle ?_
          obtain ⟨hmem, hoth, -⟩ := mem_applicableLimits.mp hoth
          rw [h.unchanged] at hmem
          exact hoth.symm.trans (hlims other hmem).2
        have hfree : call.requested = 0 := by
          rw [ReserveCall.requested, if_neg fun hpaid => hsome hpaid hnone]
        split at hadd <;> omega
      · rw [if_neg (by simpa using hscope)] at hadd
        omega

variable {leaseId : String}

namespace WithinCaps

/-- A settlement in time is even. -/
theorem settle (hwi : BudgetCall.SettlesWithin s (.settle leaseId entry now))
    (htime : BudgetCall.OnTime s (.settle leaseId entry now)) (h : WithinCaps limits now s) :
    WithinCaps limits now (s.settleLease leaseId entry now).2 := by
  rcases s.settleLease_cases leaseId entry now with hsame | ⟨lease, s', hfind, hopen, hled, hs'⟩
  · rw [hsame]
    exact h
  · obtain ⟨-, hscopes, hcash⟩ := hwi lease hfind
    have hact := SpendLease.activeAt_of_open hopen (htime lease hfind)
    have hstd : s.leases.find? lease.leaseId = some lease := by
      rw [(Table.find?_eq_some_iff.mp hfind).2]
      exact hfind
    rw [hs']
    exact h.of_le (insertLedger_eq_ok hled).1 (exposure_settled_le hstd hact hscopes hcash hled)

/-- A move that closes a lease, or keeps one open that counts. -/
theorem move {move : SpendLease sha → Except PyError (Option (SpendLease sha))}
    (hmove : ∀ lease updated, s.leases.find? leaseId = some lease →
      move lease = .ok (some updated) → updated.activeAt now = true →
      lease.leaseId = updated.leaseId ∧ lease.activeAt now = true ∧
        lease.scopeKeys = updated.scopeKeys ∧
        lease.reservedMicrounits = updated.reservedMicrounits) (h : WithinCaps limits now s) :
    WithinCaps limits now (s.moveLease leaseId move).2 := by
  rcases s.moveLease_cases leaseId move with hsame | ⟨lease, updated, hfind, hupd, hs'⟩
  · rw [hsame]
    exact h
  · rw [hs']
    refine h.of_le rfl (exposure_updateLease_le fun hact => ?_)
    obtain ⟨hid, hrest⟩ := hmove lease updated hfind hupd hact
    refine ⟨lease, ?_, hrest⟩
    rw [← hid, (Table.find?_eq_some_iff.mp hfind).2]
    exact hfind

/-- An unknown outcome in time keeps the reservation. -/
theorem markUnknownOutcome (htime : BudgetCall.OnTime s (.markUnknownOutcome leaseId now))
    (h : WithinCaps limits now s) :
    WithinCaps limits now (s.markUnknownOutcome leaseId now).2 := by
  refine h.move fun lease updated hfind hupd _ => ?_
  split at hupd
  · cases hupd
  · rename_i hresv
    obtain rfl := Option.some.inj (Except.ok.inj hupd)
    have hact := SpendLease.activeAt_of_open (Or.inl (not_not.mp hresv)) (htime lease hfind)
    exact ⟨rfl, hact, rfl, rfl⟩

section

variable (h : WithinCaps limits now s)
include h

/-- A resolved outcome is closed. -/
theorem resolveUnknownNoEffect :
    WithinCaps limits now (s.resolveUnknownNoEffect leaseId now).2 := by
  refine h.move fun lease updated _ hupd hact => ?_
  split at hupd
  · cases hupd
  · obtain rfl := Option.some.inj (Except.ok.inj hupd)
    simp [SpendLease.activeAt] at hact

/-- A released lease is closed. -/
theorem release {cancelled : Bool} :
    WithinCaps limits now (s.releaseLease leaseId cancelled now).2 := by
  refine h.move fun lease updated _ hupd hact => ?_
  split at hupd
  · cases hupd
  · split at hupd
    · cases hupd
    · obtain rfl := Option.some.inj (Except.ok.inj hupd)
      cases cancelled <;> simp [SpendLease.activeAt] at hact

/-- The sweep closes leases, one after the other. -/
theorem expireStale :
    WithinCaps limits now (s.expireStaleLeases now).2 := by
  rw [expireStaleLeases]
  generalize s.allLeases.filter _ = stale
  induction stale generalizing s with
  | nil => exact h
  | cons lease _ ih =>
    have hclosed : (expired now lease).activeAt now = false :=
      SpendLease.activeAt_of_closed (by simp [expired]) (by simp [expired]) now
    refine ih (h.of_le rfl (exposure_updateLease_le fun hact => ?_))
    cases hact

end

end WithinCaps

end Steps

/-- The caps are kept by time and by every call that is in time. -/
theorem withinCaps_invariant {limits : Table String (BudgetLimit sha) BudgetLimit.limitId}
    {cycleId : String}
    (hlims : ∀ limit ∈ limits.rows, limit.enabled = true ∧ limit.cycleId = cycleId) :
    ClockedInvariant (fun s c => BudgetCall.SettlesWithin s c ∧ BudgetCall.OnTime s c)
      BudgetCall.step BudgetCall.now (WithinCaps limits) where
  later := fun ht h => ⟨h.unchanged, fun limit hlim =>
    (BudgetStore.exposure_anti _ limit.scopeKey ht).trans (h.bounded limit hlim)⟩
  step := by
    intro s c hok h
    cases c with
    | reserve => exact h.reserve hlims
    | settle => exact h.settle hok.1 hok.2
    | release => exact h.release
    | markUnknownOutcome => exact h.markUnknownOutcome hok.2
    | resolveUnknownNoEffect => exact h.resolveUnknownNoEffect
    | expireStale => exact h.expireStale

/-- **Spending.** Enabled limits of one cycle, an empty ledger and no leases; any sequence
of calls whose clock does not go back, whose settlements book at most what their lease
reserves, and in which no reservation is settled or marked after it has lapsed. At any
time from the last call on, the net bookings and the active reservations on the scope of a
limit add up to at most its hard cap. -/
theorem spending_within_caps (s : BudgetStore sha) (cycleId : String)
    (calls : List (BudgetCall sha)) (t : Instant)
    (hlims : ∀ limit ∈ s.limits.rows, limit.enabled = true ∧ limit.cycleId = cycleId)
    (hled : s.ledger.rows = []) (hlss : s.leases.rows = [])
    (hclk : ClockOrdered BudgetCall.now calls) (ht : ∀ c ∈ calls, c.now ≤ t)
    (hsettles : Along BudgetCall.SettlesWithin BudgetCall.step s calls)
    (hontime : Along BudgetCall.OnTime BudgetCall.step s calls) :
    ∀ limit ∈ s.limits.rows,
      (runCalls BudgetCall.step s calls).exposure limit.scopeKey t ≤ limit.hardCapMicrounits := by
  have hsta : WithinCaps s.limits 0 s := by
    refine ⟨rfl, fun limit _ => ?_⟩
    rw [BudgetStore.exposure, BudgetStore.cashTotal_eq, BudgetStore.committed_eq, hled, hlss,
      totalWhere_nil, totalWhere_nil, Nat.zero_sub]
    exact Nat.zero_le _
  have hend : WithinCaps s.limits t (runCalls BudgetCall.step s calls) :=
    (withinCaps_invariant hlims).run hsta (Nat.zero_le t) (fun c _ => Nat.zero_le c.now)
      hclk ht (hsettles.and hontime)
  exact hend.bounded

/-! ### A late settlement -/

def projectLimit : BudgetLimit .polynomial :=
  { limitId := ((budgetIdentifier .polynomial .limit ["PROJECT:alpha", "2026-07"]).toOption).getD ""
    scopeType := .project
    scopeId := "alpha"
    cycleId := "2026-07"
    hardCapMicrounits := 100
    limitId_valid := by decide +kernel
    scopeId_valid := by decide
    cycleId_valid := by decide
    reserve_valid := by decide }

/-- A store with this limit, and nothing spent or reserved. -/
def freshBudget : BudgetStore .polynomial where
  limits := ⟨[projectLimit], by decide⟩
  quotaLimits := .empty
  ledger := .empty
  leases := .empty

theorem build_valid : HasLength 100 "build" := by decide

/-- A reservation of the whole cap, for one hour. -/
def reserveAll (idempotencyKey : String) (now : Instant) : BudgetCall .polynomial :=
  .reserve
    { request :=
        { projectId := "alpha"
          taskId := "PP-TASK-000001"
          taskClass := "build"
          scopeKeys := ["PROJECT:alpha"]
          estimatedP50Microunits := 100
          estimatedP90Microunits := 100
          projectId_valid := by decide
          taskId_valid := by decide
          taskClass_valid := build_valid
          scopeKeys_valid := by decide
          estimate_valid := le_rfl }
      decision :=
        { decisionId := "decision-1"
          taskId := "PP-TASK-000001"
          admitted := true
          pressureMode := .green
          authorizedMicrounits := 100
          generatedAtUtc := now }
      cycleId := "2026-07"
      idempotencyKey := idempotencyKey
      now := now }

def firstLeaseId : String :=
  ((budgetIdentifier .polynomial .lease ["run-1"]).toOption).getD ""

def fullSettlement : BudgetLedgerEntry .polynomial :=
  { entryId := ((budgetIdentifier .polynomial .entry ["settle-1"]).toOption).getD ""
    idempotencyKey := "settle-1"
    projectId := "alpha"
    taskId := some "PP-TASK-000001"
    cashMicrounits := 100
    scopeKeys := ["PROJECT:alpha"]
    observedAtUtc := 0
    entryId_valid := by decide +kernel
    idempotencyKey_valid := by decide
    projectId_valid := by decide
    scopeKeys_valid := by decide
    recorded := by decide }

def oneHour : Instant := 3600000000

/-- The cap is reserved, reserved again when the first lease has lapsed, and then the first
lease is settled. -/
def lateCalls : List (BudgetCall .polynomial) :=
  [reserveAll "run-1" 0, reserveAll "run-2" oneHour, .settle firstLeaseId fullSettlement oneHour]

theorem late_settlement_exceeds_cap :
    (∀ limit ∈ freshBudget.limits.rows, limit.enabled = true ∧ limit.cycleId = "2026-07") ∧
      freshBudget.ledger.rows = [] ∧ freshBudget.leases.rows = [] ∧
      ClockOrdered BudgetCall.now lateCalls ∧ (∀ c ∈ lateCalls, c.now ≤ oneHour) ∧
      Along BudgetCall.SettlesWithin BudgetCall.step freshBudget lateCalls ∧
      projectLimit ∈ freshBudget.limits.rows ∧ projectLimit.hardCapMicrounits = 100 ∧
      (runCalls BudgetCall.step freshBudget lateCalls).exposure projectLimit.scopeKey oneHour =
        200 := by
  refine ⟨by decide, rfl, rfl, by decide, by decide, ?_, List.mem_singleton_self _, rfl, ?_⟩
  · decide +kernel
  · decide +kernel

/-- The cap is reserved and settled in time, and reserved again in vain. -/
def timelyCalls : List (BudgetCall .polynomial) :=
  [reserveAll "run-1" 0, .settle firstLeaseId fullSettlement 1, reserveAll "run-2" oneHour]

theorem spending_within_caps_timely :
    (runCalls BudgetCall.step freshBudget timelyCalls).exposure projectLimit.scopeKey oneHour =
        100 ∧
      (runCalls BudgetCall.step freshBudget timelyCalls).exposure projectLimit.scopeKey oneHour ≤
        projectLimit.hardCapMicrounits := by
  refine ⟨by decide +kernel, ?_⟩
  exact spending_within_caps freshBudget "2026-07" timelyCalls oneHour (by decide) rfl rfl
    (by decide) (by decide) (by decide +kernel) (by decide +kernel) projectLimit
    (List.mem_singleton_self _)

end ProjectPipeline
