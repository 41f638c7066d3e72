import ProjectPipeline.BudgetAdmission

/-!
# Settlements and Their Charges

A settlement closes a lease against a ledger entry of the caller. The entry has to be of the
lease's project and task, and is booked in the same transaction, but an entry that is stored
already is accepted as it is: two leases of one task are settled with one booking
(`one_charge_for_two_leases`). Its direction and its scopes are not looked at either.

If every settlement comes with a new debit on the scopes of its lease, the settled leases and the
bookings that paid for them correspond one to one (`settlements_backed`): a booking is never
removed or rewritten, and a settled lease is never touched again.

The runs are made of all calls that write limits, the ledger or leases. The tables of forecasts,
anomalies, the history and the decisions are apart from these and left out.
-/

namespace ProjectPipeline

open Function

variable {sha : Sha256}

/-! ### The remaining calls -/

namespace BudgetStore

def recordLedger (s : BudgetStore sha) (entry : BudgetLedgerEntry sha) :
    Except PyError (BudgetLedgerEntry sha) × BudgetStore sha :=
  match s.insertLedger entry with
  | .error err => (.error err, s)
  | .ok s' => (.ok entry, s')

/-- `put_limit`. The limit of a scope and cycle has always the same id, so the row that conflicts
is the one of this id. -/
def putLimit (s : BudgetStore sha) (limit : BudgetLimit sha) :
    Except PyError Unit × BudgetStore sha :=
  match bindIntegers [limit.hardCapMicrounits, limit.protectedReserveMicrounits] with
  | .error err => (.error err, s)
  | .ok () =>
    if s.limits.rows.any fun row =>
        row.scopeKey == limit.scopeKey && row.cycleId == limit.cycleId then
      (.ok (), { s with limits := s.limits.replace limit })
    else
      match s.limits.insert limit with
      | none => (.error (.integrityError "UNIQUE constraint failed: budget_limits.limit_id"), s)
      | some limits => (.ok (), { s with limits := limits })

/-- `put_quota_limit`, likewise. -/
def putQuotaLimit (s : BudgetStore sha) (limit : QuotaLimit sha) :
    Except PyError Unit × BudgetStore sha :=
  match bindIntegers [limit.capacityUnits] with
  | .error err => (.error err, s)
  | .ok () =>
    if s.quotaLimits.rows.any fun row =>
        row.scopeKey == limit.scopeKey && row.providerId == limit.providerId &&
          row.quotaName == limit.quotaName then
      (.ok (), { s with quotaLimits := s.quotaLimits.replace limit })
    else
      match s.quotaLimits.insert limit with
      | none =>
        (.error (.integrityError "UNIQUE constraint failed: budget_quota_limits.quota_id"), s)
      | some quotaLimits => (.ok (), { s with quotaLimits := quotaLimits })

end BudgetStore

/-- The calls that write limits, the ledger or leases. -/
inductive BudgetOperation (sha : Sha256) where
  | onLease (call : BudgetCall sha)
  | recordLedger (entry : BudgetLedgerEntry sha)
  | putLimit (limit : BudgetLimit sha)
  | putQuotaLimit (limit : QuotaLimit sha)

namespace BudgetOperation

def step (s : BudgetStore sha) : BudgetOperation sha → BudgetStore sha
  | onLease call => call.step s
  | recordLedger entry => (s.recordLedger entry).2
  | putLimit limit => (s.putLimit limit).2
  | putQuotaLimit limit => (s.putQuotaLimit limit).2

/-- A settlement comes with a new debit on the scopes of its lease. -/
def SettlesAnew (s : BudgetStore sha) : BudgetOperation sha → Prop
  | onLease (.settle leaseId entry _) =>
    s.ledger.find? entry.entryId = none ∧ entry.direction = .debit ∧
      ∀ lease ∈ s.leases.find? leaseId, ∀ scopeKey ∈ lease.scopeKeys, scopeKey ∈ entry.scopeKeys
  | _ => True

end BudgetOperation

/-! ### Charges -/

/-- The settled leases have charges of their own: debits on their scopes of at least what they
have consumed. -/
def BudgetStore.SettlementsBacked (s : BudgetStore sha) : Prop :=
  ∃ charge : { lease // lease ∈ s.leases.rows ∧ lease.state = .settled } → BudgetLedgerEntry sha,
    Function.Injective charge ∧ ∀ lease, charge lease ∈ s.ledger.rows ∧
      (charge lease).direction = .debit ∧
      (∀ scopeKey ∈ lease.val.scopeKeys, scopeKey ∈ (charge lease).scopeKeys) ∧
      lease.val.consumedMicrounits ≤ (charge lease).cashMicrounits

/-- The entry `entryId` is a debit that pays for a lease. -/
def BudgetStore.Pays (s : BudgetStore sha) (lease : SpendLease sha) (entryId : String) : Prop :=
  ∃ entry, s.ledger.find? entryId = some entry ∧ entry.direction = .debit ∧
    (∀ scopeKey ∈ lease.scopeKeys, scopeKey ∈ entry.scopeKeys) ∧
    lease.consumedMicrounits ≤ entry.cashMicrounits

/-- The invariant: `charge` names the entry that pays for a settled lease, by their ids. -/
structure Charged (charge : String → String) (s : BudgetStore sha) : Prop where
  pays : ∀ lease ∈ s.leases.rows, lease.state = .settled → s.Pays lease (charge lease.leaseId)
  apart : ∀ lease ∈ s.leases.rows, ∀ other ∈ s.leases.rows, lease.state = .settled →
    other.state = .settled → charge lease.leaseId = charge other.leaseId →
    lease.leaseId = other.leaseId

/-- Bookings stay. -/
def BudgetStore.KeepsLedger (s s' : BudgetStore sha) : Prop :=
  ∀ entryId entry, s.ledger.find? entryId = some entry → s'.ledger.find? entryId = some entry

variable {s s' : BudgetStore sha} {charge : String → String}

theorem BudgetStore.KeepsLedger.pays (h : s.KeepsLedger s') {lease : SpendLease sha}
    {entryId : String} (hpays : s.Pays lease entryId) : s'.Pays lease entryId := by
  obtain ⟨entry, hfind, hrest⟩ := hpays
  exact ⟨entry, h entryId entry hfind, hrest⟩

/-- What settles no lease and keeps the ledger keeps the charges. -/
theorem Charged.frame (h : Charged charge s) (hled : s.KeepsLedger s')
    (hlss : ∀ lease ∈ s'.leases.rows, lease.state = .settled → lease ∈ s.leases.rows) :
    Charged charge s' where
  pays := fun lease hls hsettled =>
    hled.pays (h.pays lease (hlss lease hls hsettled) hsettled)
  apart := fun lease hls other hoth hsettled hsettled' =>
    h.apart lease (hlss lease hls hsettled) other (hlss other hoth hsettled') hsettled hsettled'

theorem Charged.of_eq (h : Charged charge s) (hlss : s'.leases = s.leases)
    (hled : s'.ledger = s.ledger) : Charged charge s' := by
  refine h.frame (fun entryId entry hfind => ?_) fun lease hls _ => ?_
  · rw [hled]
    exact hfind
  · rwa [hlss] at hls

/-- The correspondence of ids is one of leases and entries. -/
theorem Charged.backed (h : Charged charge s) : s.SettlementsBacked := by
  choose entry hfind hdebit hscopes hcash using fun
    lease : { lease // lease ∈ s.leases.rows ∧ lease.state = .settled } =>
      h.pays lease.val lease.property.1 lease.property.2
  have hkey : ∀ lease, entry lease ∈ s.ledger.rows ∧
      (entry lease).entryId = charge lease.val.leaseId := fun lease =>
    Table.find?_eq_some_iff.mp (hfind lease)
  refine ⟨entry, fun lease other hsame => ?_, fun lease =>
    ⟨(hkey lease).1, hdebit lease, hscopes lease, hcash lease⟩⟩
  have hchg : charge lease.val.leaseId = charge other.val.leaseId := by
    rw [← (hkey lease).2, ← (hkey other).2, hsame]
  exact Subtype.ext (s.leases.eq_of_key_eq lease.property.1 other.property.1
    (h.apart _ lease.property.1 _ other.property.1 lease.property.2 other.property.2 hchg))

/-! ### Steps -/

namespace BudgetStore

variable {entry : BudgetLedgerEntry sha}

/-- A booking keeps the others, and is stored afterwards. -/
theorem insertLedger_find? (h : s.insertLedger entry = .ok s') :
    s.KeepsLedger s' ∧ s'.ledger.find? entry.entryId = some entry := by
  rw [insertLedger] at h
  cases hfind : s.ledger.find? entry.entryId with
  | some =>
    simp only [hfind] at h
    split at h
    · cases h
    · rename_i hsame
      cases h
      rw [not_not.mp hsame] at hfind
      exact ⟨fun _ _ => id, hfind⟩
  | none =>
    simp only [hfind] at h
    obtain ⟨-, -, h⟩ := bind_eq_ok.mp h
    split at h
    · cases h
    · rename_i ledger hins
      cases h
      refine ⟨fun _ _ => Table.find?_insert_of_some hins, ?_⟩
      exact (Table.find?_insert hins _).trans (if_pos rfl)

/-- Rewriting a lease as one that is not settled. -/
theorem charged_updateLease {updated : SpendLease sha} (h : Charged charge s)
    (hst : updated.state ≠ .settled) : Charged charge (s.updateLease updated) := by
  refine h.frame (fun _ _ => id) fun lease hls hsettled => ?_
  rcases Table.mem_replace.mp hls with ⟨rfl, -⟩ | ⟨hls, -⟩
  · exact absurd hsettled hst
  · exact hls

/-- A move to a state that is not settled. -/
theorem charged_moveLease {leaseId : String}
    {move : SpendLease sha → Except PyError (Option (SpendLease sha))}
    (hmove : ∀ lease updated, move lease = .ok (some updated) → updated.state ≠ .settled)
    (h : Charged charge s) : Charged charge (s.moveLease leaseId move).2 := by
  rcases s.moveLease_cases leaseId move with hsame | ⟨lease, updated, -, hupd, hs'⟩
  · rw [hsame]
    exact h
  · rw [hs']
    exact charged_updateLease h (hmove lease updated hupd)

/-- A settlement with a new debit on the scopes of the lease: this is the charge of the lease. -/
theorem charged_settled {lease : SpendLease sha} {now : Instant} (h : Charged charge s)
    (hnew : s.ledger.find? entry.entryId = none) (hdebit : entry.direction = .debit)
    (hscopes : ∀ scopeKey ∈ lease.scopeKeys, scopeKey ∈ entry.scopeKeys)
    (hled : s.insertLedger entry = .ok s') :
    Charged (update charge lease.leaseId entry.entryId)
      (s'.updateLease (settled entry now lease)) := by
  obtain ⟨hkp, hstd⟩ := insertLedger_find? hled
  have hlss := (insertLedger_eq_ok hled).2.1
  -- The rows afterwards: the lease with its new charge, and others with their old ones.
  have hrows : ∀ row ∈ (s'.updateLease (settled entry now lease)).leases.rows,
      row = settled entry now lease ∨ (row ∈ s.leases.rows ∧ row.leaseId ≠ lease.leaseId) := by
    intro row hrow
    rw [updateLease, hlss] at hrow
    exact (Table.mem_replace.mp hrow).imp (fun hnewRow => hnewRow.1) id
  have hself : update charge lease.leaseId entry.entryId
      (settled entry now lease).leaseId = entry.entryId := update_self ..
  -- An old charge is stored already, the new one is not.
  have hoth : ∀ row ∈ s.leases.rows, row.state = .settled → charge row.leaseId ≠ entry.entryId := by
    intro row hrow hsettled hsame
    obtain ⟨old, hold, -⟩ := h.pays row hrow hsettled
    rw [hsame, hnew] at hold
    cases hold
  constructor
  · intro row hrow hsettled
    rcases hrows row hrow with rfl | ⟨hrow, hne⟩
    · rw [hself]
      exact ⟨entry, hstd, hdebit, hscopes, le_rfl⟩
    · rw [update_of_ne hne]
      exact hkp.pays (h.pays row hrow hsettled)
  · intro row hrow other hoth' hsettled hsettled' hsame
    rcases hrows row hrow with rfl | ⟨hrow, hne⟩ <;>
      rcases hrows other hoth' with rfl | ⟨hoth', hne'⟩
    · rfl
    · rw [hself, update_of_ne hne'] at hsame
      exact absurd hsame.symm (hoth other hoth' hsettled')
    · rw [hself, update_of_ne hne] at hsame
      exact absurd hsame (hoth row hrow hsettled)
    · rw [update_of_ne hne, update_of_ne hne'] at hsame
      exact h.apart row hrow other hoth' hsettled hsettled' hsame

/-- A reservation settles nothing. -/
theorem charged_reserve (call : ReserveCall) (h : Charged charge s) :
    Charged charge (s.reserve call).2 := by
  rcases s.reserve_cases call with hsame | ⟨lease, -, hcand, -, hins⟩
  · rw [hsame]
    exact h
  · obtain ⟨-, hled, hrows⟩ := insertLease_eq_ok hins
    refine h.frame (fun _ _ => by rw [hled]; exact id) fun row hrow hsettled => ?_
    rw [hrows] at hrow
    rcases List.mem_append.mp hrow with hrow | hrow
    · exact hrow
    · obtain rfl := List.mem_singleton.mp hrow
      obtain ⟨_, _, _, _, _, _, rfl⟩ := candidate_eq_newLease hcand
      cases hsettled

/-- The sweep settles nothing. -/
theorem charged_expireStaleLeases (now : Instant) (h : Charged charge s) :
    Charged charge (s.expireStaleLeases now).2 := by
  rw [expireStaleLeases]
  generalize s.allLeases.filter _ = stale
  induction stale generalizing s with
  | nil => exact h
  | cons _ _ ih => exact ih (charged_updateLease h (by simp [expired]))

/-- A limit touches neither leases nor bookings. -/
theorem putLimit_frame (s : BudgetStore sha) (limit : BudgetLimit sha) :
    (s.putLimit limit).2.leases = s.leases ∧ (s.putLimit limit).2.ledger = s.ledger := by
  rw [putLimit]
  split
  · exact ⟨rfl, rfl⟩
  · split
    · exact ⟨rfl, rfl⟩
    · split <;> exact ⟨rfl, rfl⟩

/-- Neither does a quota. -/
theorem putQuotaLimit_frame (s : BudgetStore sha) (limit : QuotaLimit sha) :
    (s.putQuotaLimit limit).2.leases = s.leases ∧ (s.putQuotaLimit limit).2.ledger = s.ledger := by
  rw [putQuotaLimit]
  split
  · exact ⟨rfl, rfl⟩
  · split
    · exact ⟨rfl, rfl⟩
    · split <;> exact ⟨rfl, rfl⟩

end BudgetStore

/-! ### Runs -/

open BudgetStore in
/-- The calls on leases keep the charges, or add one. -/
theorem BudgetCall.charged_step {call : BudgetCall sha}
    (hok : BudgetOperation.SettlesAnew s (.onLease call)) (h : Charged charge s)
    : ∃ charge', Charged charge' (call.step s) := by
  cases call with
  | reserve call => exact ⟨charge, charged_reserve call h⟩
  | settle leaseId entry now =>
    obtain ⟨hnew, hdebit, hscopes⟩ := hok
    rcases s.settleLease_cases leaseId entry now with
      hsame | ⟨lease, s', hfind, -, hledger, hs'⟩
    · exact ⟨charge, by rw [step, hsame]; exact h⟩
    · rw [step, hs']
      exact ⟨_, charged_settled h hnew hdebit (hscopes lease hfind) hledger⟩
  | release _ cancelled =>
    refine ⟨charge, charged_moveLease (fun lease updated hupdated => ?_) h⟩
    split at hupdated
    · cases hupdated
    · split at hupdated
      · cases hupdated
      · obtain rfl := Option.some.inj (Except.ok.inj hupdated)
        cases cancelled <;> simp
  | markUnknownOutcome | resolveUnknownNoEffect =>
    refine ⟨charge, charged_moveLease (fun lease updated hupdated => ?_) h⟩
    split at hupdated
    · cases hupdated
    · obtain rfl := Option.some.inj (Except.ok.inj hupdated)
      simp
  | expireStale now => exact ⟨charge, charged_expireStaleLeases now h⟩

/-- Every call keeps the charges, or adds one. -/
theorem BudgetOperation.charged_step {op : BudgetOperation sha} (hok : op.SettlesAnew s)
    (h : ∃ charge, Charged charge s) : ∃ charge, Charged charge (op.step s) := by
  obtain ⟨charge, h⟩ := h
  cases op with
  | onLease => exact BudgetCall.charged_step hok h
  | recordLedger =>
    refine ⟨charge, ?_⟩
    rw [step, BudgetStore.recordLedger]
    split
    · exact h
    · rename_i s' hled
      refine h.frame (BudgetStore.insertLedger_find? hled).1 fun lease hls _ => ?_
      rwa [(BudgetStore.insertLedger_eq_ok hled).2.1] at hls
  | putLimit limit =>
    obtain ⟨hlss, hled⟩ := s.putLimit_frame limit
    exact ⟨charge, h.of_eq hlss hled⟩
  | putQuotaLimit limit =>
    obtain ⟨hlss, hled⟩ := s.putQuotaLimit_frame limit
    exact ⟨charge, h.of_eq hlss hled⟩

/-- **Settlements.** Any sequence of calls from a store without leases, whose settlements come
with a new debit on the scopes of their lease. In the state reached, the settled leases correspond
one to one to ledger entries, each a debit on the scopes of its lease and of at least what the
lease has consumed. -/
theorem settlements_backed (s : BudgetStore sha) (operations : List (BudgetOperation sha))
    (hlss : s.leases.rows = [])
    (hanew : Along BudgetOperation.SettlesAnew BudgetOperation.step s operations) :
    (runCalls BudgetOperation.step s operations).SettlementsBacked := by
  have hsta : ∃ charge, Charged charge s := by
    refine ⟨id, ⟨fun lease hls => ?_, fun lease hls => ?_⟩⟩ <;>
      · rw [hlss] at hls
        exact absurd hls List.not_mem_nil
  have hend : ∃ charge, Charged charge (runCalls BudgetOperation.step s operations) :=
    hanew.invariant (fun {s _} (h : ∃ charge, Charged charge s) hok =>
      BudgetOperation.charged_step hok h) hsta
  obtain ⟨charge, hcharged⟩ := hend
  exact hcharged.backed

/-! ### One charge for two leases -/

/-- Fewer bookings than settled leases cannot back them. -/
theorem not_settlementsBacked_of_single {entry : BudgetLedgerEntry sha}
    {lease other : SpendLease sha} (hled : s.ledger.rows = [entry])
    (hls : lease ∈ s.leases.rows ∧ lease.state = .settled)
    (hoth : other ∈ s.leases.rows ∧ other.state = .settled) (hne : lease ≠ other) :
    ¬ s.SettlementsBacked := by
  rintro ⟨charge, hinjective, hchg⟩
  have honly : ∀ row, charge row = entry := by
    intro row
    have hmem := (hchg row).1
    rw [hled] at hmem
    exact List.mem_singleton.mp hmem
  have hsame := hinjective ((honly ⟨lease, hls⟩).trans (honly ⟨other, hoth⟩).symm)
  exact hne (congrArg Subtype.val hsame)

def smallReservation (idempotencyKey : String) : BudgetOperation byteAdmission.sha :=
  .onLease (.reserve
    { request := alphaRequest true 20
      decision :=
        { decisionId := "decision-1"
          taskId := "PP-TASK-000002"
          admitted := true
          pressureMode := .green
          authorizedMicrounits := 20
          generatedAtUtc := 0 }
      cycleId := "2026-07"
      idempotencyKey := idempotencyKey
      now := 0 })

def smallCharge : BudgetLedgerEntry byteAdmission.sha :=
  { emergencySpending with
    taskId := some "PP-TASK-000002"
    cashMicrounits := 20
    recorded := by decide }

/-- The settlement of the lease of a key with this booking. -/
def smallSettlement (idempotencyKey : String) : BudgetOperation byteAdmission.sha :=
  .onLease (.settle
    (((budgetIdentifier .bytePolynomial .lease [idempotencyKey]).toOption).getD "") smallCharge 1)

/-- Two leases of a task, both settled with one booking. -/
def doubleSettlement : BudgetStore byteAdmission.sha :=
  runCalls BudgetOperation.step guardedBudget
    [smallReservation "run-1", smallReservation "run-2", smallSettlement "run-1",
      smallSettlement "run-2"]

theorem one_charge_for_two_leases :
    guardedBudget.leases.rows = [] ∧ doubleSettlement.ledger.rows = [smallCharge] ∧
      (∀ lease ∈ doubleSettlement.leases.rows,
        lease.state = .settled ∧ lease.consumedMicrounits = 20) ∧
      ¬ doubleSettlement.SettlementsBacked := by
  have hfa : doubleSettlement.ledger.rows = [smallCharge] ∧
      (∀ lease ∈ doubleSettlement.leases.rows,
        lease.state = .settled ∧ lease.consumedMicrounits = 20) ∧
      doubleSettlement.leases.rows.length = 2 := by decide +kernel
  generalize doubleSettlement = s at hfa ⊢
  obtain ⟨hled, hsettled, htwo⟩ := hfa
  obtain ⟨lease, other, hrows⟩ := List.length_eq_two.mp htwo
  have hne : lease ≠ other := by
    have hnd := List.Nodup.of_map SpendLease.leaseId s.leases.nodup
    rw [hrows] at hnd
    simpa using hnd
  have hls : lease ∈ s.leases.rows := by simp [hrows]
  have hoth : other ∈ s.leases.rows := by simp [hrows]
  exact ⟨rfl, hled, hsettled, not_settlementsBacked_of_single hled
    ⟨hls, (hsettled lease hls).1⟩ ⟨hoth, (hsettled other hoth).1⟩ hne⟩

theorem settlements_backed_single :
    (runCalls BudgetOperation.step guardedBudget
        [smallReservation "run-1", smallSettlement "run-1"]).leases.rows.map
        SpendLease.state = [.settled] ∧
      (runCalls BudgetOperation.step guardedBudget
        [smallReservation "run-1", smallSettlement "run-1"]).SettlementsBacked := by
  refine ⟨by decide +kernel, settlements_backed guardedBudget _ rfl ⟨trivial, ⟨?_, rfl, ?_⟩,
    trivial⟩⟩
  · decide +kernel
  · decide +kernel

end ProjectPipeline
