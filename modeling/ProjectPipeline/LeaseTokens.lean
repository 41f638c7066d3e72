import ProjectPipeline.Leasing

/-!
# Fencing Tokens

`acquire_bundle` draws a token for each claim that it leases, and a bundle that is refused or fails
gives its tokens back with the rest of its transaction. Renewals and releases leave the columns of
key and token alone. The clock plays no part: nothing here looks at a time.

## Main results

* `tokens_identify_leases`: the tokens of a key grow in the order in which leases are stored, and an
  acquisition without success changes nothing.
-/

namespace ProjectPipeline

open List

namespace SchedulerStore

variable {s s' : SchedulerStore} {sha : Sha256} {req : AcquireRequest}

/-- The key and the token of every stored lease, oldest first. -/
def issued (s : SchedulerStore) : List (String × ℤ) :=
  s.leases.rows.map fun row => (row.resourceKey, row.fencingToken)

/-- The tokens of a key grow, and the table of tokens is ahead of them. -/
structure Numbered (s : SchedulerStore) : Prop where
  growing : s.issued.Pairwise fun earlier later => earlier.1 = later.1 → earlier.2 < later.2
  ahead : ∀ entry ∈ s.issued, entry.2 < s.nextToken entry.1

/-- A new lease comes last, with the next token of its key. -/
theorem Numbered.created (h : s.Numbered) {claim : ResourceClaim} {lease : ResourceLease}
    (hcall : s.createLease sha req claim = .ok (lease, s')) :
    s'.Numbered ∧ s.issued <+: s'.issued := by
  have hnew := createLease_eq_ok hcall
  have hissued : s'.issued = s.issued ++ [(lease.claim.resourceKey, lease.fencingToken)] := by
    rw [issued, hnew.rows, map_append]
    rfl
  have hnext : ∀ key, s'.nextToken key =
      s.nextToken key + if lease.claim.resourceKey = key then 1 else 0 := by
    intro key
    rw [nextToken_congr hnew.fencingTokens, nextToken_storeToken]
  rw [(createLease_token hcall).1] at hissued
  refine ⟨⟨?_, ?_⟩, hissued ▸ prefix_append _ _⟩
  · rw [hissued, pairwise_append]
    refine ⟨h.growing, pairwise_singleton _ _, fun entry hent last hlast hkey => ?_⟩
    obtain rfl := mem_singleton.mp hlast
    have hbelow := h.ahead entry hent
    rwa [hkey] at hbelow
  · rw [hissued, forall_mem_append, forall_mem_singleton, hnext, if_pos rfl]
    refine ⟨fun entry hent => ?_, Int.lt_succ _⟩
    have hbelow := h.ahead entry hent
    rw [hnext]
    split <;> omega

/-- A lease that passes the check is of a task with an identifier. -/
theorem task_of_validate {lease : ResourceLease} (h : lease.validate = .ok lease) :
    fullmatch IdentifierKind.issue.pattern lease.taskId = true := by
  by_contra htask
  have hflds : lease.fieldErrors ≠ [] := by simp [ResourceLease.fieldErrors, htask]
  simp [ResourceLease.validate, ResourceLease.errors, hflds] at h

/-- An acquisition adds leases at the end. Without success it leaves the store as it was: leases that
are returned are valid, so the bundle that is built from them is accepted. -/
theorem Numbered.acquire (h : s.Numbered) (sha : Sha256) (req : AcquireRequest) :
    (s.acquireBundle sha req).2.Numbered ∧ s.issued <+: (s.acquireBundle sha req).2.issued ∧
      (isAcquired (s.acquireBundle sha req).1 = true ∨ (s.acquireBundle sha req).2 = s) := by
  rcases s.acquireBundle_cases sha req with hsame | ⟨active, created, s', hact, hloop, hs'⟩
  · rw [hsame]
    exact ⟨h, prefix_rfl, .inr rfl⟩
  let P (created : List ResourceLease) (w : SchedulerStore) : Prop :=
    w.Numbered ∧ s.issued <+: w.issued ∧
      (created = [] ∧ w = s ∨
        created ≠ [] ∧ fullmatch IdentifierKind.issue.pattern req.taskId = true)
  have hend : P created s' := by
    refine acquireClaims_inv (P := P) ?_ ?_ ⟨h, prefix_rfl, .inl ⟨rfl, rfl⟩⟩ hloop
    · rintro created w claim - lease hsame ⟨hw, hgrow, -⟩
      have hfd := find?_some hsame
      simp only [Bool.and_eq_true, beq_iff_eq] at hfd
      obtain ⟨hval, rfl⟩ := mapM_validate_eq_ok_iff.mp hact
      obtain ⟨row, hrow, rfl⟩ := mem_map.mp (mem_of_find?_eq_some hsame)
      refine ⟨hw, hgrow, .inr ⟨by simp, ?_⟩⟩
      rw [← hfd.1.1]
      exact task_of_validate (hval row hrow)
    · rintro created w claim - lease w' - hcall ⟨hw, hgrow, -⟩
      obtain ⟨hw', hgrow'⟩ := hw.created hcall
      refine ⟨hw', hgrow.trans hgrow', .inr ⟨by simp, ?_⟩⟩
      rw [← (createLease_eq_ok hcall).taskId]
      exact task_of_validate (createLease_token hcall).2
  obtain ⟨hnumbered, hgrow, ⟨-, rfl⟩ | ⟨hcreated, htask⟩⟩ := hend
  · rw [hs']
    exact ⟨hnumbered, hgrow, .inr rfl⟩
  · have hcls : req.claims ≠ [] := by
      intro hcls
      rw [hcls, acquireClaims] at hloop
      cases hloop
      exact hcreated rfl
    obtain ⟨hacq, -⟩ :=
      acquireBundle_of_acquireClaims hcls htask hact hloop hcreated
    rw [hs']
    exact ⟨hnumbered, hgrow, .inl hacq⟩

/-- Rows that are written in place keep their keys and tokens. -/
theorem Numbered.updateWhere (h : s.Numbered) {p : LeaseRow → Bool} {f : LeaseRow → LeaseRow}
    {hkey : ∀ row, (f row).leaseId = row.leaseId}
    (hf : ∀ row, ((f row).resourceKey, (f row).fencingToken) =
      (row.resourceKey, row.fencingToken)) :
    { s with leases := s.leases.updateWhere p f hkey }.Numbered ∧
      s.issued <+: { s with leases := s.leases.updateWhere p f hkey }.issued := by
  have hissued : { s with leases := s.leases.updateWhere p f hkey }.issued = s.issued := by
    rw [issued, Table.updateWhere, map_map]
    refine map_congr_left fun row _ => ?_
    rw [Function.comp_apply]
    split
    · exact hf row
    · rfl
  refine ⟨⟨?_, ?_⟩, ?_⟩
  · rw [hissued]
    exact h.growing
  · rw [hissued]
    exact h.ahead
  · rw [hissued]

/-- Every call keeps the numbering and adds leases at the end. -/
theorem Numbered.step (h : s.Numbered) (sha : Sha256) (call : LeaseCall) :
    (call.step sha s).Numbered ∧ s.issued <+: (call.step sha s).issued := by
  cases call with
  | acquire req => exact ⟨(h.acquire sha req).1, (h.acquire sha req).2.1⟩
  | renew req =>
    rw [LeaseCall.step]
    rcases s.renewLease_cases req with hsame | ⟨renewed, -, hwr⟩
    · rw [hsame]
      exact ⟨h, prefix_rfl⟩
    · rw [hwr]
      exact h.updateWhere fun _ => rfl
  | release req =>
    rw [LeaseCall.step]
    rcases s.releaseLease_cases req with hsame | ⟨released, -, hwr⟩
    · rw [hsame]
      exact ⟨h, prefix_rfl⟩
    · rw [hwr]
      exact h.updateWhere fun _ => rfl

end SchedulerStore

open SchedulerStore

/-- **Fencing tokens identify leases.** After any calls, at any times: a further call only adds leases
at the end, the tokens of a key grow from lease to lease, and an acquisition that does not acquire its
bundle leaves the store as it was. -/
theorem tokens_identify_leases (sha : Sha256)
    (pools : Table String ResourcePool ResourcePool.resourceKey)
    (tokens : Table String FencingToken FencingToken.resourceKey) (calls : List LeaseCall) :
    let s := runCalls (LeaseCall.step sha) ⟨pools, tokens, .empty⟩ calls
    (∀ call : LeaseCall, s.issued <+: (call.step sha s).issued) ∧
    s.issued.Pairwise (fun earlier later => earlier.1 = later.1 → earlier.2 < later.2) ∧
    s.issued.Nodup ∧
    ∀ req, isAcquired (s.acquireBundle sha req).1 = true ∨ (s.acquireBundle sha req).2 = s := by
  intro s
  have hsta : Numbered ⟨pools, tokens, .empty⟩ := ⟨.nil, by simp [issued]⟩
  have hany : Along (fun _ _ => True) (LeaseCall.step sha) ⟨pools, tokens, .empty⟩ calls :=
    .of_mem (fun _ _ => trivial) _
  have h : s.Numbered := hany.invariant (fun {_ c} hs _ => (hs.step sha c).1) hsta
  refine ⟨fun call => (h.step sha call).2, h.growing, h.growing.imp ?_,
    fun req => (h.acquire sha req).2.2⟩
  rintro earlier later hgrow rfl
  exact lt_irrefl _ (hgrow rfl)

end ProjectPipeline
