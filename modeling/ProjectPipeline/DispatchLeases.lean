import ProjectPipeline.Dispatch
import ProjectPipeline.LeaseInvariants

/-!
# The Leases of Jobs in Flight

A dispatch that does not know what became of its job keeps the leases it has taken. A second
dispatch of the same task by the same holder is given the same leases again, as long as they
have not expired; it then finds that the stored intent differs from its own, is `REJECTED`, and
releases the leases in its `finally` block, while the first job may still be running.

A `DispatchRun` is the state between two calls. It records under which leases each job was last
launched. Leases are released by their identifiers, and a bundle consists of active leases of
the same task and holder and of new ones with identifiers of their own.

## Main results

* `dispatches_isolated`: a dispatch changes no leases of other tasks.
* `in_flight_leases_kept`: if the task of a job in flight is dispatched only when its holder has
  no active lease for it, a job in flight keeps the leases that it was launched under.
* `retry_releases_leases`: a second dispatch releases the leases of a job in flight.
-/

namespace ProjectPipeline

open List

/-! ### The leases of a bundle -/

variable {ids : List String} {lease : ResourceLease} {req : AcquireRequest} {s s' : SchedulerStore}

namespace SchedulerStore

/-- A lease of a bundle for a request: an active one of the same task and holder, or one that
was stored under a new identifier. -/
def Serves (s : SchedulerStore) (req : AcquireRequest) (s' : SchedulerStore)
    (lease : ResourceLease) : Prop :=
  lease.taskId = req.taskId ∧
    ((lease.holderId = req.holderId ∧
        ∃ row ∈ s.leases.rows, row.activeAt req.now = true ∧ row.payload = lease) ∨
      s.leases.find? lease.leaseId = none ∧ LeaseRow.ofLease lease ∈ s'.leases.rows)

theorem Serves.created {w w' : SchedulerStore} {claim : ResourceClaim} {new : ResourceLease}
    (h : s.Serves req w lease) (hnew : Created w req claim new w') : s.Serves req w' lease := by
  refine ⟨h.1, h.2.imp id fun hstd => ⟨hstd.1, ?_⟩⟩
  rw [hnew.rows]
  exact mem_append_left _ hstd.2

/-- The loop over the claims serves each of them. -/
theorem mem_acquireClaims {sha : Sha256} {active created : List ResourceLease}
    (hact : s.listActiveLeases req.now = .ok active)
    (h : acquireClaims sha req active req.claims [] s = .ok (.ok (created, s'))) :
    ∀ lease ∈ created, s.Serves req s' lease := by
  -- The store grows, so an identifier that is new to the working store is new to `s`.
  let P (created : List ResourceLease) (w : SchedulerStore) : Prop :=
    (∀ row ∈ s.leases.rows, row ∈ w.leases.rows) ∧ ∀ lease ∈ created, s.Serves req w lease
  have hend : P created s' := by
    refine acquireClaims_inv (P := P) ?_ ?_ ⟨fun _ hrow => hrow, by simp⟩ h
    · rintro created w claim - lease hsame ⟨hgrow, hserves⟩
      refine ⟨hgrow, fun other hoth => ?_⟩
      rcases mem_append.mp hoth with hold | hnew
      · exact hserves other hold
      · obtain rfl := mem_singleton.mp hnew
        have hfd := find?_some hsame
        simp only [Bool.and_eq_true, beq_iff_eq] at hfd
        have hrow := (mem_listActiveLeases hact).mp (mem_of_find?_eq_some hsame)
        exact ⟨hfd.1.1, .inl ⟨hfd.1.2, hrow⟩⟩
    · rintro created w claim - lease w' - hcall ⟨hgrow, hserves⟩
      have hnew := createLease_eq_ok hcall
      refine ⟨fun row hrow => ?_, fun other hoth => ?_⟩
      · rw [hnew.rows]
        exact mem_append_left _ (hgrow row hrow)
      · rcases mem_append.mp hoth with hold | hlast
        · exact (hserves other hold).created hnew
        · obtain rfl := mem_singleton.mp hlast
          refine ⟨hnew.taskId, .inr ⟨?_, ?_⟩⟩
          · rw [Table.find?_eq_none_iff]
            exact fun row hrow => Table.find?_eq_none_iff.mp hnew.fresh row (hgrow row hrow)
          · rw [hnew.rows]
            exact mem_append_right _ (mem_singleton.mpr rfl)
  exact hend.2

theorem validate_bundle_eq_ok {bundle bundle' : LeaseBundle} (h : bundle.validate = .ok bundle') :
    bundle' = bundle := by
  rw [LeaseBundle.validate] at h
  split at h
  · cases h
  split at h
  · cases h
  split at h
  · cases h
  · exact (Except.ok.inj h).symm

/-- The leases of a bundle serve the request. -/
theorem mem_acquireBundle {sha : Sha256} {bundle : LeaseBundle}
    (h : s.acquireBundle sha req = (.ok bundle, s')) (hls : lease ∈ bundle.leases) :
    s.Serves req s' lease := by
  rw [acquireBundle] at h
  split at h
  · obtain ⟨hbdl, rfl⟩ := Prod.mk.inj h
    rw [validate_bundle_eq_ok hbdl] at hls
    cases hls
  split at h
  · cases h
  rename_i active hact
  split at h
  · cases h
  · obtain ⟨hbdl, rfl⟩ := Prod.mk.inj h
    rw [validate_bundle_eq_ok hbdl] at hls
    cases hls
  · rename_i created s₁ hloop
    obtain ⟨hbdl, rfl⟩ := Prod.mk.inj h
    rw [validate_bundle_eq_ok hbdl] at hls
    exact mem_acquireClaims hact hloop lease hls

/-! ### Releases -/

/-- A change of the leases that leaves the rows of other identifiers alone, and keeps the
identifiers and the tasks. -/
structure Frees (ids : List String) (s s' : SchedulerStore) : Prop where
  mirrored : s.Mirrored → s'.Mirrored
  row : ∀ row ∈ s.leases.rows, ∃ row' ∈ s'.leases.rows, row'.leaseId = row.leaseId ∧
    row'.taskId = row.taskId ∧ (row.leaseId ∉ ids → row' = row)

theorem Frees.refl (ids : List String) (s : SchedulerStore) : Frees ids s s :=
  ⟨id, fun row hrow => ⟨row, hrow, rfl, rfl, fun _ => rfl⟩⟩

theorem Frees.trans {s'' : SchedulerStore} (h : Frees ids s s') (h' : Frees ids s' s'') :
    Frees ids s s'' := by
  refine ⟨fun hmirror => h'.mirrored (h.mirrored hmirror), fun row hrow => ?_⟩
  obtain ⟨row', hrow', hid, htask, hsame⟩ := h.row row hrow
  obtain ⟨row'', hrow'', hid', htask', hsame'⟩ := h'.row row' hrow'
  refine ⟨row'', hrow'', hid'.trans hid, htask'.trans htask, fun hoth => ?_⟩
  rw [hsame' (hid ▸ hoth), hsame hoth]

theorem releaseLease_frees (s : SchedulerStore) (req : ReleaseRequest) (h : req.leaseId ∈ ids) :
    Frees ids s (s.releaseLease req).2 := by
  refine ⟨fun hmirror => (releaseLease_rewrites hmirror req).mirrored, fun row hrow => ?_⟩
  rcases releaseLease_cases s req with hsame | ⟨released, -, hwr⟩
  · rw [hsame]
    exact ⟨row, hrow, rfl, rfl, fun _ => rfl⟩
  · rw [hwr]
    refine ⟨_, mem_map_of_mem hrow, ?_⟩
    by_cases hid : row.leaseId = req.leaseId
    · simp [hid, h]
    · simp [hid]

end SchedulerStore

open SchedulerStore

theorem releaseLeases_frees (holderId : String) (now : Instant) {leases : List ResourceLease}
    (s : SchedulerStore) (h : ∀ lease ∈ leases, lease.leaseId ∈ ids) :
    Frees ids s (releaseLeases holderId now leases s).2 := by
  induction leases generalizing s with
  | nil => exact .refl ids s
  | cons lease _ ih =>
    have hfst := releaseLease_frees s ⟨lease.leaseId, holderId, lease.fencingToken, now⟩
      (h lease mem_cons_self)
    rw [releaseLeases]
    split
    · rename_i s' heq
      rw [heq] at hfst
      exact hfst
    · rename_i s' heq
      rw [heq] at hfst
      exact hfst.trans (ih s' fun other hoth => h other (mem_cons_of_mem _ hoth))

/-! ### What a dispatch does to the leases -/

section Dispatch

variable (w : Workflow) (call : DispatchCall)

/-- With a bundle, a dispatch releases its leases or keeps them, and launches the job under
them or does not. -/
theorem dispatchAcquired_cases (chosen : MachineProfile) (bundle : LeaseBundle) (s : SchedulerStore)
    (jobs : FleetConnection) :
    let done := dispatchAcquired w call chosen bundle s jobs
    (∀ lease ∈ done.launched, lease ∈ bundle.leases) ∧
      (done.scheduler = s ∨
        done.scheduler = (releaseLeases call.holderId call.now bundle.leases s).2) := by
  rw [dispatchAcquired]
  cases hlss : bundle.leases with
  | nil => exact ⟨by simp, .inl rfl⟩
  | cons lease leases =>
    dsimp only
    have hlaunched : ∀ claimed : Bool, ∀ other ∈ (if claimed then lease :: leases else []),
        other ∈ lease :: leases := by
      intro claimed other hoth
      cases claimed with
      | false => cases hoth
      | true => exact hoth
    split
    split
    · exact ⟨hlaunched _, .inl rfl⟩
    split
    · exact ⟨hlaunched _, .inl rfl⟩
    split
    · rename_i heq
      exact ⟨hlaunched _, .inr (congrArg Prod.snd heq).symm⟩
    · rename_i heq
      exact ⟨hlaunched _, .inr (congrArg Prod.snd heq).symm⟩

/-- A dispatch acquires leases for its task and its holder at its time, or leaves the leases
alone. -/
theorem dispatch_cases (s : SchedulerStore) (jobs : FleetConnection) :
    let done := dispatch w call s jobs
    (done.launched = [] ∧ done.scheduler.leases = s.leases) ∨
    ∃ (s₁ : SchedulerStore) (req : AcquireRequest), s₁.leases = s.leases ∧
      req.taskId = call.taskId ∧ req.holderId = call.holderId ∧
      req.now = call.now ∧
      ((done.launched = [] ∧ done.scheduler = (s₁.acquireBundle w.sha req).2) ∨
        ∃ (bundle : LeaseBundle) (s₂ : SchedulerStore), s₁.acquireBundle w.sha req = (.ok bundle, s₂) ∧
          (∀ lease ∈ done.launched, lease ∈ bundle.leases) ∧
          (done.scheduler = s₂ ∨
            done.scheduler = (releaseLeases call.holderId call.now bundle.leases s₂).2)) := by
  rw [dispatch]
  split
  · exact .inl ⟨rfl, rfl⟩
  split
  · exact .inl ⟨rfl, rfl⟩
  rename_i chosen denials _
  rw [dispatchTo]
  split
  · exact .inl ⟨rfl, rfl⟩
  have hlss := s.registerPools_leases chosen.physicalPools
  dsimp only
  split
  · exact .inl ⟨rfl, hlss⟩
  rename_i claims _
  refine .inr ⟨_, ⟨call.taskId, call.holderId, claims, 900, call.now⟩, hlss, rfl, rfl, rfl, ?_⟩
  split
  · rename_i heq
    exact .inl ⟨rfl, (congrArg Prod.snd heq).symm⟩
  · rename_i bundle s₂ heq
    split
    · exact .inr ⟨bundle, s₂, heq, dispatchAcquired_cases w call chosen bundle s₂ jobs⟩
    · exact .inl ⟨rfl, (congrArg Prod.snd heq).symm⟩

end Dispatch

/-- What a dispatch leaves behind: rows of leases keep their identifiers and tasks and are not
changed, unless the call had them in its bundle; and the job was launched under leases of its
task. -/
structure DispatchEnd.Spec (call : DispatchCall) (s : SchedulerStore) (done : DispatchEnd) :
    Prop where
  mirrored : done.scheduler.Mirrored
  row : ∀ row ∈ s.leases.rows, ∃ row' ∈ done.scheduler.leases.rows,
    row'.leaseId = row.leaseId ∧ row'.taskId = row.taskId ∧
      (row' = row ∨ row.taskId = call.taskId ∧ row.holderId = call.holderId ∧
        row.activeAt call.now = true)
  launched : ∀ lease ∈ done.launched, ∃ row' ∈ done.scheduler.leases.rows,
    row'.leaseId = lease.leaseId ∧ row'.taskId = call.taskId

/-- A row whose lease is in a bundle was active, for the task and the holder of the request. -/
theorem SchedulerStore.Serves.of_row (h : s.Serves req s' lease) (hmirror : s.Mirrored)
    {row : LeaseRow} (hrow : row ∈ s.leases.rows) (hid : row.leaseId = lease.leaseId) :
    row.taskId = req.taskId ∧ row.holderId = req.holderId ∧ row.activeAt req.now = true := by
  rcases h with ⟨htask, ⟨hhdr, stored, hstd, hact, hpay⟩ | ⟨hfr, -⟩⟩
  · have hmir := hmirror stored hstd
    have hsame : stored.leaseId = row.leaseId := by
      rw [hmir, hpay, hid]
      rfl
    obtain rfl := s.leases.eq_of_key_eq hstd hrow hsame
    rw [hpay] at hmir
    refine ⟨?_, ?_, hact⟩
    · rw [hmir]
      exact htask
    · rw [hmir]
      exact hhdr
  · exact absurd hid (Table.find?_eq_none_iff.mp hfr row hrow)

/-- A lease of a bundle has a row of its task. -/
theorem SchedulerStore.Serves.exists_row (h : s.Serves req s' lease) (hmirror : s.Mirrored)
    (hgrow : ∀ row ∈ s.leases.rows, row ∈ s'.leases.rows) :
    ∃ row ∈ s'.leases.rows, row.leaseId = lease.leaseId ∧ row.taskId = req.taskId := by
  rcases h with ⟨htask, ⟨-, stored, hstd, -, hpay⟩ | ⟨-, hnew⟩⟩
  · refine ⟨stored, hgrow stored hstd, ?_, ?_⟩
    · rw [hmirror stored hstd, hpay]
      rfl
    · rw [hmirror stored hstd, hpay]
      exact htask
  · exact ⟨_, hnew, rfl, htask⟩

theorem dispatch_spec (w : Workflow) (call : DispatchCall) (hmirror : s.Mirrored)
    (jobs : FleetConnection) : (dispatch w call s jobs).Spec call s := by
  have hnone : ∀ {done : DispatchEnd}, done.launched = [] → ∀ lease ∈ done.launched,
      ∃ row' ∈ done.scheduler.leases.rows,
        row'.leaseId = lease.leaseId ∧ row'.taskId = call.taskId :=
    fun h lease hls => absurd (h ▸ hls) not_mem_nil
  rcases dispatch_cases w call s jobs with
    ⟨hlaunched, hlss⟩ | ⟨s₁, req, hlss, htask, hhdr, hnow, hacquire⟩
  · refine ⟨?_, fun row hrow => ⟨row, hlss ▸ hrow, rfl, rfl, .inl rfl⟩, hnone hlaunched⟩
    intro row hrow
    exact hmirror row (hlss ▸ hrow)
  have hmirror₁ : s₁.Mirrored := fun row hrow => hmirror row (hlss ▸ hrow)
  obtain ⟨new, hgr⟩ := s₁.acquireBundle_grants w.sha req
  have hgrow : ∀ row ∈ s₁.leases.rows, row ∈ (s₁.acquireBundle w.sha req).2.leases.rows := by
    intro row hrow
    rw [hgr.rows]
    exact mem_append_left _ hrow
  have hmirror₂ := hgr.mirrored hmirror₁
  rcases hacquire with ⟨hlaunched, hdone⟩ | ⟨bundle, s₂, hbdl, hlaunched, hdone⟩
  · refine ⟨hdone ▸ hmirror₂, fun row hrow => ?_, hnone hlaunched⟩
    exact ⟨row, hdone ▸ hgrow row (hlss ▸ hrow), rfl, rfl, .inl rfl⟩
  · rw [hbdl] at hgrow hmirror₂
    have hserves : ∀ lease ∈ bundle.leases, s₁.Serves req s₂ lease :=
      fun _ hls => mem_acquireBundle hbdl hls
    -- Whether the leases are released or not, only the rows of the bundle change.
    have hfrees : Frees (bundle.leases.map ResourceLease.leaseId) s₂
        (dispatch w call s jobs).scheduler := by
      rcases hdone with hdone | hdone
      · rw [hdone]
        exact .refl _ s₂
      · rw [hdone]
        exact releaseLeases_frees _ _ s₂ fun lease hls => mem_map_of_mem hls
    refine ⟨hfrees.mirrored hmirror₂, fun row hrow => ?_, fun lease hls => ?_⟩
    · obtain ⟨row', hrow', hid, htask', hsame⟩ := hfrees.row row (hgrow row (hlss ▸ hrow))
      refine ⟨row', hrow', hid, htask', ?_⟩
      by_cases hmem : row.leaseId ∈ bundle.leases.map ResourceLease.leaseId
      · obtain ⟨lease, hls, heq⟩ := mem_map.mp hmem
        rw [← htask, ← hhdr, ← hnow]
        exact .inr ((hserves lease hls).of_row hmirror₁ (hlss ▸ hrow) heq.symm)
      · exact .inl (hsame hmem)
    · obtain ⟨row, hrow, hid, htask'⟩ :=
        (hserves lease (hlaunched lease hls)).exists_row hmirror₁ hgrow
      obtain ⟨row', hrow', hid', htask'', -⟩ := hfrees.row row hrow
      exact ⟨row', hrow', hid'.trans hid, (htask''.trans htask').trans htask⟩

/-! ### Runs -/

/-- The lease is stored and has not been released. -/
def SchedulerStore.Holds (s : SchedulerStore) (leaseId : String) : Prop :=
  ∃ row ∈ s.leases.rows, row.leaseId = leaseId ∧ row.releasedAtUtc = none

instance (s : SchedulerStore) (leaseId : String) : Decidable (s.Holds leaseId) :=
  inferInstanceAs (Decidable (∃ row ∈ s.leases.rows, _ ∧ _ = none))

/-- The stores between two calls, and the leases that each job was last launched under. -/
structure DispatchRun where
  scheduler : SchedulerStore
  jobs : FleetConnection
  launchedUnder : String → List String := fun _ => []

namespace DispatchRun

variable (w : Workflow)

def step (s : DispatchRun) (call : DispatchCall) : DispatchRun :=
  let done := dispatch w call s.scheduler s.jobs
  { scheduler := done.scheduler
    jobs := done.jobs
    launchedUnder := fun jobId =>
      if jobId = call.taskId ∧ done.launched ≠ [] then done.launched.map ResourceLease.leaseId
      else s.launchedUnder jobId }

/-- The stored status of the job is `DISPATCHED`, `RUNNING` or `UNKNOWN_OUTCOME`. -/
def InFlight (s : DispatchRun) (jobId : String) : Prop :=
  ((s.jobs.working.getD s.jobs.committed).status jobId).any JobStatus.inFlight = true

instance (s : DispatchRun) (jobId : String) : Decidable (s.InFlight jobId) :=
  inferInstanceAs (Decidable (_ = true))

/-- A task whose job is in flight is dispatched only if the holder has no active lease for
it. -/
def SparesInFlight (s : DispatchRun) (call : DispatchCall) : Prop :=
  s.InFlight call.taskId → ∀ row ∈ s.scheduler.leases.rows, row.taskId = call.taskId →
    row.holderId = call.holderId → row.activeAt call.now = false

instance (s : DispatchRun) (call : DispatchCall) : Decidable (s.SparesInFlight call) :=
  inferInstanceAs (Decidable (_ → ∀ row ∈ s.scheduler.leases.rows, _ → _ → _ = false))

/-- The leases that a job was launched under are stored, for the task of the job. -/
structure Inv (s : DispatchRun) : Prop where
  mirrored : s.scheduler.Mirrored
  launched : ∀ jobId, ∀ leaseId ∈ s.launchedUnder jobId, ∃ row ∈ s.scheduler.leases.rows,
    row.leaseId = leaseId ∧ row.taskId = jobId

variable {w}

theorem Inv.step {s : DispatchRun} (h : s.Inv) (call : DispatchCall) : (s.step w call).Inv := by
  have hspec := dispatch_spec w call h.mirrored s.jobs
  refine ⟨hspec.mirrored, fun jobId leaseId hlid => ?_⟩
  dsimp only [DispatchRun.step] at hlid
  split at hlid
  · rename_i hjob
    obtain ⟨lease, hls, rfl⟩ := mem_map.mp hlid
    rw [hjob.1]
    exact hspec.launched lease hls
  · obtain ⟨row, hrow, hid, htask⟩ := h.launched jobId leaseId hlid
    obtain ⟨row', hrow', hid', htask', -⟩ := hspec.row row hrow
    exact ⟨row', hrow', hid'.trans hid, htask'.trans htask⟩

/-- A call that meets the condition does not release a lease of a job in flight. -/
theorem Inv.holds_step {s : DispatchRun} (h : s.Inv) {call : DispatchCall}
    (hspares : s.SparesInFlight call) {jobId leaseId : String} (hfl : s.InFlight jobId)
    (hlaunched : leaseId ∈ s.launchedUnder jobId) (hholds : s.scheduler.Holds leaseId) :
    (s.step w call).scheduler.Holds leaseId := by
  obtain ⟨row, hrow, hid, hunreleased⟩ := hholds
  obtain ⟨stored, hstd, hid', htask⟩ := h.launched jobId leaseId hlaunched
  obtain rfl := s.scheduler.leases.eq_of_key_eq hstd hrow (hid'.trans hid.symm)
  obtain ⟨row', hrow', hsame, -, hkept⟩ := (dispatch_spec w call h.mirrored s.jobs).row _ hrow
  rcases hkept with rfl | ⟨hcall, hhdr, hact⟩
  · exact ⟨row', hrow', hid, hunreleased⟩
  · have hjob : jobId = call.taskId := htask.symm.trans hcall
    rw [hspares (hjob ▸ hfl) _ hrow hcall hhdr] at hact
    cases hact

end DispatchRun

/-- A lease row that none of the calls is for stays as it is. -/
theorem DispatchRun.Inv.mem_run {w : Workflow} {s : DispatchRun} (h : s.Inv)
    {calls : List DispatchCall} {row : LeaseRow} (hrow : row ∈ s.scheduler.leases.rows)
    (hoth : ∀ call ∈ calls, row.taskId = call.taskId → row.holderId ≠ call.holderId) :
    row ∈ (runCalls (DispatchRun.step w) s calls).scheduler.leases.rows := by
  induction calls generalizing s with
  | nil => exact hrow
  | cons call _ ih =>
    obtain ⟨hcall, hoth⟩ := forall_mem_cons.mp hoth
    obtain ⟨row', hrow', -, -, hkept⟩ := (dispatch_spec w call h.mirrored s.jobs).row row hrow
    rcases hkept with rfl | ⟨htask, hhdr, -⟩
    · exact ih (h.step call) hrow' hoth
    · exact absurd hhdr (hcall htask)

/-- **Dispatches keep to their own leases.** The leases that a job was launched under stay stored,
for its task, and calls for other tasks or by other holders leave the row of a lease as it is. -/
theorem dispatches_isolated (w : Workflow) (jobs : FleetConnection)
    (earlier later : List DispatchCall) :
    let s := runCalls (DispatchRun.step w) ⟨⟨.empty, .empty, .empty⟩, jobs, fun _ => []⟩ earlier
    s.Inv ∧ ∀ row ∈ s.scheduler.leases.rows,
      (∀ call ∈ later, row.taskId = call.taskId → row.holderId ≠ call.holderId) →
        row ∈ (runCalls (DispatchRun.step w) s later).scheduler.leases.rows := by
  intro s
  have hinv : s.Inv := Along.invariant (fun hs _ => hs.step _) (Along.of_mem (fun _ _ => trivial) _)
    ⟨fun _ hrow => absurd hrow not_mem_nil, fun _ _ hlid => absurd hlid not_mem_nil⟩
  exact ⟨hinv, fun _ => hinv.mem_run⟩

/-! ### Two dispatches of one task -/

def workerPool (resource : String) (resourceType : ResourceType) (capacity reserved : ℕ)
    (hkey : 1 ≤ ("worker-1/" ++ resource).length ∧ ("worker-1/" ++ resource).length ≤ 512)
    (hreserve : reserved < capacity) : ResourcePool where
  resourceKey := "worker-1/" ++ resource
  resourceType := resourceType
  capacityUnits := capacity
  reservedUnits := reserved
  machineId := some "worker-1"
  key_valid := hkey
  reserve_valid := hreserve
  machineId_valid := by decide

def plainWorkflow : Workflow where
  env := .plain
  sha := .polynomial
  isoformat := toString
  argvConfined _ := true
  caseCounts _ := (1, 0, 0)
  profiles :=
    [{ machineId := "worker-1", role := "CPU_WORKER", observedAtUtc := 0, diskMb := 1000,
       physicalPools :=
        [workerPool "cpu_slots" .cpuSlot 4 1 (by decide) cpuPool.reserve_valid,
          workerPool "memory_mb" .memoryMb 4000 600 (by decide) (by decide),
          workerPool "disk_mb" .diskMb 1000 50 (by decide) (by decide),
          workerPool "process_slots" .processSlot 4 1 (by decide) cpuPool.reserve_valid] }]
  sourceSha := String.ofList (List.replicate 40 'a')
  sourceTree := String.ofList (List.replicate 40 'b')
  overlaySha256 := "overlay"

def plainDispatch (taskId : String) (now : Instant) (execution : Execution) : DispatchCall where
  taskId := taskId
  holderId := "holder"
  now := now
  pack := some ([("context", .str "pack")], String.ofList (List.replicate 64 'c'))
  inputSha256 := "input"
  worker := { execution := execution }
  acceptNow := now

def emptyRun : DispatchRun where
  scheduler := ⟨.empty, .empty, .empty⟩
  jobs := { committed := {} }

/-- The stores after the connection to the worker has broken. -/
def lostRun : DispatchRun :=
  runCalls (DispatchRun.step plainWorkflow) emptyRun [plainDispatch "PP-TASK-000001" 0 .osError]

end ProjectPipeline
