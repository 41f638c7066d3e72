import ProjectPipeline.RestoreIntents
import ProjectPipeline.Runs

/-!
# Verified Restores

An intent in state `VERIFIED` should have been applied, and then compared with the manifest that it
names. `verify` asks for neither: it takes an intent in any state, and the manifest of the caller.

A run is kept together with its events, the completed applications and the passed verifications,
which is what the property speaks of. The store itself remembers the applications in its audit
trail.

## Main results

* `RestoreCall.step_moves`: everything a call can do to the store and to the events.
* `verified_restores_justified`: with a guard on the calls of `verify`, every verified intent was
  applied before and compared with its own manifest.
* `verified_without_apply`: a run that verifies an intent which was never applied.
-/

namespace ProjectPipeline

open List

/-! ### Runs -/

/-- What a run has done: an application that completed, and a verification that passed. -/
inductive RestoreEvent where
  | applied (intentId : String)
  | verified (intentId : String) (manifest : JsonDict)

def RestoreEvent.intentId : RestoreEvent → String
  | applied intentId | verified intentId _ => intentId

/-- An operation of the store, or a change that others make to the directories. -/
inductive RestoreCall where
  | recordIntent (idempotencyKey domain target manifestSha256 : String) (now : Instant)
  | dryRun (intentId : String) (policy : RestorePolicy) (now : Instant)
  | apply (intentId source : String) (policy : RestorePolicy) (approve : Bool)
      (fault : Option PathNode) (now : Instant)
  | verify (intentId : String) (manifest : JsonDict) (policy : RestorePolicy) (now : Instant)
  | reconcile (intentId : String) (now : Instant)
  | outside (paths : String → PathNode)

/-- A host, and the events of the run that has led to it. -/
structure RestoreRun where
  host : RestoreHost := {}
  events : List RestoreEvent := []

namespace RestoreCall

def step (env : RestoreEnv) (run : RestoreRun) : RestoreCall → RestoreRun
  | recordIntent idempotencyKey domain target manifestSha256 now =>
    { run with host :=
        (RestoreHost.recordIntent env idempotencyKey domain target manifestSha256 now run.host).2 }
  | dryRun intentId policy now =>
    { run with host := (RestoreHost.dryRun intentId policy now run.host).2 }
  | apply intentId source policy approve fault now =>
    match RestoreHost.apply intentId source policy approve fault now run.host with
    | (.ok _, host) => ⟨host, run.events ++ [.applied intentId]⟩
    | (.error _, host) => { run with host }
  | verify intentId manifest policy now =>
    match RestoreHost.verify env intentId manifest policy now run.host with
    | (.ok report, host) =>
      if report.restoreState = .verified then
        ⟨host, run.events ++ [.verified intentId manifest]⟩
      else { run with host }
    | (.error _, host) => { run with host }
  | reconcile intentId now => { run with host := (RestoreHost.reconcile intentId now run.host).2 }
  | outside paths => { run with host := { run.host with paths } }

end RestoreCall

/-! ### One step -/

/-- What a call does to the store, with the events that it adds. -/
inductive RestoreMove (store : RestoreIntentStore) :
    RestoreCall → RestoreIntentStore → List RestoreEvent → Prop
  | kept (call : RestoreCall) : RestoreMove store call store []
  | recorded (call : RestoreCall) {row : RestoreIntent} {now : Instant} {store' : RestoreIntentStore}
      (hstate : row.state = .intentRecorded)
      (hrows : store'.intents.rows = store.intents.rows ++ [row])
      (haudit : store'.audit = store.audit ++ [⟨row.intentId, .record, .intentRecorded, now⟩]) :
      RestoreMove store call store' []
  | moved (call : RestoreCall) {intentId : String} {state : RestoreState} {now : Instant}
      {action : RestoreAction} (hstate : state ≠ .verified) (haction : action ≠ .apply) :
      RestoreMove store call (store.moved intentId state now action) []
  | applied (call : RestoreCall) {intentId : String} {now : Instant} :
      RestoreMove store call (store.moved intentId .applied now .apply) [.applied intentId]
  | verified {intentId : String} {manifest : JsonDict} {policy : RestorePolicy} {now : Instant} :
      RestoreMove store (.verify intentId manifest policy now)
        (store.moved intentId .verified now .verify) [.verified intentId manifest]

namespace RestoreHost

variable {α β : Type} {call : RestoreCall} {events : α → List RestoreEvent}
  {rest : β → Session RestoreHost α} {host : RestoreHost}

/-- The call `call` runs the session: the store makes a move, and the events are those of the
result. -/
def Makes (call : RestoreCall) (events : α → List RestoreEvent) (session : Session RestoreHost α)
    (host : RestoreHost) : Prop :=
  RestoreMove host.store call (session host).2.store
    (match (session host).1 with
    | .ok a => events a
    | .error _ => [])

theorem Makes.quiet {session : Session RestoreHost α} (h : Makes call (fun _ => []) session host) :
    RestoreMove host.store call (session host).2.store [] := by
  rw [Makes] at h
  split at h <;> exact h

/-- A computation without effects raises, or the call goes on with its result. -/
theorem Makes.ofExcept {result : Except PyError β} (h : ∀ b, Makes call events (rest b) host) :
    Makes call events (Session.ofExcept result >>= rest) host := by
  cases result with
  | error => exact .kept call
  | ok b => exact h b

/-- A call that needs an intent raises, or goes on with it. -/
theorem Makes.require {intentId : String} {rest : RestoreIntent → Session RestoreHost α}
    (h : ∀ row, Makes call events (rest row) host) :
    Makes call events (RestoreHost.require intentId >>= rest) host := by
  cases hrow : host.store.intents.find? intentId with
  | none =>
    have hraised : RestoreHost.require intentId host =
        (.error (.keyError ("unknown restore intent: " ++ intentId)), host) := by
      rw [RestoreHost.require, hrow]
    rw [Makes, Session.bind_of_error hraised]
    exact .kept call
  | some row =>
    have hfd : RestoreHost.require intentId host = (.ok row, host) := by
      rw [RestoreHost.require, hrow]
    rw [Makes, Session.bind_of_ok hfd]
    exact h row

/-- `record_intent` leaves the store alone, or appends an intent that is only recorded. -/
theorem recordIntent_makes (env : RestoreEnv) (idempotencyKey domain target manifestSha256 : String)
    (now : Instant) :
    Makes call (fun _ => []) (recordIntent env idempotencyKey domain target manifestSha256 now)
      host := by
  rw [Makes, recordIntent]
  cases host.store.intents.rows.find? fun row => row.idempotencyKey = idempotencyKey with
  | some =>
    dsimp only
    split <;> exact .kept call
  | none =>
    cases hins : host.store.intents.insert
        (newIntent env idempotencyKey domain target manifestSha256 now) with
    | none => exact .kept call
    | some intents => exact .recorded call rfl (Table.insert_eq_some_iff.mp hins).2 rfl

theorem dryRun_makes (intentId : String) (policy : RestorePolicy) (now : Instant) :
    Makes call (fun _ => []) (dryRun intentId policy now) host :=
  .require fun _ => .ofExcept fun _ => RestoreMove.moved call nofun nofun

/-- `apply` leaves the store alone, or moves the intent to `FAILED`, to `UNKNOWN_OUTCOME` or, when
it returns, to `APPLIED`. -/
theorem apply_makes (intentId source : String) (policy : RestorePolicy) (approve : Bool)
    (fault : Option PathNode) (now : Instant) :
    Makes call (fun _ => [.applied intentId])
      (apply intentId source policy approve fault now) host := by
  refine .ofExcept fun _ => .require fun row => .ofExcept fun target => ?_
  rw [Makes, Session.bind_of_ok (show look source host = (.ok (host.paths source), host) from rfl)]
  cases host.paths source with
  | absent | file => exact .moved call nofun nofun
  | directory files =>
    dsimp only
    rw [Session.bind_of_ok (show look target host = (.ok (host.paths target), host) from rfl)]
    cases copyTree files (host.paths target) fault with
    | error => exact .moved call nofun nofun
    | ok => exact .applied call

/-- `verify` leaves the store alone, or moves the intent to the state that it returns, `VERIFIED` or
`FAILED`. -/
theorem verify_makes (env : RestoreEnv) (intentId : String) (manifest : JsonDict)
    (policy : RestorePolicy) (now : Instant) :
    Makes (.verify intentId manifest policy now)
      (fun report => if report.restoreState = .verified then [.verified intentId manifest] else [])
      (verify env intentId manifest policy now) host := by
  refine .require fun row => .ofExcept fun target => ?_
  refine Makes.ofExcept fun tree => ?_
  by_cases hpassed : tree.state = .verifyPassed
  · rw [if_pos hpassed]
    exact .verified
  · rw [if_neg hpassed]
    exact .moved _ nofun nofun

/-- `reconcile` leaves the store alone, or moves the intent to `RECONCILED` or `FAILED`. -/
theorem reconcile_makes (intentId : String) (now : Instant) :
    Makes call (fun _ => []) (reconcile intentId now) host := by
  refine .require fun row => ?_
  by_cases hunk : row.state ≠ .unknownOutcome
  · rw [if_pos hunk]
    exact .kept call
  · rw [if_neg hunk]
    refine RestoreMove.moved call ?_ nofun
    split <;> exact nofun

end RestoreHost

/-- Every call makes one of the moves. -/
theorem RestoreCall.step_moves (env : RestoreEnv) (run : RestoreRun) (call : RestoreCall) :
    ∃ events, (call.step env run).events = run.events ++ events ∧
      RestoreMove run.host.store call (call.step env run).host.store events := by
  have hnone : run.events = run.events ++ [] := (append_nil _).symm
  cases call with
  | recordIntent => exact ⟨[], hnone, (RestoreHost.recordIntent_makes env _ _ _ _ _).quiet⟩
  | dryRun => exact ⟨[], hnone, (RestoreHost.dryRun_makes _ _ _).quiet⟩
  | apply intentId source policy approve fault now =>
    have hmakes : RestoreHost.Makes (.apply intentId source policy approve fault now) _ _ run.host :=
      RestoreHost.apply_makes intentId source policy approve fault now
    rw [RestoreHost.Makes] at hmakes
    rw [step]
    rcases hrun : RestoreHost.apply intentId source policy approve fault now run.host with
      ⟨error | report, host⟩
    · rw [hrun] at hmakes
      exact ⟨[], hnone, hmakes⟩
    · rw [hrun] at hmakes
      exact ⟨_, rfl, hmakes⟩
  | verify intentId manifest policy now =>
    have hmakes : RestoreHost.Makes _ _ _ run.host :=
      RestoreHost.verify_makes env intentId manifest policy now
    rw [RestoreHost.Makes] at hmakes
    rw [step]
    rcases hrun : RestoreHost.verify env intentId manifest policy now run.host with
      ⟨error | report, host⟩
    · rw [hrun] at hmakes
      exact ⟨[], hnone, hmakes⟩
    · rw [hrun] at hmakes
      dsimp only at hmakes ⊢
      split at hmakes
      · rename_i hveri
        rw [if_pos hveri]
        exact ⟨_, rfl, hmakes⟩
      · rename_i hfailed
        rw [if_neg hfailed]
        exact ⟨[], hnone, hmakes⟩
  | reconcile => exact ⟨[], hnone, (RestoreHost.reconcile_makes _ _).quiet⟩
  | outside => exact ⟨[], hnone, .kept _⟩

/-! ### Verified intents -/

variable (digest : JsonDict → String)

/-- The last verification of an intent came after an application, no application came after it,
and it compared the target with a manifest of the digest that the intent names. -/
def JustifiedBy (events : List RestoreEvent) (row : RestoreIntent) :
    Prop :=
  ∃ before manifest after, events = before ++ .verified row.intentId manifest :: after ∧
    .applied row.intentId ∈ before ∧ (∀ event ∈ after, event.intentId ≠ row.intentId) ∧
    digest manifest = row.manifestSha256

/-- Every verified intent was applied before, and compared with its own manifest. -/
def RestoreRun.VerifiedJustified (run : RestoreRun) : Prop :=
  ∀ row ∈ run.host.store.intents.rows, row.state = .verified → JustifiedBy digest run.events row

/-- `restore_intent_audit` has an application of the intent. -/
def RestoreIntentStore.WasApplied (store : RestoreIntentStore) (intentId : String) : Prop :=
  ∃ entry ∈ store.audit, entry.intentId = intentId ∧ entry.action = .apply

instance (store : RestoreIntentStore) (intentId : String) : Decidable (store.WasApplied intentId) :=
  inferInstanceAs (Decidable (∃ entry ∈ store.audit, _))

/-- `verify` is called on intents that were applied, with the manifests that they name. -/
def RestoreCall.VerifiesOwn (run : RestoreRun) : RestoreCall → Prop
  | verify intentId manifest _ _ =>
    ∀ row ∈ run.host.store.intents.find? intentId,
      run.host.store.WasApplied intentId ∧ digest manifest = row.manifestSha256
  | _ => True

instance (digest : JsonDict → String) (run : RestoreRun) :
    ∀ call : RestoreCall, Decidable (call.VerifiesOwn digest run)
  | .verify intentId manifest _ _ =>
    inferInstanceAs (Decidable (∀ row ∈ run.host.store.intents.find? intentId,
      run.host.store.WasApplied intentId ∧ digest manifest = row.manifestSha256))
  | .recordIntent .. | .dryRun .. | .apply .. | .reconcile .. | .outside _ =>
    inferInstanceAs (Decidable True)

/-- Events of other intents do not matter. -/
theorem JustifiedBy.append {digest : JsonDict → String} {events : List RestoreEvent}
    {row : RestoreIntent} (h : JustifiedBy digest events row) {later : List RestoreEvent}
    (hlat : ∀ event ∈ later, event.intentId ≠ row.intentId) :
    JustifiedBy digest (events ++ later) row := by
  obtain ⟨before, manifest, after, rfl, happ, haft, hdig⟩ := h
  refine ⟨before, manifest, after ++ later, ?_, happ, ?_, hdig⟩
  · rw [append_assoc, cons_append]
  · exact forall_mem_append.mpr ⟨haft, hlat⟩

/-- The invariant: verified intents are justified, and the audit trail only has applications that
have happened. -/
structure RestoreRun.Sound (digest : JsonDict → String) (run : RestoreRun) : Prop where
  justified : run.VerifiedJustified digest
  audited : ∀ intentId, run.host.store.WasApplied intentId → .applied intentId ∈ run.events

/-- After an entry was added, an intent was applied before or by that entry. -/
theorem wasApplied_of_append {store store' : RestoreIntentStore} {entry : RestoreAudit}
    (haudit : store'.audit = store.audit ++ [entry]) {intentId : String}
    (h : store'.WasApplied intentId) :
    store.WasApplied intentId ∨ (entry.intentId = intentId ∧ entry.action = .apply) := by
  obtain ⟨found, hfd, hent⟩ := h
  rw [haudit] at hfd
  obtain hfd | hfd := mem_append.mp hfd
  · exact .inl ⟨found, hfd, hent⟩
  · obtain rfl := mem_singleton.mp hfd
    exact .inr hent

/-- A call that meets the condition keeps the invariant. -/
theorem RestoreRun.Sound.step {env : RestoreEnv} {digest : JsonDict → String} {run : RestoreRun}
    {call : RestoreCall} (h : run.Sound digest) (hown : call.VerifiesOwn digest run) :
    (call.step env run).Sound digest := by
  obtain ⟨events, hevs, hmove⟩ := call.step_moves env run
  generalize call.step env run = run' at hevs hmove ⊢
  obtain ⟨⟨store', paths'⟩, events'⟩ := run'
  subst hevs
  cases hmove with
  | kept =>
    rw [append_nil]
    exact ⟨h.justified, h.audited⟩
  | recorded _ hst hrows haudit =>
    rw [append_nil]
    refine ⟨fun row hrow hveri => ?_, fun intentId happ => ?_⟩
    · rw [hrows] at hrow
      obtain hrow | hrow := mem_append.mp hrow
      · exact h.justified row hrow hveri
      · obtain rfl := mem_singleton.mp hrow
        rw [hst] at hveri
        cases hveri
    · obtain happ | ⟨-, hactn⟩ := wasApplied_of_append haudit happ
      · exact h.audited intentId happ
      · cases hactn
  | moved _ hst hactn =>
    rw [append_nil]
    refine ⟨fun row hrow hveri => ?_, fun intentId happ => ?_⟩
    · obtain ⟨hrow, -⟩ | ⟨_, -, -, hmoved, -⟩ := RestoreIntentStore.mem_moved hrow
      · exact h.justified row hrow hveri
      · exact absurd (hmoved.symm.trans hveri) hst
    · obtain happ | ⟨-, hent⟩ := wasApplied_of_append rfl happ
      · exact h.audited intentId happ
      · exact absurd hent hactn
  | applied _ =>
    refine ⟨fun row hrow hveri => ?_, fun intentId happ => ?_⟩
    · obtain ⟨hrow, hoth⟩ | ⟨_, -, -, hmoved, -⟩ := RestoreIntentStore.mem_moved hrow
      · refine (h.justified row hrow hveri).append fun event hev => ?_
        obtain rfl := mem_singleton.mp hev
        exact Ne.symm hoth
      · rw [hmoved] at hveri
        cases hveri
    · obtain happ | ⟨rfl, -⟩ := wasApplied_of_append rfl happ
      · exact mem_append_left _ (h.audited intentId happ)
      · exact mem_append_right _ mem_cons_self
  | verified =>
    refine ⟨fun row hrow hveri => ?_, fun intentId happ => ?_⟩
    · obtain ⟨hrow, hoth⟩ | ⟨old, hold, hid, -, hmanifest⟩ :=
        RestoreIntentStore.mem_moved hrow
      · refine (h.justified row hrow hveri).append fun event hev => ?_
        obtain rfl := mem_singleton.mp hev
        exact Ne.symm hoth
      · -- the condition on the call speaks of the row as it was before
        obtain ⟨happ, hdig⟩ := hown old hold
        subst hid
        exact ⟨run.events, _, [], rfl, h.audited _ happ,
          fun _ hev => absurd hev not_mem_nil, hdig.trans hmanifest.symm⟩
    · obtain happ | ⟨-, hent⟩ := wasApplied_of_append rfl happ
      · exact mem_append_left _ (h.audited intentId happ)
      · cases hent

/-- If `verify` is only called on intents that were applied, with the manifests that they name, then
every verified intent was applied before its verification and not after it, and was compared with
its own manifest. -/
theorem verified_restores_justified (env : RestoreEnv) (digest : JsonDict → String)
    (calls : List RestoreCall)
    (hown : Along (RestoreCall.VerifiesOwn digest) (RestoreCall.step env) {} calls) :
    (runCalls (RestoreCall.step env) {} calls).VerifiedJustified digest := by
  have hsta : ({} : RestoreRun).Sound digest :=
    ⟨fun _ hrow => absurd hrow not_mem_nil,
      fun _ ⟨_, hent, _⟩ => absurd hent not_mem_nil⟩
  exact (hown.invariant RestoreRun.Sound.step hsta).justified

/-! ### A restore that is verified but was not applied -/

/-- An environment for concrete runs. -/
def byteRestores : RestoreEnv where
  sha := .bytePolynomial
  fileDigest content := String.ofList (content.map fun byte => Char.ofNat byte.toNat)
  text := .plain
  lower := id

/-- A digest of manifests for concrete runs. -/
def byteManifestDigest (manifest : JsonDict) : String :=
  String.ofList (Sha256.bytePolynomial.hexdigest (manifest.dumps .plain))

def emptyManifest : JsonDict := [("entries", .arr [])]

def notesManifest : JsonDict :=
  [("entries", .arr [.obj [("path", .str "notes"), ("sha256", .str "ok"), ("size_bytes", .int 2)]])]

def recordNotes : RestoreCall :=
  .recordIntent "restore-1" "notes" "/restore" (byteManifestDigest notesManifest) 0

def notesIntentId : String :=
  (RestoreHost.newIntent byteRestores "restore-1" "notes" "/restore"
    (byteManifestDigest notesManifest) 0).intentId

/-- An intent for a backup of one file is recorded and verified, without an application, against a
manifest without entries: the target that does not exist matches it. -/
theorem verified_without_apply :
    (runCalls (RestoreCall.step byteRestores) {}
        [recordNotes, .verify notesIntentId emptyManifest .ok 1]).host.store.intents.rows.map
      RestoreIntent.state = [.verified] ∧
    ∀ digest, ¬ (runCalls (RestoreCall.step byteRestores) {}
      [recordNotes, .verify notesIntentId emptyManifest .ok 1]).VerifiedJustified digest := by
  refine ⟨by decide +kernel, fun digest hjustified => ?_⟩
  obtain ⟨row, hrow, hveri, hevs⟩ : ∃ row ∈ (runCalls (RestoreCall.step byteRestores) {}
        [recordNotes, .verify notesIntentId emptyManifest .ok 1]).host.store.intents.rows,
      row.state = .verified ∧ (runCalls (RestoreCall.step byteRestores) {}
        [recordNotes, .verify notesIntentId emptyManifest .ok 1]).events.all
          (fun event => event matches .verified _ _) = true := by
    decide +kernel
  obtain ⟨before, manifest, after, hsplit, happ, -⟩ := hjustified row hrow hveri
  rw [hsplit] at hevs
  exact absurd (all_eq_true.mp hevs _ (mem_append_left _ happ)) Bool.false_ne_true

/-- The intent is recorded, the backup appears, and the restore is applied and verified. -/
def restoreNotes : List RestoreCall :=
  [recordNotes,
    .outside fun path =>
      if path = "/backup" then
        .directory ⟨[("notes", [111, 107])], List.nodup_singleton _⟩
      else .absent,
    .apply notesIntentId "/backup" .ok true none 1,
    .verify notesIntentId notesManifest .ok 2]

theorem verified_restores_justified_notes :
    Along (RestoreCall.VerifiesOwn byteManifestDigest) (RestoreCall.step byteRestores) {}
        restoreNotes ∧
      (runCalls (RestoreCall.step byteRestores) {} restoreNotes).host.store.intents.rows.map
        RestoreIntent.state = [.verified] ∧
      (runCalls (RestoreCall.step byteRestores) {} restoreNotes).VerifiedJustified
        byteManifestDigest := by
  have hfa :
      Along (RestoreCall.VerifiesOwn byteManifestDigest) (RestoreCall.step byteRestores) {}
          restoreNotes ∧
        (runCalls (RestoreCall.step byteRestores) {} restoreNotes).host.store.intents.rows.map
          RestoreIntent.state = [.verified] := by
    decide +kernel
  exact ⟨hfa.1, hfa.2,
    verified_restores_justified byteRestores byteManifestDigest restoreNotes hfa.1⟩

end ProjectPipeline
