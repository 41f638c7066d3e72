import ProjectPipeline.JiraSteward
import ProjectPipeline.Runs

/-!
# Steps of the Jira Steward

What the computations of the steward do to its world, whether they return or raise. A computation
keeps an invariant (`Steward.Keeps`) when its parts do, and an operation of a plan is made of calls
of the store and of the adapter alone (`applyOperation_keeps`): an invariant of an operation is an
invariant of these calls. The call of the adapter that writes is noted by `writes`; an operation
notes one such call at most, and what it has noted agrees with how it ends (`Truthful`).

A `JiraCall` is a call of the steward, or a change by somebody else, together with the time and the
outcomes that it meets.

## Main results

* `applyOperation_keeps`: the invariants of an operation.
* `applyOperation_truthful`: what an operation writes.
-/

namespace ProjectPipeline

open JiraSyncStore Option

section

variable {α β : Type} {world world' : JiraWorld}

/-! ### Computations that return -/

variable {world₁ : JiraWorld} {remoteKey : String} {created : CreatedKeys}
  {operation : JiraSyncOperation}

variable {rest : β → Steward α} {x : Steward β}

theorem Steward.bind_of_ok {b : β} (h : x.run world = (.ok (.ok b), world₁)) :
    (x >>= rest).run world = (rest b).run world₁ :=
  Session.bind_of_ok h

theorem Steward.bind_of_error {error : PyError} (h : x.run world = (.error error, world₁)) :
    (x >>= rest).run world = (.error error, world₁) :=
  Session.bind_of_error h

theorem Steward.bind_of_failure {error : JiraAdapterError}
    (h : x.run world = (.ok (.error error), world₁)) :
    (x >>= rest).run world = (.ok (.error error), world₁) :=
  Session.bind_of_ok h

variable {session : Session JiraWorld α}

namespace Steward

theorem lift_of_ok {a : α} (h : session world = (.ok a, world')) :
    (ExceptT.lift session : Steward α).run world = (.ok (.ok a), world') :=
  Session.bind_of_ok h

theorem bind_eq_ok {a : α} (h : (x >>= rest).run world = (.ok (.ok a), world')) :
    ∃ b world₁, x.run world = (.ok (.ok b), world₁) ∧
      (rest b).run world₁ = (.ok (.ok a), world') := by
  obtain ⟨result, world₁, hx, h⟩ := Session.bind_eq_ok h
  cases result with
  | error => cases (Except.ok.inj (Prod.mk.inj h).1)
  | ok b => exact ⟨b, world₁, hx, h⟩

theorem pure_eq_ok {a b : α} (h : (pure a : Steward α).run world = (.ok (.ok b), world')) :
    a = b ∧ world = world' := by
  obtain ⟨hres, hwd⟩ := Prod.mk.inj h
  exact ⟨Except.ok.inj (Except.ok.inj hres), hwd⟩

theorem lift_eq_ok {a : α}
    (h : (ExceptT.lift session : Steward α).run world = (.ok (.ok a), world')) :
    session world = (.ok a, world') := by
  have hmap : (ExceptT.lift session : Steward α).run world =
      (session >>= fun b => pure (.ok b)) world := rfl
  obtain ⟨b, world₁, hsession, h⟩ := Session.bind_eq_ok h
  obtain ⟨rfl, rfl⟩ := pure_eq_ok h
  exact hsession

theorem ofExcept_eq_ok {result : Except PyError α} {a : α}
    (h : (ofExcept result).run world = (.ok (.ok a), world')) :
    result = .ok a ∧ world' = world := by
  obtain ⟨hres, rfl⟩ := Prod.mk.inj (lift_eq_ok h)
  exact ⟨hres, rfl⟩

theorem ofExcept_bind_eq_ok {result : Except PyError β} {a : α}
    (h : (ofExcept result >>= rest).run world = (.ok (.ok a), world')) :
    ∃ b, result = .ok b ∧ (rest b).run world = (.ok (.ok a), world') := by
  obtain ⟨b, world₁, hx, hrest⟩ := bind_eq_ok h
  obtain ⟨hres, rfl⟩ := ofExcept_eq_ok hx
  exact ⟨b, hres, hrest⟩

end Steward

variable {block : Txn JiraSyncStore α}

/-- A call of the store that returns has run its block, and nothing else. -/
theorem storeCall_eq_ok {a : α} (h : storeCall block world = (.ok a, world')) :
    block world.store = .ok (a, world'.store) ∧ world'.remote = world.remote := by
  rw [storeCall] at h
  cases hfault : world.storeFaults.head?.join with
  | some =>
    simp only [hfault] at h
    cases (Prod.mk.inj h).1
  | none =>
    simp only [hfault] at h
    cases hblk : block world.store with
    | error =>
      simp only [hblk] at h
      cases (Prod.mk.inj h).1
    | ok result =>
      simp only [hblk] at h
      obtain ⟨hres, rfl⟩ := Prod.mk.inj h
      cases hres
      exact ⟨rfl, rfl⟩

/-! ### Invariants -/

/-- A computation of the steward keeps an invariant, however it ends. -/
def Steward.Keeps (Inv : JiraWorld → Prop) (x : Steward α) : Prop := Session.Keeps Inv x.run

namespace Steward.Keeps

variable {Inv : JiraWorld → Prop}

theorem pure {a : α} : Steward.Keeps Inv (Pure.pure a) := Session.Keeps.pure

theorem bind (h : Steward.Keeps Inv x) (hrest : ∀ b, Steward.Keeps Inv (rest b)) :
    Steward.Keeps Inv (x >>= rest) := by
  refine Session.Keeps.bind h fun result => ?_
  cases result with
  | error => exact Session.Keeps.pure
  | ok b => exact hrest b

theorem lift (h : Session.Keeps Inv session) : Steward.Keeps Inv (ExceptT.lift session) :=
  Session.Keeps.bind h fun _ => Session.Keeps.pure

theorem ofExcept {result : Except PyError α} : Steward.Keeps Inv (Steward.ofExcept result) :=
  .lift Session.Keeps.ofExcept

theorem ite {p : Prop} [Decidable p] {yes no : Steward α} (hyes : Steward.Keeps Inv yes)
    (hno : Steward.Keeps Inv no) : Steward.Keeps Inv (if p then yes else no) := by
  by_cases hp : p
  · rw [if_pos hp]
    exact hyes
  · rw [if_neg hp]
    exact hno

/-- The invariant holds where the computation ends. -/
theorem of_run {x : Steward α} {result : Except PyError (Except JiraAdapterError α)}
    (h : Steward.Keeps Inv x) (hrun : x.run world = (result, world')) (hwd : Inv world) :
    Inv world' := by
  have hend := h world hwd
  rw [hrun] at hend
  exact hend

end Steward.Keeps

/-- A call of the store keeps what does not depend on the outcomes of calls, and what its block
keeps. -/
theorem storeCall_keeps {Inv : JiraWorld → Prop}
    (hfaults : ∀ world, Inv world → Inv { world with storeFaults := world.storeFaults.tail })
    (hblk : ∀ world a store, Inv world → block world.store = .ok (a, store) →
      Inv { world with store := store }) : Session.Keeps Inv (storeCall block) := by
  intro world hwd
  have hrest := hfaults world hwd
  rw [storeCall]
  cases world.storeFaults.head?.join with
  | some => exact hrest
  | none =>
    cases hrun : block world.store with
    | error => exact hrest
    | ok result =>
      obtain ⟨a, store⟩ := result
      exact hblk _ a store hrest hrun

/-- When no call of the store raises by itself, a call is its block. -/
theorem storeCall_of_noFaults (hfaults : world.storeFaults = []) (block : Txn JiraSyncStore α) :
    storeCall block world =
      match block world.store with
      | .error error => (.error error, world)
      | .ok (a, store) => (.ok a, { world with store := store }) := by
  have hrest : { world with storeFaults := world.storeFaults.tail } = world := by
    obtain ⟨store, remote, mirror, now, faults, replies, writes⟩ := world
    dsimp only at hfaults
    rw [hfaults]
    rfl
  rw [storeCall, hrest, hfaults]
  rfl

theorem storeCall_of_ok (hfaults : world.storeFaults = []) {a : α} {store : JiraSyncStore}
    (h : block world.store = .ok (a, store)) :
    storeCall block world = (.ok a, { world with store := store }) := by
  rw [storeCall_of_noFaults hfaults, h]

/-- The rule of a call of the store when no such call raises by itself. -/
theorem storeCall_triple {P : JiraWorld → Prop} {Q : α → JiraWorld → Prop} {R : JiraWorld → Prop}
    (hfaults : ∀ world, P world → world.storeFaults = [])
    (hreturns : ∀ world a store, P world → block world.store = .ok (a, store) →
      Q a { world with store := store }) (hraises : ∀ world, P world → R world) :
    Session.Triple P (storeCall block) Q R := by
  intro world hwd
  rw [storeCall_of_noFaults (hfaults world hwd)]
  cases hrun : block world.store with
  | error =>
    refine ⟨fun a s' h => ?_, fun error' s' h => ?_⟩
    · cases (Prod.mk.inj h).1
    · obtain ⟨-, rfl⟩ := Prod.mk.inj h
      exact hraises world hwd
  | ok result =>
    obtain ⟨b, store⟩ := result
    refine ⟨fun a s' h => ?_, fun error' s' h => ?_⟩
    · obtain ⟨hres, rfl⟩ := Prod.mk.inj h
      cases hres
      exact hreturns world b store hwd hrun
    · cases (Prod.mk.inj h).1

/-! ### Calls of the adapter -/

/-- The computation has come to its end. -/
def hasReturned : Except PyError (Except JiraAdapterError α) → Bool
  | .ok (.ok _) => true
  | _ => false

@[simp] theorem hasReturned_raise (failure : AdapterFailure) :
    hasReturned (failure.raise : Except PyError (Except JiraAdapterError α)) = false := by
  cases failure <;> rfl

theorem AdapterFailure.raise_ne_ok (failure : AdapterFailure) {a : α} :
    failure.raise ≠ .ok (.ok a) := by
  cases failure <;> nofun

/-- A call that writes raises, with the remote as it was or changed, or returns with the remote
changed. It is noted in each case. -/
theorem adapterWrite_cases (operationId : String)
    (change : JiraRemote → Instant → Except AdapterFailure (JiraRemote × α)) (world : JiraWorld) :
    (∃ failure remote, (remote = world.remote ∨
        ∃ a, change world.remote world.now = .ok (remote, a)) ∧
      (adapterWrite operationId change).run world =
        (AdapterFailure.raise failure, { world.noteWrite operationId false with remote })) ∨
    ∃ remote a, change world.remote world.now = .ok (remote, a) ∧
      (adapterWrite operationId change).run world =
        (.ok (.ok a), { world.noteWrite operationId true with remote }) := by
  simp only [adapterWrite, ExceptT.run, ExceptT.mk]
  cases hchange : change world.remote world.now with
  | error failure => exact .inl ⟨failure, world.remote, .inl rfl, rfl⟩
  | ok result =>
    obtain ⟨remote, a⟩ := result
    rcases world.replies.head? with _ | (_ | failure | failure | issues)
    · exact .inr ⟨remote, a, rfl, rfl⟩
    · exact .inr ⟨remote, a, rfl, rfl⟩
    · exact .inl ⟨failure, world.remote, .inl rfl, rfl⟩
    · exact .inl ⟨failure, remote, .inr ⟨a, rfl⟩, rfl⟩
    · exact .inr ⟨remote, a, rfl, rfl⟩

variable {change : JiraRemote → Instant → Except AdapterFailure (JiraRemote × α)}

/-- A call that writes and returns has changed the remote as it says. -/
theorem adapterWrite_eq_ok {operationId : String} {a : α}
    (h : (adapterWrite operationId change).run world = (.ok (.ok a), world')) :
    change world.remote world.now = .ok (world'.remote, a) := by
  obtain ⟨failure, remote, -, hrun⟩ | ⟨remote, b, hchange, hrun⟩ :=
    adapterWrite_cases operationId change world
  · rw [hrun] at h
    exact absurd (Prod.mk.inj h).1 failure.raise_ne_ok
  · rw [hrun] at h
    obtain ⟨rfl, rfl⟩ := Steward.pure_eq_ok h
    exact hchange

/-- A change that takes no issue away. -/
def Grows (change : JiraRemote → Instant → Except AdapterFailure (JiraRemote × α)) : Prop :=
  ∀ remote now remote' a, change remote now = .ok (remote', a) →
    ∀ key, (remote.find? key).isSome → (remote'.find? key).isSome

/-- A call that writes keeps what is kept when the call is noted and when the remote grows. -/
theorem adapterWrite_keeps {Inv : JiraWorld → Prop} {operationId : String} (hgrow : Grows change)
    (hnote : ∀ world remote returned, Inv world →
      (∀ key, (world.remote.find? key).isSome → (remote.find? key).isSome) →
      Inv { world.noteWrite operationId returned with remote }) :
    Steward.Keeps Inv (adapterWrite operationId change) := by
  intro world hwd
  obtain ⟨failure, remote, hrem, hrun⟩ | ⟨remote, a, hchange, hrun⟩ :=
    adapterWrite_cases operationId change world
  · rw [hrun]
    obtain rfl | ⟨a, hchange⟩ := hrem
    · exact hnote world _ false hwd fun _ h => h
    · exact hnote world remote false hwd (hgrow _ _ _ _ hchange)
  · rw [hrun]
    exact hnote world remote true hwd (hgrow _ _ _ _ hchange)

/-- A call that reads only uses up an outcome. -/
theorem getIssue_cases (remoteKey : String) (world : JiraWorld) :
    ∃ result, (getIssue remoteKey).run world =
        (result, { world with replies := world.replies.tail }) ∧
      (result = .ok (.ok (world.remote.find? remoteKey)) ∨
        ∃ failure : AdapterFailure, result = failure.raise) := by
  simp only [getIssue, ExceptT.run, ExceptT.mk]
  split
  · exact ⟨_, rfl, .inr ⟨_, rfl⟩⟩
  · exact ⟨_, rfl, .inr ⟨_, rfl⟩⟩
  · exact ⟨_, rfl, .inl rfl⟩

theorem getIssue_keeps {Inv : JiraWorld → Prop} (remoteKey : String)
    (hreplies : ∀ world, Inv world → Inv { world with replies := world.replies.tail }) :
    Steward.Keeps Inv (getIssue remoteKey) := by
  intro world hwd
  obtain ⟨result, hrun, -⟩ := getIssue_cases remoteKey world
  rw [hrun]
  exact hreplies world hwd

/-! ### Changes of the remote -/

theorem RemoteField.remoteKey_foldl_assign (fields : List RemoteField) (issue : RemoteJiraIssue) :
    (fields.foldl RemoteField.assign issue).remoteKey = issue.remoteKey := by
  induction fields generalizing issue with
  | nil => rfl
  | cons field _ ih =>
    rw [List.foldl_cons, ih]
    cases field <;> rfl

theorem RemoteJiraIssue.remoteKey_edited (issue : RemoteJiraIssue) (fields : List RemoteField)
    (now : Instant) : (issue.edited fields now).remoteKey = issue.remoteKey :=
  RemoteField.remoteKey_foldl_assign fields issue

variable {edit : RemoteJiraIssue → RemoteJiraIssue} {before after : JiraRemote}
  {issue' : RemoteJiraIssue}

/-- A change of one issue is one row of the table. -/
theorem changeIssue_eq_ok (hedit : ∀ issue, (edit issue).remoteKey = issue.remoteKey)
    (h : changeIssue remoteKey edit before = .ok (after, issue')) :
    ∃ issue, before.find? remoteKey = some issue ∧
      ∀ key, after.find? key = if key = remoteKey then some (edit issue) else before.find? key := by
  rw [changeIssue] at h
  cases hfind : before.find? remoteKey with
  | none =>
    simp only [hfind] at h
    cases h
  | some issue =>
    simp only [hfind] at h
    obtain ⟨rfl, -⟩ := ok_pair_inj h
    refine ⟨issue, rfl, fun key => ?_⟩
    have hkey : (edit issue).remoteKey = remoteKey :=
      (hedit issue).trans (Table.find?_eq_some_iff.mp hfind).2
    rw [Table.find?_replace, hkey]
    by_cases hsame : remoteKey = key
    · subst hsame
      rw [if_pos rfl, if_pos rfl, hfind, map_some]
    · rw [if_neg hsame, if_neg (Ne.symm hsame)]

section

variable (h : changeIssue remoteKey edit before = .ok (after, issue'))
include h

/-- Every issue is still there, and one of them is edited. -/
theorem find?_changeIssue {issue : RemoteJiraIssue}
    (hedit : ∀ issue, (edit issue).remoteKey = issue.remoteKey) {key : String}
    (hiss : before.find? key = some issue) :
    after.find? key = some (if key = remoteKey then edit issue else issue) := by
  obtain ⟨changed, hchanged, haft⟩ := changeIssue_eq_ok hedit h
  rw [haft]
  by_cases hkey : key = remoteKey
  · rw [hkey, hchanged] at hiss
    rw [if_pos hkey, if_pos hkey, some.inj hiss]
  · rw [if_neg hkey, if_neg hkey, hiss]

theorem isSome_find?_changeIssue (hedit : ∀ issue, (edit issue).remoteKey = issue.remoteKey)
    {key : String} (hkey : (before.find? key).isSome) : (after.find? key).isSome := by
  obtain ⟨issue, hiss⟩ := isSome_iff_exists.mp hkey
  exact isSome_of_eq_some (find?_changeIssue h hedit hiss)

end

theorem grows_changeIssue {edit : Instant → RemoteJiraIssue → RemoteJiraIssue}
    (hedit : ∀ now issue, (edit now issue).remoteKey = issue.remoteKey) :
    Grows fun remote now => changeIssue remoteKey (edit now) remote :=
  fun _ now _ _ h _ hkey => isSome_find?_changeIssue h (hedit now) hkey

variable {Inv : JiraWorld → Prop} {env : JiraEnv}

/-- What the calls of the adapter that write for an operation keep. -/
def WritesKeep (Inv : JiraWorld → Prop) (operationId : String) : Prop :=
  ∀ {α : Type} {change : JiraRemote → Instant → Except AdapterFailure (JiraRemote × α)},
    Grows change → Steward.Keeps Inv (adapterWrite operationId change)

/-- A creation is a call that writes, and inserts the issue that it returns. -/
theorem createIssue_eq_adapterWrite (operationId projectKey : String) (fields : JsonDict) :
    ∃ change, createIssue env operationId projectKey fields = adapterWrite operationId change ∧
      ∀ remote now remote' issue, change remote now = .ok (remote', issue) →
        remote.insert issue = some remote' := by
  refine ⟨_, rfl, fun remote now remote' issue h => ?_⟩
  cases hlabels : ((fields.lookup "labels").map JsonValue.iterate).getD (.ok []) with
  | error =>
    simp only [hlabels] at h
    cases h
  | ok labels =>
    simp only [hlabels] at h
    cases hins : remote.insert (newIssue env projectKey fields labels remote now) with
    | none =>
      simp only [hins] at h
      cases h
    | some =>
      simp only [hins] at h
      obtain ⟨rfl, rfl⟩ := ok_pair_inj h
      exact hins

section

variable {operationId projectKey : String} {fields : JsonDict}

theorem createIssue_keeps (hwr : WritesKeep Inv operationId) :
    Steward.Keeps Inv (createIssue env operationId projectKey fields) := by
  obtain ⟨change, hcr, hins⟩ := createIssue_eq_adapterWrite operationId projectKey fields
  rw [hcr]
  refine hwr fun remote now remote' issue h key hkey => ?_
  obtain ⟨found, hfd⟩ := isSome_iff_exists.mp hkey
  exact isSome_of_eq_some (Table.find?_insert_of_some (hins _ _ _ _ h) hfd)

/-- A creation that returns has inserted its issue. -/
theorem createIssue_eq_ok {issue : RemoteJiraIssue}
    (h : (createIssue env operationId projectKey fields).run world = (.ok (.ok issue), world')) :
    world.remote.insert issue = some world'.remote := by
  obtain ⟨change, hcr, hins⟩ := createIssue_eq_adapterWrite operationId projectKey fields
  rw [hcr] at h
  exact hins _ _ _ _ (adapterWrite_eq_ok h)

end

theorem addComment_keeps {operationId body : String} (hwr : WritesKeep Inv operationId) :
    Steward.Keeps Inv (addComment env operationId remoteKey body) := by
  refine .bind (hwr ?_) fun _ => .pure
  exact grows_changeIssue fun _ _ => rfl

/-- Every issue is still there, and its fields have the values that they had. -/
def Kept (before after : JiraRemote) : Prop :=
  ∀ key issue, before.find? key = some issue →
    ∃ issue', after.find? key = some issue' ∧
      ∀ field : RemoteField, field.HoldsIn issue → field.HoldsIn issue'

theorem Kept.trans {a b c : JiraRemote} (hab : Kept a b) (hbc : Kept b c) : Kept a c := by
  intro key issue h
  obtain ⟨issue₁, h₁, hflds₁⟩ := hab key issue h
  obtain ⟨issue₂, h₂, hflds₂⟩ := hbc key issue₁ h₁
  exact ⟨issue₂, h₂, fun field hfld => hflds₂ field (hflds₁ field hfld)⟩

/-- A change that keeps the fields of an issue keeps those of all. -/
theorem kept_of_changeIssue (h : changeIssue remoteKey edit before = .ok (after, issue'))
    (hedit : ∀ issue, (edit issue).remoteKey = issue.remoteKey)
    (hflds : ∀ issue (field : RemoteField), field.HoldsIn issue → field.HoldsIn (edit issue)) :
    Kept before after := by
  intro key issue hiss
  refine ⟨_, find?_changeIssue h hedit hiss, fun field hfld => ?_⟩
  split
  · exact hflds issue field hfld
  · exact hfld

/-- A link keeps the fields of the issues. -/
theorem kept_of_linkIssues {linkType outwardKey inwardKey : String} {u : Unit}
    (h : linkIssues linkType outwardKey inwardKey before = .ok (after, u)) : Kept before after := by
  obtain ⟨⟨remote₀, issue₀⟩, -, h⟩ := bind_eq_ok.mp h
  obtain ⟨⟨remote₁, issue₁⟩, hfst, h⟩ := bind_eq_ok.mp h
  have hkept := kept_of_changeIssue hfst (fun _ => rfl) fun _ field h => by cases field <;> exact h
  dsimp only at h
  split at h
  · obtain ⟨rfl, -⟩ := ok_pair_inj h
    exact hkept
  · obtain ⟨⟨remote₂, issue₂⟩, hsnd, h⟩ := bind_eq_ok.mp h
    obtain ⟨rfl, -⟩ := ok_pair_inj h
    exact hkept.trans
      (kept_of_changeIssue hsnd (fun _ => rfl) fun _ field h => by cases field <;> exact h)

theorem createLink_keeps {operationId linkType outwardKey inwardKey : String}
    (hwr : WritesKeep Inv operationId) :
    Steward.Keeps Inv (createLink operationId linkType outwardKey inwardKey) := by
  refine hwr fun remote now remote' u h key hkey => ?_
  obtain ⟨issue, hiss⟩ := isSome_iff_exists.mp hkey
  obtain ⟨issue', hiss', -⟩ := kept_of_linkIssues h key issue hiss
  exact isSome_of_eq_some hiss'

/-! ### Operations -/

section

variable (hkeyFor : ∀ localId, Session.Keeps Inv (storeCall (JiraSyncStore.remoteKeyFor localId)))

include hkeyFor

theorem mappedKey_keeps {localId : String} : Steward.Keeps Inv (mappedKey created localId) := by
  exact .ite .pure (.lift (hkeyFor localId))

theorem creationFields_keeps : Steward.Keeps Inv (creationFields env operation created) := by
  refine .ite (.bind (mappedKey_keeps hkeyFor) fun mapped => .bind (.lift ?_) fun mirror => ?_)
    .pure
  · exact fun _ hwd => hwd
  · dsimp only
    split
    · exact .pure
    · exact .ofExcept

theorem linkEnd_keeps {keyName localName : String} :
    Steward.Keeps Inv (linkEnd env operation created keyName localName) := by
  rw [linkEnd]
  split
  · exact .bind .ofExcept fun localId => mappedKey_keeps hkeyFor
  · exact .pure

/-- An operation keeps what the calls that it is made of keep. -/
theorem applyOperation_keeps (hmapping : ∀ localId remoteKey,
      Session.Keeps Inv (storeCall (putRemoteMapping localId remoteKey)))
    (hget : ∀ remoteKey, Steward.Keeps Inv (getIssue remoteKey))
    (hwr : WritesKeep Inv operation.operationId) :
    Steward.Keeps Inv (applyOperation env operation created) := by
  rw [applyOperation]
  split
  · refine .bind (creationFields_keeps hkeyFor) fun fields => .bind .ofExcept fun projectKey => ?_
    exact .bind (createIssue_keeps hwr) fun issue => .pure
  · refine .bind .ofExcept fun request => .bind (hwr ?_) fun issue => .pure
    exact grows_changeIssue fun now issue => issue.remoteKey_edited _ now
  · refine .bind .ofExcept fun request => .bind (hwr ?_) fun issue => .pure
    exact grows_changeIssue fun now issue => issue.remoteKey_edited _ now
  · refine .bind .ofExcept fun remoteKey => .bind .ofExcept fun body => ?_
    exact .bind (addComment_keeps hwr) fun _ => hget remoteKey
  · refine .bind (linkEnd_keeps hkeyFor) fun outwardKey =>
      .bind (linkEnd_keeps hkeyFor) fun inwardKey => ?_
    split
    · exact .bind .ofExcept fun linkType => .bind (createLink_keeps hwr) fun _ => .pure
    · exact .ofExcept
  · refine .bind .ofExcept fun localId => .bind .ofExcept fun remoteKey => ?_
    exact .bind (.lift (hmapping localId remoteKey)) fun _ => hget remoteKey
  · exact .pure
  · exact .ofExcept
  · exact .ofExcept

end

/-- What a computation notes is nothing, or one call that has returned as it has itself. -/
def Truthful (operationId : String) (x : Steward α) (world : JiraWorld) : Prop :=
  (x.run world).2.writes = world.writes ∨
    (x.run world).2.writes = world.writes ++ [⟨operationId, hasReturned (x.run world).1⟩]

/-- A computation that notes nothing. -/
def Silent (x : Steward α) : Prop := ∀ writes, Steward.Keeps (fun world => world.writes = writes) x

namespace Truthful

variable {operationId : String}

theorem of_silent {x : Steward α} (h : Silent x) (world : JiraWorld) :
    Truthful operationId x world :=
  .inl (h world.writes world rfl)

theorem silent_bind (h : Silent x) (hrest : ∀ b world, Truthful operationId (rest b) world)
    (world : JiraWorld) : Truthful operationId (x >>= rest) world := by
  have hsilent := h world.writes world rfl
  rcases hx : x.run world with ⟨error | ⟨error | b⟩, world₁⟩
  · rw [hx] at hsilent
    rw [Truthful, Steward.bind_of_error hx]
    exact .inl hsilent
  · rw [hx] at hsilent
    rw [Truthful, Steward.bind_of_failure hx]
    exact .inl hsilent
  · rw [hx] at hsilent
    have htail := hrest b world₁
    rw [Truthful, hsilent] at htail
    rw [Truthful, Steward.bind_of_ok hx]
    exact htail

/-- A computation that is truthful stays so when nothing that raises or notes follows. -/
theorem bind_returns {world : JiraWorld} (h : Truthful operationId x world)
    (hrest : ∀ b world₁, x.run world = (.ok (.ok b), world₁) →
      hasReturned ((rest b).run world₁).1 = true ∧ ((rest b).run world₁).2.writes = world₁.writes) :
    Truthful operationId (x >>= rest) world := by
  rw [Truthful] at h
  rcases hx : x.run world with ⟨error | ⟨error | b⟩, world₁⟩
  · rw [hx] at h
    rw [Truthful, Steward.bind_of_error hx]
    exact h
  · rw [hx] at h
    rw [Truthful, Steward.bind_of_failure hx]
    exact h
  · rw [hx] at h
    obtain ⟨hret, hwrs⟩ := hrest b world₁ hx
    rw [Truthful, Steward.bind_of_ok hx, hret, hwrs]
    exact h

theorem adapterWrite (world : JiraWorld) :
    Truthful operationId (adapterWrite operationId change) world := by
  obtain ⟨failure, remote, -, hrun⟩ | ⟨remote, a, -, hrun⟩ :=
    adapterWrite_cases operationId change world
  · rw [Truthful, hrun, hasReturned_raise]
    exact .inr rfl
  · rw [Truthful, hrun]
    exact .inr rfl

theorem createLink {linkType outwardKey inwardKey : String} (world : JiraWorld) :
    Truthful operationId (createLink operationId linkType outwardKey inwardKey) world :=
  Truthful.adapterWrite world

/-- A call of the adapter whose answer is handed on. -/
theorem adapterWrite_map {change : JiraRemote → Instant → Except AdapterFailure (JiraRemote × β)}
    {f : β → α} (world : JiraWorld) :
    Truthful operationId (do return f (← ProjectPipeline.adapterWrite operationId change))
      world :=
  (Truthful.adapterWrite world).bind_returns fun _ _ _ => ⟨rfl, rfl⟩

end Truthful

/-- Calls of the store note nothing. -/
theorem storeCall_silent (writes : List JiraWrite) :
    Session.Keeps (fun world => world.writes = writes) (storeCall block) :=
  storeCall_keeps (fun _ h => h) fun _ _ _ h _ => h

/-- An operation notes one call at most. But for a comment, which is read back after it is written,
the call has returned exactly when the operation has. -/
theorem applyOperation_truthful (hcmt : operation.operationType ≠ .addRemoteComment)
    (world : JiraWorld) :
    Truthful operation.operationId (applyOperation env operation created) world := by
  have hofExcept {β : Type} (result : Except PyError β) : Silent (Steward.ofExcept result) :=
    fun _ => .ofExcept
  rw [applyOperation]
  split
  · refine Truthful.silent_bind (fun _ => creationFields_keeps fun _ => storeCall_silent _)
      (fun fields => Truthful.silent_bind (hofExcept _) fun projectKey => ?_) world
    exact Truthful.adapterWrite_map
  · exact Truthful.silent_bind (hofExcept _) (fun request => Truthful.adapterWrite_map) world
  · exact Truthful.silent_bind (hofExcept _) (fun request => Truthful.adapterWrite_map) world
  · rename_i htype
    exact absurd htype hcmt
  · refine Truthful.silent_bind (fun _ => linkEnd_keeps fun _ => storeCall_silent _)
      (fun outwardKey => Truthful.silent_bind (fun _ => linkEnd_keeps fun _ => storeCall_silent _)
        fun inwardKey => ?_) world
    split
    · refine Truthful.silent_bind (hofExcept _) fun linkType world => ?_
      exact (Truthful.createLink world).bind_returns fun _ _ _ => ⟨rfl, rfl⟩
    · exact Truthful.of_silent (hofExcept _)
  · refine Truthful.of_silent (fun writes => ?_) world
    refine .bind .ofExcept fun localId => .bind .ofExcept fun remoteKey => ?_
    exact .bind (.lift (storeCall_silent writes)) fun _ => getIssue_keeps remoteKey fun _ h => h
  · exact Truthful.of_silent (fun _ => .pure) world
  · exact Truthful.of_silent (hofExcept _) world
  · exact Truthful.of_silent (hofExcept _) world

/-! ### Snapshots -/

theorem iterIssues_snd (world : JiraWorld) :
    (iterIssues.run world).2 = { world with replies := world.replies.tail } := by
  simp only [iterIssues, ExceptT.run, ExceptT.mk]
  split <;> rfl

theorem putMappings_keeps
    (hmapping : ∀ localId remoteKey,
      Session.Keeps Inv (storeCall (putRemoteMapping localId remoteKey)))
    (issues : List RemoteJiraIssue) : Session.Keeps Inv (putMappings issues) := by
  induction issues with
  | nil => exact .pure
  | cons issue _ ih =>
    simp only [putMappings]
    cases issue.localId with
    | none => exact ih
    | some localId => exact .bind (hmapping localId issue.remoteKey) fun _ => ih

section

variable (hreplies : ∀ world, Inv world → Inv { world with replies := world.replies.tail })
include hreplies

section

variable (hsnap : ∀ snapshot, Session.Keeps Inv (storeCall (putSnapshot snapshot)))
include hsnap

section

variable (hmapping : ∀ localId remoteKey, Session.Keeps Inv (storeCall (putRemoteMapping localId remoteKey)))
include hmapping

/-- A snapshot keeps what the calls that it is made of keep. -/
theorem captureRemoteSnapshot_keeps {projectKey : String} :
    Steward.Keeps Inv (captureRemoteSnapshot env projectKey) := by
  refine .bind (fun world h => ?_) fun issues => .bind .ofExcept fun snapshot => ?_
  · rw [iterIssues_snd]
    exact hreplies world h
  · refine .bind (.lift (hsnap snapshot)) fun _ => ?_
    exact .bind (.lift (putMappings_keeps hmapping snapshot.issues)) fun _ => .pure

theorem closingSnapshot_keeps {plan : JiraReconciliationPlan} {progress : ApplyProgress} :
    Session.Keeps Inv (closingSnapshot env plan progress) := by
  refine .ite (fun _ => .pure) fun _ => .bind ?_ fun snapshot => ?_
  · exact captureRemoteSnapshot_keeps hreplies hsnap hmapping
  · split <;> exact .pure

end

end

end

end

/-! ### Calls -/

/-- A call of the steward, an edit of the remote by other people, or a change of the local files. -/
inductive JiraRequest where
  | plan (policy : JiraReconciliationPolicy) (projectKey : String)
  | dryRun (plan : JiraReconciliationPlan) (actorId correlationId : String)
  | apply (plan : JiraReconciliationPlan) (intent : ActionIntent) (authorizationId : String)
  | editRemote (remote : JiraRemote)
  | editMirror (mirror : JiraMirror)

def JiraRequest.appliedPlan : JiraRequest → Option JiraReconciliationPlan
  | .apply planned _ _ => some planned
  | _ => none

/-- A request with the time at which it is made and the outcomes of the calls that it leads to. -/
structure JiraCall where
  request : JiraRequest
  now : Instant := 0
  storeFaults : List (Option PyError) := []
  replies : List AdapterReply := []

/-- The world in which a request is made. -/
def JiraCall.enter (call : JiraCall) (world : JiraWorld) : JiraWorld :=
  { world with now := call.now, storeFaults := call.storeFaults, replies := call.replies }

def JiraRequest.exec (env : JiraEnv) (world : JiraWorld) : JiraRequest → JiraWorld
  | .plan policy projectKey => ((stewardPlan env policy projectKey).run world).2
  | .dryRun planned actorId correlationId =>
    (stewardDryRun env planned actorId correlationId world).2
  | .apply planned intent authorizationId =>
    (stewardApply env planned intent authorizationId world).2
  | .editRemote remote => { world with remote }
  | .editMirror mirror => { world with mirror }

def JiraCall.exec (env : JiraEnv) (world : JiraWorld) (call : JiraCall) : JiraWorld :=
  call.request.exec env (call.enter world)

end ProjectPipeline
