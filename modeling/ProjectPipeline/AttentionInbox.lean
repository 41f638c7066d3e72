import ProjectPipeline.Runs
import ProjectPipeline.Table

/-!
# The Attention Inbox

`submit` merges an item into the open item of its cause, which the index `_dedupe` names, while
`acknowledge` and `resolve` rewrite an item in any state. An item that is not resolved is the one
in the index, so every cause has one at most, until a resolved item is acknowledged and is open
again, next to a later one (`acknowledge_reopens`).

## Main results

* `one_open_item`: a run in which no resolved item is acknowledged.
-/

namespace ProjectPipeline

inductive NotificationLevel where
  | informational | notice | attention | urgent | critical

def NotificationLevel.value : NotificationLevel → ℕ
  | informational => 0
  | notice => 1
  | attention => 2
  | urgent => 3
  | critical => 4

inductive InboxState where
  | opened | acknowledged | resolved
  deriving DecidableEq

/-- The fields that the broker reads or writes. -/
structure InboxItem where
  inboxId : String
  dedupeKey : String
  level : NotificationLevel
  criticalPath : Bool := false
  blockedTasks : ℕ := 0
  durationMinutes : ℕ := 0
  recoverableAutomatically : Bool := false
  operatorAlreadyAware : Bool := false
  priorityScore : ℕ := 0
  state : InboxState := .opened
  createdAtUtc : Instant
  acknowledgedAtUtc : Option Instant := none
  resolvedAtUtc : Option Instant := none
  inboxId_valid : 3 ≤ inboxId.length ∧ inboxId.length ≤ 191

def InboxItem.priority (item : InboxItem) : ℕ :=
  let score : ℤ := item.level.value * 100
  let score := score + if item.criticalPath then 50 else 0
  let score := score + min (item.blockedTasks * 10) 100
  let score := score + min (item.durationMinutes / 15) 40
  let score := score - if item.operatorAlreadyAware then 30 else 0
  let score := score - if item.recoverableAutomatically then 15 else 0
  score.toNat

structure AttentionNotificationBroker where
  items : Table String InboxItem InboxItem.inboxId := .empty
  dedupe : String → Option String := fun _ => none

namespace AttentionNotificationBroker

variable (s : AttentionNotificationBroker)

/-- `self._items[item.inbox_id] = item`. -/
def put (item : InboxItem) : AttentionNotificationBroker :=
  { s with items := (s.items.insert item).getD (s.items.replace item) }

/-- The item into which the next one of a cause is merged. -/
def previous? (dedupeKey : String) : Option InboxItem :=
  (s.dedupe dedupeKey).bind fun previousId =>
    if previousId = "" then none
    else (s.items.find? previousId).filter fun previous => previous.state ≠ .resolved

def adjusted (item : InboxItem) : InboxItem :=
  let adjusted := { item with priorityScore := item.priority }
  match s.previous? item.dedupeKey with
  | some previous =>
    { adjusted with
      inboxId := previous.inboxId
      createdAtUtc := previous.createdAtUtc
      inboxId_valid := previous.inboxId_valid }
  | none => adjusted

def submit (item : InboxItem) : InboxItem × AttentionNotificationBroker :=
  let adjusted := s.adjusted item
  (adjusted,
    { s.put adjusted with
      dedupe := Function.update s.dedupe adjusted.dedupeKey (some adjusted.inboxId) })

section

variable (inboxId : String)

def rewrite (update : InboxItem → InboxItem) :
    Except PyError InboxItem × AttentionNotificationBroker :=
  match s.items.find? inboxId with
  | none => (.error (.keyError inboxId), s)
  | some item => (.ok (update item), s.put (update item))

def acknowledge (now : Instant) :
    Except PyError InboxItem × AttentionNotificationBroker :=
  s.rewrite inboxId fun item => { item with state := .acknowledged, acknowledgedAtUtc := some now }

def resolve (now : Instant) :
    Except PyError InboxItem × AttentionNotificationBroker :=
  s.rewrite inboxId fun item => { item with state := .resolved, resolvedAtUtc := some now }

/-- The item with the identifier is about the cause, and it is not resolved. -/
def IsOpen (dedupeKey inboxId : String) : Prop :=
  ∃ item ∈ s.items.find? inboxId, item.dedupeKey = dedupeKey ∧ item.state ≠ .resolved

def IsResolved : Prop :=
  ∃ item ∈ s.items.find? inboxId, item.state = .resolved

end

/-- The index leads from a cause to its open items. -/
def Indexed : Prop :=
  ∀ dedupeKey inboxId, s.IsOpen dedupeKey inboxId → s.dedupe dedupeKey = some inboxId

instance (dedupeKey inboxId : String) : Decidable (s.IsOpen dedupeKey inboxId) :=
  inferInstanceAs (Decidable (∃ item ∈ s.items.find? inboxId, _))

instance (inboxId : String) : Decidable (s.IsResolved inboxId) :=
  inferInstanceAs (Decidable (∃ item ∈ s.items.find? inboxId, _))

variable {s} {s' : AttentionNotificationBroker} {item : InboxItem} {dedupeKey inboxId : String}

/-- An item is stored: if it is open the index leads to it, and still to the other open items. -/
theorem Indexed.put (h : s.Indexed) (hitems : s'.items = (s.put item).items)
    (hindex : item.state ≠ .resolved → s'.dedupe item.dedupeKey = some item.inboxId)
    (hoths : ∀ dedupeKey inboxId, s.IsOpen dedupeKey inboxId → inboxId ≠ item.inboxId →
      s'.dedupe dedupeKey = s.dedupe dedupeKey) : s'.Indexed := by
  rintro dedupeKey inboxId ⟨found, hfd, hkey, hst⟩
  rw [hitems, AttentionNotificationBroker.put, Table.find?_put, Option.mem_def] at hfd
  split at hfd
  · rename_i hid
    cases hfd
    rw [← hkey, ← hid]
    exact hindex hst
  · rename_i hid
    have hopen : s.IsOpen dedupeKey inboxId := ⟨found, hfd, hkey, hst⟩
    rw [hoths dedupeKey inboxId hopen (Ne.symm hid)]
    exact h dedupeKey inboxId hopen

/-- An item is stored, but not an open one in the place of a resolved one. -/
theorem IsResolved.put (h : s.IsResolved inboxId) (hitems : s'.items = (s.put item).items)
    (hkp : s.IsResolved item.inboxId → item.state = .resolved) : s'.IsResolved inboxId := by
  rw [IsResolved, hitems, AttentionNotificationBroker.put, Table.find?_put]
  split
  · rename_i hid
    exact ⟨item, rfl, hkp (hid ▸ h)⟩
  · exact h

/-- A new item has the identifier of the item into which it is merged, or its own. -/
theorem adjusted_fields (s : AttentionNotificationBroker) (item : InboxItem) :
    (s.adjusted item).dedupeKey = item.dedupeKey ∧ (s.adjusted item).inboxId =
      ((s.previous? item.dedupeKey).map InboxItem.inboxId).getD item.inboxId := by
  rw [adjusted]
  cases s.previous? item.dedupeKey <;> exact ⟨rfl, rfl⟩

/-- The open item of a cause takes the next one in. -/
theorem previous?_of_isOpen (h : s.Indexed) (hopen : s.IsOpen dedupeKey inboxId) :
    (s.previous? dedupeKey).map InboxItem.inboxId = some inboxId := by
  have hdedupe := h dedupeKey inboxId hopen
  obtain ⟨item, hitem, -, hst⟩ := hopen
  obtain ⟨-, rfl⟩ := Table.find?_eq_some_iff.mp hitem
  have hne : item.inboxId ≠ "" := by
    intro hemp
    have hlen := item.inboxId_valid.1
    rw [hemp] at hlen
    exact absurd hlen (by decide)
  rw [Option.mem_def] at hitem
  simp [previous?, hdedupe, hne, hitem, hst, Option.filter_some]

/-- A new item is not stored in the place of a resolved one. -/
theorem not_isResolved_adjusted (hnew : s.items.find? item.inboxId = none) :
    ¬ s.IsResolved (s.adjusted item).inboxId := by
  rintro ⟨found, hfd, hresolved⟩
  rw [(s.adjusted_fields item).2, Option.mem_def] at hfd
  cases hprevious : s.previous? item.dedupeKey with
  | none =>
    rw [hprevious, Option.map_none, Option.getD_none, hnew] at hfd
    cases hfd
  | some =>
    obtain ⟨previousId, -, hopen⟩ := Option.bind_eq_some_iff.mp hprevious
    obtain ⟨-, hopen⟩ := Option.ite_none_left_eq_some.mp hopen
    obtain ⟨hstd, hst⟩ := Option.filter_eq_some_iff.mp hopen
    obtain ⟨-, rfl⟩ := Table.find?_eq_some_iff.mp hstd
    rw [hprevious, Option.map_some, Option.getD_some, hstd] at hfd
    cases hfd
    exact of_decide_eq_true hst hresolved

end AttentionNotificationBroker

open AttentionNotificationBroker

inductive InboxCall where
  | submit (item : InboxItem)
  | acknowledge (inboxId : String) (now : Instant)
  | resolve (inboxId : String) (now : Instant)

namespace InboxCall

variable (s : AttentionNotificationBroker)

def step : InboxCall → AttentionNotificationBroker
  | submit item => (s.submit item).2
  | acknowledge inboxId now => (s.acknowledge inboxId now).2
  | resolve inboxId now => (s.resolve inboxId now).2

/-- An item that is submitted is open and its identifier is new. -/
def SubmitsNew : InboxCall → Prop
  | submit item => item.state = .opened ∧ s.items.find? item.inboxId = none
  | _ => True

/-- An item that is acknowledged is not resolved. -/
def AcknowledgesOpen : InboxCall → Prop
  | acknowledge inboxId _ => ¬ s.IsResolved inboxId
  | _ => True

instance : (call : InboxCall) → Decidable (SubmitsNew s call)
  | submit item => decidable_of_iff (item.state = .opened ∧ (s.items.find? item.inboxId).isNone)
      (and_congr_right fun _ => Option.isNone_iff_eq_none)
  | acknowledge .. | resolve .. => .isTrue trivial

instance : (call : InboxCall) → Decidable (AcknowledgesOpen s call)
  | acknowledge inboxId _ => inferInstanceAs (Decidable (¬ s.IsResolved inboxId))
  | submit _ | resolve .. => .isTrue trivial

variable {s}

theorem keeps_step {call : InboxCall} (h : s.Indexed) (hnew : call.SubmitsNew s)
    (hopen : call.AcknowledgesOpen s) : (call.step s).Indexed ∧
      ∀ inboxId, s.IsResolved inboxId → (call.step s).IsResolved inboxId := by
  have hrewrite : ∀ inboxId update, (∀ item ∈ s.items.find? inboxId,
      (update item).inboxId = inboxId ∧ (update item).dedupeKey = item.dedupeKey ∧
        (item.state = .resolved → (update item).state = .resolved)) →
      (s.rewrite inboxId update).2.Indexed ∧
        ∀ other, s.IsResolved other → (s.rewrite inboxId update).2.IsResolved other := by
    intro inboxId update hup
    rw [rewrite]
    cases hfind : s.items.find? inboxId with
    | none => exact ⟨h, fun _ hresolved => hresolved⟩
    | some item =>
      obtain ⟨hid, hkey, hst⟩ := hup item hfind
      refine ⟨h.put rfl (fun hne => ?_) fun _ _ _ _ => rfl, fun _ hresolved => hresolved.put rfl ?_⟩
      · rw [hkey, hid]
        exact h _ _ ⟨item, hfind, rfl, fun hitem => hne (hst hitem)⟩
      · rintro ⟨found, hfd, hfoundState⟩
        rw [hid, hfind] at hfd
        exact hst (Option.some.inj hfd ▸ hfoundState)
  cases call with
  | submit item =>
    obtain ⟨hkey, hid⟩ := s.adjusted_fields item
    refine ⟨h.put rfl (fun _ => Function.update_self ..) fun dedupeKey inboxId hoth hne => ?_,
      fun _ hresolved => hresolved.put rfl fun hold => absurd hold (not_isResolved_adjusted hnew.2)⟩
    -- An open item of the same cause would have taken the new one in.
    refine Function.update_of_ne (fun hsame => hne ?_) _ _
    rw [hkey] at hsame
    rw [hid, ← hsame, previous?_of_isOpen h hoth, Option.getD_some]
  | acknowledge inboxId =>
    refine hrewrite inboxId _ fun item hitem => ⟨(Table.find?_eq_some_iff.mp hitem).2, rfl, ?_⟩
    exact fun hst => absurd ⟨item, hitem, hst⟩ hopen
  | resolve inboxId =>
    exact hrewrite inboxId _ fun item hitem =>
      ⟨(Table.find?_eq_some_iff.mp hitem).2, rfl, fun _ => rfl⟩

theorem keeps_run {calls : List InboxCall} (h : s.Indexed)
    (hcalls : Along (fun s c => SubmitsNew s c ∧ AcknowledgesOpen s c) step s calls) :
    (runCalls step s calls).Indexed ∧
      ∀ inboxId, s.IsResolved inboxId → (runCalls step s calls).IsResolved inboxId := by
  induction calls generalizing s with
  | nil => exact ⟨h, fun _ hresolved => hresolved⟩
  | cons _ _ ih =>
    obtain ⟨hindexed, hstep⟩ := keeps_step h hcalls.1.1 hcalls.1.2
    obtain ⟨hend, hrest⟩ := ih hindexed hcalls.2
    exact ⟨hend, fun inboxId hresolved => hrest inboxId (hstep inboxId hresolved)⟩

end InboxCall

/-- **One open item for each cause.** After calls that submit new items only and acknowledge no
resolved one, a cause has one item at most that is not resolved, and what was resolved on the way
still is. -/
theorem one_open_item (earlier later : List InboxCall)
    (hnew : Along InboxCall.SubmitsNew InboxCall.step {} (earlier ++ later))
    (hopen : Along InboxCall.AcknowledgesOpen InboxCall.step {} (earlier ++ later)) :
    let s := runCalls InboxCall.step {} earlier
    let s' := runCalls InboxCall.step {} (earlier ++ later)
    (∀ dedupeKey inboxId inboxId', s'.IsOpen dedupeKey inboxId → s'.IsOpen dedupeKey inboxId' →
      inboxId = inboxId') ∧ ∀ inboxId, s.IsResolved inboxId → s'.IsResolved inboxId := by
  have hsta : Indexed {} := fun _ _ ⟨_, hitem, _⟩ => nomatch hitem
  obtain ⟨hearlier, hlat⟩ := (hnew.and hopen).of_append
  obtain ⟨hend, hresolved⟩ := InboxCall.keeps_run (InboxCall.keeps_run hsta hearlier).1 hlat
  rw [← runCalls_append] at hend hresolved
  refine ⟨fun dedupeKey inboxId inboxId' h h' => ?_, hresolved⟩
  have hsame := (hend _ _ h).symm.trans (hend _ _ h')
  exact Option.some.inj hsame

def diskItem (inboxId : String) (h : 3 ≤ inboxId.length ∧ inboxId.length ≤ 191) : InboxItem :=
  { inboxId, dedupeKey := "disk-full", level := .urgent, createdAtUtc := 0, inboxId_valid := h }

/-- It is resolved, and the disk is full again. -/
def diskCalls : List InboxCall :=
  [.submit (diskItem "item-1" (by decide)), .resolve "item-1" 1,
    .submit (diskItem "item-2" (by decide))]

theorem acknowledge_reopens :
    let s := runCalls InboxCall.step {} (diskCalls ++ [.acknowledge "item-1" 2])
    Along InboxCall.SubmitsNew InboxCall.step {} (diskCalls ++ [.acknowledge "item-1" 2]) ∧
      (runCalls InboxCall.step {} diskCalls).IsResolved "item-1" ∧ ¬ s.IsResolved "item-1" ∧
      s.IsOpen "disk-full" "item-1" ∧ s.IsOpen "disk-full" "item-2" := by
  decide

theorem one_open_item_disk :
    let s := runCalls InboxCall.step {} (diskCalls ++ [.acknowledge "item-2" 2])
    s.IsOpen "disk-full" "item-2" ∧ s.IsResolved "item-1" :=
  ⟨by decide, (one_open_item diskCalls [.acknowledge "item-2" 2] (by decide) (by decide)).2 _
    (by decide)⟩

end ProjectPipeline
