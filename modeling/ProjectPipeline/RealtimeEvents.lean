import ProjectPipeline.Runs

/-!
# Events for a Live Subscriber

The broker of `command_center/realtime.py` numbers the events that it is given and keeps the newest
ones. `publish` numbers an event and copies the set of the registered queues under the lock, and
puts the event into these queues when it has released the lock. `subscribe` yields a page of the
kept events, and registers a queue when the page has been consumed.

The system is a broker, any number of threads that publish, and one subscriber. Each step is one
locked block, one `put_nowait`, or what the generator does up to its next `yield` or `await`. What
is published while the subscriber consumes its page is lost to it, and so is what does not fit in
the page.

## Main results

* `RealtimeSystem.Inv.step`: what has been received, what waits, and what is about to be put.
* `received_in_order`: a subscriber that is not overtaken receives every event once, in order.
-/

namespace ProjectPipeline

variable {β : Type}

/-! ### The broker -/

/-- The number of an event, which the broker assigns, and the rest of it. -/
structure EventEnvelope (β : Type) where
  sequence : ℕ
  content : β

structure TimelinePage (β : Type) where
  afterSequence : ℤ
  nextSequence : ℤ
  hasMore : Bool
  events : List (EventEnvelope β)

/-- The events after a sequence number. -/
def eventsAfter (afterSequence : ℤ) (events : List (EventEnvelope β)) : List (EventEnvelope β) :=
  events.filter fun x => afterSequence < x.sequence

/-- `page`, of the kept events. -/
def timelinePage (events : List (EventEnvelope β)) (afterSequence limit : ℤ) :
    Except PyError (TimelinePage β) := do
  raiseIf (afterSequence < 0 ∨ ¬ (1 ≤ limit ∧ limit ≤ 1000))
    (.valueError "invalid replay cursor or limit")
  let matching := eventsAfter afterSequence events
  let page := matching.take limit.toNat
  return {
    afterSequence
    nextSequence := (page.getLast?.map fun x => (x.sequence : ℤ)).getD afterSequence
    hasMore := limit < matching.length
    events := page }

/-- The subscriber has not started, yields the rest of its page, or has registered its queue. -/
inductive SubscriberState (β : Type) where
  | idle
  | replaying (page : List (EventEnvelope β))
  | listening (queue : List (EventEnvelope β))

namespace SubscriberState

def isIdle : SubscriberState β → Bool
  | idle => true
  | _ => false

def isListening : SubscriberState β → Bool
  | listening _ => true
  | _ => false

/-- The events that the subscriber has been handed and has not consumed. -/
def pending : SubscriberState β → List (EventEnvelope β)
  | idle => []
  | replaying events | listening events => events

/-- `put_nowait`, where a full queue drops the event. A queue without a positive size is never
full. -/
def put (queueSize : ℤ) (event : EventEnvelope β) : SubscriberState β → SubscriberState β
  | listening queue =>
    if 0 < queueSize ∧ queueSize ≤ queue.length then listening queue
    else listening (queue ++ [event])
  | other => other

end SubscriberState

/-- The arguments of the constructor and of `subscribe`. -/
structure Subscription where
  retention : ℕ
  afterSequence : ℤ
  queueSize : ℤ

/-- The broker, the `publish` calls that have left the lock, each with whether it has seen the queue
of the subscriber, and the subscriber. `received` and `published` record what the subscriber has
consumed and what has been numbered. -/
structure RealtimeSystem (β : Type) where
  events : List (EventEnvelope β) := []
  nextSequence : ℕ := 1
  publishing : List (EventEnvelope β × Bool) := []
  subscriber : SubscriberState β := .idle
  received : List (EventEnvelope β) := []
  published : List (EventEnvelope β) := []

/-- The steps of the threads that publish, and of the subscriber. -/
inductive RealtimeStep (β : Type) where
  | publish (content : β)
  | put (call : ℕ)
  | subscribe
  | next
  | register
  | get

variable (b : Subscription) (s : RealtimeSystem β)

/-- One step of the system. A step that has to wait, or that raises, is none. -/
def Subscription.step : RealtimeStep β → Option (RealtimeSystem β)
  | .publish content =>
    let assigned := ⟨s.nextSequence, content⟩
    some { s with
      nextSequence := s.nextSequence + 1
      events := (s.events ++ [assigned]).rtake b.retention
      publishing := s.publishing ++ [(assigned, s.subscriber.isListening)]
      published := s.published ++ [assigned] }
  | .put call => s.publishing[call]?.map fun (event, registered) => { s with
      publishing := s.publishing.eraseIdx call
      subscriber := if registered then s.subscriber.put b.queueSize event else s.subscriber }
  | .subscribe =>
    match s.subscriber with
    | .idle => (timelinePage s.events b.afterSequence 1000).toOption.map fun page =>
        { s with subscriber := .replaying page.events }
    | _ => none
  | .next =>
    match s.subscriber with
    | .replaying (event :: page) =>
      some { s with subscriber := .replaying page, received := s.received ++ [event] }
    | _ => none
  | .register =>
    match s.subscriber with
    | .replaying [] => some { s with subscriber := .listening [] }
    | _ => none
  | .get =>
    match s.subscriber with
    | .listening (event :: queue) =>
      some { s with subscriber := .listening queue, received := s.received ++ [event] }
    | _ => none

/-- The events that calls of `publish` are about to put into the queue of the subscriber. -/
def RealtimeSystem.handed : List (EventEnvelope β) := (s.publishing.filter (·.2)).map (·.1)

/-- The step exceeds neither the retention nor the queue. -/
def Subscription.Fits : RealtimeStep β → Prop
  | .publish _ => s.published.length < b.retention
  | .put _ => ¬ (0 < b.queueSize ∧ b.queueSize ≤ s.subscriber.pending.length)
  | _ => True

/-- The step leaves nothing out: what follows the cursor fits in the page and is not published while
the page is consumed, the cursor is not ahead of what the queue is given, and events are put in the
order of their numbers. -/
def Subscription.Follows : RealtimeStep β → Prop
  | .publish _ => s.subscriber.isIdle = false →
    (s.subscriber.isListening = true ↔ b.afterSequence < s.nextSequence)
  | .put call => ∀ earlier ∈ s.publishing.take call, earlier.2 = false
  | .subscribe => (eventsAfter b.afterSequence s.events).length ≤ 1000
  | _ => True

instance : ∀ e, Decidable (b.Fits s e)
  | .publish _ => inferInstanceAs (Decidable (_ < _))
  | .put _ => inferInstanceAs (Decidable (¬ _))
  | .subscribe | .next | .register | .get => isTrue trivial

instance : ∀ e, Decidable (b.Follows s e)
  | .publish _ => inferInstanceAs (Decidable (_ → _))
  | .put _ => inferInstanceAs (Decidable (∀ _ ∈ _, _))
  | .subscribe => inferInstanceAs (Decidable (_ ≤ _))
  | .next | .register | .get => isTrue trivial

/-! ### What the subscriber gets -/

variable {b : Subscription} {s : RealtimeSystem β}

/-- Nothing has been dropped, the numbers count from 1, and what the subscriber has received, what
waits for it and what is about to be put make up what follows the cursor, in order. -/
structure RealtimeSystem.Inv (b : Subscription) (s : RealtimeSystem β) : Prop where
  numbers : s.published.map EventEnvelope.sequence = List.range' 1 s.published.length
  next : s.nextSequence = s.published.length + 1
  kept : s.events = s.published
  quiet : s.subscriber.isListening = false → s.handed = []
  fresh : s.subscriber.isIdle = true → s.received = []
  complete : s.subscriber.isIdle = false →
    s.received ++ s.subscriber.pending ++ s.handed = eventsAfter b.afterSequence s.published

namespace RealtimeSystem

theorem Inv.initial : Inv b ({} : RealtimeSystem β) where
  numbers := rfl
  next := rfl
  kept := rfl
  quiet _ := rfl
  fresh _ := rfl
  complete h := nomatch h

/-- The call that puts its event is the first of those that are about to. -/
theorem handed_of_first {call : ℕ} {event : EventEnvelope β} {registered : Bool}
    (hcall : s.publishing[call]? = some (event, registered))
    (hfst : ∀ earlier ∈ s.publishing.take call, earlier.2 = false) :
    s.handed = (if registered then [event] else []) ++
      ((s.publishing.eraseIdx call).filter (·.2)).map (·.1) := by
  obtain ⟨hlt, hget⟩ := List.getElem?_eq_some_iff.mp hcall
  have hsplit : s.publishing =
      s.publishing.take call ++ (event, registered) :: s.publishing.drop (call + 1) := by
    rw [← hget, List.getElem_cons_drop, List.take_append_drop]
  have hnone : (s.publishing.take call).filter (·.2) = [] := by
    rw [List.filter_eq_nil_iff]
    intro earlier hearlier
    simp [hfst earlier hearlier]
  rw [handed, List.eraseIdx_eq_take_drop_succ, List.filter_append, hnone]
  conv_lhs => rw [hsplit]
  cases registered <;> simp [hnone]

variable {s' : RealtimeSystem β}

/-- An event is published: to the queue if it is registered, and this is so if the event follows
the cursor. -/
theorem Inv.publish (h : Inv b s) {content : β} (hfits : b.Fits s (.publish content))
    (hfollows : b.Follows s (.publish content))
    (hstep : b.step s (.publish content) = some s') : Inv b s' := by
  cases hstep
  have hlt : s.published.length < b.retention := hfits
  have hlen : (s.events ++ [(⟨s.nextSequence, content⟩ : EventEnvelope β)]).length ≤
      b.retention := by
    simpa [h.kept, Nat.succ_le_iff] using hlt
  refine ⟨?_, ?_, ?_, fun hqt => ?_, h.fresh, fun hidle => ?_⟩
  · simp [h.numbers, h.next, List.range'_1_concat, Nat.add_comm 1]
  · simp [h.next]
  · change (s.events ++ [_]).rtake b.retention = s.published ++ [_]
    rw [List.rtake, Nat.sub_eq_zero_of_le hlen, List.drop_zero, h.kept]
  · have hnone := h.quiet hqt
    simp only [handed] at hnone ⊢
    simp [List.filter_append, hnone, hqt]
  · have hall := h.complete hidle
    have hcursor := hfollows hidle
    simp only [handed, eventsAfter] at hall ⊢
    by_cases hlistening : s.subscriber.isListening = true
    · simp [List.filter_append, ← hall, hlistening, hcursor.mp hlistening]
    · simp [List.filter_append, ← hall, hlistening, mt hcursor.mpr hlistening]

/-- An event is put behind those that wait. -/
theorem Inv.put (h : Inv b s) {call : ℕ} (hfits : b.Fits s (.put call))
    (hfollows : b.Follows s (.put call)) (hstep : b.step s (.put call) = some s') : Inv b s' := by
  obtain ⟨⟨event, registered⟩, hcall, rfl⟩ := Option.map_eq_some_iff.mp hstep
  have hhanded := handed_of_first hcall hfollows
  cases registered with
  | false =>
    refine ⟨h.numbers, h.next, h.kept, fun hqt => hhanded.symm.trans (h.quiet hqt), h.fresh,
      fun hidle => ?_⟩
    rw [← h.complete hidle, hhanded]
    rfl
  | true =>
    -- The call has seen the queue, so the subscriber listens.
    rcases s with ⟨events, nextSequence, publishing, _ | page | queue, received, published⟩
    · exact absurd (hhanded ▸ h.quiet rfl) (by simp)
    · exact absurd (hhanded ▸ h.quiet rfl) (by simp)
    · have hput : (SubscriberState.listening queue).put b.queueSize event =
          .listening (queue ++ [event]) := if_neg hfits
      refine ⟨h.numbers, h.next, h.kept, fun hqt => ?_, fun hidle => ?_, fun _ => ?_⟩
      · simp [hput, SubscriberState.isListening] at hqt
      · simp [hput, SubscriberState.isIdle] at hidle
      · rw [← h.complete rfl, hhanded]
        simp [hput, SubscriberState.pending, handed]

/-- Every step keeps the invariant. -/
theorem Inv.step (h : Inv b s) {e : RealtimeStep β} (hfits : b.Fits s e) (hfollows : b.Follows s e) (hstep : b.step s e = some s') :
    Inv b s' := by
  cases e with
  | publish => exact h.publish hfits hfollows hstep
  | put => exact h.put hfits hfollows hstep
  | subscribe =>
    rcases s with ⟨events, nextSequence, publishing, _ | page | queue, received, published⟩
    · obtain ⟨page, hpage, rfl⟩ := Option.map_eq_some_iff.mp hstep
      obtain ⟨_, -, hpage⟩ := bind_eq_ok.mp (toOption_eq_some.mp hpage)
      cases hpage
      refine ⟨h.numbers, h.next, h.kept, fun _ => h.quiet rfl, nofun, fun _ => ?_⟩
      have hkept : events = published := h.kept
      have hfr : received = [] := h.fresh rfl
      have hnone : (publishing.filter (·.2)).map (·.1) = [] := h.quiet rfl
      change received ++ (eventsAfter b.afterSequence events).take 1000 ++
        (publishing.filter (·.2)).map (·.1) = eventsAfter b.afterSequence published
      simp [hfr, hnone, ← hkept, List.take_of_length_le hfollows]
    · cases hstep
    · cases hstep
  | next =>
    rcases s with ⟨events, nextSequence, publishing, _ | (_ | ⟨event, page⟩) | queue, received,
      published⟩
    · cases hstep
    · cases hstep
    · cases hstep
      refine ⟨h.numbers, h.next, h.kept, h.quiet, nofun, fun _ => ?_⟩
      simpa [SubscriberState.pending, handed] using h.complete rfl
    · cases hstep
  | register =>
    rcases s with ⟨events, nextSequence, publishing, _ | (_ | ⟨event, page⟩) | queue, received,
      published⟩
    · cases hstep
    · cases hstep
      exact ⟨h.numbers, h.next, h.kept, nofun, nofun, fun _ => h.complete rfl⟩
    · cases hstep
    · cases hstep
  | get =>
    rcases s with ⟨events, nextSequence, publishing, _ | page | _ | ⟨event, queue⟩, received,
      published⟩
    · cases hstep
    · cases hstep
    · cases hstep
    · cases hstep
      refine ⟨h.numbers, h.next, h.kept, nofun, nofun, fun _ => ?_⟩
      simpa [SubscriberState.pending, handed] using h.complete rfl

end RealtimeSystem

/-- A subscriber that has consumed everything it was handed has received exactly the events that
follow its cursor, each once and in the order of their numbers, in every run without a lack of room
whose steps leave nothing out. -/
theorem received_in_order {steps : List (RealtimeStep β)}
    (hrun : Path b.step (fun s e => b.Fits s e ∧ b.Follows s e) {} steps s)
    (hstarted : s.subscriber.isIdle = false) (hconsumed : s.subscriber.pending = [])
    (hret : s.handed = []) :
    s.received = eventsAfter b.afterSequence s.published ∧
      s.received.Pairwise fun x y => x.sequence < y.sequence := by
  have hinv : s.Inv b :=
    hrun.invariant (fun hs hok hstep => hs.step hok.1 hok.2 hstep) .initial
  have hreceived : s.received = eventsAfter b.afterSequence s.published := by
    simpa [hconsumed, hret] using hinv.complete hstarted
  refine ⟨hreceived, ?_⟩
  have hsorted : (s.published.map EventEnvelope.sequence).Pairwise (· < ·) := by
    rw [hinv.numbers]
    exact List.pairwise_lt_range'
  rw [hreceived]
  exact (List.pairwise_map.mp hsorted).filter _

/-- One event is in the page, one is put into the queue. -/
theorem received_in_order_two :
    let b : Subscription := ⟨10, 0, 256⟩
    let steps : List (RealtimeStep String) :=
      [.publish "a", .put 0, .subscribe, .next, .register, .publish "b", .put 0, .get]
    ∃ s, Path b.step (fun s e => b.Fits s e ∧ b.Follows s e) {} steps s ∧
      s.received = [⟨1, "a"⟩, ⟨2, "b"⟩] ∧
      s.received = eventsAfter b.afterSequence s.published ∧
      s.received.Pairwise fun x y => x.sequence < y.sequence := by
  intro b steps
  have hrun : Path b.step (fun s e => b.Fits s e ∧ b.Follows s e) {} steps _ :=
    Path.of_replay (show replay b.step _ {} steps = some _ from rfl)
  exact ⟨_, hrun, rfl, received_in_order hrun rfl rfl rfl⟩

/-- The second event is published while the subscriber consumes its page. The subscriber has
consumed everything and does not have it. -/
theorem event_lost :
    let b : Subscription := ⟨10, 0, 256⟩
    let steps : List (RealtimeStep String) :=
      [.publish "a", .put 0, .subscribe, .next, .publish "b", .put 0, .register]
    ∃ s, Path b.step b.Fits {} steps s ∧
      s.subscriber.isIdle = false ∧ s.subscriber.pending = [] ∧ s.handed = [] ∧
      s.published = [⟨1, "a"⟩, ⟨2, "b"⟩] ∧ s.received = [⟨1, "a"⟩] := by
  intro b steps
  have hrun : Path b.step b.Fits {} steps _ :=
    Path.of_replay (show replay b.step _ {} steps = some _ from rfl)
  exact ⟨_, hrun, rfl, rfl, rfl, rfl, rfl⟩

end ProjectPipeline
