import ProjectPipeline.Python

/-!
# Runs Against a Clock

The stores of this development are driven by calls that carry the time `now` at which
they are made. A record counts only while it has not expired, so what a store guarantees
depends on the time at which it is looked at, and time passing is a step of its own.

A `ClockedInvariant` is a family `Inv t s`, to be read "the state `s` is good at time
`t`". It has to survive the passing of time and every call made at its own time; it then
holds after every run whose clock does not go back, at every time from the last call on.
Calls may be restricted by a condition `ok s c` on the state they are made in.

A `Trail` is the history of a state machine, to reason backwards from the state that it has
reached. The last section is about interleavings. A system of several clients moves by events,
`step s e` being `none` when the event cannot happen in `s`; a `Path` is a run whose events
all can happen and meet a condition on the state they happen in.

## Main results

* `ClockedInvariant.run`: the induction over a whole run of calls.
* `Path.invariant`: the induction over a path.
-/

namespace ProjectPipeline

open List

variable {σ γ : Type}

/-! ### Runs -/

section

variable (step : σ → γ → σ) (s : σ)

/-- The state after a sequence of calls. -/
def runCalls (calls : List γ) : σ := calls.foldl step s

@[simp] theorem runCalls_nil : runCalls step s [] = s := rfl

theorem runCalls_append (earlier later : List γ) :
    runCalls step s (earlier ++ later) = runCalls step (runCalls step s earlier) later :=
  foldl_append

theorem runCalls_concat (calls : List γ) (c : γ) :
    runCalls step s (calls ++ [c]) = step (runCalls step s calls) c :=
  foldl_concat step s c calls

@[simp] theorem runCalls_cons (c : γ) (calls : List γ) :
    runCalls step s (c :: calls) = runCalls step (step s c) calls := rfl

end

/-- Every call of the run meets `ok` in the state in which it is made. -/
def Along (ok : σ → γ → Prop) (step : σ → γ → σ) : σ → List γ → Prop
  | _, [] => True
  | s, c :: calls => ok s c ∧ Along ok step (step s c) calls

instance Along.decidable (ok : σ → γ → Prop) [∀ s c, Decidable (ok s c)] (step : σ → γ → σ) :
    ∀ s calls, Decidable (Along ok step s calls)
  | _, [] => isTrue trivial
  | s, c :: calls =>
    have := Along.decidable ok step (step s c) calls
    inferInstanceAs (Decidable (ok s c ∧ Along ok step (step s c) calls))

variable {ok : σ → γ → Prop} {step : σ → γ → σ}

/-- A condition that the calls of a run meet in every state is met along it. -/
theorem Along.of_mem {ok : γ → Prop} {calls : List γ} (h : ∀ c ∈ calls, ok c) (s : σ) :
    Along (fun _ => ok) step s calls := by
  induction calls generalizing s with
  | nil => trivial
  | cons c _ ih =>
    rw [forall_mem_cons] at h
    exact ⟨h.1, ih h.2 (step s c)⟩

variable {calls : List γ} {ok' : σ → γ → Prop}

/-- A condition that follows from another one is met where that is. -/
theorem Along.imp (himp : ∀ s c, ok s c → ok' s c) {s : σ}
    (h : Along ok step s calls) : Along ok' step s calls := by
  induction calls generalizing s with
  | nil => trivial
  | cons c _ ih => exact ⟨himp s c h.1, ih h.2⟩

/-- Two conditions that are met along a run are met together. -/
theorem Along.and {s : σ} (h : Along ok step s calls)
    (h' : Along ok' step s calls) : Along (fun s c => ok s c ∧ ok' s c) step s calls := by
  induction calls generalizing s with
  | nil => trivial
  | cons _ _ ih => exact ⟨⟨h.1, h'.1⟩, ih h.2 h'.2⟩

/-- A run is a first part and the rest. -/
theorem Along.of_append {s : σ} {earlier later : List γ} (h : Along ok step s (earlier ++ later)) :
    Along ok step s earlier ∧ Along ok step (runCalls step s earlier) later := by
  induction earlier generalizing s with
  | nil => exact ⟨trivial, h⟩
  | cons _ _ ih =>
    obtain ⟨hearlier, hlat⟩ := ih h.2
    exact ⟨⟨h.1, hearlier⟩, hlat⟩

/-- What every call that meets the condition keeps holds after the run. -/
theorem Along.invariant {Inv : σ → Prop} (hinv : ∀ {s c}, Inv s → ok s c → Inv (step s c)) {s : σ}
    (h : Along ok step s calls) (hs : Inv s) : Inv (runCalls step s calls) := by
  induction calls generalizing s with
  | nil => exact hs
  | cons _ _ ih => exact ih h.2 (hinv hs h.1)

/-- The clock of the calls does not go back. -/
def ClockOrdered (now : γ → Instant) (calls : List γ) : Prop :=
  (calls.map now).Pairwise (· ≤ ·)

instance (now : γ → Instant) (calls : List γ) : Decidable (ClockOrdered now calls) :=
  inferInstanceAs (Decidable (List.Pairwise _ _))

/-- An invariant of states at times: kept while time passes, and by every call that meets
`ok`, at the time of the call. -/
structure ClockedInvariant (ok : σ → γ → Prop) (step : σ → γ → σ) (now : γ → Instant)
    (Inv : Instant → σ → Prop) : Prop where
  later : ∀ {t t' s}, t ≤ t' → Inv t s → Inv t' s
  step : ∀ {s c}, ok s c → Inv (now c) s → Inv (now c) (step s c)

/-- A clocked invariant holds after every run, at every time from its last call on. The
induction carries a time `t₀` that no call precedes. -/
theorem ClockedInvariant.run {now : γ → Instant} {Inv : Instant → σ → Prop}
    (hinv : ClockedInvariant ok step now Inv) {t₀ t : Instant} {s : σ} (h : Inv t₀ s) (ht : t₀ ≤ t)
    (hsta : ∀ c ∈ calls, t₀ ≤ now c) (hclk : ClockOrdered now calls) (hend : ∀ c ∈ calls, now c ≤ t)
    (hok : Along ok step s calls) :
    Inv t (runCalls step s calls) := by
  induction calls generalizing t₀ s with
  | nil => exact hinv.later ht h
  | cons c _ ih =>
    have hc : t₀ ≤ now c := hsta c mem_cons_self
    have hstep : Inv (now c) (step s c) := hinv.step hok.1 (hinv.later hc h)
    obtain ⟨hhead, htail⟩ := pairwise_cons.mp hclk
    refine ih hstep (hend c mem_cons_self) ?_ htail ?_ hok.2
    · intro d hd
      exact hhead (now d) (mem_map_of_mem hd)
    · intro d hd
      exact hend d (mem_cons_of_mem c hd)

/-! ### Histories of a state machine -/

/-- The transitions that lead from the `initial` state of a machine to another one, oldest
first. -/
inductive Trail (allowed : σ → σ → Prop) (initial : σ) : List (σ × σ) → σ → Prop
  | nil : Trail allowed initial [] initial
  | snoc {edges : List (σ × σ)} {a b : σ} (before : Trail allowed initial edges a)
      (step : allowed a b) : Trail allowed initial (edges ++ [(a, b)]) b

/-- A trail that leads elsewhere ends in a transition into that state. -/
theorem Trail.exists_last {allowed : σ → σ → Prop} {initial b : σ} {edges : List (σ × σ)}
    (h : Trail allowed initial edges b) (hne : b ≠ initial) :
    ∃ a before, allowed a b ∧ Trail allowed initial before a ∧ edges = before ++ [(a, b)] := by
  cases h with
  | nil => exact absurd rfl hne
  | snoc before step => exact ⟨_, _, step, before, rfl⟩

/-! ### Interleavings -/

/-- A run of events from one state to another: every event can happen, and meets `ok` in
the state in which it happens. -/
inductive Path (step : σ → γ → Option σ) (ok : σ → γ → Prop) : σ → List γ → σ → Prop
  | nil (s : σ) : Path step ok s [] s
  | cons {s s₁ s' : σ} {e : γ} {events : List γ} (hstep : step s e = some s₁) (hok : ok s e)
      (rest : Path step ok s₁ events s') : Path step ok s (e :: events) s'

section

variable {step : σ → γ → Option σ}

/-- What every event keeps holds at the end of every path. -/
theorem Path.invariant {Inv : σ → Prop}
    (hinv : ∀ {s e s'}, Inv s → ok s e → step s e = some s' → Inv s') {s s' : σ} {events : List γ}
    (hpath : Path step ok s events s') (h : Inv s) : Inv s' := by
  induction hpath with
  | nil => exact h
  | cons hstep hok _ ih => exact ih (hinv h hok hstep)

/-- Replay events, checking the condition. -/
def replay (step : σ → γ → Option σ) (ok : σ → γ → Prop) [∀ s e, Decidable (ok s e)] :
    σ → List γ → Option σ
  | s, [] => some s
  | s, e :: events => if ok s e then (step s e).bind fun s₁ => replay step ok s₁ events else none

/-- A replay that gets to the end is a path. -/
theorem Path.of_replay [∀ s e, Decidable (ok s e)] {s s' : σ} {events : List γ}
    (h : replay step ok s events = some s') : Path step ok s events s' := by
  induction events generalizing s with
  | nil =>
    obtain rfl := Option.some.inj h
    exact .nil s
  | cons _ _ ih =>
    rw [replay] at h
    split at h
    · rename_i hok
      obtain ⟨s₁, hstep, hrest⟩ := Option.bind_eq_some_iff.mp h
      exact .cons hstep hok (ih hrest)
    · cases h

/-- A replay that ends in a state with `P` is a path to a state with what follows from `P`. -/
theorem Path.exists_of_replay [∀ s e, Decidable (ok s e)] {s : σ} {events : List γ} {P Q : σ → Prop}
    [DecidablePred P] (h : ((replay step ok s events).any fun s' => decide (P s')) = true)
    (himp : ∀ s', Path step ok s events s' → P s' → Q s') :
    ∃ s', Path step ok s events s' ∧ Q s' := by
  obtain ⟨s', hs', hP⟩ := (Option.any_eq_true _ _).mp h
  have hpath := Path.of_replay hs'
  exact ⟨s', hpath, himp s' hpath (of_decide_eq_true hP)⟩

/-- Two replays, the second from where the first one ends. -/
theorem Path.exists_two_of_replay [∀ s e, Decidable (ok s e)] {s : σ} {events later : List γ}
    {P : σ → σ → Prop} [DecidableRel P]
    (h : ((replay step ok s events).any fun t =>
      (replay step ok t later).any fun u => decide (P t u)) = true) :
    ∃ t u, Path step ok s events t ∧ Path step ok t later u ∧ P t u := by
  obtain ⟨t, ht, h⟩ := (Option.any_eq_true _ _).mp h
  obtain ⟨u, hu, hP⟩ := (Option.any_eq_true _ _).mp h
  exact ⟨t, u, .of_replay ht, .of_replay hu, of_decide_eq_true hP⟩

end

end ProjectPipeline
