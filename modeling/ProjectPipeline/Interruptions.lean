import ProjectPipeline.Programs
import ProjectPipeline.Runs

/-!
# Programs That Are Cut Off

One process at a time runs programs on a state, and may be stopped after any number of steps;
the next process finds the state as it was left. A run is a list of calls, each with the number
of steps that its process makes. `Prog.Throughout` says that a property holds at all points of a
program at which it may be stopped.

A program may be part of a larger system, with more instructions and a larger state: `Prog.lift`.

## Main results

* `Prog.Throughout.bind`: the rule for a part of a program.
* `interrupted_invariant`: the induction over the runs.
* `Prog.simulates_lift`: a lifted program does to its part of the state what it does alone.
-/

namespace ProjectPipeline

variable {ι ι' σ σ' γ α β : Type}

namespace Prog

/-! ### Properties of all points of a program -/

/-- The property holds at the start of a program, and after each of its steps. -/
inductive Throughout (exec : ι → σ → σ) (I : σ → Prop) : Prog ι σ α → σ → Prop
  | done {s : σ} (h : I s) (result : Except PyError α) : Throughout exec I (.done result) s
  | step {s : σ} {instr : ι} {next : σ → Prog ι σ α} (h : I s)
      (rest : Throughout exec I (next s) (exec instr s)) : Throughout exec I (.step instr next) s

variable {exec : ι → σ → σ} {I J : σ → Prop} {s : σ}

variable {p : Prog ι σ α}

namespace Throughout

section

variable (h : p.Throughout exec I s)
include h

/-- The property holds wherever the program is stopped. -/
theorem stateAfter (n : ℕ) : I (p.stateAfter exec n s) := by
  induction h generalizing n with
  | done h => cases n <;> exact h
  | step h _ ih =>
    cases n with
    | zero => exact h
    | succ n => exact ih n

theorem run : I (p.run exec s).2 := by
  induction h with
  | done h => exact h
  | step _ _ ih => exact ih

theorem mono (himp : ∀ s, I s → J s) :
    p.Throughout exec J s := by
  induction h with
  | done h => exact .done (himp _ h) _
  | step h _ ih => exact .step (himp _ h) ih

end

theorem ofExcept (h : I s) (result : Except PyError α) :
    (Prog.ofExcept result : Prog ι σ α).Throughout exec I s := .done h result

theorem pure (h : I s) (a : α) : (pure a : Prog ι σ α).Throughout exec I s :=
  .done h (.ok a)

theorem call {instr : ι} {result : σ → Except PyError α} (h : I s)
    (hexec : I (exec instr s)) : (Prog.call instr result).Throughout exec I s :=
  .step h (.done hexec _)

theorem ite {c : Prop} [Decidable c] {yes no : Prog ι σ α} (hyes : c → yes.Throughout exec I s)
    (hno : ¬ c → no.Throughout exec I s) :
    (if c then yes else no).Throughout exec I s := by
  split
  · exact hyes ‹_›
  · exact hno ‹_›

/-- A part of a program, and what comes behind it. -/
theorem andThen {rest : Except PyError α → Prog ι σ β} (h : p.Throughout exec I s)
    (hrest : ∀ result s', p.run exec s = (result, s') → I s' →
      (rest result).Throughout exec I s') : (p.andThen rest).Throughout exec I s := by
  induction h with
  | @done s h result => exact hrest result s rfl h
  | step h _ ih => exact .step h (ih hrest)

/-- A part of a program, and what comes behind it if it returns. -/
theorem bind {rest : α → Prog ι σ β} (h : p.Throughout exec I s)
    (hrest : ∀ a s', p.run exec s = (.ok a, s') → I s' → (rest a).Throughout exec I s') :
    (p >>= rest).Throughout exec I s := by
  refine h.andThen fun result s' hrun hs' => ?_
  cases result with
  | ok a => exact hrest a s' hrun hs'
  | error => exact .done hs' _

end Throughout

/-! ### Programs with instructions of a kind -/

/-- All instructions of the program are of a kind. -/
inductive Uses (kind : ι → Prop) : Prog ι σ α → Prop
  | done (result : Except PyError α) : Uses kind (.done result)
  | step {instr : ι} {next : σ → Prog ι σ α} (h : kind instr) (rest : ∀ s, Uses kind (next s)) :
      Uses kind (.step instr next)

variable {kind : ι → Prop}

theorem Uses.pure (a : α) : (pure a : Prog ι σ α).Uses kind := .done _

theorem Uses.ofExcept (result : Except PyError α) :
    (Prog.ofExcept result : Prog ι σ α).Uses kind := .done _

theorem Uses.call {instr : ι} {result : σ → Except PyError α} (h : kind instr) :
    (Prog.call instr result).Uses kind := .step h fun _ => .done _

theorem Uses.andThen {rest : Except PyError α → Prog ι σ β} (hp : p.Uses kind)
    (hrest : ∀ result, (rest result).Uses kind) : (p.andThen rest).Uses kind := by
  induction hp with
  | done result => exact hrest result
  | step h _ ih => exact .step h ih

theorem Uses.bind {rest : α → Prog ι σ β} (hp : p.Uses kind) (hrest : ∀ a, (rest a).Uses kind) :
    (p >>= rest).Uses kind := by
  refine hp.andThen fun result => ?_
  cases result with
  | ok a => exact hrest a
  | error => exact .done _

theorem Uses.ite {c : Prop} [Decidable c] {yes no : Prog ι σ α} (hyes : yes.Uses kind)
    (hno : no.Uses kind) : (if c then yes else no).Uses kind := by
  split
  · exact hyes
  · exact hno

/-- What the instructions of a kind keep holds at all points of a program that uses no others. -/
theorem Uses.throughout (h : p.Uses kind) (hkp : ∀ instr s, kind instr → I s → I (exec instr s))
    (hs : I s) : p.Throughout exec I s := by
  induction h generalizing s with
  | done result => exact .done hs result
  | step h _ ih => exact .step hs (ih _ (hkp _ s h hs))

/-! ### Parts of a larger system -/

/-- The program as a part of a larger system. -/
def lift (inject : ι → ι') (view : σ' → σ) : Prog ι σ α → Prog ι' σ' α
  | done result => .done result
  | step instr next => .step (inject instr) fun s => (next (view s)).lift inject view

variable {inject : ι → ι'} {view : σ' → σ} {exec' : ι' → σ' → σ'}

theorem lift_bind (p : Prog ι σ α) (rest : α → Prog ι σ β) :
    (p >>= rest).lift inject view = p.lift inject view >>= fun a => (rest a).lift inject view := by
  induction p with
  | done result => cases result <;> rfl
  | step instr _ ih => exact congrArg (Prog.step (inject instr)) (funext fun s => ih (view s))

/-- Seen through `view`, a program does what another one does. -/
def Simulates (exec' : ι' → σ' → σ') (exec : ι → σ → σ) (view : σ' → σ) (q : Prog ι' σ' α)
    (p : Prog ι σ α) : Prop :=
  ∀ s, (q.run exec' s).1 = (p.run exec (view s)).1 ∧
    view (q.run exec' s).2 = (p.run exec (view s)).2

/-- In the larger system a program does what it does alone. -/
theorem simulates_lift (hexec : ∀ instr s, view (exec' (inject instr) s) = exec instr (view s))
    (p : Prog ι σ α) : Simulates exec' exec view (p.lift inject view) p := by
  intro s
  induction p generalizing s with
  | done => exact ⟨rfl, rfl⟩
  | step instr _ ih =>
    have hrest := ih (view s) (exec' (inject instr) s)
    rw [hexec] at hrest
    exact hrest

theorem Simulates.done (result : Except PyError α) :
    Simulates exec' exec view (Prog.done result) (Prog.done result) := fun _ => ⟨rfl, rfl⟩

theorem Simulates.bind {q : Prog ι' σ' α} {rest' : α → Prog ι' σ' β} {rest : α → Prog ι σ β}
    (h : Simulates exec' exec view q p) (hrest : ∀ a, Simulates exec' exec view (rest' a) (rest a)) :
    Simulates exec' exec view (q >>= rest') (p >>= rest) := by
  intro s
  rcases hq : q.run exec' s with ⟨result, s'⟩
  have hp := h s
  rw [hq] at hp
  cases result with
  | ok a =>
    have hrun : p.run exec (view s) = (.ok a, view s') := Prod.ext hp.1.symm hp.2.symm
    rw [run_bind_of_ok hq, run_bind_of_ok hrun]
    exact hrest a s'
  | error error =>
    have hrun : p.run exec (view s) = (.error error, view s') := Prod.ext hp.1.symm hp.2.symm
    rw [run_bind_of_error hq, run_bind_of_error hrun]
    exact ⟨rfl, rfl⟩

/-- A step that is not seen. -/
theorem Simulates.hidden {instr : ι'} {a : β} {rest' : β → Prog ι' σ' α}
    (hview : ∀ s, view (exec' instr s) = view s) (h : Simulates exec' exec view (rest' a) p) :
    Simulates exec' exec view ((Prog.call instr fun _ => .ok a) >>= rest') p := by
  intro s
  have hrest := h (exec' instr s)
  rw [hview] at hrest
  exact hrest

theorem Simulates.ite {c : Prop} [Decidable c] {q q' : Prog ι' σ' α} {p' : Prog ι σ α}
    (h : Simulates exec' exec view q p) (h' : Simulates exec' exec view q' p') :
    Simulates exec' exec view (if c then q else q') (if c then p else p') := by
  split
  · exact h
  · exact h'

/-- What the instructions of a kind keep holds at all points of a lifted program that uses no
others. -/
theorem Uses.throughout_lift (h : p.Uses kind) {I : σ' → Prop}
    (hkp : ∀ instr s, kind instr → I s → I (exec' (inject instr) s)) {s : σ'} (hs : I s) :
    (p.lift inject view).Throughout exec' I s := by
  induction h generalizing s with
  | done result => exact .done hs result
  | step h _ ih => exact .step hs (ih _ (hkp _ s h hs))

end Prog

/-! ### Runs -/

/-- A process calls a program and makes a number of steps. -/
def interrupted (exec : ι → σ → σ) (program : γ → Prog ι σ α) (s : σ) (call : γ × ℕ) : σ :=
  (program call.1).stateAfter exec call.2 s

/-- What holds at all points of every program that is called holds after every run. -/
theorem interrupted_invariant {exec : ι → σ → σ} {program : γ → Prog ι σ α} {I : σ → Prop}
    {ok : σ → γ → Prop} (hprog : ∀ s c, I s → ok s c → (program c).Throughout exec I s) {s : σ}
    {calls : List (γ × ℕ)}
    (h : Along (fun s call => ok s call.1) (interrupted exec program) s calls) (hs : I s) :
    I (runCalls (interrupted exec program) s calls) := by
  refine h.invariant ?_ hs
  intro s call hs hok
  exact (hprog s call.1 hs hok).stateAfter call.2

end ProjectPipeline
