import ProjectPipeline.Python

/-!
# Programs of Atomic Steps

A client of a shared store is a program of atomic steps. Every step executes one
instruction of the store; how the program goes on depends on the state in which the
instruction was executed, so a program is a tree that branches over states. A program ends
by returning or by raising.

The meaning of the instructions, `exec`, is a parameter. There are two ways to run a
program:

* `Prog.run` runs it alone. An exception ends the program, and the steps made before it
  stay. `Prog.Ensures` says along which preorder a program takes a part of the state, and
  `Prog.Leaves` that it does not touch that part.
* `Prog.Exec` runs it with interference. Between two of its steps other clients may change
  the state by an `env` relation, and its process may stop at any point. The trace lists the
  steps of the program itself, each with the state in which it was made.

## Main results

* `Prog.Ensures.bind`, `Prog.Ensures.after`, …: the rules for programs that run alone.
* `Prog.Exec.step_inv`, `Prog.Exec.done_inv`: reading a run with interference backwards.
* `Prog.Exec.of_run`, `Prog.Exec.of_steps`: runs without interference, to the end or cut off.
-/

namespace ProjectPipeline

variable {ι σ α β : Type}

/-- A program of instructions `ι` on states `σ` that returns an `α`. -/
inductive Prog (ι σ α : Type) where
  | done (result : Except PyError α)
  | step (instr : ι) (next : σ → Prog ι σ α)

namespace Prog

/-- Go on with the result of a program, be it a value or an exception. -/
def andThen (p : Prog ι σ α) (rest : Except PyError α → Prog ι σ β) : Prog ι σ β :=
  match p with
  | done result => rest result
  | step instr next => step instr fun s => (next s).andThen rest

/-- Go on with a returned value; an exception ends the program. -/
def onReturn (rest : α → Prog ι σ β) : Except PyError α → Prog ι σ β
  | .ok a => rest a
  | .error error => done (.error error)

instance : Monad (Prog ι σ) where
  pure a := done (.ok a)
  bind p rest := p.andThen (onReturn rest)

def raise (error : PyError) : Prog ι σ α := done (.error error)

/-- A computation without a step. -/
def ofExcept (result : Except PyError α) : Prog ι σ α := done result

section

variable (instr : ι) (result : σ → Except PyError α)

/-- Execute one instruction. Its result depends on the state before. -/
def call : Prog ι σ α :=
  step instr fun s => done (result s)

/-- `if condition: raise error`. -/
def refuseIf (condition : Prop) [Decidable condition] (error : PyError) : Prog ι σ Unit :=
  if condition then raise error else pure ()

/-- `if condition: …`. -/
def onlyIf (condition : Prop) [Decidable condition] (p : Prog ι σ Unit) : Prog ι σ Unit :=
  if condition then p else pure ()

theorem call_bind (rest : α → Prog ι σ β) :
    (call instr result >>= rest) = step instr fun s => onReturn rest (result s) := rfl

end

theorem bind_assoc {γ : Type} (p : Prog ι σ α) (f : α → Prog ι σ β) (g : β → Prog ι σ γ) :
    (p >>= f) >>= g = p >>= fun a => f a >>= g := by
  induction p with
  | done result => cases result <;> rfl
  | step instr _ ih => exact congrArg (step instr) (funext ih)

/-! ### Running alone -/

/-- The result of a program that runs alone, and the state it leaves. -/
def run (exec : ι → σ → σ) : Prog ι σ α → σ → Except PyError α × σ
  | done result, s => (result, s)
  | step instr next, s => (next s).run exec (exec instr s)

variable {exec : ι → σ → σ}

theorem run_andThen (p : Prog ι σ α) (rest : Except PyError α → Prog ι σ β) (s : σ) :
    (p.andThen rest).run exec s = (rest (p.run exec s).1).run exec (p.run exec s).2 := by
  induction p generalizing s with
  | done => rfl
  | step instr _ ih => exact ih s (exec instr s)

variable {p : Prog ι σ α} {rest : α → Prog ι σ β} {error : PyError}

theorem run_bind_of_ok {s s' : σ} {a : α} (h : p.run exec s = (.ok a, s')) :
    (p >>= rest).run exec s = (rest a).run exec s' := by
  change (p.andThen (onReturn rest)).run exec s = _
  rw [run_andThen, h]
  rfl

theorem run_bind_of_error {s s' : σ} (h : p.run exec s = (.error error, s')) :
    (p >>= rest).run exec s = (.error error, s') := by
  change (p.andThen (onReturn rest)).run exec s = _
  rw [run_andThen, h]
  rfl

/-- A program that returns has returned from its first part. -/
theorem run_bind_eq_ok {s s' : σ} {b : β} (h : (p >>= rest).run exec s = (.ok b, s')) :
    ∃ a s₁, p.run exec s = (.ok a, s₁) ∧ (rest a).run exec s₁ = (.ok b, s') := by
  rcases hrun : p.run exec s with ⟨result, s₁⟩
  cases result with
  | ok a =>
    rw [run_bind_of_ok hrun] at h
    exact ⟨a, s₁, rfl, h⟩
  | error =>
    rw [run_bind_of_error hrun] at h
    cases h

theorem run_refuseIf_of_pos {c : Prop} [Decidable c] {rest : Unit → Prog ι σ β} {s : σ} (h : c) :
    (refuseIf c error >>= rest).run exec s = (.error error, s) := by
  rw [refuseIf, if_pos h]
  rfl

theorem run_refuseIf_of_neg {c : Prop} [Decidable c] {rest : Unit → Prog ι σ β} {s : σ} (h : ¬ c) :
    (refuseIf c error >>= rest).run exec s = (rest ()).run exec s := by
  rw [refuseIf, if_neg h]
  rfl

/-- Returning a value at the end leaves the state as it is. -/
theorem run_bind_pure_snd (p : Prog ι σ α) (b : β) (s : σ) :
    ((p >>= fun _ => pure b).run exec s).2 = (p.run exec s).2 := by
  rcases hrun : p.run exec s with ⟨error | a, s'⟩
  · rw [run_bind_of_error hrun]
  · rw [run_bind_of_ok hrun]
    rfl

variable {instr : ι}

theorem run_call_bind_eq_ok {result : σ → Except PyError α} {s s' : σ} {b : β}
    (h : (call instr result >>= rest).run exec s = (.ok b, s')) :
    ∃ a, result s = .ok a ∧ (rest a).run exec (exec instr s) = (.ok b, s') := by
  obtain ⟨a, s₁, hcall, hrest⟩ := run_bind_eq_ok h
  obtain ⟨hres, rfl⟩ := Prod.mk.inj hcall
  exact ⟨a, hres, hrest⟩

theorem run_map_eq_ok {f : α → β} {s s' : σ} {b : β} (h : (f <$> p).run exec s = (.ok b, s')) :
    ∃ a, p.run exec s = (.ok a, s') ∧ f a = b := by
  obtain ⟨a, s₁, hp, hpure⟩ := run_bind_eq_ok h
  cases hpure
  exact ⟨a, hp, rfl⟩

variable {result : Except PyError α}

theorem run_ofExcept_bind_eq_ok {s s' : σ} {b : β}
    (h : (ofExcept result >>= rest).run exec s = (.ok b, s')) :
    ∃ a, result = .ok a ∧ (rest a).run exec s = (.ok b, s') := by
  obtain ⟨a, s₁, hdone, hrest⟩ := run_bind_eq_ok h
  obtain ⟨hres, rfl⟩ := Prod.mk.inj hdone
  exact ⟨a, hres, hrest⟩

/-! ### Parts of the state that a program leaves alone -/

section Leaves

variable {τ : Type} {f : σ → τ}

/-- The program leaves the part `f` of the state as it is. -/
def Leaves (exec : ι → σ → σ) (f : σ → τ) (p : Prog ι σ α) : Prop :=
  ∀ s, f (p.run exec s).2 = f s

theorem Leaves.eq_of_run (h : Leaves exec f p) {s s' : σ} (hrun : p.run exec s = (result, s')) :
    f s' = f s := by
  rw [← h s, hrun]

theorem Leaves.done (result : Except PyError α) : Leaves exec f (done result : Prog ι σ α) :=
  fun _ => rfl

theorem Leaves.call {result : σ → Except PyError α} (h : ∀ s, f (exec instr s) = f s) :
    Leaves exec f (call instr result) := h

theorem Leaves.bind (h : Leaves exec f p) (hrest : ∀ a, Leaves exec f (rest a)) :
    Leaves exec f (p >>= rest) := by
  intro s
  rcases hrun : p.run exec s with ⟨result, s₁⟩
  have hfst := h.eq_of_run hrun
  cases result with
  | ok a => rw [run_bind_of_ok hrun, hrest a s₁, hfst]
  | error => rw [run_bind_of_error hrun, hfst]

theorem Leaves.refuseIf {c : Prop} [Decidable c] :
    Leaves exec f (refuseIf c error : Prog ι σ Unit) := by
  rw [Prog.refuseIf]
  split <;> exact .done _

end Leaves

/-! ### Guarantees -/

section Ensures

variable {τ : Type} {f : σ → τ} {R : τ → τ → Prop} {P P' : τ → Prop}

/-- From a state whose part `f` meets `P`, the program takes that part along `R`, whether it
returns or raises. -/
def Ensures (exec : ι → σ → σ) (f : σ → τ) (R : τ → τ → Prop) (P : τ → Prop)
    (p : Prog ι σ α) : Prop :=
  ∀ s, P (f s) → R (f s) (f (p.run exec s).2)

theorem Ensures.mono (h : Ensures exec f R P p) (hP : ∀ t, P' t → P t) : Ensures exec f R P' p :=
  fun s hs => h s (hP _ hs)

theorem Ensures.ite {c : Prop} [Decidable c] {yes no : Prog ι σ α}
    (hyes : c → Ensures exec f R P yes) (hno : ¬ c → Ensures exec f R P no) :
    Ensures exec f R P (if c then yes else no) := by
  split
  · exact hyes ‹_›
  · exact hno ‹_›

variable [IsPreorder τ R]

namespace Ensures

theorem of_leaves (h : Leaves exec f p) : Ensures exec f R P p := by
  intro s _
  rw [h s]
  exact refl _

/-- What is known after the first program is what the second one needs. -/
theorem bind {Q : α → τ → Prop} (h : Ensures exec f R P p)
    (hQ : ∀ s a s', P (f s) → p.run exec s = (.ok a, s') → Q a (f s'))
    (hrest : ∀ a, Ensures exec f R (Q a) (rest a)) : Ensures exec f R P (p >>= rest) := by
  intro s hs
  have hfst := h s hs
  rcases hrun : p.run exec s with ⟨result, s₁⟩
  rw [hrun] at hfst
  cases result with
  | ok a =>
    rw [run_bind_of_ok hrun]
    exact IsTrans.trans _ _ _ hfst (hrest a s₁ (hQ s a s₁ hs hrun))
  | error =>
    rw [run_bind_of_error hrun]
    exact hfst

/-- One program after the other, the second from anywhere. -/
theorem seq (h : Ensures exec f R P p)
    (hrest : ∀ a, Ensures exec f R (fun _ => True) (rest a)) : Ensures exec f R P (p >>= rest) :=
  h.bind (fun _ _ _ _ _ => trivial) hrest

/-- A program that leaves the part as it is, first. -/
theorem after (h : Leaves exec f p) (hrest : ∀ a, Ensures exec f R P (rest a)) :
    Ensures exec f R P (p >>= rest) := by
  refine (of_leaves h).bind (fun s a s' hs hrun => ?_) hrest
  rwa [h.eq_of_run hrun]

/-- A computation without a step, first. -/
theorem ofExcept (hrest : ∀ a, result = .ok a → Ensures exec f R P (rest a)) :
    Ensures exec f R P (ofExcept result >>= rest) := by
  cases result with
  | ok a => exact hrest a rfl
  | error => exact .of_leaves (.done _)

/-- An instruction that leaves the part as it is, first, with what it has returned. -/
theorem read {result : σ → Except PyError α} (h : ∀ s, f (exec instr s) = f s)
    (hrest : ∀ a, Ensures exec f R (fun t => P t ∧ ∃ s, f s = t ∧ result s = .ok a) (rest a)) :
    Ensures exec f R P (call instr result >>= rest) := by
  refine (of_leaves (.call h)).bind (fun s a s' hs hrun => ?_) hrest
  obtain ⟨hres, rfl⟩ := Prod.mk.inj hrun
  exact ⟨(h s).symm ▸ hs, s, (h s).symm, hres⟩

/-- A check, first. -/
theorem refuseIf {c : Prop} [Decidable c] {rest : Unit → Prog ι σ β}
    (hrest : ¬ c → Ensures exec f R P (rest ())) :
    Ensures exec f R P (refuseIf c error >>= rest) := by
  rw [Prog.refuseIf]
  split
  · exact .of_leaves (.done _)
  · rename_i hc
    exact hrest hc

end Ensures

end Ensures

/-! ### Running with interference -/

/-- A run of a program among other clients. The trace holds its own steps and the states
they were made in. There is no result if the process stops on the way. -/
inductive Exec (exec : ι → σ → σ) (env : σ → σ → Prop) :
    Prog ι σ α → σ → List (ι × σ) → Option (Except PyError α) → σ → Prop
  | stopped (p : Prog ι σ α) (s : σ) : Exec exec env p s [] none s
  | done (result : Except PyError α) (s : σ) : Exec exec env (done result) s [] (some result) s
  | other {p : Prog ι σ α} {s s₁ s' : σ} {trace : List (ι × σ)} {out : Option (Except PyError α)}
      (move : env s s₁) (rest : Exec exec env p s₁ trace out s') : Exec exec env p s trace out s'
  | own {instr : ι} {next : σ → Prog ι σ α} {s s' : σ} {trace : List (ι × σ)}
      {out : Option (Except PyError α)} (rest : Exec exec env (next s) (exec instr s) trace out s') :
      Exec exec env (step instr next) s ((instr, s) :: trace) out s'

variable {env : σ → σ → Prop}

variable {s s' : σ} {out : Option (Except PyError α)}

theorem Exec.moves {s₁ : σ} {trace : List (ι × σ)} (hmvs : Relation.ReflTransGen env s s₁)
    (h : Exec exec env p s₁ trace out s') :
    Exec exec env p s trace out s' := by
  induction hmvs using Relation.ReflTransGen.head_induction_on with
  | refl => exact h
  | head move _ ih => exact .other move ih

/-- A program that comes to its end has made its first step, after some moves of the
others. -/
theorem Exec.step_inv {next : σ → Prog ι σ α} {trace : List (ι × σ)}
    (h : Exec exec env (step instr next) s trace (some result) s') :
    ∃ s₁ trace', Relation.ReflTransGen env s s₁ ∧ trace = (instr, s₁) :: trace' ∧
      Exec exec env (next s₁) (exec instr s₁) trace' (some result) s' := by
  generalize hp : step instr next = p at h
  generalize hout : some result = out at h
  induction h with
  | stopped => cases hout
  | done => cases hp
  | other move _ ih =>
    obtain ⟨s₁, trace', hmvs, htrace, hrest⟩ := ih hp hout
    exact ⟨s₁, trace', .head move hmvs, htrace, hrest⟩
  | own rest =>
    cases hp
    exact ⟨_, _, .refl, rfl, rest⟩

/-- A program that is at its end makes no step. -/
theorem Exec.done_inv {result₀ : Except PyError α} {trace : List (ι × σ)}
    (h : Exec exec env (Prog.done result₀) s trace (some result) s') :
    result₀ = result ∧ trace = [] := by
  generalize hp : Prog.done result₀ = p at h
  generalize hout : some result = out at h
  induction h with
  | stopped => cases hout
  | done =>
    cases hp
    cases hout
    exact ⟨rfl, rfl⟩
  | other _ _ ih => exact ih hp hout
  | own => cases hp

/-- A step that is followed by more: if it raises, so does the program. -/
theorem Exec.call_inv {result : σ → Except PyError β} {rest : β → Prog ι σ α} {trace : List (ι × σ)}
    {a : α} (h : Exec exec env (call instr result >>= rest) s trace (some (.ok a)) s') :
    ∃ s₁ b trace', Relation.ReflTransGen env s s₁ ∧ result s₁ = .ok b ∧
      trace = (instr, s₁) :: trace' ∧
      Exec exec env (rest b) (exec instr s₁) trace' (some (.ok a)) s' := by
  rw [call_bind] at h
  obtain ⟨s₁, trace', hmvs, htrace, hrest⟩ := h.step_inv
  cases hres : result s₁ with
  | ok b =>
    rw [hres] at hrest
    exact ⟨s₁, b, trace', hmvs, hres, htrace, hrest⟩
  | error =>
    rw [hres] at hrest
    cases hrest.done_inv.1

/-- A program that comes to its end has come to the end of its first part. -/
theorem Exec.bind_inv {p : Prog ι σ β} {rest : β → Prog ι σ α} {trace : List (ι × σ)} {a : α}
    (h : Exec exec env (p >>= rest) s trace (some (.ok a)) s') :
    ∃ b s₁ first second, trace = first ++ second ∧
      Exec exec env p s first (some (.ok b)) s₁ ∧
      Exec exec env (rest b) s₁ second (some (.ok a)) s' := by
  induction p generalizing s trace with
  | done result =>
    cases result with
    | ok b => exact ⟨b, s, [], trace, rfl, .done _ s, h⟩
    | error => cases (Exec.done_inv h).1
  | step instr _ ih =>
    obtain ⟨s₁, trace', hmvs, rfl, hrest⟩ := Exec.step_inv h
    obtain ⟨b, s₂, first, second, rfl, hfst, hsnd⟩ := ih s₁ hrest
    exact ⟨b, s₂, (instr, s₁) :: first, second, rfl, .moves hmvs (.own hfst), hsnd⟩

/-- What every move of the others and every instruction keeps to, a run keeps to. -/
theorem Exec.relates {R : σ → σ → Prop} [IsPreorder σ R] (henv : ∀ s s', env s s' → R s s')
    (hown : ∀ instr s, R s (exec instr s)) {trace : List (ι × σ)}
    (h : Exec exec env p s trace out s') : R s s' := by
  induction h with
  | stopped _ s | done _ s => exact refl s
  | other move _ ih => exact IsTrans.trans _ _ _ (henv _ _ move) ih
  | own _ ih => exact IsTrans.trans _ _ _ (hown _ _) ih

/-- The steps of a program that runs alone. -/
def trace (exec : ι → σ → σ) : Prog ι σ α → σ → List (ι × σ)
  | done _, _ => []
  | step instr next, s => (instr, s) :: (next s).trace exec (exec instr s)

/-- A program that runs alone, to its end. -/
theorem Exec.of_run (p : Prog ι σ α) (s : σ) :
    Exec exec env p s (p.trace exec s) (some (p.run exec s).1) (p.run exec s).2 := by
  induction p generalizing s with
  | done result => exact .done result s
  | step instr _ ih => exact .own (ih s (exec instr s))

theorem Exec.of_returns (h : (p.run exec s).1.toOption.isSome = true) :
    ∃ a, Exec exec env p s (p.trace exec s) (some (.ok a)) (p.run exec s).2 := by
  have hrun : Exec exec env p s _ _ _ := .of_run p s
  cases hres : (p.run exec s).1 with
  | ok a =>
    rw [hres] at hrun
    exact ⟨a, hrun⟩
  | error =>
    rw [hres] at h
    cases h

/-- The state that the first `n` steps leave. -/
def stateAfter (exec : ι → σ → σ) : ℕ → Prog ι σ α → σ → σ
  | n + 1, step instr next, s => stateAfter exec n (next s) (exec instr s)
  | _, _, s => s

/-- A program that runs alone and stops after `n` steps. -/
theorem Exec.of_steps (n : ℕ) (p : Prog ι σ α) (s : σ) :
    Exec exec env p s ((p.trace exec s).take n) none (stateAfter exec n p s) := by
  induction n generalizing p s with
  | zero =>
    cases p <;> exact .stopped _ s
  | succ _ ih =>
    cases p with
    | done => exact .stopped _ s
    | step instr next => exact .own (ih (next s) (exec instr s))

end Prog

end ProjectPipeline
