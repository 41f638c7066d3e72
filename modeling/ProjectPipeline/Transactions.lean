import ProjectPipeline.Python

/-!
# Transactions

A store is used through blocks of statements, each of them a transaction: `with self.db`
commits the block when it comes to its end and rolls it back when it raises.

* `Txn σ α` is the body of a block. It works on a copy of the state and may raise.
* `Session σ α` is what a method does to the committed state. A method may run several
  blocks; when it raises, the blocks it has committed before stay.
* `transaction` makes a block a part of a session.

Properties of blocks are stated as triples. A block that raises has no effect, so a triple
only speaks of blocks that come to their end.

## Main results

* `Txn.Triple.bind`, `Txn.Triple.onlyIf`, …: the rules of triples.
* `Session.transaction_bind_cases`: what a transaction followed by reads does to the state.
* `Session.Keeps.transaction`: a block whose triple keeps an invariant is a part of a
  session that keeps it.
* `Session.Triple.bind`: the rule of sequences for sessions that return or raise.
-/

namespace ProjectPipeline

variable {σ α β : Type}

/-! ### Blocks -/

/-- The body of a transaction. -/
abbrev Txn (σ α : Type) := StateT σ (Except PyError) α

variable {block : Txn σ α} {error : PyError}

namespace Txn

def raise (error : PyError) : Txn σ α := fun _ => .error error

/-- `if condition: raise error`. -/
def refuseIf (condition : Prop) [Decidable condition] (error : PyError) : Txn σ Unit :=
  if condition then raise error else pure ()

/-- `if condition: block`. -/
def onlyIf (condition : Prop) [Decidable condition] (block : Txn σ Unit) : Txn σ Unit :=
  if condition then block else pure ()

/-- A read is applied to the current state. -/
theorem get_bind (rest : σ → Txn σ α) (s : σ) : (get >>= rest) s = rest s s := rfl

/-- A sequence that comes to its end has come to the end of each part. -/
theorem run_bind {block : Txn σ β} {rest : β → Txn σ α} {s s' : σ} {a : α} :
    (block >>= rest) s = .ok (a, s') ↔ ∃ b s₁, block s = .ok (b, s₁) ∧ rest b s₁ = .ok (a, s') := by
  have h := bind_eq_ok (x := block s) (f := fun r => rest r.1 r.2) (b := (a, s'))
  rw [Prod.exists] at h
  exact h

/-- A computation that does not use the state is applied to none. -/
theorem lift_bind (x : Except PyError β) (rest : β → Txn σ α) (s : σ) :
    ((liftM x : Txn σ β) >>= rest) s = x >>= fun b => rest b s := by
  cases x <;> rfl

/-- A computation that does not use the state. -/
theorem run_lift_bind {x : Except PyError β} {rest : β → Txn σ α} {s s' : σ} {a : α} :
    ((liftM x : Txn σ β) >>= rest) s = .ok (a, s') ↔ ∃ b, x = .ok b ∧ rest b s = .ok (a, s') := by
  cases x with
  | error => exact ⟨nofun, nofun⟩
  | ok b => exact ⟨fun h => ⟨b, rfl, h⟩, fun ⟨b', hb, h⟩ => Except.ok.inj hb ▸ h⟩

/-- A check that is passed leaves the state as it is. -/
theorem refuseIf_eq_ok {condition : Prop} [Decidable condition] {s s' : σ}
    (h : Txn.refuseIf condition error s = .ok (u, s')) : ¬ condition ∧ s' = s := by
  rw [Txn.refuseIf] at h
  split at h
  · cases h
  · rename_i hcond
    obtain ⟨-, rfl⟩ := ok_pair_inj h
    exact ⟨hcond, rfl⟩

theorem run_refuseIf_bind {condition : Prop} [Decidable condition] {rest : Unit → Txn σ α}
    {s s' : σ} {a : α} (h : (Txn.refuseIf condition error >>= rest) s = .ok (a, s')) :
    ¬ condition ∧ rest () s = .ok (a, s') := by
  obtain ⟨_, s₁, hchk, hrest⟩ := run_bind.mp h
  obtain ⟨hcond, rfl⟩ := refuseIf_eq_ok hchk
  exact ⟨hcond, hrest⟩

/-- From a state with `P`, a block that comes to its end returns a value and leaves a state
with `Q`. -/
def Triple (P : σ → Prop) (block : Txn σ α) (Q : α → σ → Prop) : Prop :=
  ∀ s a s', P s → block s = .ok (a, s') → Q a s'

section Rules

variable {P P' : σ → Prop} {Q Q' : α → σ → Prop}

namespace Triple

theorem pure {a : α} (h : ∀ s, P s → Q a s) : Triple P (Pure.pure a) Q := by
  intro s b s' hs hrun
  obtain ⟨rfl, rfl⟩ := ok_pair_inj hrun
  exact h s hs

/-- One block after the other. -/
theorem bind {block : Txn σ β} {rest : β → Txn σ α} {R : β → σ → Prop} (hblk : Triple P block R)
    (hrest : ∀ b, Triple (R b) (rest b) Q) :
    Triple P (block >>= rest) Q := by
  intro s a s' hs hrun
  obtain ⟨b, s₁, hfst, hsnd⟩ := run_bind.mp hrun
  exact hrest b s₁ a s' (hblk s b s₁ hs hfst) hsnd

theorem raise : Triple P (raise error : Txn σ α) Q := by
  intro s a s' _ hrun
  cases hrun

theorem get {Q : σ → σ → Prop} (h : ∀ s, P s → Q s s) :
    Triple P (MonadState.get : Txn σ σ) Q := by
  intro s a s' hs hrun
  obtain ⟨rfl, rfl⟩ := ok_pair_inj hrun
  exact h s hs

theorem modify {Q : Unit → σ → Prop} {f : σ → σ} (h : ∀ s, P s → Q () (f s)) :
    Triple P (modify f : Txn σ Unit) Q := by
  intro s a s' hs hrun
  obtain ⟨rfl, rfl⟩ := ok_pair_inj hrun
  exact h s hs

theorem ite {p : Prop} [Decidable p] {yes no : Txn σ α} (hyes : p → Triple P yes Q)
    (hno : ¬ p → Triple P no Q) : Triple P (if p then yes else no) Q := by
  by_cases hp : p
  · rw [if_pos hp]
    exact hyes hp
  · rw [if_neg hp]
    exact hno hp

theorem refuseIf {Q : Unit → σ → Prop} {p : Prop} [Decidable p] (h : ¬ p → ∀ s, P s → Q () s) :
    Triple P (refuseIf p error) Q :=
  .ite (fun _ => .raise) fun hp => .pure (h hp)

theorem onlyIf {Q : Unit → σ → Prop} {p : Prop} [Decidable p] {block : Txn σ Unit}
    (hyes : p → Triple P block Q) (hno : ¬ p → ∀ s, P s → Q () s) : Triple P (onlyIf p block) Q :=
  .ite hyes fun hp => .pure (hno hp)

/-- A weaker claim under a stronger assumption. -/
theorem mono (h : Triple P block Q) (hP : ∀ s, P' s → P s) (hQ : ∀ a s, Q a s → Q' a s) :
    Triple P' block Q' := by
  intro s a s' hs hrun
  exact hQ a s' (h s a s' (hP s hs) hrun)

end Triple

end Rules

end Txn

/-! ### Sessions -/

/-- What a method does to the committed state. -/
def Session (σ α : Type) := σ → Except PyError α × σ

namespace Session

instance : Monad (Session σ) where
  pure a := fun s => (.ok a, s)
  bind session rest := fun s =>
    match session s with
    | (.error error, s') => (.error error, s')
    | (.ok a, s') => rest a s'

/-- Raise an exception. What is committed stays. -/
def raise (error : PyError) : Session σ α := fun s => (.error error, s)

/-- A computation that does not use the state. -/
def ofExcept (result : Except PyError α) : Session σ α := fun s => (result, s)

/-- `with self.db: block`. -/
def transaction (block : Txn σ α) : Session σ α := fun s =>
  match block s with
  | .error error => (.error error, s)
  | .ok (a, s') => (.ok a, s')

/-- `try: session`, with what it raises as a value. -/
def attempt (session : Session σ α) : Session σ (Except PyError α) := fun s =>
  (.ok (session s).1, (session s).2)

/-- `if condition: …`. -/
def onlyIf (condition : Prop) [Decidable condition] (session : Session σ Unit) :
    Session σ Unit :=
  if condition then session else pure ()

variable {rest : β → Session σ α} {session : Session σ β}

variable {s s' : σ}

theorem bind_of_ok {b : β} (h : session s = (.ok b, s')) :
    (session >>= rest) s = rest b s' := by
  simp only [bind, h]

theorem bind_of_error (h : session s = (.error error, s')) :
    (session >>= rest) s = (.error error, s') := by
  simp only [bind, h]

/-- A sequence that returns has returned in each part. -/
theorem bind_eq_ok {a : α} (h : (session >>= rest) s = (.ok a, s')) :
    ∃ b s₁, session s = (.ok b, s₁) ∧ rest b s₁ = (.ok a, s') := by
  rcases hsession : session s with ⟨error | b, s₁⟩
  · rw [bind_of_error hsession] at h
    cases (Prod.mk.inj h).1
  · rw [bind_of_ok hsession] at h
    exact ⟨b, s₁, rfl, h⟩

theorem ofExcept_bind (result : Except PyError β) (rest : β → Session σ α) (s : σ) :
    (ofExcept result >>= rest) s =
      match result with
      | .error error => (.error error, s)
      | .ok b => rest b s := by
  cases result <;> rfl

theorem transaction_of_error {s : σ} (h : block s = .error error) :
    transaction block s = (.error error, s) := by
  rw [transaction, h]

theorem transaction_of_ok {a : α} (h : block s = .ok (a, s')) :
    transaction block s = (.ok a, s') := by
  rw [transaction, h]

/-- A transaction and then only reads: the session raises and leaves the state as it is, or the
block comes to its end, and the state is the one it has committed. -/
theorem transaction_bind_cases {block : Txn σ β} (hrest : ∀ b s, (rest b s).2 = s) (s : σ) :
    (∃ error, (transaction block >>= rest) s = (.error error, s)) ∨
      ∃ b s', block s = .ok (b, s') ∧ ((transaction block >>= rest) s).2 = s' := by
  rcases hblk : block s with error | ⟨b, s'⟩
  · exact .inl ⟨error, bind_of_error (transaction_of_error hblk)⟩
  · refine .inr ⟨b, s', rfl, ?_⟩
    rw [bind_of_ok (transaction_of_ok hblk), hrest]

/-- A session keeps an invariant, whether it returns or raises. -/
def Keeps (Inv : σ → Prop) (session : Session σ α) : Prop := ∀ s, Inv s → Inv (session s).2

section Rules

variable {Inv : σ → Prop}

theorem Keeps.pure {a : α} : Keeps Inv (Pure.pure a : Session σ α) := fun _ h => h

theorem Keeps.raise : Keeps Inv (raise error : Session σ α) := fun _ h => h

theorem Keeps.ofExcept {result : Except PyError α} :
    Keeps Inv (ofExcept result : Session σ α) := fun _ h => h

theorem Keeps.bind (h : Keeps Inv session) (hrest : ∀ b, Keeps Inv (rest b)) :
    Keeps Inv (session >>= rest) := by
  intro s hs
  have hfst := h s hs
  rcases hrun : session s with ⟨result, s'⟩
  rw [hrun] at hfst
  cases result with
  | error =>
    rw [bind_of_error hrun]
    exact hfst
  | ok b =>
    rw [bind_of_ok hrun]
    exact hrest b s' hfst

theorem Keeps.ite {p : Prop} [Decidable p] {yes no : Session σ α} (hyes : p → Keeps Inv yes)
    (hno : ¬ p → Keeps Inv no) : Keeps Inv (if p then yes else no) := by
  by_cases hp : p
  · rw [if_pos hp]
    exact hyes hp
  · rw [if_neg hp]
    exact hno hp

theorem Keeps.onlyIf {p : Prop} [Decidable p] {session : Session σ Unit}
    (h : p → Keeps Inv session) : Keeps Inv (onlyIf p session) :=
  .ite h fun _ => .pure

/-- A block that keeps the invariant when it comes to its end keeps it as a transaction. -/
theorem Keeps.transaction (h : Txn.Triple Inv block fun _ => Inv) :
    Keeps Inv (transaction block) := by
  intro s hs
  rw [Session.transaction]
  split
  · exact hs
  · rename_i a s' hrun
    exact h s a s' hs hrun

/-- From a state with `P`, a session that returns leaves a value and a state with `Q`, and one that
raises leaves a state with `R`. -/
def Triple (P : σ → Prop) (session : Session σ α) (Q : α → σ → Prop) (R : σ → Prop) : Prop :=
  ∀ s, P s → (∀ a s', session s = (.ok a, s') → Q a s') ∧
    ∀ error s', session s = (.error error, s') → R s'

variable {P : σ → Prop} {Q : α → σ → Prop} {R : σ → Prop}

theorem Triple.pure {a : α} (h : ∀ s, P s → Q a s) : Triple P (Pure.pure a) Q R := by
  intro s hs
  refine ⟨fun b s' hrun => ?_, fun error s' hrun => ?_⟩
  · obtain ⟨hres, rfl⟩ := Prod.mk.inj hrun
    cases hres
    exact h s hs
  · cases (Prod.mk.inj hrun).1

theorem Triple.ofExcept {result : Except PyError α} (h : ∀ a s, P s → Q a s)
    (herr : ∀ s, P s → R s) : Triple P (Session.ofExcept result) Q R := by
  intro s hs
  refine ⟨fun b s' hrun => ?_, fun error s' hrun => ?_⟩
  · obtain ⟨-, rfl⟩ := Prod.mk.inj hrun
    exact h b s hs
  · obtain ⟨-, rfl⟩ := Prod.mk.inj hrun
    exact herr s hs

/-- One session after the other. -/
theorem Triple.bind {S : β → σ → Prop} (h : Triple P session S R)
    (hrest : ∀ b, Triple (S b) (rest b) Q R) : Triple P (session >>= rest) Q R := by
  intro s hs
  obtain ⟨hreturns, hraises⟩ := h s hs
  rcases hrun : session s with ⟨error | b, s₁⟩
  · rw [bind_of_error hrun]
    refine ⟨fun a s' h => ?_, fun error' s' h => ?_⟩
    · cases (Prod.mk.inj h).1
    · obtain ⟨-, rfl⟩ := Prod.mk.inj h
      exact hraises error s₁ hrun
  · rw [bind_of_ok hrun]
    exact hrest b s₁ (hreturns b s₁ hrun)

theorem Triple.ite {p : Prop} [Decidable p] {yes no : Session σ α} (hyes : p → Triple P yes Q R)
    (hno : ¬ p → Triple P no Q R) : Triple P (if p then yes else no) Q R := by
  by_cases hp : p
  · rw [if_pos hp]
    exact hyes hp
  · rw [if_neg hp]
    exact hno hp

section

variable {session : Session σ α}

/-- A `try` block does not raise. -/
theorem Triple.attempt {S : Except PyError α → σ → Prop}
    (h : ∀ s result s', P s → session s = (result, s') → S result s') :
    Triple P (attempt session) S R := by
  intro s hs
  refine ⟨fun result s' hrun => ?_, fun error s' hrun => ?_⟩
  · obtain ⟨hres, rfl⟩ := Prod.mk.inj hrun
    cases hres
    exact h s _ _ hs rfl
  · cases (Prod.mk.inj hrun).1

/-- A session that keeps an invariant. -/
theorem Keeps.triple (h : Keeps Inv session) :
    Triple Inv session (fun _ => Inv) Inv := by
  intro s hs
  have hend := h s hs
  refine ⟨fun a s' hrun => ?_, fun error s' hrun => ?_⟩
  · rw [hrun] at hend
    exact hend
  · rw [hrun] at hend
    exact hend

/-- A session whose outcomes both have `R` keeps it. -/
theorem Triple.snd (h : Triple P session (fun _ => R) R) {s : σ} (hs : P s) : R (session s).2 := by
  obtain ⟨hreturns, hraises⟩ := h s hs
  rcases hrun : session s with ⟨error | a, s'⟩
  · exact hraises error s' hrun
  · exact hreturns a s' hrun

end

end Rules

end Session

end ProjectPipeline
