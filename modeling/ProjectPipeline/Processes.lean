import ProjectPipeline.Programs
import ProjectPipeline.Runs

/-!
# Interleaved Processes

Several processes run programs of atomic steps on one shared state, and any of them may be
killed between two steps. A process has a mode, a history variable that says how far it has
got: each of its own steps shifts the mode, depending on the instruction and on the state in
which it was executed.

A discipline says which instructions a process may execute in which mode, and with which
results it may end in it. Whether a program obeys a discipline is a property of the program
alone. What holds in all interleavings of such programs can then be proved about states and
modes, without looking at programs again.

## Main results

* `Prog.Obeys.bind`, `Prog.Obeys.reads_bind`: the rules for a part of a program, and for a part
  that shifts nothing.
* `Protocol.invariant`: the induction over the interleavings of programs that obey.
-/

namespace ProjectPipeline

open Function Option

variable {κ ι σ μ γ ε α β : Type}

/-! ### Protocols and their runs -/

/-- The meaning of instructions, the modes of a process, the programs that processes run, and
the changes that come from outside. -/
structure Protocol (ι σ μ γ ε α : Type) where
  exec : ι → σ → σ
  initial : μ
  shift : μ → ι → σ → μ
  program : γ → Prog ι σ α
  outside : ε → σ → σ

/-- The shared state, the programs under way with their modes, and the results of those that
have ended, latest first. -/
structure Processes (κ ι σ μ α : Type) where
  state : σ
  running : κ → Option (μ × Prog ι σ α) := fun _ => none
  ended : List (κ × Except PyError α) := []

/-- A process starts a call, makes its next step, or is killed; or something changes from
outside. -/
inductive ProcessEvent (κ γ ε : Type) where
  | start (process : κ) (call : γ)
  | step (process : κ)
  | kill (process : κ)
  | outside (change : ε)

/-- Conditions on a run: on the calls that are started, on the instructions that are executed,
and on the processes that are killed. -/
structure Conduct (κ ι σ μ γ : Type) where
  start : γ → Prop := fun _ => True
  step : (κ → Option μ) → κ → ι → σ → Prop := fun _ _ _ _ => True
  kill : (κ → Option μ) → κ → Prop := fun _ _ => True

namespace Processes

variable [DecidableEq κ]

/-- The modes of the processes that are running. -/
def modes (m : Processes κ ι σ μ α) (process : κ) : Option μ := (m.running process).map Prod.fst

/-- One event, or `none` for one that cannot happen. -/
def step (P : Protocol ι σ μ γ ε α) (m : Processes κ ι σ μ α) :
    ProcessEvent κ γ ε → Option (Processes κ ι σ μ α)
  | .start process call =>
    if (m.running process).isNone then
      some
        { m with
          running := Function.update m.running process (some (P.initial, P.program call)) }
    else none
  | .step process =>
    match m.running process with
    | none => none
    | some (_, .done result) =>
      some
        { m with
          running := Function.update m.running process none
          ended := (process, result) :: m.ended }
    | some (mode, .step instr next) =>
      some
        { m with
          state := P.exec instr m.state
          running := Function.update m.running process
            (some (P.shift mode instr m.state, next m.state)) }
  | .kill process => some { m with running := Function.update m.running process none }
  | .outside change => some { m with state := P.outside change m.state }

/-- The event meets the conditions. -/
def Meets (C : Conduct κ ι σ μ γ) (m : Processes κ ι σ μ α) : ProcessEvent κ γ ε → Prop
  | .start _ call => C.start call
  | .step process =>
    match m.running process with
    | some (_, .step instr _) => C.step m.modes process instr m.state
    | _ => True
  | .kill process => C.kill m.modes process
  | .outside _ => True

instance (C : Conduct κ ι σ μ γ) (m : Processes κ ι σ μ α) [DecidablePred C.start]
    [∀ process instr, Decidable (C.step m.modes process instr m.state)]
    [∀ process, Decidable (C.kill m.modes process)] (event : ProcessEvent κ γ ε) :
    Decidable (m.Meets C event) :=
  match event with
  | .start _ call => inferInstanceAs (Decidable (C.start call))
  | .step process =>
    match h : m.running process with
    | some (_, .step instr _) =>
      decidable_of_iff (C.step m.modes process instr m.state) (by simp only [Meets, h])
    | some (_, .done _) => isTrue (by simp only [Meets, h])
    | none => isTrue (by simp only [Meets, h])
  | .kill process => inferInstanceAs (Decidable (C.kill m.modes process))
  | .outside _ => isTrue trivial

theorem modes_update (m : Processes κ ι σ μ α) (process : κ) (entry : Option (μ × Prog ι σ α)) :
    (fun other => ((update m.running process entry) other).map Prod.fst) =
      update m.modes process (entry.map Prod.fst) := by
  funext other
  by_cases h : other = process
  · rw [h, update_self, update_self]
  · rw [update_of_ne h, update_of_ne h]
    rfl

end Processes

/-! ### Disciplines -/

/-- What a process may do in a mode: the instructions it may execute, and the results it may
end with. -/
structure Discipline (ι σ μ α : Type) where
  allowed : μ → ι → σ → Prop
  ends : μ → Except PyError α → Prop

namespace Prog

/-- A program that keeps to a discipline, from a mode on. -/
def Obeys (D : Discipline ι σ μ α) (shift : μ → ι → σ → μ) : μ → Prog ι σ α → Prop
  | mode, done result => D.ends mode result
  | mode, step instr next =>
    ∀ s, D.allowed mode instr s ∧ (next s).Obeys D shift (shift mode instr s)

/-- A program whose instructions all are of a kind, and that does not raise. -/
def Consists (kind : ι → Prop) : Prog ι σ α → Prop
  | done (.ok _) => True
  | done (.error _) => False
  | step instr next => kind instr ∧ ∀ s, (next s).Consists kind

variable {kind : ι → Prop}

theorem Consists.pure (a : α) : (pure a : Prog ι σ α).Consists kind := trivial

theorem Consists.call {instr : ι} {f : σ → α} (h : kind instr) :
    (call instr fun s => .ok (f s)).Consists kind := ⟨h, fun _ => trivial⟩

theorem Consists.bind {p : Prog ι σ α} {rest : α → Prog ι σ β} (hp : p.Consists kind)
    (hrest : ∀ a, (rest a).Consists kind) : (p >>= rest).Consists kind := by
  induction p with
  | done result =>
    cases result with
    | ok a => exact hrest a
    | error => exact hp.elim
  | step _ _ ih => exact ⟨hp.1, fun s => ih s (hp.2 s)⟩

theorem Consists.ite {c : Prop} [Decidable c] {yes no : Prog ι σ α} (hyes : yes.Consists kind)
    (hno : no.Consists kind) : (if c then yes else no).Consists kind := by
  split
  · exact hyes
  · exact hno

variable {D : Discipline ι σ μ α} {shift : μ → ι → σ → μ} {rest : β → Prog ι σ α} {mode : μ}

/-- Steps that are allowed in a mode and do not shift it. -/
theorem Obeys.reads_bind {p : Prog ι σ β} (hp : p.Consists kind)
    (hkind : ∀ instr s, kind instr → D.allowed mode instr s ∧ shift mode instr s = mode)
    (hrest : ∀ b, (rest b).Obeys D shift mode) : (p >>= rest).Obeys D shift mode := by
  induction p with
  | done result =>
    cases result with
    | ok b => exact hrest b
    | error => exact hp.elim
  | step instr _ ih =>
    intro s
    obtain ⟨halw, hshift⟩ := hkind instr s hp.1
    refine ⟨halw, ?_⟩
    rw [hshift]
    exact ih s (hp.2 s)

/-- A part of a program, of which only the mode and the result at its end are used. -/
theorem Obeys.bind {p : Prog ι σ β} {ends : μ → Except PyError β → Prop}
    (hp : p.Obeys ⟨D.allowed, ends⟩ shift mode)
    (hrest : ∀ mode result, ends mode result → (onReturn rest result).Obeys D shift mode) :
    (p >>= rest).Obeys D shift mode := by
  induction p generalizing mode with
  | done result => exact hrest mode result hp
  | step _ _ ih => exact fun s => ⟨(hp s).1, ih s (hp s).2⟩

/-- One step in front of a program. -/
theorem Obeys.call_bind {instr : ι} {f : σ → β}
    (h : ∀ s, D.allowed mode instr s ∧ (rest (f s)).Obeys D shift (shift mode instr s)) :
    ((call instr fun s => .ok (f s)) >>= rest).Obeys D shift mode := h

end Prog

/-! ### Invariants -/

/-- An invariant of the states, the modes and the results: kept by every instruction that is
allowed and meets the conditions, and whenever a process starts, ends or is killed. -/
structure Protocol.Invariant [DecidableEq κ] (P : Protocol ι σ μ γ ε α) (D : Discipline ι σ μ α)
    (C : Conduct κ ι σ μ γ)
    (Inv : σ → (κ → Option μ) → List (κ × Except PyError α) → Prop) : Prop where
  start : ∀ {s modes ended process}, Inv s modes ended → modes process = none →
    Inv s (Function.update modes process (some P.initial)) ended
  step : ∀ {s modes ended process mode instr}, Inv s modes ended → modes process = some mode →
    D.allowed mode instr s → C.step modes process instr s →
    Inv (P.exec instr s) (Function.update modes process (some (P.shift mode instr s))) ended
  finish : ∀ {s modes ended process mode result}, Inv s modes ended →
    modes process = some mode → D.ends mode result →
    Inv s (Function.update modes process none) ((process, result) :: ended)
  kill : ∀ {s modes ended process}, Inv s modes ended → C.kill modes process →
    Inv s (Function.update modes process none) ended
  outside : ∀ {s modes ended change}, Inv s modes ended → Inv (P.outside change s) modes ended

section Invariant

variable [DecidableEq κ] {P : Protocol ι σ μ γ ε α} {D : Discipline ι σ μ α}
  {C : Conduct κ ι σ μ γ}
  {Inv : σ → (κ → Option μ) → List (κ × Except PyError α) → Prop}

/-- The invariant holds, and every program under way obeys from its mode on. -/
def Processes.Obeying (D : Discipline ι σ μ α) (shift : μ → ι → σ → μ)
    (Inv : σ → (κ → Option μ) → List (κ × Except PyError α) → Prop)
    (m : Processes κ ι σ μ α) : Prop :=
  Inv m.state m.modes m.ended ∧
    ∀ process mode p, m.running process = some (mode, p) → p.Obeys D shift mode

variable {m : Processes κ ι σ μ α}

/-- A process changes its program and its mode, and with them the state. -/
theorem Processes.Obeying.of_update {shift : μ → ι → σ → μ} (h : m.Obeying D shift Inv)
    {process : κ} {entry : Option (μ × Prog ι σ α)} {s : σ} {ended : List (κ × Except PyError α)}
    (hent : ∀ mode p, entry = some (mode, p) → p.Obeys D shift mode)
    (hs : Inv s (update m.modes process (entry.map Prod.fst)) ended) :
    Obeying D shift Inv ⟨s, update m.running process entry, ended⟩ := by
  refine ⟨?_, fun other mode p hoth => ?_⟩
  · rw [← modes_update] at hs
    exact hs
  · dsimp only at hoth
    by_cases heq : other = process
    · rw [heq, update_self] at hoth
      exact hent mode p hoth
    · rw [update_of_ne heq] at hoth
      exact h.2 other mode p hoth

theorem Processes.Obeying.step (hinv : P.Invariant D C Inv)
    (hprog : ∀ call, C.start call → (P.program call).Obeys D P.shift P.initial)
    {m' : Processes κ ι σ μ α} {event : ProcessEvent κ γ ε} (h : m.Obeying D P.shift Inv)
    (hmeets : m.Meets C event) (hstep : m.step P event = some m') :
    m'.Obeying D P.shift Inv := by
  cases event with
  | start process call =>
    rw [Processes.step] at hstep
    split at hstep
    · rename_i hidle
      cases hstep
      have hmode : m.modes process = none := by rw [modes, isNone_iff_eq_none.mp hidle, map_none]
      refine h.of_update (fun mode p hent => ?_) (hinv.start h.1 hmode)
      obtain ⟨rfl, rfl⟩ := Prod.mk.inj (some.inj hent)
      exact hprog call hmeets
    · cases hstep
  | step process =>
    rw [Processes.step] at hstep
    cases hrunning : m.running process with
    | none =>
      rw [hrunning] at hstep
      cases hstep
    | some entry =>
      obtain ⟨mode, p⟩ := entry
      have hobeys := h.2 process mode p hrunning
      have hmode : m.modes process = some mode := by rw [modes, hrunning, map_some]
      rw [hrunning] at hstep
      cases p with
      | done =>
        cases hstep
        exact h.of_update nofun (hinv.finish h.1 hmode hobeys)
      | step instr =>
        cases hstep
        have hcond : C.step m.modes process instr m.state := by
          simpa only [Meets, hrunning] using hmeets
        obtain ⟨halw, hnext⟩ := hobeys m.state
        refine h.of_update (fun mode' p hent => ?_) (hinv.step h.1 hmode halw hcond)
        obtain ⟨rfl, rfl⟩ := Prod.mk.inj (some.inj hent)
        exact hnext
  | kill =>
    cases hstep
    exact h.of_update nofun (hinv.kill h.1 hmeets)
  | outside =>
    cases hstep
    exact ⟨hinv.outside h.1, h.2⟩

/-- **The invariant rule.** If every program that is started obeys the discipline, the invariant
holds after every run whose events meet the conditions. -/
theorem Protocol.invariant (hinv : P.Invariant D C Inv)
    (hprog : ∀ call, C.start call → (P.program call).Obeys D P.shift P.initial) {s : σ}
    {events : List (ProcessEvent κ γ ε)} (hs : Inv s (fun _ => none) [])
    (hpath : Path (Processes.step P) (Processes.Meets C) { state := s } events m) :
    m.Obeying D P.shift Inv :=
  hpath.invariant (fun h hmeets hstep => h.step hinv hprog hmeets hstep) ⟨hs, nofun⟩

end Invariant

end ProjectPipeline
