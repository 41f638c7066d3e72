import ProjectPipeline.CommandBus

/-!
# Idempotency of Commands

Any number of processes execute commands with one idempotency key and one semantic fingerprint.
Nothing reserves the key between the read of the journal and the write to it: two processes that
both find no record both run the handler, and the second one returns a result of its own, which
is not the one in the journal.

A process is `reading` until it has read the journal. It then either `holds` the record that it
has found, or has `missed`; it has `handled` the command after the run of the handler. With its
write it `holds` the record that it has written, or it has `strayed` because there was one.

## Main results

* `execute_idempotent`: if the journal is read only while no other process is between a miss and
  its write, the processes return the result in the journal, and the handler is run once.
* `execute_twice_concurrently`: a run in which it is run twice, and two results are returned.
-/

namespace ProjectPipeline

open Function Option List

variable {τ : Type}

/-! ### Modes -/

/-- How far a process has got. -/
inductive BusMode (τ : Type) where
  | reading
  | missed
  | handled
  | holds (record : JournalRecord τ)
  | strayed

def BusMode.shift : BusMode τ → BusOp τ → CommandStore τ → BusMode τ
  | reading, .readJournal digest, s =>
    match s.records.lookup digest with
    | none => missed
    | some record => holds record
  | missed, .handle, _ => handled
  | handled, .writeJournal digest record, s =>
    if (s.records.lookup digest).isSome then strayed else holds record
  | mode, _, _ => mode

/-- The result without the flag that says where it comes from. -/
def CommandResult.unflagged (result : CommandResult τ) : CommandResult τ :=
  { result with replayed := false }

/-- What a process may do that works on one name of the journal: it returns the result of the
record that it holds. -/
def busDiscipline (digest : String) :
    Discipline (BusOp τ) (CommandStore τ) (BusMode τ) (CommandResult τ) where
  allowed mode op _ :=
    match mode, op with
    | .reading, .readJournal name => name = digest
    | .missed, .handle => True
    | .handled, .writeJournal name _ => name = digest
    | _, _ => False
  ends mode outcome :=
    match mode with
    | .reading | .handled => False
    | .missed => ∃ error, outcome = .error error
    | .holds record => ∀ result, outcome = .ok result → result.unflagged = record.result.unflagged
    | .strayed => True

section

variable (env : BusEnv)

/-- Processes that execute commands. -/
def busProtocol : Protocol (BusOp τ) (CommandStore τ) (BusMode τ) (CommandCall τ) Empty
    (CommandResult τ) where
  exec := BusOp.exec
  initial := .reading
  shift := BusMode.shift
  program := executeCommand env
  outside := Empty.elim

/-- The handler of the call, if one is registered, returns a result of the command. -/
def CommandCall.HandlerMatches (call : CommandCall τ) : Prop :=
  match call.handler with
  | none => True
  | some (.error _) => False
  | some (.ok result) => result.Matches call.envelope

instance (call : CommandCall τ) : Decidable call.HandlerMatches := by
  rw [CommandCall.HandlerMatches]
  split <;> infer_instance

theorem obeys_journalStore {call : CommandCall τ} {result : CommandResult τ} :
    (journalStore env call.envelope result >>= fun _ => pure result).Obeys
      (busDiscipline (keyDigest env call.envelope.idempotencyKey)) BusMode.shift .handled := by
  intro s
  refine ⟨rfl, ?_⟩
  cases hlk : s.records.lookup (keyDigest env call.envelope.idempotencyKey) with
  | none =>
    simp only [BusMode.shift, hlk, replayRecord]
    rintro returned ⟨⟩
    rfl
  | some record =>
    -- Whatever the check of the record says, this process strays.
    simp only [BusMode.shift, hlk, isSome_some, if_true]
    cases replayRecord env call.envelope (some record) <;> trivial

/-- **Executions obey the discipline.** -/
theorem obeys_executeCommand {call : CommandCall τ} (hcall : call.HandlerMatches) :
    (executeCommand env call).Obeys
      (busDiscipline (keyDigest env call.envelope.idempotencyKey)) BusMode.shift .reading := by
  intro s
  refine ⟨rfl, ?_⟩
  cases hlk : s.records.lookup (keyDigest env call.envelope.idempotencyKey) with
  | some =>
    simp only [BusMode.shift, hlk, replayRecord]
    split
    · nofun
    · rintro returned ⟨⟩
      rfl
  | none =>
    simp only [BusMode.shift, hlk, replayRecord]
    cases hhandler : call.handler with
    | none => exact ⟨_, rfl⟩
    | some outcome =>
      rw [CommandCall.HandlerMatches, hhandler] at hcall
      cases outcome with
      | error => exact hcall.elim
      | ok result =>
        refine fun s' => ⟨trivial, ?_⟩
        have hval : validateResult call.envelope result = .ok () := if_pos hcall
        change Prog.Obeys _ _ BusMode.handled (Prog.ofExcept (validateResult call.envelope result) >>=
          fun _ => journalStore env call.envelope result >>= fun _ => pure result)
        rw [hval]
        exact obeys_journalStore env

end

/-! ### The invariant -/

/-- Between a miss and the write. -/
def BusMode.isPending : BusMode τ → Bool
  | missed | handled => true
  | _ => false

/-- Between the run of the handler and the write. -/
def BusMode.isUnwritten : BusMode τ → Bool
  | handled => true
  | _ => false

section

variable {κ : Type}

/-- The process has found no record and has not written one. -/
abbrev Pending (modes : κ → Option (BusMode τ)) (process : κ) : Prop :=
  (modes process).any BusMode.isPending = true

/-- The process has run the handler and has not written its result. -/
abbrev Unwritten (modes : κ → Option (BusMode τ)) (process : κ) : Prop :=
  (modes process).any BusMode.isUnwritten = true

/-- The journal is read only while no process is between a miss and its write. -/
def ReadsInTurn (modes : κ → Option (BusMode τ)) (op : BusOp τ) : Prop :=
  match op with
  | .readJournal _ => ∀ other, ¬ Pending modes other
  | _ => True

instance [Fintype κ] (modes : κ → Option (BusMode τ)) (op : BusOp τ) :
    Decidable (ReadsInTurn modes op) :=
  match op with
  | .readJournal _ => inferInstanceAs (Decidable (∀ other, ¬ Pending modes other))
  | .handle | .writeJournal .. => isTrue trivial

/-- Processes that execute one command: they use its key and its fingerprint, their handlers
return results of the command, they read the journal in turn, and none is killed between the run
of the handler and the write. -/
abbrev busConduct (env : BusEnv) (key fingerprint : String) :
    Conduct κ (BusOp τ) (CommandStore τ) (BusMode τ) (CommandCall τ) where
  start call :=
    call.envelope.idempotencyKey = key ∧
      call.envelope.semanticFingerprint env.sha env.text = fingerprint ∧ call.HandlerMatches
  step modes _ op _ := ReadsInTurn modes op
  kill modes process := ¬ Unwritten modes process

/-- At most one process is between a miss and its write, and there is no record while one is; the
handler was run once if there is a record or a result yet to be written, and not at all
otherwise; what processes hold and have returned is the record. -/
structure BusInv (digest : String) (start : ℕ) (s : CommandStore τ)
    (modes : κ → Option (BusMode τ)) (ended : List (κ × Except PyError (CommandResult τ))) :
    Prop where
  one : ∀ a b, Pending modes a → Pending modes b → a = b
  absent : ∀ process, Pending modes process → s.records.lookup digest = none
  fresh : s.records.lookup digest = none → (∀ process, ¬ Unwritten modes process) →
    s.handled = start
  unwritten : ∀ process, Unwritten modes process → s.handled = start + 1
  recorded : ∀ record, s.records.lookup digest = some record → s.handled = start + 1
  held : ∀ process record, modes process = some (.holds record) →
    s.records.lookup digest = some record
  orderly : ∀ process, modes process ≠ some .strayed
  returned : ∀ process result, (process, .ok result) ∈ ended →
    ∃ record, s.records.lookup digest = some record ∧ result.unflagged = record.result.unflagged

end

section

variable {κ : Type} [DecidableEq κ] {digest : String} {start : ℕ} {s : CommandStore τ}
  {modes : κ → Option (BusMode τ)} {ended : List (κ × Except PyError (CommandResult τ))}
  {process : κ}

omit [DecidableEq κ] in
theorem Unwritten.pending (h : Unwritten modes process) : Pending modes process := by
  obtain ⟨mode, hmode, hunwritten⟩ := (any_eq_true _ _).mp h
  refine (any_eq_true _ _).mpr ⟨mode, hmode, ?_⟩
  cases mode <;> first | rfl | cases hunwritten

section

variable (h : BusInv digest start s modes ended)
include h

/-- A process comes, or ends or is killed without a result yet to be written. -/
theorem BusInv.of_quiet {mode : Option (BusMode τ)} (hmode : mode = none ∨ mode = some .reading)
    (hold : ¬ Unwritten modes process) {ended' : List (κ × Except PyError (CommandResult τ))}
    (hended : ∀ process result, (process, .ok result) ∈ ended' →
      (process, .ok result) ∈ ended ∨ ∃ record, s.records.lookup digest = some record ∧
        result.unflagged = record.result.unflagged) :
    BusInv digest start s (update modes process mode) ended' := by
  have hqt : mode.any BusMode.isPending = false ∧ mode.any BusMode.isUnwritten = false ∧
      (∀ record, mode ≠ some (.holds record)) ∧ mode ≠ some .strayed := by
    rcases hmode with rfl | rfl <;> exact ⟨rfl, rfl, nofun, nofun⟩
  obtain ⟨hpend, hunwritten, hholds, hstrayed⟩ := hqt
  have hkept : ∀ other, Pending (update modes process mode) other → Pending modes other := by
    refine (forall_update_iff modes fun other entry =>
      entry.any BusMode.isPending = true → Pending modes other).mpr ⟨fun hnew => ?_, fun _ _ => id⟩
    rw [hpend] at hnew
    cases hnew
  have hsame : ∀ other, Unwritten (update modes process mode) other ↔ Unwritten modes other := by
    refine (forall_update_iff modes fun other entry =>
      (entry.any BusMode.isUnwritten = true ↔ Unwritten modes other)).mpr ⟨?_, fun _ _ => .rfl⟩
    rw [hunwritten]
    exact ⟨nofun, fun hoth => absurd hoth hold⟩
  refine ⟨fun a b ha hb => h.one a b (hkept a ha) (hkept b hb),
    fun other hoth => h.absent other (hkept other hoth), fun hnone hall => ?_,
    fun other hoth => h.unwritten other ((hsame other).mp hoth), h.recorded, ?_, ?_, ?_⟩
  · exact h.fresh hnone fun other hoth => hall other ((hsame other).mpr hoth)
  · intro other record
    refine (forall_update_iff modes fun _ entry => entry = some (.holds record) →
      s.records.lookup digest = some record).mpr ⟨fun hnew => absurd hnew (hholds record),
        fun other _ => h.held other record⟩ other
  · exact (forall_update_iff modes fun _ entry => entry ≠ some .strayed).mpr
      ⟨hstrayed, fun other _ => h.orderly other⟩
  · intro other result hmem
    rcases hended other result hmem with hmem | hrec
    · exact h.returned other result hmem
    · exact hrec

/-- A process acts while no other process is pending, and keeps the record if there is one. -/
theorem BusInv.of_sole {s' : CommandStore τ} {mode : BusMode τ}
    (hsole : ∀ other, Pending modes other → other = process)
    (hkept : ∀ record, s.records.lookup digest = some record →
      s'.records.lookup digest = some record)
    (habs : mode.isPending = true → s'.records.lookup digest = none)
    (hfr : s'.records.lookup digest = none → mode.isUnwritten = false → s'.handled = start)
    (hunwritten : mode.isUnwritten = true → s'.handled = start + 1)
    (hrecd : ∀ record, s'.records.lookup digest = some record → s'.handled = start + 1)
    (hheld : ∀ record, mode = .holds record → s'.records.lookup digest = some record)
    (hmode : mode ≠ .strayed) :
    BusInv digest start s' (update modes process (some mode)) ended := by
  have hpend : ∀ other, Pending (update modes process (some mode)) other →
      other = process ∧ mode.isPending = true :=
    (forall_update_iff modes fun other entry => entry.any BusMode.isPending = true →
      other = process ∧ mode.isPending = true).mpr
        ⟨fun hnew => ⟨rfl, hnew⟩, fun other hne hoth => absurd (hsole other hoth) hne⟩
  refine ⟨fun a b ha hb => (hpend a ha).1.trans (hpend b hb).1.symm,
    fun other hoth => habs (hpend other hoth).2, fun hnone hall => ?_, ?_, hrecd,
    ?_, ?_, fun other result hmem => ?_⟩
  · have hprocess := hall process
    rw [Unwritten, update_self, any_some, Bool.not_eq_true] at hprocess
    exact hfr hnone hprocess
  · intro other hoth
    obtain ⟨rfl, -⟩ := hpend other hoth.pending
    rw [Unwritten, update_self] at hoth
    exact hunwritten hoth
  · intro other record
    refine (forall_update_iff modes fun _ entry => entry = some (.holds record) →
      s'.records.lookup digest = some record).mpr ⟨fun hnew => ?_, fun other _ hoth => ?_⟩ other
    · exact hheld record (some.inj hnew)
    · exact hkept record (h.held other record hoth)
  · exact (forall_update_iff modes fun _ entry => entry ≠ some .strayed).mpr
      ⟨fun hnew => hmode (some.inj hnew), fun other _ => h.orderly other⟩
  · obtain ⟨record, hrec, hres⟩ := h.returned other result hmem
    exact ⟨record, hkept record hrec, hres⟩

/-- A process reads the journal. -/
theorem BusInv.step_read (hturn : ∀ other, ¬ Pending modes other) :
    BusInv digest start s (update modes process
      (some (BusMode.shift .reading (.readJournal digest) s))) ended := by
  have hsole : ∀ other, Pending modes other → other = process :=
    fun other hoth => absurd hoth (hturn other)
  have hsta : s.records.lookup digest = none → s.handled = start :=
    fun hnone => h.fresh hnone fun other hoth => hturn other hoth.pending
  cases hlk : s.records.lookup digest with
  | none =>
    simp only [BusMode.shift, hlk]
    exact h.of_sole hsole (fun _ => id) (fun _ => hlk) (fun _ _ => hsta hlk) nofun
      h.recorded nofun nofun
  | some record =>
    simp only [BusMode.shift, hlk]
    refine h.of_sole hsole (fun _ => id) nofun (fun hnone _ => hsta hnone) nofun h.recorded
      (fun held hheld => ?_) nofun
    obtain rfl : record = held := by injection hheld
    exact hlk

/-- A process that has missed runs the handler. -/
theorem BusInv.step_handle (hmode : modes process = some .missed) :
    BusInv digest start (BusOp.handle.exec s) (update modes process
      (some (BusMode.shift .missed .handle s))) ended := by
  have hpend : Pending modes process := by rw [Pending, hmode]; rfl
  have hnone := h.absent process hpend
  have hsta : s.handled = start := by
    refine h.fresh hnone fun other hoth => ?_
    obtain rfl := h.one other process hoth.pending hpend
    rw [Unwritten, hmode] at hoth
    cases hoth
  refine h.of_sole (fun other hoth => h.one other process hoth hpend) (fun _ => id)
    (fun _ => hnone) nofun (fun _ => congrArg (· + 1) hsta) (fun record hrec => ?_) nofun nofun
  exact absurd (hnone.symm.trans hrec) nofun

/-- A process that has run the handler writes its record. -/
theorem BusInv.step_write (hmode : modes process = some .handled) (record : JournalRecord τ) :
    BusInv digest start ((BusOp.writeJournal digest record).exec s)
      (update modes process
        (some (BusMode.shift .handled (.writeJournal digest record) s))) ended := by
  have hunwritten : Unwritten modes process := by rw [Unwritten, hmode]; rfl
  have hnone := h.absent process hunwritten.pending
  have hlk : ((digest, record) :: s.records).lookup digest = some record := lookup_cons_self
  simp only [BusOp.exec, BusMode.shift, hnone, isSome_none, Bool.false_eq_true, if_false]
  refine h.of_sole (fun other hoth => h.one other process hoth hunwritten.pending)
    (fun old hold => absurd (hnone.symm.trans hold) nofun) nofun
    (fun hnew _ => absurd (hlk.symm.trans hnew) nofun) nofun
    (fun _ _ => h.unwritten process hunwritten) (fun held hheld => ?_) nofun
  obtain rfl : record = held := by injection hheld
  exact hlk

end

theorem bus_invariant (env : BusEnv) (key fingerprint : String) :
    (busProtocol (τ := τ) env).Invariant (busDiscipline (keyDigest env key))
      (busConduct (κ := κ) env key fingerprint) (BusInv (keyDigest env key) start) where
  start := by
    intro s modes ended process h hidle
    refine h.of_quiet (.inr rfl) ?_ fun _ _ => .inl
    rw [Unwritten, hidle]
    exact nofun
  step := by
    intro s modes ended process mode op h hmode halw hturn
    cases mode with
    | reading =>
      cases op with
      | readJournal name =>
        obtain rfl : name = keyDigest env key := halw
        exact h.step_read hturn
      | handle | writeJournal => exact halw.elim
    | missed =>
      cases op with
      | handle => exact h.step_handle hmode
      | readJournal | writeJournal => exact halw.elim
    | handled =>
      cases op with
      | writeJournal name record =>
        obtain rfl : name = keyDigest env key := halw
        exact h.step_write hmode record
      | readJournal | handle => exact halw.elim
    | holds | strayed => cases op <;> exact halw.elim
  finish := by
    intro s modes ended process mode outcome h hmode hends
    refine h.of_quiet (.inl rfl) ?_ fun other result hmem => ?_
    · rw [Unwritten, hmode]
      rintro hunwritten
      cases mode <;> first | exact hends | cases hunwritten
    · rcases mem_cons.mp hmem with heq | hmem
      · obtain ⟨rfl, rfl⟩ := Prod.mk.inj heq
        refine .inr ?_
        cases mode with
        | reading | handled => exact hends.elim
        | missed =>
          obtain ⟨error, herr⟩ := hends
          cases herr
        | holds record => exact ⟨record, h.held _ record hmode, hends result rfl⟩
        | strayed => exact absurd hmode (h.orderly _)
      · exact .inl hmem
  kill h hkill := h.of_quiet (.inl rfl) hkill fun _ _ => .inl
  outside := fun {_ _ _ change} _ => change.elim

/-! ### Executions -/

abbrev Buses (κ τ : Type) := Processes κ (BusOp τ) (CommandStore τ) (BusMode τ) (CommandResult τ)

abbrev BusEvent (κ τ : Type) := ProcessEvent κ (CommandCall τ) Empty

/-- Runs of processes that execute one command and meet the conditions. -/
abbrev BusPath (env : BusEnv) (key fingerprint : String) :=
  Path (Processes.step (κ := κ) (busProtocol (τ := τ) env))
    (Processes.Meets (busConduct env key fingerprint))

end

/-! ### Two processes -/

/-- Digests that the kernel can evaluate. -/
def BusEnv.plain : BusEnv where
  sha := .bytePolynomial
  text := .plain

variable (commandId : String)

def deployCommand : CommandEnvelope where
  commandId := commandId
  commandType := "deploy"
  projectId := "project"
  actorId := "actor"
  correlationId := "correlation"
  idempotencyKey := "deploy-once"
  issuedAtUtc := 0

def deployResult : CommandResult Unit where
  commandId := commandId
  commandType := "deploy"
  projectId := "project"
  correlationId := "correlation"
  idempotencyKey := "deploy-once"
  status := .succeeded
  completedAtUtc := 0
  content := ()

def deployCall : CommandCall Unit where
  envelope := deployCommand commandId
  handler := some (.ok (deployResult commandId))

def busSteps {κ : Type} (process : κ) (n : ℕ) : List (BusEvent κ Unit) :=
  replicate n (.step process)

def noBuses {κ : Type} : Buses κ Unit := { state := {} }

/-- The fingerprint of the command does not depend on its identifier. -/
def deployFingerprint : String := (deployCommand "").semanticFingerprint BusEnv.plain.sha .plain

abbrev SameCommand (call : CommandCall Unit) : Prop :=
  call.envelope.idempotencyKey = "deploy-once" ∧
    call.envelope.semanticFingerprint BusEnv.plain.sha .plain = deployFingerprint

def oneAfterTheOther : List (BusEvent Bool Unit) :=
  .start false (deployCall "command-a") :: busSteps false 4 ++
    .start true (deployCall "command-b") :: busSteps true 2

/-- Both read the journal, and then both go on. -/
def bothRead : List (BusEvent Bool Unit) :=
  .start false (deployCall "command-a") :: .start true (deployCall "command-b") ::
    busSteps false 1 ++ busSteps true 1 ++ busSteps false 3 ++ busSteps true 3

end ProjectPipeline
