import ProjectPipeline.Digest
import ProjectPipeline.JsonValue
import ProjectPipeline.Processes

/-!
# The Command Processor

`CommandProcessor.execute` looks for a result in the journal, runs the handler of the command
if there is none, checks the handler's result and stores it. The journal has one record for
each idempotency key. A record that is stored stays: a second one for the same key is dropped.

An execution is a program of three atomic steps: the read of the journal, the run of the
handler, and the write to the journal. The result of a handler is data of the call. What a
command carries besides its identity, such as the output of a result, is left open as a type.
-/

namespace ProjectPipeline

/-! ### Contracts -/

inductive CommandStatus where
  | succeeded | rejected | failed | unknown
  deriving DecidableEq, Repr

/-- `CommandEnvelope`. The action intent is given as it is dumped. -/
structure CommandEnvelope where
  commandId : String
  commandType : String
  projectId : String
  actorId : String
  correlationId : String
  idempotencyKey : String
  issuedAtUtc : Instant
  authorityScope : List String := []
  dryRun : Bool := false
  payload : JsonDict := []
  actionIntent : Option JsonDict := none

/-- `CommandResult`. The content stands for its output, transitions, events and error. -/
structure CommandResult (τ : Type) where
  commandId : String
  commandType : String
  projectId : String
  correlationId : String
  idempotencyKey : String
  status : CommandStatus
  replayed : Bool := false
  completedAtUtc : Instant
  content : τ
  deriving DecidableEq

section

variable (sha : Sha256) (text : PyText) (envelope : CommandEnvelope)

/-- `semantic_fingerprint`: a digest of everything but the command's own identifier and time. -/
def CommandEnvelope.semanticFingerprint : String :=
  let document : JsonDict :=
    [("schema_version", .str "1.0.0"), ("command_type", .str envelope.commandType),
      ("project_id", .str envelope.projectId), ("actor_id", .str envelope.actorId),
      ("correlation_id", .str envelope.correlationId),
      ("idempotency_key", .str envelope.idempotencyKey),
      ("authority_scope", .arr (envelope.authorityScope.map .str)),
      ("dry_run", .bool envelope.dryRun), ("payload", .obj envelope.payload),
      ("action_intent", (envelope.actionIntent.map JsonValue.obj).getD .null)]
  String.ofList (sha.hexdigest ((JsonValue.obj document).dumpsWith text "," ":"))

/-- Commands that differ in their identifiers and times only have the same fingerprint. -/
theorem CommandEnvelope.semanticFingerprint_congr (commandId : String) (issuedAtUtc : Instant) :
    { envelope with
      commandId := commandId
      issuedAtUtc := issuedAtUtc }.semanticFingerprint sha text =
      envelope.semanticFingerprint sha text := rfl

end

/-! ### The journal -/

variable {τ : Type}

structure JournalRecord (τ : Type) where
  semanticFingerprint : String
  envelope : CommandEnvelope
  result : CommandResult τ

/-- The files of the journal by the digest in their names, and how often a handler was run. -/
structure CommandStore (τ : Type) where
  records : List (String × JournalRecord τ) := []
  handled : ℕ := 0

structure BusEnv where
  sha : Sha256
  text : PyText

section

variable (env : BusEnv)

def keyDigest (idempotencyKey : String) : String := String.ofList (env.sha.hexdigest idempotencyKey)

variable (envelope : CommandEnvelope)

/-- `LocalCommandJournal.get`, of the record that was found. -/
def replayRecord :
    Option (JournalRecord τ) → Except PyError (Option (CommandResult τ))
  | none => .ok none
  | some record =>
    if record.semanticFingerprint ≠ envelope.semanticFingerprint env.sha env.text then
      .error (.raised "IdempotencyConflictError"
        "idempotency key was already used for a different command")
    else .ok (some { record.result with replayed := true })

variable (result : CommandResult τ)

def journalRecord : JournalRecord τ where
  semanticFingerprint := envelope.semanticFingerprint env.sha env.text
  envelope := envelope
  result := result

inductive BusOp (τ : Type) where
  | readJournal (digest : String)
  | handle
  | writeJournal (digest : String) (record : JournalRecord τ)

/-- What a step changes. A record is linked to its name only if there is none. -/
def BusOp.exec : BusOp τ → CommandStore τ → CommandStore τ
  | readJournal _, s => s
  | handle, s => { s with handled := s.handled + 1 }
  | writeJournal digest record, s =>
    if (s.records.lookup digest).isSome then s
    else { s with records := (digest, record) :: s.records }

abbrev BusProg (τ : Type) := Prog (BusOp τ) (CommandStore τ)

/-- `LocalCommandJournal.get`. -/
def journalGet : BusProg τ (Option (CommandResult τ)) :=
  .call (.readJournal (keyDigest env envelope.idempotencyKey)) fun s =>
    replayRecord env envelope (s.records.lookup (keyDigest env envelope.idempotencyKey))

/-- `LocalCommandJournal.store`. A record that exists is only checked. -/
def journalStore : BusProg τ Unit :=
  .call (.writeJournal (keyDigest env envelope.idempotencyKey) (journalRecord env envelope result))
    fun s => do
      let _ ← replayRecord env envelope (s.records.lookup (keyDigest env envelope.idempotencyKey))
      pure ()

/-! ### Executing -/

def CommandResult.Matches (envelope : CommandEnvelope) : Prop :=
  result.commandId = envelope.commandId ∧ result.commandType = envelope.commandType ∧
    result.projectId = envelope.projectId ∧ result.correlationId = envelope.correlationId ∧
    result.idempotencyKey = envelope.idempotencyKey

instance (result : CommandResult τ) (envelope : CommandEnvelope) :
    Decidable (result.Matches envelope) :=
  inferInstanceAs (Decidable (_ ∧ _ ∧ _ ∧ _ ∧ _))

def validateResult :
    Except PyError Unit :=
  if result.Matches envelope then .ok ()
  else .error (.valueError "command result does not match command envelope")

/-- A call of `execute`: the command, and what its handler does, if one is registered. -/
structure CommandCall (τ : Type) where
  envelope : CommandEnvelope
  handler : Option (Except PyError (CommandResult τ))

/-- `CommandProcessor.execute`. -/
def executeCommand (call : CommandCall τ) : BusProg τ (CommandResult τ) := do
  match ← journalGet env call.envelope with
  | some replay => return replay
  | none =>
    match call.handler with
    | none => .raise (.raised "UnknownCommandError" call.envelope.commandType)
    | some outcome =>
      let result ← .call .handle fun _ => outcome
      .ofExcept (validateResult call.envelope result)
      journalStore env call.envelope result
      return result

end

end ProjectPipeline
