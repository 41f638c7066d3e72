import ProjectPipeline.Digest

/-!
# Identifiers

The identifier patterns of the domain (`ids.py`, `domain/identifiers.py`) and the
identifiers made of digests: `scheduler_identifier` (`domain/scheduler.py`) and
`budget_identifier` (`domain/budget.py`).

## Main results

* `schedulerIdentifier_wellFormed`: an identifier that is produced matches the pattern
  that the scheduler's records demand.
-/

namespace ProjectPipeline

open Regex List

/-! ### Patterns -/

def digitAlphabet : List Char := ['0', '1', '2', '3', '4', '5', '6', '7', '8', '9']

def upperAlphabet : List Char :=
  ['A', 'B', 'C', 'D', 'E', 'F', 'G', 'H', 'I', 'J', 'K', 'L', 'M',
    'N', 'O', 'P', 'Q', 'R', 'S', 'T', 'U', 'V', 'W', 'X', 'Y', 'Z']

def lowerAlphabet : List Char := upperAlphabet.map Char.toLower

/-- `[0-9]`. -/
def digitClass : RegularExpression Char := oneOf digitAlphabet

/-- `[A-Z]`. -/
def upperClass : RegularExpression Char := oneOf upperAlphabet

/-- `[A-Z0-9]`. -/
def upperDigitClass : RegularExpression Char := oneOf (upperAlphabet ++ digitAlphabet)

/-- `[A-F0-9]`. -/
def upperHexClass : RegularExpression Char := oneOf upperHexAlphabet

inductive IdentifierKind where
  | project | requirement | issue | plan | planSection | acceptance | evidence | decision
  | migration | traceLink | transition | catalogImport | mutation | compilation | bootstrap
  | gap
  deriving DecidableEq, Repr

namespace IdentifierKind

/-- `kind.value.lower()`, as the error message prints it. -/
def label : IdentifierKind → String
  | project => "project"
  | requirement => "requirement"
  | issue => "issue"
  | plan => "plan"
  | planSection => "plan_section"
  | acceptance => "acceptance"
  | evidence => "evidence"
  | decision => "decision"
  | migration => "migration"
  | traceLink => "trace_link"
  | transition => "transition"
  | catalogImport => "catalog_import"
  | mutation => "mutation"
  | compilation => "compilation"
  | bootstrap => "bootstrap"
  | gap => "gap"

def pattern : IdentifierKind → RegularExpression Char
  | project => literal "PROJECT-" * oneOrMore upperDigitClass *
      (literal "-" * oneOrMore upperDigitClass).star
  | requirement => literal "REQ-" * oneOrMore upperClass * literal "-" * times digitClass 4
  | issue => literal "PP-" *
      (literal "EPIC" + literal "STORY" + literal "TASK" + literal "SUBTASK" + literal "BUG" +
        literal "SPIKE") * literal "-" * times digitClass 6
  | plan => literal "PLAN-" * oneOrMore upperClass * literal "-" * times digitClass 3
  | planSection => literal "PLAN-" * oneOrMore upperClass * literal "-" * times digitClass 3 *
      literal ":SEC-" * times digitClass 2
  | acceptance => literal "AC-PP-" * times digitClass 6 * literal "-" * times digitClass 2
  | evidence => literal "EVID-" * times digitClass 6
  | decision => literal "ADR-" * times digitClass 4
  | migration => literal "PPDB-" * times digitClass 4
  | traceLink => literal "TRACE-" * times upperHexClass 20
  | transition => literal "TRANS-" * times upperHexClass 20
  | catalogImport => literal "IMPORT-" * times upperHexClass 20
  | mutation => literal "MUT-" * times upperHexClass 20
  | compilation => literal "COMP-" * times upperHexClass 20
  | bootstrap => literal "BOOT-" * times upperHexClass 20
  | gap => literal "GAP-" * times upperHexClass 20

/-- No identifier is blank: every pattern begins with a literal. -/
theorem inked_pattern (kind : IdentifierKind) : Inked kind.pattern := by
  have hlit : ∀ text : String, (text.toList.any fun c => !isSpace c) = true →
      Inked (literal text) := fun text h => inked_literal (visible_of_any h)
  cases kind with
  | project => exact ((hlit "PROJECT-" (by decide)).mul_right _).mul_right _
  | requirement => exact (((hlit "REQ-" (by decide)).mul_right _).mul_right _).mul_right _
  | issue => exact (((hlit "PP-" (by decide)).mul_right _).mul_right _).mul_right _
  | plan => exact (((hlit "PLAN-" (by decide)).mul_right _).mul_right _).mul_right _
  | planSection =>
    have hplan := (((hlit "PLAN-" (by decide)).mul_right
      (oneOrMore upperClass)).mul_right (literal "-")).mul_right (times digitClass 3)
    exact (hplan.mul_right _).mul_right _
  | acceptance => exact (((hlit "AC-PP-" (by decide)).mul_right _).mul_right _).mul_right _
  | evidence => exact (hlit "EVID-" (by decide)).mul_right _
  | decision => exact (hlit "ADR-" (by decide)).mul_right _
  | migration => exact (hlit "PPDB-" (by decide)).mul_right _
  | traceLink => exact (hlit "TRACE-" (by decide)).mul_right _
  | transition => exact (hlit "TRANS-" (by decide)).mul_right _
  | catalogImport => exact (hlit "IMPORT-" (by decide)).mul_right _
  | mutation => exact (hlit "MUT-" (by decide)).mul_right _
  | compilation => exact (hlit "COMP-" (by decide)).mul_right _
  | bootstrap => exact (hlit "BOOT-" (by decide)).mul_right _
  | gap => exact (hlit "GAP-" (by decide)).mul_right _

end IdentifierKind

/-- `validate_identifier`: the value, or the `ValueError` of `DomainIdentifier`. -/
def validateIdentifier (value : String) (kind : IdentifierKind) : Except PyError String :=
  if fullmatch kind.pattern value then .ok value
  else .error (.valueError ("Invalid " ++ kind.label ++ " identifier: " ++ value))

/-! ### Identifiers from digests -/

/-- The separator of the parts of a digest, the ASCII unit separator. -/
def unitSeparator : String := String.singleton (Char.ofNat 0x1f)

section

variable (sha : Sha256) (family tag : String) (parts : List String)

/-- The identifiers of a family of records: a tag, and the digest of the parts. -/
def digestIdentifier :
    Except PyError String :=
  if parts.isEmpty || parts.any (fun part => pyStrip part == "") then
    .error (.valueError (family ++ " identifier parts must be non-empty"))
  else
    let canonical := pyJoin unitSeparator (parts.map pyStrip)
    .ok (tag ++ "-" ++ String.ofList (sha.shortDigest canonical))

/-- Parts that are not blank have an identifier. -/
theorem digestIdentifier_of_visible (hne : parts ≠ []) (h : ∀ part ∈ parts, Visible part) :
    digestIdentifier sha family tag parts =
      .ok (tag ++ "-" ++ String.ofList
        (sha.shortDigest (pyJoin unitSeparator (parts.map pyStrip)))) := by
  have hparts : (parts.isEmpty || parts.any fun part => pyStrip part == "") = false := by
    rw [Bool.or_eq_false_iff, isEmpty_eq_false_iff, any_eq_false]
    exact ⟨hne, fun part hpart => by simpa using (h part hpart).pyStrip_ne⟩
  rw [digestIdentifier, if_neg (by rw [hparts]; decide)]

end

/-! ### Deterministic identifiers -/

/-- The kinds that `deterministic_identifier` supports, with the text before the digest. -/
def IdentifierKind.digestTag : IdentifierKind → Option String
  | traceLink => some "TRACE"
  | transition => some "TRANS"
  | catalogImport => some "IMPORT"
  | mutation => some "MUT"
  | compilation => some "COMP"
  | bootstrap => some "BOOT"
  | gap => some "GAP"
  | _ => none

/-- `deterministic_identifier(kind, *parts)`. -/
def deterministicIdentifier (sha : Sha256) (kind : IdentifierKind) (parts : List String) :
    Except PyError String :=
  match kind.digestTag with
  | none => .error (.valueError ("Deterministic digest identifiers are unsupported for " ++
      kind.label.toUpper))
  | some tag => do validateIdentifier (← digestIdentifier sha "deterministic" tag parts) kind

/-- The digest parts of identifiers match the patterns that are made of a tag and twenty digits. -/
theorem fullmatch_digest (sha : Sha256) (tag text : String) :
    fullmatch (literal (tag ++ "-") * times upperHexClass 20)
      (tag ++ "-" ++ String.ofList (sha.shortDigest text)) = true := by
  have hdigits : sha.shortDigest text ∈ (times upperHexClass 20).matches' := by
    rw [← sha.length_shortDigest text]
    exact mem_times_oneOf (sha.upperHex_shortDigest text)
  rw [fullmatch, accepts_iff, String.toList_append, String.toList_ofList]
  exact ⟨_, mem_word_self _, _, hdigits, rfl⟩

variable {kind : IdentifierKind} {parts : List String} {sha : Sha256}

theorem IdentifierKind.pattern_of_digestTag {tag : String} (h : kind.digestTag = some tag) :
    kind.pattern = literal (tag ++ "-") * times upperHexClass 20 := by
  cases kind <;> cases h <;> rfl

/-- Parts have an identifier exactly if there are some and none of them is blank. -/
theorem deterministicIdentifier_isOk_iff {tag : String} (htag : kind.digestTag = some tag) :
    (∃ value, deterministicIdentifier sha kind parts = .ok value) ↔
      parts ≠ [] ∧ ∀ part ∈ parts, pyStrip part ≠ "" := by
  have hdig : (∃ value, deterministicIdentifier sha kind parts = .ok value) ↔
      ∃ value, digestIdentifier sha "deterministic" tag parts = .ok value := by
    rw [deterministicIdentifier, htag]
    constructor
    · rintro ⟨value, h⟩
      obtain ⟨candidate, hcand, -⟩ := bind_eq_ok.mp h
      exact ⟨candidate, hcand⟩
    · rintro ⟨value, h⟩
      refine ⟨value, bind_eq_ok.mpr ⟨value, h, ?_⟩⟩
      rw [digestIdentifier] at h
      split at h
      · cases h
      · cases h
        rw [validateIdentifier, kind.pattern_of_digestTag htag, fullmatch_digest]
        rfl
  rw [hdig, digestIdentifier]
  by_cases hblank : (parts.isEmpty || parts.any fun part => pyStrip part == "") = true
  · rw [if_pos hblank]
    refine ⟨nofun, fun ⟨hne, hparts⟩ => ?_⟩
    rcases (Bool.or_eq_true _ _).mp hblank with hemp | hany
    · exact absurd (isEmpty_iff.mp hemp) hne
    · obtain ⟨part, hpart, heq⟩ := any_eq_true.mp hany
      exact absurd (eq_of_beq heq) (hparts part hpart)
  · rw [if_neg hblank]
    refine ⟨fun _ => ?_, fun _ => ⟨_, rfl⟩⟩
    rw [Bool.not_eq_true, Bool.or_eq_false_iff, isEmpty_eq_false_iff, any_eq_false] at hblank
    refine ⟨hblank.1, fun part hpart heq => hblank.2 part hpart ?_⟩
    rw [heq]
    rfl

/-- An identifier that is returned is one of its kind. -/
theorem validateIdentifier_of_deterministic {value : String}
    (h : deterministicIdentifier sha kind parts = .ok value) :
    validateIdentifier value kind = .ok value := by
  rw [deterministicIdentifier] at h
  split at h
  · cases h
  · obtain ⟨candidate, -, h⟩ := bind_eq_ok.mp h
    have hsame : candidate = value := by
      rw [validateIdentifier] at h
      split at h
      · exact Except.ok.inj h
      · cases h
    rw [hsame] at h
    exact h

/-! ### Scheduler identifiers -/

inductive SchedulerIdKind where
  | sched | lane | lease | sim
  deriving DecidableEq, Repr

/-- The text before the digest. -/
def SchedulerIdKind.tag : SchedulerIdKind → String
  | sched => "SCHED"
  | lane => "LANE"
  | lease => "LEASE"
  | sim => "SIM"

/-- `SCHEDULER_ID`. -/
def schedulerIdPattern : RegularExpression Char :=
  (literal "SCHED" + literal "LANE" + literal "LEASE" + literal "SIM") * literal "-" *
    times upperHexClass 20

/-- The check of the records: the pattern, and the record's own kind. -/
def isSchedulerId (kind : SchedulerIdKind) (value : String) : Bool :=
  fullmatch schedulerIdPattern value && startsWith value (kind.tag ++ "-")

section

variable (sha : Sha256) (kind : SchedulerIdKind) (parts : List String)

/-- `scheduler_identifier(prefix, *parts)`. -/
def schedulerIdentifier :
    Except PyError String :=
  digestIdentifier sha "scheduler" kind.tag parts

theorem schedulerIdentifier_of_visible (hne : parts ≠ []) (h : ∀ part ∈ parts, Visible part) :
    schedulerIdentifier sha kind parts =
      .ok (kind.tag ++ "-" ++ String.ofList
        (sha.shortDigest (pyJoin unitSeparator (parts.map pyStrip)))) :=
  digestIdentifier_of_visible sha "scheduler" kind.tag parts hne h

end

/-- An identifier that is returned passes the check of the records of its kind. -/
theorem schedulerIdentifier_wellFormed {kind : SchedulerIdKind} {value : String}
    (h : schedulerIdentifier sha kind parts = .ok value) : isSchedulerId kind value = true := by
  rw [schedulerIdentifier, digestIdentifier] at h
  split at h
  · cases h
  · cases h
    have hdig := sha.upperHex_shortDigest (pyJoin unitSeparator (parts.map pyStrip))
    have hlen := sha.length_shortDigest (pyJoin unitSeparator (parts.map pyStrip))
    generalize sha.shortDigest (pyJoin unitSeparator (parts.map pyStrip)) = digest at *
    have hpow : digest ∈ (times upperHexClass 20).matches' := by
      rw [← hlen]
      exact mem_times_oneOf hdig
    have htag : kind.tag.toList ∈
        (literal "SCHED" + literal "LANE" + literal "LEASE" + literal "SIM").matches' := by
      cases kind with
      | sched => exact .inl (.inl (.inl (mem_word_self _)))
      | lane => exact .inl (.inl (.inr (mem_word_self _)))
      | lease => exact .inl (.inr (mem_word_self _))
      | sim => exact .inr (mem_word_self _)
    have htext : (kind.tag ++ "-" ++ String.ofList digest).toList =
        kind.tag.toList ++ "-".toList ++ digest := by simp
    rw [isSchedulerId, Bool.and_eq_true]
    constructor
    · rw [fullmatch, accepts_iff, htext]
      exact ⟨_, ⟨_, htag, _, mem_word_self _, rfl⟩, _, hpow, rfl⟩
    · simp [startsWith, String.toList_append, append_assoc]

/-! ### Budget identifiers -/

inductive BudgetIdKind where
  | limit | quota | entry | lease | admission | forecast | history | sim | anomaly | impact
  deriving DecidableEq, Repr

def BudgetIdKind.tag : BudgetIdKind → String
  | limit => "LIMIT"
  | quota => "QUOTA"
  | entry => "ENTRY"
  | lease => "LEASE"
  | admission => "ADMISSION"
  | forecast => "FORECAST"
  | history => "HISTORY"
  | sim => "SIM"
  | anomaly => "ANOMALY"
  | impact => "IMPACT"

/-- `budget_identifier(prefix, *parts)`. -/
def budgetIdentifier (sha : Sha256) (kind : BudgetIdKind) (parts : List String) :
    Except PyError String :=
  digestIdentifier sha "budget" kind.tag parts

/-! ### Orchestration identifiers -/

/-- The record kinds of `_ID_PREFIXES`. -/
inductive OrchestrationIdKind where
  | workflowDefinition | workflow | event | wait | checkpoint | operation | recovery | signal
  deriving DecidableEq, Repr

def OrchestrationIdKind.tag : OrchestrationIdKind → String
  | workflowDefinition => "WFDEF"
  | workflow => "WFRUN"
  | event => "WFEVT"
  | wait => "WFWAIT"
  | checkpoint => "WFCHK"
  | operation => "WFOP"
  | recovery => "WFREC"
  | signal => "WFSIG"

/-- `orchestration_identifier(kind, *parts)`. Unlike the other families, blank parts are
accepted as long as one part is not blank, and the digest is longer. -/
def orchestrationIdentifier (sha : Sha256) (kind : OrchestrationIdKind) (parts : List String) :
    Except PyError String :=
  if parts.all fun part => pyStrip part == "" then
    .error (.valueError "orchestration identifier requires at least one non-empty part")
  else
    let canonical := pyJoin unitSeparator (parts.map pyStrip)
    .ok (kind.tag ++ "-" ++ String.ofList (((sha.hexdigest canonical).take 24).map Char.toUpper))

end ProjectPipeline
