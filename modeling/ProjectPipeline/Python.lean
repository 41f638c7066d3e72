import ProjectPipeline.Regex

/-!
# Fragments of the Python Library

The modelled program is written in Python. This module fixes the parts of the language
and its library that the model of every subsystem uses: the exceptions a call may raise,
the string methods, regular expressions, and UTC timestamps.

Strings are Lean's `String`, a sequence of code points as `str` is; the methods work on
the list of code points. A timestamp is a timezone-aware UTC `datetime`, held as the
number of microseconds since `0001-01-01T00:00:00`. Python bounds timestamps by the year
`9999`, and `now + timedelta(...)` raises `OverflowError` outside of the bounds, which
`addSeconds` models.
-/

namespace ProjectPipeline

open List

/-- The exceptions of the modelled code. A `validationError` lists the location and the
message of every rejected field of a record. `raised` carries the class name of an
exception class that the program defines itself. -/
inductive PyError where
  | valueError (message : String)
  | keyError (message : String)
  | overflowError (message : String)
  | integrityError (message : String)
  | validationError (model : String) (errors : List (String × String))
  | raised (className message : String)
  deriving DecidableEq, Repr

/-- The message of an exception. -/
def PyError.message : PyError → String
  | .valueError message | .keyError message | .overflowError message | .integrityError message =>
    message
  | .validationError model _ => model
  | .raised _ message => message

variable {α ε : Type} {x : Except ε α}

theorem toOption_eq_some {a : α} :
    x.toOption = some a ↔ x = .ok a := by
  cases x with
  | error => exact ⟨nofun, nofun⟩
  | ok => exact ⟨fun h => congrArg Except.ok (Option.some.inj h), fun h => by cases h; rfl⟩

/-- A computation that is seen to return a value with `P` returns one with what follows from `P`. -/
theorem exists_ok {P Q : α → Prop} [DecidablePred P]
    (h : (x.toOption.any fun a => decide (P a)) = true) (himp : ∀ a, x = .ok a → P a → Q a) :
    ∃ a, x = .ok a ∧ Q a := by
  obtain ⟨a, ha, hP⟩ := (Option.any_eq_true _ _).mp h
  have hx := toOption_eq_some.mp ha
  exact ⟨a, hx, himp a hx (of_decide_eq_true hP)⟩

variable {β : Type}

theorem ok_pair_inj {a a' : α} {b b' : β}
    (h : (.ok (a, b) : Except ε (α × β)) = .ok (a', b')) : a = a' ∧ b = b' :=
  Prod.mk.inj (Except.ok.inj h)

variable {f : α → Except ε β}

/-- A computation that returns has returned at each of its steps. -/
theorem bind_eq_ok {b : β} :
    x >>= f = .ok b ↔ ∃ a, x = .ok a ∧ f a = .ok b := by
  cases x <;> simp [bind, Except.bind]

/-- A computation that raises has raised in one of its steps. -/
theorem bind_eq_error {error : ε} :
    x >>= f = .error error ↔ x = .error error ∨ ∃ a, x = .ok a ∧ f a = .error error := by
  cases x <;> simp [bind, Except.bind]

variable {l : List α}

/-- A loop returns exactly if each of its rounds does. -/
theorem mapM_isOk_iff :
    (∃ bs, l.mapM f = .ok bs) ↔ ∀ a ∈ l, ∃ b, f a = .ok b := by
  induction l with
  | nil => exact ⟨fun _ => nofun, fun _ => ⟨[], rfl⟩⟩
  | cons _ _ ih =>
    rw [forall_mem_cons, ← ih, mapM_cons]
    constructor
    · rintro ⟨bs, h⟩
      obtain ⟨b, hb, h⟩ := bind_eq_ok.mp h
      obtain ⟨bs', hbs', -⟩ := bind_eq_ok.mp h
      exact ⟨⟨b, hb⟩, bs', hbs'⟩
    · rintro ⟨⟨b, hb⟩, bs, hbs⟩
      exact ⟨b :: bs, bind_eq_ok.mpr ⟨b, hb, bind_eq_ok.mpr ⟨bs, hbs, rfl⟩⟩⟩

/-- A loop that returns has collected the results of its rounds. -/
theorem mapM_eq_ok {bs : List β}
    (h : l.mapM f = .ok bs) : List.Forall₂ (fun a b => f a = .ok b) l bs := by
  induction l generalizing bs with
  | nil =>
    cases h
    exact .nil
  | cons _ _ ih =>
    rw [mapM_cons] at h
    obtain ⟨b, hb, h⟩ := bind_eq_ok.mp h
    obtain ⟨bs', hbs', h⟩ := bind_eq_ok.mp h
    cases h
    exact .cons hb (ih hbs')

/-- The result of a call, with the fact that the call has returned it. -/
def returned {ε α : Type} (x : Except ε α) : Except ε { a : α // x = .ok a } :=
  match x with
  | .error error => .error error
  | .ok a => .ok ⟨a, rfl⟩

theorem returned_of_ok {a : α} (h : x = .ok a) :
    returned x = .ok ⟨a, h⟩ := by
  subst h
  rfl

/-- `if condition: raise error`. -/
def raiseIf (condition : Prop) [Decidable condition] (error : PyError) : Except PyError Unit :=
  if condition then .error error else .ok ()

/-- A guard is passed exactly when its condition fails. -/
theorem raiseIf_eq_ok {condition : Prop} [Decidable condition] {error : PyError} {u : Unit} :
    raiseIf condition error = .ok u ↔ ¬ condition := by
  by_cases h : condition <;> simp [raiseIf, h]

/-! ### Strings -/

/-- The code points `str.isspace` accepts, which `str.strip` removes. -/
def isSpace (c : Char) : Bool :=
  let n := c.toNat
  (9 ≤ n && n ≤ 13) || (28 ≤ n && n ≤ 32) || n == 0x85 || n == 0xa0 || n == 0x1680 ||
    (0x2000 ≤ n && n ≤ 0x200a) || n == 0x2028 || n == 0x2029 || n == 0x202f ||
    n == 0x205f || n == 0x3000

/-- Remove from both ends the code points that satisfy `p`. -/
def stripBy (p : Char → Bool) (s : String) : String :=
  String.ofList ((s.toList.dropWhile p).rdropWhile p)

/-- `str.strip()`. -/
def pyStrip (s : String) : String := stripBy isSpace s

/-- `str.startswith`. -/
def startsWith (s start : String) : Bool := start.toList.isPrefixOf s.toList

/-- `str.replace` of one code point by another. -/
def replaceChar (old new : Char) (s : String) : String :=
  String.ofList (s.toList.map fun c => if c = old then new else c)

/-- The pieces of a list between the occurrences of a separator. -/
def splitAtChar (sep : Char) : List Char → List (List Char)
  | [] => [[]]
  | c :: cs =>
    match splitAtChar sep cs with
    | [] => [[c]]
    | piece :: pieces => if c = sep then [] :: piece :: pieces else (c :: piece) :: pieces

/-- `str.split` at one code point. -/
def pySplit (sep : Char) (s : String) : List String :=
  (splitAtChar sep s.toList).map String.ofList

/-- Replace every run of the code point `c` by a single one: `re.sub(r"c+", "c", ...)`. -/
def collapseRuns (c : Char) : List Char → List Char
  | a :: b :: rest =>
    if a = c ∧ b = c then collapseRuns c (b :: rest) else a :: collapseRuns c (b :: rest)
  | rest => rest

/-- `text.replace("Z", "+00:00")`. -/
def replaceZulu (text : String) : String :=
  String.ofList (text.toList.flatMap fun c => if c = 'Z' then "+00:00".toList else [c])

/-- The number that a text of digits stands for. -/
def readDigits (text : String) : Option ℕ :=
  if text ≠ "" ∧ text.toList.all Char.isDigit then
    some (text.toList.foldl (fun n c => 10 * n + (c.toNat - 48)) 0)
  else none

/-- `sep.join(parts)`. -/
def pyJoin (sep : String) (parts : List String) : String := sep.intercalate parts

def hexAlphabet : List Char :=
  ['0', '1', '2', '3', '4', '5', '6', '7', '8', '9', 'a', 'b', 'c', 'd', 'e', 'f']

/-- The last hexadecimal digit of a number. -/
def hexDigit (n : ℕ) : Char := hexAlphabet.getD (n % 16) '0'

/-- `f"{n:0{width}d}"`. -/
def zeroPadded (width n : ℕ) : String :=
  String.ofList (List.replicate (width - (toString n).length) '0') ++ toString n

/-- One code point of a JSON string, as `json.dumps(..., ensure_ascii=False)` writes it. -/
def jsonChar (c : Char) : String :=
  if c = '"' then "\\\""
  else if c = '\\' then "\\\\"
  else if c = '\n' then "\\n"
  else if c = '\r' then "\\r"
  else if c = '\t' then "\\t"
  else if c.toNat = 8 then "\\b"
  else if c.toNat = 12 then "\\f"
  else if c.toNat < 32 then
    "\\u00" ++ String.ofList [hexDigit (c.toNat / 16), hexDigit c.toNat]
  else String.singleton c

def jsonString (s : String) : String :=
  "\"" ++ String.join (s.toList.map jsonChar) ++ "\""

/-- The order of texts by code points, on lists. -/
def codePointsLt : List Char → List Char → Bool
  | _, [] => false
  | [], _ :: _ => true
  | a :: as, b :: bs => a.toNat < b.toNat || (a.toNat == b.toNat && codePointsLt as bs)

/-- `a < b` on `str`, which is also the `BINARY` collation of SQLite. -/
def textLt (a b : String) : Bool := codePointsLt a.toList b.toList

/-- `a <= b` on `str`. -/
def textLe (a b : String) : Bool := !textLt b a

/-- `a < b` on tuples of `str`. -/
def textsLt : List String → List String → Bool
  | _, [] => false
  | [], _ :: _ => true
  | a :: as, b :: bs => textLt a b || (a == b && textsLt as bs)

/-- `sorted(set(texts))`. -/
def sortedSet (texts : List String) : List String :=
  texts.dedup.insertionSort fun a b => textLe a b

theorem sortedSet_eq_nil_iff {texts : List String} : sortedSet texts = [] ↔ texts = [] := by
  have hlen : (sortedSet texts).length = texts.dedup.length :=
    length_insertionSort _ _
  rw [← length_eq_zero_iff, hlen, length_eq_zero_iff, dedup_eq_nil]

/-- Code points are compared as `Char`s are. -/
theorem codePointsLt_iff {a b : List Char} : codePointsLt a b = true ↔ a < b := by
  induction a generalizing b with
  | nil => cases b <;> simp [codePointsLt]
  | cons _ _ ih =>
    cases b with
    | nil => simp [codePointsLt]
    | cons =>
      simp only [codePointsLt, Bool.or_eq_true, Bool.and_eq_true, decide_eq_true_eq, beq_iff_eq, ih,
        Char.toNat_inj, cons_lt_cons_iff]
      rfl

theorem textLt_iff {a b : String} : textLt a b = true ↔ a < b :=
  codePointsLt_iff.trans String.lt_iff_toList_lt.symm

theorem textLe_iff {a b : String} : textLe a b = true ↔ a ≤ b := by
  rw [textLe, Bool.not_eq_true', ← not_lt, ← textLt_iff, Bool.not_eq_true]

/-- Truth of an optional string: neither `None` nor empty. -/
def truthy (s : Option String) : Bool :=
  match s with
  | none => false
  | some text => text != ""

/-- `str.upper()` of an ASCII text. -/
def pyUpper (s : String) : String := String.ofList (s.toList.map Char.toUpper)

theorem mem_dropWhile_of_not {p : α → Bool} {x : α} (hx : x ∈ l)
    (hp : p x = false) : x ∈ l.dropWhile p := by
  rw [← takeWhile_append_dropWhile (p := p) (l := l), mem_append] at hx
  rcases hx with htake | hdrop
  · rw [mem_takeWhile_imp htake] at hp
    cases hp
  · exact hdrop

theorem mem_rdropWhile_of_not {p : α → Bool} {x : α} (hx : x ∈ l)
    (hp : p x = false) : x ∈ l.rdropWhile p := by
  rw [rdropWhile, mem_reverse]
  exact mem_dropWhile_of_not (mem_reverse.mpr hx) hp

theorem mem_collapseRuns {c d : Char} {l : List Char} (hd : d ∈ l) (hne : d ≠ c) :
    d ∈ collapseRuns c l := by
  induction l using collapseRuns.induct c with
  | case1 _ _ _ h ih =>
    rw [collapseRuns, if_pos h]
    rcases mem_cons.mp hd with rfl | hd
    · exact absurd h.1 hne
    · exact ih hd
  | case2 _ _ _ h ih =>
    rw [collapseRuns, if_neg h]
    rcases mem_cons.mp hd with rfl | hd
    · exact mem_cons_self
    · exact mem_cons_of_mem _ (ih hd)
  | case3 _ h =>
    rw [collapseRuns]
    · exact hd
    · exact h

variable {s : String}

/-- The first code point that is left by stripping is not blank. -/
theorem isSpace_head_pyStrip {c : Char} {rest : List Char}
    (h : (pyStrip s).toList = c :: rest) : isSpace c = false := by
  rw [pyStrip, stripBy, String.toList_ofList] at h
  obtain ⟨tail, htail⟩ := rdropWhile_prefix isSpace (s.toList.dropWhile isSpace)
  rw [h, cons_append] at htail
  have hhead := head?_dropWhile_not isSpace s.toList
  rw [← htail] at hhead
  simpa using hhead

/-- A text that is not blank. -/
def Visible (s : String) : Prop := ∃ c ∈ s.toList, isSpace c = false

/-- Stripping leaves something of a text that is not blank. -/
theorem Visible.pyStrip_ne (h : Visible s) : pyStrip s ≠ "" := by
  obtain ⟨c, hmem, hspace⟩ := h
  have hstrip : c ∈ (pyStrip s).toList := by
    rw [pyStrip, stripBy, String.toList_ofList]
    exact mem_rdropWhile_of_not (mem_dropWhile_of_not hmem hspace) hspace
  intro hemp
  rw [hemp] at hstrip
  exact absurd hstrip not_mem_nil

theorem visible_of_any (h : (s.toList.any fun c => !isSpace c) = true) :
    Visible s := by
  obtain ⟨c, hmem, hspace⟩ := any_eq_true.mp h
  exact ⟨c, hmem, (Bool.not_eq_true' _).mp hspace⟩

theorem isSpace_of_isDigit {c : Char} (h : c.isDigit = true) : isSpace c = false := by
  simp only [Char.isDigit, Bool.and_eq_true, decide_eq_true_eq, UInt32.le_iff_toNat_le] at h
  simp only [isSpace, Char.toNat]
  have hlow : 48 ≤ c.val.toNat := h.1
  have hhigh : c.val.toNat ≤ 57 := h.2
  grind

/-- A decimal number is not blank. -/
theorem visible_toString (n : ℕ) : Visible (toString n) := by
  obtain ⟨c, hc⟩ := exists_mem_of_ne_nil _ (Nat.toDigits_ne_nil (n := n) (b := 10))
  refine ⟨c, ?_, isSpace_of_isDigit (Nat.isDigit_of_mem_toDigits (by decide) (by decide) hc)⟩
  rwa [show toString n = Nat.repr n from rfl, Nat.toList_repr]

theorem visible_toString_int (n : ℤ) : Visible (toString n) := by
  cases n with
  | ofNat n => exact visible_toString n
  | negSucc n =>
    refine ⟨'-', ?_, by decide⟩
    rw [show toString (Int.negSucc n) = "-" ++ Nat.repr (n + 1) from rfl, String.toList_append]
    exact mem_cons_self

/-- A joined text is not blank when its first part is not. -/
theorem Visible.pyJoin {part : String} (h : Visible part) (sep : String) (parts : List String) :
    Visible (pyJoin sep (part :: parts)) := by
  obtain ⟨c, hmem, hspace⟩ := h
  refine ⟨c, ?_, hspace⟩
  cases parts with
  | nil => simpa [ProjectPipeline.pyJoin] using hmem
  | cons => simp [ProjectPipeline.pyJoin, String.intercalate_cons_of_ne_nil, hmem]

/-! ### Regular expressions -/

def literal (text : String) : RegularExpression Char := Regex.word text.toList

/-- `re.fullmatch`. -/
def fullmatch (r : RegularExpression Char) (s : String) : Bool := Regex.accepts r s.toList

/-- A pattern that matches no blank text. -/
def Inked (P : RegularExpression Char) : Prop := ∀ w ∈ P.matches', ∃ c ∈ w, isSpace c = false

theorem Inked.visible {P : RegularExpression Char} (h : Inked P)
    (hmt : fullmatch P s = true) : Visible s :=
  h s.toList (Regex.accepts_iff.mp hmt)

theorem inked_literal {text : String} (h : Visible text) : Inked (literal text) := by
  intro w hw
  rwa [Regex.mem_word.mp hw]

theorem inked_oneOf {letters : List Char} (h : (letters.all fun c => !isSpace c) = true) :
    Inked (Regex.oneOf letters) := by
  intro w hw
  obtain ⟨c, hc, rfl⟩ := Regex.mem_oneOf.mp hw
  exact ⟨c, mem_singleton_self c, (Bool.not_eq_true' _).mp (all_eq_true.mp h c hc)⟩

theorem Inked.mul_right {P : RegularExpression Char} (h : Inked P) (Q : RegularExpression Char) :
    Inked (P * Q) := by
  rintro w ⟨first, hfst, rest, _, rfl⟩
  obtain ⟨c, hc, hspace⟩ := h first hfst
  exact ⟨c, mem_append_left rest hc, hspace⟩

theorem Inked.mul_left {Q : RegularExpression Char} (h : Inked Q) (P : RegularExpression Char) :
    Inked (P * Q) := by
  rintro w ⟨first, _, rest, hrest, rfl⟩
  obtain ⟨c, hc, hspace⟩ := h rest hrest
  exact ⟨c, mem_append_right first hc, hspace⟩

/-! ### Timestamps -/

/-- A UTC timestamp in microseconds since `0001-01-01T00:00:00`. -/
abbrev Instant := ℕ

/-- `datetime.max`, in microseconds: `9999-12-31T23:59:59.999999`. -/
def maxInstant : Instant := 315537897599999999

/-- `now + timedelta(microseconds=delta)`. -/
def addMicros (now : Instant) (delta : ℤ) : Except PyError Instant :=
  if 0 ≤ (now : ℤ) + delta ∧ (now : ℤ) + delta ≤ maxInstant then
    .ok ((now : ℤ) + delta).toNat
  else .error (.overflowError "date value out of range")

/-- `now + timedelta(seconds=seconds)`. -/
def addSeconds (now : Instant) (seconds : ℤ) : Except PyError Instant :=
  addMicros now (seconds * 1000000)

/-- A timestamp that is returned is the exact sum. -/
theorem addSeconds_eq_ok {now t : Instant} {seconds : ℤ} (h : addSeconds now seconds = .ok t) :
    (t : ℤ) = now + seconds * 1000000 := by
  rw [addSeconds, addMicros] at h
  split at h
  · rw [← Except.ok.inj h]
    omega
  · cases h

end ProjectPipeline
