import Mathlib

/-!
# Matching Regular Expressions

Mathlib matches a regular expression against a word by derivatives (`rmatch`), without
simplifying them, so the expression grows with every letter. `accepts` is the same
algorithm with the units and zeros removed at every step; it evaluates quickly, and
`accepts_iff` relates it to the language of the expression.

The second half has the expressions that identifier patterns are built from: character
classes, literal texts and repetitions.

## Main results

* `accepts_iff`: the words that are accepted are the words of the language.
* `mem_times_oneOf`, `mem_word_self`: words of a pattern's pieces.
-/

namespace ProjectPipeline

open List

namespace Regex

open RegularExpression hiding star

variable {α : Type}

/-! ### Simplified derivatives -/

/-- A sum without empty summands. -/
def alt : RegularExpression α → RegularExpression α → RegularExpression α
  | zero, Q => Q
  | P, zero => P
  | P, Q => P + Q

/-- A product without empty and unit factors. -/
def seq : RegularExpression α → RegularExpression α → RegularExpression α
  | zero, _ => 0
  | epsilon, Q => Q
  | P, Q => P * Q

theorem matches'_alt (P Q : RegularExpression α) :
    (alt P Q).matches' = P.matches' + Q.matches' := by
  rw [alt.eq_def]
  split
  · rw [zero_def, matches'_zero, zero_add]
  · rw [zero_def, matches'_zero, add_zero]
  · rw [matches'_add]

theorem matches'_seq (P Q : RegularExpression α) :
    (seq P Q).matches' = P.matches' * Q.matches' := by
  rw [seq.eq_def]
  split
  · rw [zero_def, matches'_zero, zero_mul]
  · rw [one_def, matches'_epsilon, one_mul]
  · rw [matches'_mul]

variable [DecidableEq α]

/-- The derivative of an expression by a letter, simplified. -/
def derivative : RegularExpression α → α → RegularExpression α
  | zero, _ => 0
  | epsilon, _ => 0
  | char b, a => if b = a then 1 else 0
  | plus P Q, a => alt (derivative P a) (derivative Q a)
  | comp P Q, a =>
    if P.matchEpsilon then alt (seq (derivative P a) Q) (derivative Q a)
    else seq (derivative P a) Q
  | .star P, a => seq (derivative P a) P.star

/-- Simplification does not change the language of a derivative. -/
theorem matches'_derivative (P : RegularExpression α) (a : α) :
    (derivative P a).matches' = (P.deriv a).matches' := by
  induction P with
  | zero | epsilon | char => rfl
  | plus _ _ ihP ihQ =>
    rw [derivative, matches'_alt, plus_def, RegularExpression.deriv_add, matches'_add, ihP, ihQ]
  | comp _ _ ihP ihQ =>
    rw [derivative, RegularExpression.deriv]
    split
    · rw [matches'_alt, matches'_seq, matches'_add, matches'_mul, ihP, ihQ]
    · rw [matches'_seq, matches'_mul, ihP]
  | star _ ihP => rw [derivative, deriv_star, matches'_seq, matches'_mul, ihP]

/-- Match a whole word. -/
def accepts : RegularExpression α → List α → Bool
  | P, [] => P.matchEpsilon
  | P, a :: word => accepts (derivative P a) word

/-- The accepted words are the words of the language. -/
theorem accepts_iff {P : RegularExpression α} {word : List α} :
    accepts P word = true ↔ word ∈ P.matches' := by
  induction word generalizing P with
  | nil => exact rmatch_iff_matches' P []
  | cons _ _ ih =>
    rw [accepts, ih, matches'_derivative, ← rmatch_iff_matches', ← rmatch_iff_matches', rmatch]

/-! ### Pieces of patterns -/

/-- A character class: one of the listed letters. -/
def oneOf (letters : List α) : RegularExpression α :=
  (letters.map char).foldr (· + ·) 0

def word (letters : List α) : RegularExpression α := (letters.map char).foldr (· * ·) 1

/-- The expression repeated `n` times. -/
def times (P : RegularExpression α) : ℕ → RegularExpression α
  | 0 => 1
  | n + 1 => P * times P n

/-- The expression repeated at most `n` times. -/
def timesUpTo (P : RegularExpression α) : ℕ → RegularExpression α
  | 0 => 1
  | n + 1 => 1 + P * timesUpTo P n

/-- The expression repeated at least once. -/
def oneOrMore (P : RegularExpression α) : RegularExpression α := P * P.star

omit [DecidableEq α] in
/-- A class matches exactly its one-letter words. -/
theorem mem_oneOf {letters w : List α} :
    w ∈ (oneOf letters).matches' ↔ ∃ a ∈ letters, w = [a] := by
  rw [oneOf]
  induction letters with
  | nil => simp
  | cons _ _ ih =>
    simp only [map_cons, foldr_cons, matches'_add, Language.mem_add, ih, exists_mem_cons_iff]
    rfl

omit [DecidableEq α] in
/-- A literal matches exactly itself. -/
theorem mem_word {letters w : List α} : w ∈ (word letters).matches' ↔ w = letters := by
  rw [word]
  induction letters generalizing w with
  | nil => simp
  | cons a letters ih =>
    constructor
    · rintro ⟨_, rfl, tail, htail, rfl⟩
      rw [ih.mp htail]
      rfl
    · rintro rfl
      exact ⟨[a], rfl, letters, ih.mpr rfl, rfl⟩

omit [DecidableEq α] in
theorem mem_word_self (letters : List α) : letters ∈ (word letters).matches' :=
  mem_word.mpr rfl

omit [DecidableEq α] in
/-- A word of a class's letters matches the class repeated as often as it is long. -/
theorem mem_times_oneOf {letters : List α} :
    ∀ {w : List α}, (∀ a ∈ w, a ∈ letters) → w ∈ (times (oneOf letters) w.length).matches'
  | [], _ => by simp [times]
  | a :: w, h => by
    have hw := mem_times_oneOf fun b hb => h b (mem_cons_of_mem a hb)
    rw [length_cons, times, matches'_mul]
    exact ⟨[a], mem_oneOf.mpr ⟨a, h a mem_cons_self, rfl⟩, w, hw, rfl⟩

end Regex

end ProjectPipeline
