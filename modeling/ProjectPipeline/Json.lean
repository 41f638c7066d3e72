import ProjectPipeline.Python

/-!
# JSON Texts

The program stores and hashes records as JSON. Where only the text of an object matters, an
object is the list of its keys with the dumps of their values, and the canonical dump of an
object, with sorted keys, is computed from the canonical dumps of its values. A text can be told
from its JSON string (`jsonString_injective`).
-/

namespace ProjectPipeline

open List

/-- A JSON object: its keys, in the order of insertion, with the canonical dumps of the
values. -/
abbrev JsonObject := List (String × String)

/-- The compact dump of an object. -/
def dumpJson (object : JsonObject) : String :=
  "\x7b" ++ pyJoin "," (object.map fun item => jsonString item.1 ++ ":" ++ item.2) ++ "\x7d"

/-- `json.dumps(value, sort_keys=True, separators=(",", ":"), ensure_ascii=False)`. -/
def canonicalJson (object : JsonObject) : String :=
  dumpJson (object.insertionSort fun a b => textLe a.1 b.1)

/-! ### Strings -/

/-- The code points that are written with an escape. -/
def escapedChars : List Char := ['"', '\\'] ++ (range 32).map Char.ofNat

theorem jsonChar_of_not_escaped {c : Char} (h : c ∉ escapedChars) :
    jsonChar c = String.singleton c := by
  have hlarge : 32 ≤ c.toNat := by
    by_contra hsmall
    refine h (mem_append_right _ (mem_map.mpr ⟨c.toNat, ?_, Char.ofNat_toNat c⟩))
    rw [mem_range]
    omega
  have hne : ∀ d ∈ escapedChars, c ≠ d := by
    rintro d hd rfl
    exact h hd
  rw [jsonChar, if_neg (hne _ (by decide)), if_neg (hne _ (by decide)), if_neg (hne _ (by decide)),
    if_neg (hne _ (by decide)), if_neg (hne _ (by decide)), if_neg (by omega), if_neg (by omega),
    if_neg (by omega)]

/-- No escape is the beginning of another one. -/
theorem eq_of_isPrefix_jsonChar : ∀ c ∈ escapedChars, ∀ d ∈ escapedChars,
    (jsonChar c).toList <+: (jsonChar d).toList → c = d := by
  have hall : (escapedChars.all fun c => escapedChars.all fun d =>
      decide ((jsonChar c).toList <+: (jsonChar d).toList → c = d)) = true := by decide +kernel
  intro c hc d hd
  exact of_decide_eq_true (all_eq_true.mp (all_eq_true.mp hall c hc) d hd)

/-- What a text with a code point at its start starts with. -/
theorem head?_jsonChar_append (c : Char) (rest : List Char) :
    ((jsonChar c).toList ++ rest).head? = some (if c ∈ escapedChars then '\\' else c) := by
  have hescaped : (escapedChars.all fun c => (jsonChar c).toList.head? == some '\\') = true := by
    decide +kernel
  split
  · rename_i hc
    rw [head?_append, beq_iff_eq.mp (all_eq_true.mp hescaped c hc), Option.some_or]
  · rename_i hc
    rw [jsonChar_of_not_escaped hc, String.toList_singleton]
    rfl

/-- A text starts with one code point at most. -/
theorem eq_of_jsonChar_append {c d : Char} {rest rest' : List Char}
    (h : (jsonChar c).toList ++ rest = (jsonChar d).toList ++ rest') : c = d := by
  have hheads := congrArg head? h
  rw [head?_jsonChar_append, head?_jsonChar_append, Option.some.injEq] at hheads
  have hbackslash : '\\' ∈ escapedChars := by decide
  split_ifs at hheads with hc hd hd
  · have hword : (jsonChar d).toList <+: (jsonChar c).toList ++ rest := h ▸ prefix_append _ _
    rcases prefix_or_prefix_of_prefix (prefix_append _ rest) hword with hle | hle
    · exact eq_of_isPrefix_jsonChar c hc d hd hle
    · exact (eq_of_isPrefix_jsonChar d hd c hc hle).symm
  · exact absurd (hheads ▸ hbackslash) hd
  · exact absurd (hheads ▸ hbackslash) hc
  · exact hheads

/-- Different texts have different JSON strings. -/
theorem jsonString_injective : Function.Injective jsonString := by
  have hne : ∀ (c : Char) (rest : List Char), (jsonChar c).toList ++ rest ≠ [] := by
    intro c rest hnil
    have hhead := head?_jsonChar_append c rest
    rw [hnil] at hhead
    cases hhead
  have hwords : ∀ s t : List Char, s.flatMap (String.toList ∘ jsonChar) =
      t.flatMap (String.toList ∘ jsonChar) → s = t := by
    intro s
    induction s with
    | nil =>
      intro t h
      cases t with
      | nil => rfl
      | cons d => exact absurd h.symm (hne d _)
    | cons c _ ih =>
      intro t h
      cases t with
      | nil => exact absurd h (hne c _)
      | cons _ t =>
        obtain rfl := eq_of_jsonChar_append h
        rw [ih t (append_cancel_left h)]
  intro s t h
  have hlists := congrArg String.toList h
  simp only [jsonString, String.toList_append, String.toList_join, append_left_inj,
    append_right_inj] at hlists
  rw [flatMap_map, flatMap_map] at hlists
  exact String.toList_injective (hwords _ _ hlists)

end ProjectPipeline
