import ProjectPipeline.Python

/-!
# Timestamps as Texts

The stores keep instants as the texts of `datetime.isoformat` and leave their comparisons and their
order to SQLite, which compares texts by code points. A `datetime` in UTC is compared field by field
from the year on, and the text has the fields in that order at fixed widths. Only the fraction may
be missing, and the sign of the offset that then stands in its place comes before the point
(`isoformat_order`).
-/

namespace ProjectPipeline

open List

/-- The last digit of a number comes last. -/
theorem toList_zeroPadded {width n : ℕ} (hpos : 0 < width) :
    (zeroPadded (width + 1) n).toList =
      (zeroPadded width (n / 10)).toList ++ [(n % 10).digitChar] := by
  simp only [zeroPadded, Nat.toString_eq_ofList_toDigits, String.toList_append,
    String.toList_ofList, String.length_ofList]
  by_cases hn : n < 10
  · obtain ⟨width, rfl⟩ := Nat.exists_eq_succ_of_ne_zero hpos.ne'
    simp [Nat.toDigits_of_lt_base hn, Nat.div_eq_of_lt hn, Nat.mod_eq_of_lt hn, replicate_succ']
  · simp [Nat.toDigits_of_base_le (by decide) (not_lt.mp hn)]

/-- Texts that begin with numbers of one width are ordered by these and then by the rest. -/
theorem zeroPadded_append_lt {width a b : ℕ} {x y : List Char} (ha : a < 10 ^ (width + 1))
    (hb : b < 10 ^ (width + 1)) :
    (zeroPadded (width + 1) a).toList ++ x < (zeroPadded (width + 1) b).toList ++ y ↔
      a < b ∨ a = b ∧ x < y := by
  have hdigits : ∀ q < 10, ∀ r < 10, (q.digitChar < r.digitChar ↔ q < r) ∧
      (q.digitChar = r.digitChar ↔ q = r) := by decide
  induction width generalizing a b x y with
  | zero =>
    have hone (n : ℕ) (hn : n < 10) : (zeroPadded 1 n).toList = [n.digitChar] := by
      rw [zeroPadded, Nat.toString_eq_ofList_toDigits, Nat.toDigits_of_lt_base hn]
      simp
    obtain ⟨hlt, heq⟩ := hdigits a (by omega) b (by omega)
    simp [hone a (by omega), hone b (by omega), cons_lt_cons_iff, hlt, heq]
  | succ width ih =>
    obtain ⟨hlt, heq⟩ := hdigits (a % 10) (by omega) (b % 10) (by omega)
    have hrest {x y : List Char} := @ih (a / 10) (b / 10) x y (by omega) (by omega)
    simp only [toList_zeroPadded width.succ_pos, append_assoc, hrest, singleton_append,
      cons_lt_cons_iff, hlt, heq]
    by_cases hxy : x < y <;> simp only [hxy, and_true, and_false, or_false] <;> omega

/-- A `datetime` in UTC. -/
structure UtcDatetime where
  year : ℕ
  month : ℕ
  day : ℕ
  hour : ℕ
  minute : ℕ
  second : ℕ
  microsecond : ℕ
  date_valid : year ≤ 9999 ∧ month ≤ 12 ∧ day ≤ 31
  time_valid : hour ≤ 23 ∧ minute ≤ 59 ∧ second ≤ 59 ∧ microsecond ≤ 999999

namespace UtcDatetime

/-- What `datetime` values are compared by. -/
def fields (d : UtcDatetime) : List ℕ :=
  [d.year, d.month, d.day, d.hour, d.minute, d.second, d.microsecond]

/-- The fraction, unless it is zero, and the offset. -/
def ending (microsecond : ℕ) : String :=
  (if microsecond = 0 then "" else "." ++ zeroPadded 6 microsecond) ++ "+00:00"

def isoformat (d : UtcDatetime) : String :=
  zeroPadded 4 d.year ++ "-" ++ zeroPadded 2 d.month ++ "-" ++ zeroPadded 2 d.day ++ "T" ++
    zeroPadded 2 d.hour ++ ":" ++ zeroPadded 2 d.minute ++ ":" ++ zeroPadded 2 d.second ++
    ending d.microsecond

theorem ending_lt_iff {m m' : ℕ} (h : m ≤ 999999) (h' : m' ≤ 999999) :
    (ending m).toList < (ending m').toList ↔ m < m' := by
  have hnumbers : (zeroPadded 6 m).toList ++ "+00:00".toList <
      (zeroPadded 6 m').toList ++ "+00:00".toList ↔ _ :=
    zeroPadded_append_lt (by omega) (by omega)
  have hsign (x : List Char) : "+00:00".toList < '.' :: x := Lex.rel (by decide)
  unfold ending
  by_cases hm : m = 0 <;> by_cases hm' : m' = 0
  · simp [hm, hm']
  · simpa [hm, hm', Nat.pos_of_ne_zero hm'] using hsign _
  · simpa [hm, hm'] using (hsign _).le
  · simpa [hm, hm'] using hnumbers

theorem isoformat_lt_iff (d e : UtcDatetime) : d.isoformat < e.isoformat ↔ d.fields < e.fields := by
  obtain ⟨hyear, hmonth, hday⟩ := d.date_valid
  obtain ⟨hhour, hminute, hsecond, hfraction⟩ := d.time_valid
  obtain ⟨hyear', hmonth', hday'⟩ := e.date_valid
  obtain ⟨hhour', hminute', hsecond', hfraction'⟩ := e.time_valid
  simp only [String.lt_iff_toList_lt, isoformat, String.toList_append, append_assoc]
  simp (disch := omega) [zeroPadded_append_lt, cons_lt_cons_iff, fields,
    ending_lt_iff hfraction hfraction']

/-- **The order of the texts is the order of the instants**, so SQL compares the columns and orders
the rows as the instants would be. -/
theorem isoformat_order (d e : UtcDatetime) (rows : List UtcDatetime) :
    (textLt d.isoformat e.isoformat ↔ d.fields < e.fields) ∧
      (textLe d.isoformat e.isoformat ↔ d.fields ≤ e.fields) ∧
      rows.insertionSort (fun d e => textLe d.isoformat e.isoformat) =
        rows.insertionSort fun d e => d.fields ≤ e.fields := by
  have hle (d e : UtcDatetime) : textLe d.isoformat e.isoformat ↔ d.fields ≤ e.fields := by
    rw [textLe_iff, ← not_lt, ← not_lt, isoformat_lt_iff]
  refine ⟨textLt_iff.trans (isoformat_lt_iff d e), hle d e, ?_⟩
  congr 1
  funext d e
  exact propext (hle d e)

end UtcDatetime

end ProjectPipeline
