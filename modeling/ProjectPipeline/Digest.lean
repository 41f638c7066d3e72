import ProjectPipeline.Python

/-!
# Digests

Identifiers are derived from SHA-256 digests. The development does not look inside of
the hash function: a `Sha256` is any function with the shape of `hexdigest()`, that is
sixty-four lower-case hexadecimal digits, and results hold for every such function. What
a result needs of the hash beyond its shape is a hypothesis of that result.

`Sha256.polynomial` is a hash of this shape that the kernel can evaluate; the concrete
runs of this development use it. `Sha256.bytePolynomial` is the same on ASCII texts and
reads the bytes of a text, which is faster on long ones.
-/

namespace ProjectPipeline

open List

/-- A function of the shape of `hashlib.sha256(s.encode("utf-8")).hexdigest()`: the
digits it returns. -/
structure Sha256 where
  hexdigest : String → List Char
  length_hexdigest : ∀ s, (hexdigest s).length = 64
  hex_hexdigest : ∀ s, ∀ c ∈ hexdigest s, c ∈ hexAlphabet

variable (sha : Sha256) (s : String)

/-- `hexdigest()[:20].upper()`, the digest part of the program's identifiers. -/
def Sha256.shortDigest : List Char :=
  ((sha.hexdigest s).take 20).map Char.toUpper

def upperHexAlphabet : List Char :=
  ['A', 'B', 'C', 'D', 'E', 'F', '0', '1', '2', '3', '4', '5', '6', '7', '8', '9']

theorem Sha256.length_shortDigest :
    (sha.shortDigest s).length = 20 := by
  rw [shortDigest, length_map, length_take, sha.length_hexdigest]
  rfl

theorem Sha256.upperHex_shortDigest :
    ∀ c ∈ sha.shortDigest s, c ∈ upperHexAlphabet := by
  intro c hc
  obtain ⟨d, hd, rfl⟩ := mem_map.mp hc
  have hhex := sha.hex_hexdigest s d (mem_of_mem_take hd)
  have hupper : hexAlphabet.all (fun d => upperHexAlphabet.contains d.toUpper) = true := by decide
  exact contains_iff_mem.mp (all_eq_true.mp hupper d hhex)

/-! ### A digest to evaluate -/

/-- The given number of hexadecimal digits of `n`, least significant first. -/
def hexDigits : ℕ → ℕ → List Char
  | 0, _ => []
  | count + 1, n => hexDigit n :: hexDigits count (n / 16)

theorem length_hexDigits : ∀ count n, (hexDigits count n).length = count
  | 0, _ => rfl
  | count + 1, n => by simp [hexDigits, length_hexDigits count]

theorem hexDigit_mem (n : ℕ) : hexDigit n ∈ hexAlphabet := by
  have hall : ∀ k : Fin 16, hexAlphabet.getD k.val '0' ∈ hexAlphabet := by decide
  exact hall ⟨n % 16, Nat.mod_lt n (by omega)⟩

theorem hexDigits_hex : ∀ count n, ∀ c ∈ hexDigits count n, c ∈ hexAlphabet
  | 0, _ => by simp [hexDigits]
  | count + 1, n => by
    intro c hc
    rcases mem_cons.mp hc with rfl | hc
    · exact hexDigit_mem n
    · exact hexDigits_hex count (n / 16) c hc

/-- A digest by a polynomial in the code points, modulo `16 ^ 20`. -/
def Sha256.polynomial : Sha256 where
  hexdigest s := hexDigits 64 (s.toList.foldl (fun h c => (h * 257 + c.toNat) % 16 ^ 20) 7)
  length_hexdigest _ := length_hexDigits _ _
  hex_hexdigest _ := hexDigits_hex _ _

/-- A digest by a polynomial in the UTF-8 bytes, modulo `16 ^ 20`. -/
def Sha256.bytePolynomial : Sha256 where
  hexdigest s := hexDigits 64
    (s.toByteArray.data.toList.foldl (fun h b => (h * 257 + b.toNat) % 16 ^ 20) 7)
  length_hexdigest _ := length_hexDigits _ _
  hex_hexdigest _ := hexDigits_hex _ _

end ProjectPipeline
