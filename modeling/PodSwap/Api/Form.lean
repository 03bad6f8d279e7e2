import PodSwap.Text.Hexadecimal

/-!
# Form encoding

Text in the query of a request. Letters, digits and `*`, `-`, `.`, `_` stand for themselves, a blank
is a plus sign, and every other byte of the text is a percent sign with two hexadecimal digits.

Main statement: an encoded text has no character that separates fields (`not_mem_encoded`).
-/

namespace PodSwap.Api

/-- Whether a byte stands for itself. -/
def isPlain (b : UInt8) : Bool :=
  (48 ≤ b && b ≤ 57) || (65 ≤ b && b ≤ 90) || (97 ≤ b && b ≤ 122) ||
    b = 42 || b = 45 || b = 46 || b = 95

/-- The digits of a byte after its percent sign. -/
def upperHex (n : Nat) : Char := (Text.hexDigit n).toUpper

/-- How a byte is written. -/
def encodeByte (b : UInt8) : List Char :=
  if isPlain b then [Char.ofNat b.toNat]
  else if b = 32 then ['+']
  else ['%', upperHex (b.toNat / 16), upperHex b.toNat]

/-- Text as it stands in a query. -/
def formEncoded (s : String) : String :=
  String.ofList (s.toUTF8.toList.flatMap encodeByte)

theorem not_mem_encodeByte (b : UInt8) : '&' ∉ encodeByte b ∧ '=' ∉ encodeByte b := by
  have h : ∀ n : Fin 256, '&' ∉ encodeByte (UInt8.ofNat n) ∧ '=' ∉ encodeByte (UInt8.ofNat n) := by
    decide +kernel
  have := h ⟨b.toNat, b.toNat_lt⟩
  simpa using this

/-- An encoded text separates nothing. -/
theorem not_mem_encoded (bs : List UInt8) :
    '&' ∉ bs.flatMap encodeByte ∧ '=' ∉ bs.flatMap encodeByte := by
  constructor <;> intro h <;> obtain ⟨b, -, hb⟩ := List.mem_flatMap.1 h
  · exact (not_mem_encodeByte b).1 hb
  · exact (not_mem_encodeByte b).2 hb

end PodSwap.Api
