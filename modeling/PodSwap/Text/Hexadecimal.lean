/-!
# Hexadecimal digits

Digits of base sixteen, written in lower case and read in either. Main statement: a digit that was
written reads back (`hexValue?_hexDigit`).
-/

namespace PodSwap.Text

/-- The digits in the order of their values. -/
def hexAlphabet : List Char :=
  ['0', '1', '2', '3', '4', '5', '6', '7', '8', '9', 'a', 'b', 'c', 'd', 'e', 'f']

/-- The last digit of a number. -/
def hexDigit (n : Nat) : Char := hexAlphabet.getD (n % 16) '0'

/-- The value of a digit. -/
def hexValue? (c : Char) : Option Nat :=
  if c.isDigit then some (c.toNat - '0'.toNat)
  else if 'a' ≤ c ∧ c ≤ 'f' then some (c.toNat - 'a'.toNat + 10)
  else if 'A' ≤ c ∧ c ≤ 'F' then some (c.toNat - 'A'.toNat + 10)
  else none

theorem hexDigit_mem (n : Nat) : hexDigit n ∈ hexAlphabet := by
  have h : n % 16 < hexAlphabet.length := Nat.mod_lt _ (by decide)
  unfold hexDigit
  rw [List.getD_eq_getElem?_getD, List.getElem?_eq_getElem h]
  exact List.getElem_mem h

/-- A digit that was written has the value it was written for. -/
theorem hexValue?_hexDigit (n : Nat) : hexValue? (hexDigit n) = some (n % 16) := by
  have all : ∀ m : Fin 16, hexValue? (hexAlphabet.getD m.val '0') = some m.val := by decide
  exact all ⟨n % 16, Nat.mod_lt _ (by decide)⟩

end PodSwap.Text
