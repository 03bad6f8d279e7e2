import PodSwap.Power

/-!
# Decimal integers with bounds

Reading an integer between two bounds. The digits are taken from the left, and the first fault met
is the one reported: a character that is no digit, or a value beyond a bound.
-/

namespace PodSwap.Text

/-- What can be wrong with the text of an integer. -/
inductive IntegerFault where
  | empty
  | invalidDigit
  | tooLarge
  | tooSmall
deriving DecidableEq, Repr

/-- The wording of a fault. -/
def IntegerFault.message : IntegerFault → String
  | .empty => "cannot parse integer from empty string"
  | .invalidDigit => "invalid digit found in string"
  | .tooLarge => "number too large to fit in target type"
  | .tooSmall => "number too small to fit in target type"

/-- The value of an ASCII digit. -/
def digit? (c : Char) : Option Nat :=
  if c.isDigit then some (c.toNat - '0'.toNat) else none

/-- Appends digits to an integer, towards the side that `sign` gives. -/
def appendDigits (lo hi sign acc : Int) : List Char → Except IntegerFault Int
  | [] => .ok acc
  | c :: cs =>
    match digit? c with
    | none => .error .invalidDigit
    | some d =>
      let n := acc * 10 + sign * d
      if hi < n then .error .tooLarge
      else if n < lo then .error .tooSmall
      else appendDigits lo hi sign n cs

/-- Reads an integer from `lo` to `hi`: a sign, of which `-` counts only where negative numbers are
allowed, and at least one digit. -/
def integer (lo hi : Int) : List Char → Except IntegerFault Int
  | [] => .error .empty
  -- a sign alone is no number
  | ['+'] => .error .invalidDigit
  | ['-'] => .error .invalidDigit
  | '+' :: cs => appendDigits lo hi 1 0 cs
  | '-' :: cs => if lo < 0 then appendDigits lo hi (-1) 0 cs else .error .invalidDigit
  | cs => appendDigits lo hi 1 0 cs

/-- Reads an unsigned integer of 64 bits. -/
def unsigned64 (s : String) : Except IntegerFault Nat :=
  (integer 0 (pow2 64 - 1) s.toList).map Int.toNat

/-- Reads a signed integer of 32 bits. -/
def signed32 (s : String) : Except IntegerFault Int32 :=
  (integer (-pow2 31) (pow2 31 - 1) s.toList).map Int32.ofInt

/-! ## Writing -/

/-- A number with zeros in front up to a width. -/
def padded (width n : Nat) : String :=
  let digits := toString n
  String.ofList (List.replicate (width - digits.length) '0') ++ digits

end PodSwap.Text
