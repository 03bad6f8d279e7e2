import PodSwap.Power

/-!
# Binary floating-point numbers

Finite double-precision numbers by their bits, the rounding of exact ratios to them, and the
shortest decimal that reads back. All arithmetic is on natural numbers, so nothing hangs on the
machine's own floating point.
-/

namespace PodSwap

/-- A double-precision number, by its bits. -/
structure Double where
  bits : UInt64
deriving DecidableEq, Repr, Inhabited

namespace Double

/-- Whether the sign bit is set. -/
def isNegative (d : Double) : Bool := pow2 63 ≤ d.bits.toNat

/-- The eleven bits of the exponent. -/
def exponentField (d : Double) : Nat := d.bits.toNat / pow2 52 % pow2 11

/-- The 52 bits of the fraction. -/
def fractionField (d : Double) : Nat := d.bits.toNat % pow2 52

/-- The number is `± mantissa · 2 ^ power`. -/
def mantissa (d : Double) : Nat :=
  if d.exponentField = 0 then d.fractionField else d.fractionField + pow2 52

/-- The number is `± mantissa · 2 ^ power`. -/
def power (d : Double) : Int := (max d.exponentField 1 : Nat) - 1075

/-- Whether the number is zero, of either sign. -/
def isZero (d : Double) : Bool := d.bits.toNat % pow2 63 = 0

/-- The number with the other sign. -/
def negate (d : Double) : Double := ⟨d.bits ^^^ 0x8000000000000000⟩

/-- Equality of numbers: the two zeros are the same number. -/
def same (a b : Double) : Bool := decide (a = b) || (a.isZero && b.isZero)

/-- The quotient rounded to the nearest integer, a half to the even one. -/
def roundDiv (num den : Nat) : Nat :=
  let q := num / den
  let r := num % den
  if den < 2 * r || (2 * r = den && q % 2 = 1) then q + 1 else q

/-- Scales a ratio by a power of two. -/
def scaleRatio (num den : Nat) (e : Int) : Nat × Nat :=
  if 0 ≤ e then (num * pow2 e.toNat, den) else (num, den * pow2 (-e).toNat)

/-- The positive number nearest to a ratio, a tie to the even one; absent where it is too large. -/
def ofRatio (num den : Nat) : Option Double :=
  if num = 0 then some ⟨0⟩
  else
    -- scaled so far, the quotient has 53 or 54 bits, and one step more leaves 53
    let low : Int := (num.log2 : Int) - den.log2 - 53
    let (n, d) := scaleRatio num den (-low)
    let fit := if pow2 53 ≤ n / d then low + 1 else low
    -- below the normal numbers the grid gets no finer
    let e := max fit (-1074)
    let (n, d) := scaleRatio num den (-e)
    let m := roundDiv n d
    -- a carry out of the 53 bits runs into the exponent, which is the number that is meant
    let bits := if e = -1074 then m else (e + 1075).toNat * pow2 52 + (m - pow2 52)
    if bits < 2047 * pow2 52 then some ⟨UInt64.ofNat bits⟩ else none

/-- The number nearest to a natural number. -/
def ofNat (n : Nat) : Option Double := ofRatio n 1

/-- The number nearest to `n · 10 ^ e`. -/
def ofDecimal (n : Nat) (e : Int) : Option Double :=
  if 0 ≤ e then ofRatio (n * pow10 e.toNat) 1 else ofRatio n (pow10 (-e).toNat)

/-- The product of two numbers without their signs, rounded. -/
def mul (a b : Double) : Option Double :=
  let (n, d) := scaleRatio (a.mantissa * b.mantissa) 1 (a.power + b.power)
  ofRatio n d

/-- The quotient of two numbers without their signs, rounded. -/
def div (a b : Double) : Option Double :=
  let (n, d) := scaleRatio a.mantissa b.mantissa (a.power - b.power)
  ofRatio n d

/-- The largest power of ten that is a double-precision number. -/
def maxTenPower : Nat := 308

/-- A number times a power of ten, in steps of at most `10 ^ 308`, each rounded. -/
def timesTenPower : Nat → Double → Int → Option Double
  | 0, d, _ => some d
  | fuel + 1, d, e =>
    if e.natAbs ≤ maxTenPower then do
      let ten ← ofNat (pow10 e.natAbs)
      if 0 ≤ e then mul d ten else div d ten
    else if d.isZero then some d
    else if 0 ≤ e then none
    else do
      let ten ← ofNat (pow10 maxTenPower)
      timesTenPower fuel (← div d ten) (e + maxTenPower)

/-- A significand times a power of ten, rounded once for the significand and once for each step of
the scaling. Three steps take any 64-bit significand to zero. -/
def scaled (significand : Nat) (e : Int) : Option Double := do
  timesTenPower 4 (← ofNat significand) e

/-! ## The shortest decimal -/

/-- The number of decimal digits before the point of a ratio of at least one; a ratio below one has
as many, counted negative, as there are zeros behind its point. Starts from an estimate that is at
most two too low. -/
def decimalPoint (num den : Nat) : Int :=
  let estimate : Int := (((num.log2 : Int) - den.log2 - 1) * 30103) / 100000 - 1
  let reaches (k : Int) : Bool :=
    if 0 ≤ k then den * pow10 k.toNat ≤ num else den ≤ num * pow10 (-k).toNat
  let up (k : Int) : Int := if reaches k then k + 1 else k
  up (up (up (up estimate)))

/-- A decimal `digits · 10 ^ exponent`. -/
structure Decimal where
  digits : Nat
  exponent : Int
deriving DecidableEq, Repr

/-- The decimal without zeros at its end, of which it has at most `fuel`. -/
def Decimal.strip : Nat → Decimal → Decimal
  | 0, d => d
  | fuel + 1, d =>
    if d.digits ≠ 0 ∧ d.digits % 10 = 0 then Decimal.strip fuel ⟨d.digits / 10, d.exponent + 1⟩
    else d

/-- The neighbour of the ratio on the grid `10 ^ e` that lies between the bounds, the nearer one if
both do. The bounds and the value share the denominator `den`. -/
def onGrid (lo mid hi den : Nat) (closed : Bool) (e : Int) : Option Nat :=
  let unit : Nat := if 0 ≤ e then den * pow10 e.toNat else den
  let up : Nat := if 0 ≤ e then 1 else pow10 (-e).toNat
  let lo := lo * up
  let mid := mid * up
  let hi := hi * up
  let below := mid / unit
  let inside (n : Nat) : Bool :=
    if closed then lo ≤ n * unit && n * unit ≤ hi else lo < n * unit && n * unit < hi
  match inside below, inside (below + 1) with
  | true, true => some (roundDiv mid unit)
  | true, false => some below
  | false, true => some (below + 1)
  | false, false => none

/-- Tries grids of more and more digits. -/
def findGrid (lo mid hi den : Nat) (closed : Bool) (point : Int) : Nat → Nat → Decimal
  | 0, n => ⟨0, n⟩
  | fuel + 1, n =>
    match onGrid lo mid hi den closed (point - n) with
    | some digits => ⟨digits, point - n⟩
    | none => findGrid lo mid hi den closed point fuel (n + 1)

/-- The decimal of fewest digits that rounds to the number (its sign aside), and of those the
nearest. Seventeen digits are always enough. -/
def shortest (d : Double) : Decimal :=
  if d.isZero then ⟨0, 0⟩
  else
    let m := d.mantissa
    -- below a power of two the numbers lie half as far apart
    let lowGap := if m = pow2 52 ∧ 1 < d.exponentField then 1 else 2
    -- four times everything, so that the bounds half way to the neighbours are whole
    let (mid, den) := scaleRatio (4 * m) 1 (d.power - 2)
    let (lo, _) := scaleRatio (4 * m - lowGap) 1 (d.power - 2)
    let (hi, _) := scaleRatio (4 * m + 2) 1 (d.power - 2)
    let found := findGrid lo mid hi den (m % 2 = 0) (decimalPoint mid den) 17 1
    found.strip 20

/-- How numbers are written: positionally from `10 ^ -5` to below `10 ^ 16`, with at least one digit
behind the point; otherwise with a signed exponent. -/
def text (d : Double) : String :=
  let sign := if d.isNegative then "-" else ""
  let dec := d.shortest
  let ds := toString dec.digits
  let n : Int := ds.length
  let x : Int := dec.exponent + n - 1
  if dec.digits = 0 then sign ++ "0.0"
  else if -5 ≤ x ∧ x < 16 then
    if 0 ≤ dec.exponent then
      sign ++ ds ++ String.ofList (List.replicate dec.exponent.toNat '0') ++ ".0"
    else if 0 ≤ x then
      let whole := ds.toList.take (x + 1).toNat
      let rest := ds.toList.drop (x + 1).toNat
      sign ++ String.ofList (whole ++ ['.'] ++ rest)
    else sign ++ "0." ++ String.ofList (List.replicate (-x - 1).toNat '0') ++ ds
  else
    let whole := ds.toList.take 1
    let rest := ds.toList.drop 1
    let body := if rest.isEmpty then whole else whole ++ ['.'] ++ rest
    let mark := if 0 ≤ x then "e+" else "e-"
    sign ++ String.ofList body ++ mark ++ toString x.natAbs

end Double

end PodSwap
