import PodSwap.Json.Written
import PodSwap.Power
import PodSwap.Text.Hexadecimal

/-!
# Reading JSON text

The reader takes one value with blanks around it, as it is written. Integers that fit 64 bits stay
integers; a fraction, an exponent, a greater size or a negative zero makes a floating-point number.
A text that is read as a value has no gaps, nests at most 127 deep, and of several members under one
key the last counts.

Every step gives back the text behind what it took. A step takes at least one character or hands on
to one that does, so twice the length of the text bounds the number of steps.
-/

namespace PodSwap.Json

/-- The blanks that may stand between the parts of a text. -/
def isSpace (c : Char) : Bool := c = ' ' || c = '\n' || c = '\t' || c = '\r'

/-- The text behind its leading blanks. -/
def skipSpace (cs : List Char) : List Char := cs.dropWhile isSpace

/-- Four hexadecimal digits. -/
def takeHex : List Char → Option (Nat × List Char)
  | a :: b :: c :: d :: cs => do
    let a ← Text.hexValue? a
    let b ← Text.hexValue? b
    let c ← Text.hexValue? c
    let d ← Text.hexValue? d
    some (((a * 16 + b) * 16 + c) * 16 + d, cs)
  | _ => none

/-- The character of an escape of one letter. -/
def simpleEscape? (c : Char) : Option Char :=
  if c = '"' ∨ c = '\\' ∨ c = '/' then some c
  else if c = 'b' then some '\x08'
  else if c = 'f' then some '\x0c'
  else if c = 'n' then some '\n'
  else if c = 'r' then some '\r'
  else if c = 't' then some '\t'
  else none

/-- A character written by number: outside the surrogates one unit, otherwise a high and a low one.
Half of such a pair names no character. -/
def takeNumbered (cs : List Char) : Option (Option Char × List Char) := do
  let (n, rest) ← takeHex cs
  if 0xD800 ≤ n ∧ n ≤ 0xDBFF then
    match rest with
    | '\\' :: 'u' :: cs => do
      let (m, behind) ← takeHex cs
      if 0xDC00 ≤ m ∧ m ≤ 0xDFFF then
        some (some (Char.ofNat (0x10000 + (n - 0xD800) * 0x400 + (m - 0xDC00))), behind)
      else some (none, rest)
    | _ => some (none, rest)
  else if 0xDC00 ≤ n ∧ n ≤ 0xDFFF then some (none, rest)
  else some (some (Char.ofNat n), rest)

/-- The characters of a string up to its closing quote, put in front of those already taken. -/
def takeString : Nat → Option (List Char) → List Char → Option (Option String × List Char)
  | 0, _, _ => none
  | fuel + 1, acc, cs =>
    match cs with
    | [] => none
    | '"' :: cs => some (acc.map fun acc => String.ofList acc.reverse, cs)
    | '\\' :: 'u' :: cs => do
      let (c, cs) ← takeNumbered cs
      takeString fuel (do some ((← c) :: (← acc))) cs
    | '\\' :: c :: cs => do
      let c ← simpleEscape? c
      takeString fuel (acc.map (c :: ·)) cs
    | c :: cs => if c.toNat < 32 then none else takeString fuel (acc.map (c :: ·)) cs

/-- A string behind its opening quote. -/
def takeQuoted (cs : List Char) : Option (Option String × List Char) :=
  takeString (cs.length + 1) (some []) cs

/-! ## Numbers -/

/-- Digits appended to a significand for as long as it fits 64 bits, with their count. The first
digit that does not fit stops them. -/
def takeDigits (n : Nat) (count : Nat) : List Char → Nat × Nat × List Char
  | [] => (n, count, [])
  | c :: cs =>
    if c.isDigit then
      let m := n * 10 + (c.toNat - '0'.toNat)
      if m < pow2 64 then takeDigits m (count + 1) cs else (n, count, c :: cs)
    else (n, count, c :: cs)

/-- A floating-point number with its sign; one too large is absent. -/
def signed (negative : Bool) (n : Nat) (e : Int) : Option Number :=
  (Double.scaled n e).map fun d => .double (if negative then d.negate else d)

/-- The exponent behind its letter. An exponent beyond 32 bits leaves zero, or a number too
large. -/
def takeExponent (negative : Bool) (n : Nat) (e : Int) (cs : List Char) :
    Option (Option Number × List Char) := do
  let (down, cs) :=
    match cs with
    | '+' :: cs => (false, cs)
    | '-' :: cs => (true, cs)
    | _ => (false, cs)
  let digits := cs.takeWhile Char.isDigit
  let rest := cs.dropWhile Char.isDigit
  if digits.isEmpty then none
  else
    let x : Nat := Nat.ofDigitChars 10 digits 0
    if x < pow2 31 then
      some (signed negative n (if down then e - (x : Int) else e + (x : Int)), rest)
    else if n ≠ 0 ∧ ¬ down then some (none, rest)
    else some (signed negative 0 0, rest)

/-- A number behind its whole digits: an exponent if one follows. -/
def takeScale (negative : Bool) (n : Nat) (e : Int) (cs : List Char) :
    Option (Option Number × List Char) :=
  match cs with
  | 'e' :: cs => takeExponent negative n e cs
  | 'E' :: cs => takeExponent negative n e cs
  | _ => some (signed negative n e, cs)

/-- The fraction behind its point. Digits beyond the 64 bits of the significand are dropped. -/
def takeFraction (negative : Bool) (n : Nat) (e : Int) (cs : List Char) :
    Option (Option Number × List Char) :=
  let (m, count, rest) := takeDigits n 0 cs
  match rest with
  | c :: _ =>
    if c.isDigit then takeScale negative m (e - count) (rest.dropWhile Char.isDigit)
    else if count = 0 then none
    else takeScale negative m (e - count) rest
  | [] => if count = 0 then none else takeScale negative m (e - count) rest

/-- A number behind its sign. -/
def takeUnsigned (negative : Bool) (cs : List Char) : Option (Option Number × List Char) :=
  match cs with
  | [] => none
  | c :: tail =>
    if ¬ c.isDigit then none
    -- a zero stands alone in front of the point
    else if c = '0' ∧ (tail.head?.map Char.isDigit).getD false then none
    else
      let (n, _, rest) := takeDigits 0 0 cs
      -- digits beyond the significand only move the point
      let overflow := rest.takeWhile Char.isDigit
      let rest := rest.dropWhile Char.isDigit
      let e : Int := overflow.length
      match rest with
      | '.' :: cs => takeFraction negative n e cs
      | 'e' :: cs => takeExponent negative n e cs
      | 'E' :: cs => takeExponent negative n e cs
      | _ =>
        if ¬ overflow.isEmpty then some (signed negative n e, rest)
        else if ¬ negative then some (some (.int n), rest)
        -- a negative zero is no integer, and neither is what lies below all 64 bits
        else if n = 0 ∨ pow2 63 < n then some (signed true n 0, rest)
        else some (some (.int (-n)), rest)

/-! ## Values -/

mutual
/-- A value. -/
def takeValue : Nat → List Char → Option (Written × List Char)
  | 0, _ => none
  | fuel + 1, cs =>
    match skipSpace cs with
    | 'n' :: 'u' :: 'l' :: 'l' :: cs => some (.null, cs)
    | 't' :: 'r' :: 'u' :: 'e' :: cs => some (.bool true, cs)
    | 'f' :: 'a' :: 'l' :: 's' :: 'e' :: cs => some (.bool false, cs)
    | '"' :: cs => (takeQuoted cs).map fun (s, cs) => (.str s, cs)
    | '[' :: cs =>
      match skipSpace cs with
      | ']' :: cs => some (.arr [], cs)
      | cs => (takeItems fuel cs).map fun (ws, cs) => (.arr ws, cs)
    | '{' :: cs =>
      match skipSpace cs with
      | '}' :: cs => some (.obj [], cs)
      | cs => (takeMembers fuel cs).map fun (ms, cs) => (.obj ms, cs)
    | '-' :: cs => (takeUnsigned true cs).map fun (n, cs) => (.num n, cs)
    | cs => (takeUnsigned false cs).map fun (n, cs) => (.num n, cs)

/-- The items of an array up to its closing bracket. -/
def takeItems : Nat → List Char → Option (List Written × List Char)
  | 0, _ => none
  | fuel + 1, cs => do
    let (w, cs) ← takeValue fuel cs
    match skipSpace cs with
    | ',' :: cs => do
      let (ws, cs) ← takeItems fuel cs
      some (w :: ws, cs)
    | ']' :: cs => some ([w], cs)
    | _ => none

/-- The members of an object up to its closing brace. -/
def takeMembers : Nat → List Char → Option (List (Option String × Written) × List Char)
  | 0, _ => none
  | fuel + 1, cs =>
    match skipSpace cs with
    | '"' :: cs => do
      let (k, cs) ← takeQuoted cs
      match skipSpace cs with
      | ':' :: cs => do
        let (w, cs) ← takeValue fuel cs
        match skipSpace cs with
        | ',' :: cs => do
          let (ms, cs) ← takeMembers fuel cs
          some ((k, w) :: ms, cs)
        | '}' :: cs => some ([(k, w)], cs)
        | _ => none
      | _ => none
    | _ => none
end

/-- What a text writes. -/
def Written.ofText? (s : String) : Option Written := do
  let cs := s.toList
  let (w, cs) ← takeValue (2 * cs.length + 2) cs
  if (skipSpace cs).isEmpty then some w else none

/-- The value that a text holds. -/
def parse? (s : String) : Option Json := do (← Written.ofText? s).value? maxDepth

end PodSwap.Json
