import PodSwap.Json.Basic
import PodSwap.Power
import PodSwap.Text.Blank
import PodSwap.Text.Integer

/-!
# Timestamps

Instants by the seconds since 1970 and the nanoseconds in the second. They are read from a calendar
date, a time of day and an offset, with blanks allowed around the separators, and written in
universal time with whole seconds. They compare with their fractions. A leap second is the second
before it with more than a thousand million nanoseconds.
-/

namespace PodSwap

/-- An instant. -/
structure Timestamp where
  seconds : Int
  nanos : Nat
deriving DecidableEq, Repr, Inhabited

namespace Timestamp

/-- Whether the first instant lies before the second. -/
def before (a b : Timestamp) : Bool :=
  a.seconds < b.seconds || (a.seconds == b.seconds && a.nanos < b.nanos)

/-! ## Calendar -/

/-- A day of the calendar. -/
structure Date where
  year : Int
  month : Nat
  day : Nat
deriving DecidableEq, Repr

/-- Whether a year has 366 days. -/
def isLeapYear (y : Int) : Bool :=
  (y.emod 4 == 0 && y.emod 100 != 0) || y.emod 400 == 0

/-- The number of days of a month. -/
def daysInMonth (y : Int) (m : Nat) : Nat :=
  if m = 2 then (if isLeapYear y then 29 else 28)
  else if m = 4 ∨ m = 6 ∨ m = 9 ∨ m = 11 then 30
  else 31

/-- The days from 1970 to a date. Years are counted from March, so that the leap day comes last. -/
def daysOfDate (d : Date) : Int :=
  let y := if d.month ≤ 2 then d.year - 1 else d.year
  let era := Int.fdiv y 400
  let yearOfEra := y - era * 400
  let monthFromMarch : Int := if 2 < d.month then d.month - 3 else d.month + 9
  let dayOfYear := (153 * monthFromMarch + 2) / 5 + d.day - 1
  let dayOfEra := yearOfEra * 365 + yearOfEra / 4 - yearOfEra / 100 + dayOfYear
  era * 146097 + dayOfEra - 719468

/-- The date so many days after 1970 began. -/
def dateOfDays (days : Int) : Date :=
  let z := days + 719468
  let era := Int.fdiv z 146097
  let dayOfEra := z - era * 146097
  let yearOfEra := (dayOfEra - dayOfEra / 1460 + dayOfEra / 36524 - dayOfEra / 146096) / 365
  let dayOfYear := dayOfEra - (365 * yearOfEra + yearOfEra / 4 - yearOfEra / 100)
  let monthFromMarch := (5 * dayOfYear + 2) / 153
  let day := dayOfYear - (153 * monthFromMarch + 2) / 5 + 1
  let month := if monthFromMarch < 10 then monthFromMarch + 3 else monthFromMarch - 9
  let year := yearOfEra + era * 400
  ⟨if month ≤ 2 then year + 1 else year, month.toNat, day.toNat⟩

example : daysOfDate ⟨1970, 1, 1⟩ = 0 := by decide
example : dateOfDays (daysOfDate ⟨2000, 2, 29⟩) = ⟨2000, 2, 29⟩ := by decide
example : dateOfDays (daysOfDate ⟨1999, 12, 31⟩) = ⟨1999, 12, 31⟩ := by decide

/-! ## Writing -/

/-- A year in four digits, or with a sign where it needs more. -/
def yearText (y : Int) : String :=
  if 0 ≤ y ∧ y ≤ 9999 then Text.padded 4 y.toNat
  else (if y < 0 then "-" else "+") ++ Text.padded 4 y.natAbs

/-- The instant in universal time, with whole seconds. -/
def text (t : Timestamp) : String :=
  let days := Int.fdiv t.seconds 86400
  let inDay := (t.seconds - days * 86400).toNat
  let date := dateOfDays days
  -- a leap second is written as the sixtieth
  let second := inDay % 60 + t.nanos / 1000000000
  let day := yearText date.year ++ "-" ++ Text.padded 2 date.month ++ "-" ++ Text.padded 2 date.day
  let time :=
    Text.padded 2 (inDay / 3600) ++ ":" ++ Text.padded 2 (inDay / 60 % 60) ++ ":" ++
      Text.padded 2 second
  day ++ "T" ++ time ++ "Z"

/-! ## Reading -/

/-- The text behind leading blanks. -/
def skipBlanks (cs : List Char) : List Char := cs.dropWhile Text.isBlank

/-- At least one and at most `most` digits. -/
def takeNumber (most : Nat) (cs : List Char) : Option (Nat × List Char) :=
  let digits := (cs.takeWhile Char.isDigit).take most
  if digits.isEmpty then none else some (Nat.ofDigitChars 10 digits 0, cs.drop digits.length)

/-- A number behind blanks. -/
def takeField (most : Nat) (cs : List Char) : Option (Nat × List Char) :=
  takeNumber most (skipBlanks cs)

/-- One character behind blanks. -/
def takeMark (c : Char) (cs : List Char) : Option (List Char) :=
  match skipBlanks cs with
  | d :: rest => if d = c then some rest else none
  | [] => none

/-- A year: four digits, or any number of them behind a sign. -/
def takeYear (cs : List Char) : Option (Int × List Char) :=
  match skipBlanks cs with
  | '-' :: rest => (takeNumber rest.length rest).map fun (n, r) => (-(n : Int), r)
  | '+' :: rest => (takeNumber rest.length rest).map fun (n, r) => ((n : Int), r)
  | rest => (takeNumber 4 rest).map fun (n, r) => ((n : Int), r)

/-- A fraction of a second in nanoseconds, of which digits beyond the ninth are dropped; none is
nothing. -/
def takeFraction (cs : List Char) : Option (Nat × List Char) :=
  match cs with
  | '.' :: rest =>
    let digits := rest.takeWhile Char.isDigit
    if digits.isEmpty then none
    else
      let kept := digits.take 9
      some (Nat.ofDigitChars 10 kept 0 * pow10 (9 - kept.length), rest.drop digits.length)
  | _ => some (0, cs)

/-- Two digits, of which the first is below a bound. -/
def takePair (bound : Nat) (cs : List Char) : Option (Nat × List Char) :=
  match cs with
  | a :: b :: rest =>
    if a.isDigit && b.isDigit && a.toNat - '0'.toNat < bound then
      some (Nat.ofDigitChars 10 [a, b] 0, rest)
    else none
  | _ => none

/-- An offset in seconds: a letter for universal time, or signed hours and minutes. -/
def takeOffset (cs : List Char) : Option (Int × List Char) :=
  let signed (sign : Int) (rest : List Char) : Option (Int × List Char) := do
    let (h, rest) ← takePair 10 rest
    let rest := rest.dropWhile fun c => c = ':' || Text.isBlank c
    let (m, rest) ← takePair 6 rest
    some (sign * (h * 3600 + m * 60 : Nat), rest)
  match cs with
  | u :: t :: c :: rest =>
    if u.toLower = 'u' ∧ t.toLower = 't' ∧ c.toLower = 'c' then some (0, rest)
    else if u = 'Z' ∨ u = 'z' then some (0, t :: c :: rest)
    else if u = '+' then signed 1 (t :: c :: rest)
    else if u = '-' ∨ u = '\u2212' then signed (-1) (t :: c :: rest)
    else none
  | u :: rest => if u = 'Z' ∨ u = 'z' then some (0, rest) else none
  | [] => none

/-- The seconds from 1970 to the first and to the last second of the calendar. -/
def calendar : Int × Int :=
  (daysOfDate ⟨-262143, 1, 1⟩ * 86400, daysOfDate ⟨262142, 12, 31⟩ * 86400 + 86399)

/-- The instant that a text names. Its year and the instant in universal time both have to lie in
the calendar. -/
def ofText? (s : String) : Option Timestamp := do
  let (year, cs) ← takeYear s.toList
  let cs ← takeMark '-' cs
  let (month, cs) ← takeField 2 cs
  let cs ← takeMark '-' cs
  let (day, cs) ← takeField 2 cs
  let cs ← match cs with
    | c :: rest => if c = 'T' ∨ c = 't' ∨ c = ' ' then some rest else none
    | [] => none
  let (hour, cs) ← takeField 2 cs
  let cs ← takeMark ':' cs
  let (minute, cs) ← takeField 2 cs
  let cs ← takeMark ':' cs
  let (second, cs) ← takeField 2 cs
  let (nanos, cs) ← takeFraction cs
  let (offset, cs) ← takeOffset (skipBlanks cs)
  if ¬ (skipBlanks cs).isEmpty then none
  else if month = 0 ∨ 12 < month ∨ day = 0 ∨ daysInMonth year month < day then none
  else if 23 < hour ∨ 59 < minute ∨ 60 < second then none
  else if year < -262143 ∨ 262142 < year ∨ offset.natAbs ≥ 86400 then none
  else
    -- a leap second lies in the second before it
    let leap := if second = 60 then 1 else 0
    let inDay : Int := hour * 3600 + minute * 60 + (second - leap : Nat)
    let seconds := daysOfDate ⟨year, month, day⟩ * 86400 + inDay - offset
    if seconds < calendar.1 ∨ calendar.2 < seconds then none
    else some ⟨seconds, nanos + leap * 1000000000⟩

end Timestamp

end PodSwap
