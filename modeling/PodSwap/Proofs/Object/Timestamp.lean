import Mathlib.Data.List.TakeWhile
import Mathlib.Tactic.Ring
import PodSwap.Object.Timestamp

/-!
# The calendar of times

A time is written as a date and a time of day, in whole seconds. The date leads back to the day. The
time of day is the time's own where a second is only exceeded in the last second of a minute, and
that is so for what was read.

Main statements: a day is told by its date (`daysOfDate_dateOfDays`); fractions of a second are not
written (`text_wholeSeconds`); a time that was read is one of the calendar (`dated_of_ofText?`).
-/

namespace PodSwap

namespace Text

theorem toList_padded (width n : Nat) :
    (padded width n).toList =
      List.replicate (width - (Nat.toDigits 10 n).length) '0' ++ Nat.toDigits 10 n := by
  have hdigits : (toString n).toList = Nat.toDigits 10 n := Nat.toList_repr
  rw [padded, String.toList_append, String.toList_ofList, ← String.length_toList, hdigits]

theorem padded_ne_nil (width n : Nat) : (padded width n).toList ≠ [] := by
  rw [toList_padded]
  exact List.append_ne_nil_of_right_ne_nil _ Nat.toDigits_ne_nil

/-- A number is what its digits come to, however many zeros stand in front. -/
theorem ofDigitChars_padded (width n : Nat) :
    Nat.ofDigitChars 10 (padded width n).toList 0 = n := by
  have hzeros : ∀ k : Nat, Nat.ofDigitChars 10 (List.replicate k '0') 0 = 0 := by
    intro k
    induction k with
    | zero => rfl
    | succ k ih => rw [List.replicate_succ, Nat.ofDigitChars_cons]; exact ih
  rw [toList_padded, Nat.ofDigitChars_append, hzeros, Nat.ofDigitChars_ten_toDigits]

/-- A number that fits the width has exactly so many digits. -/
theorem length_padded {width n : Nat} (hpos : 0 < width) (hn : n < 10 ^ width) :
    (padded width n).toList.length = width := by
  have hle := (Nat.length_toDigits_le_iff (b := 10) (n := n) (by decide) hpos).mpr hn
  rw [toList_padded, List.length_append, List.length_replicate]
  omega

theorem isDigit_of_mem_padded {width n : Nat} {c : Char} (h : c ∈ (padded width n).toList) :
    c.isDigit = true := by
  rw [toList_padded] at h
  rcases List.mem_append.mp h with h | h
  · rw [List.eq_of_mem_replicate h]
    decide
  · exact Nat.isDigit_of_mem_toDigits (by decide) (by decide) h

end Text

namespace Timestamp

/-! ## The calendar -/

/-- The year within an era of 400 years, by the day. -/
theorem yearOfEra_div_100 {day year : Int} (hlo : 0 ≤ day) (hhi : day ≤ 146096)
    (hyear : year = (day - day / 1460 + day / 36524 - day / 146096) / 365) :
    year / 100 = day / 36524 - day / 146096 := by
  have hcentury : day / 36524 = 0 ∨ day / 36524 = 1 ∨ day / 36524 = 2 ∨ day / 36524 = 3 ∨
      day / 36524 = 4 := by omega
  rcases hcentury with h | h | h | h | h <;> omega

/-- The day within a year, counted from March. -/
theorem dayOfYear_bounds {day year : Int} (hlo : 0 ≤ day) (hhi : day ≤ 146096)
    (hyear : year = (day - day / 1460 + day / 36524 - day / 146096) / 365) :
    0 ≤ day - (365 * year + year / 4 - year / 100) ∧
      day - (365 * year + year / 4 - year / 100) ≤ 365 := by
  rw [yearOfEra_div_100 hlo hhi hyear]
  omega

/-- The last of 366 days is there in leap years only, the year being the one that begins with it. -/
theorem leap_of_last_day {day year : Int} (hlo : 0 ≤ day) (hhi : day ≤ 146096)
    (hyear : year = (day - day / 1460 + day / 36524 - day / 146096) / 365)
    (hlast : day - (365 * year + year / 4 - year / 100) = 365) :
    year % 4 = 3 ∧ (year % 100 = 99 → year = 399) := by
  have hcentury := yearOfEra_div_100 hlo hhi hyear
  have hcases : day / 36524 = 0 ∨ day / 36524 = 1 ∨ day / 36524 = 2 ∨ day / 36524 = 3 ∨
      day / 36524 = 4 := by omega
  have hfour : year % 4 = 3 := by
    have hrest : year % 4 = 0 ∨ year % 4 = 1 ∨ year % 4 = 2 ∨ year % 4 = 3 := by omega
    rcases hrest with h | h | h | h <;> omega
  refine ⟨hfour, fun h => ?_⟩
  rcases hcases with h | h | h | h | h <;> omega

/-- The date by its era, the year in the era and the day in the year, both counted from March. -/
def ofEra (era year day : Int) : Date :=
  let monthFromMarch := (5 * day + 2) / 153
  let month := if monthFromMarch < 10 then monthFromMarch + 3 else monthFromMarch - 9
  let fullYear := year + era * 400
  ⟨if month ≤ 2 then fullYear + 1 else fullYear, month.toNat,
    (day - (153 * monthFromMarch + 2) / 5 + 1).toNat⟩

/-- Every date is one in an era. -/
theorem exists_ofEra (days : Int) : ∃ era year day,
    (0 ≤ year ∧ year ≤ 399) ∧ (0 ≤ day ∧ day ≤ 365) ∧
    (day = 365 → year % 4 = 3 ∧ (year % 100 = 99 → year = 399)) ∧
    days + 719468 = era * 146097 + (year * 365 + year / 4 - year / 100 + day) ∧
    dateOfDays days = ofEra era year day := by
  have hera := Int.fdiv_eq_ediv_of_nonneg (days + 719468) (b := 146097) (by decide)
  obtain ⟨dayOfEra, hday⟩ :
      ∃ d, d = days + 719468 - Int.fdiv (days + 719468) 146097 * 146097 := ⟨_, rfl⟩
  obtain ⟨year, hyear⟩ :
      ∃ y, y = (dayOfEra - dayOfEra / 1460 + dayOfEra / 36524 - dayOfEra / 146096) / 365 := ⟨_, rfl⟩
  have hlo : 0 ≤ dayOfEra := by omega
  have hhi : dayOfEra ≤ 146096 := by omega
  refine ⟨Int.fdiv (days + 719468) 146097, year,
    dayOfEra - (365 * year + year / 4 - year / 100), by omega, dayOfYear_bounds hlo hhi hyear,
    leap_of_last_day hlo hhi hyear, by omega, ?_⟩
  subst hyear hday
  rfl

/-- The date of a day has a month of the year and a day of some month. -/
theorem dateOfDays_bounds (days : Int) :
    1 ≤ (dateOfDays days).month ∧ (dateOfDays days).month ≤ 12 ∧ 1 ≤ (dateOfDays days).day ∧
      (dateOfDays days).day ≤ 31 := by
  obtain ⟨era, year, day, -, hday, -, -, hdate⟩ := exists_ofEra days
  rw [hdate]
  dsimp only [ofEra]
  split <;> omega

/-- The date of a day leads back to the day. -/
theorem daysOfDate_dateOfDays (days : Int) : daysOfDate (dateOfDays days) = days := by
  obtain ⟨era, year, day, hyear, hday, -, hdays, hdate⟩ := exists_ofEra days
  rw [hdate]
  simp only [daysOfDate, ofEra, Int.fdiv_eq_ediv_of_nonneg _ (show (0 : Int) ≤ 400 by decide)]
  -- the months from March to December come first, then those of the next year
  split <;> split <;> split <;> omega

/-! ## The text -/

/-- The day of an instant. -/
def dayOf (t : Timestamp) : Int := Int.fdiv t.seconds 86400

/-- The seconds of an instant in its day. -/
def secondOfDay (t : Timestamp) : Nat := (t.seconds - t.dayOf * 86400).toNat

/-- The seconds of an instant in its minute, a leap second being the sixtieth. -/
def secondOfMinute (t : Timestamp) : Nat := t.secondOfDay % 60 + t.nanos / 1000000000

theorem secondOfDay_lt (t : Timestamp) : t.secondOfDay < 86400 := by
  have hday := Int.fdiv_eq_ediv_of_nonneg t.seconds (b := 86400) (by decide)
  unfold secondOfDay dayOf
  omega

theorem seconds_eq (t : Timestamp) : t.seconds = t.dayOf * 86400 + t.secondOfDay := by
  have hday := Int.fdiv_eq_ediv_of_nonneg t.seconds (b := 86400) (by decide)
  unfold secondOfDay dayOf
  omega

/-- Whether an instant is one of the calendar: only the last second of a minute may be exceeded, by
a leap second. -/
structure Proper (t : Timestamp) : Prop where
  nanos_lt : t.nanos < 2000000000
  leap : 1000000000 ≤ t.nanos → t.secondOfDay % 60 = 59

/-- Whether an instant is one of the calendar, neither before its first year nor after its last. -/
structure Dated (t : Timestamp) : Prop extends Proper t where
  first_le : calendar.1 ≤ t.seconds
  le_last : t.seconds ≤ calendar.2

/-- The instant with its seconds told and the fraction left out. -/
def wholeSeconds (t : Timestamp) : Timestamp :=
  { t with nanos := t.nanos / 1000000000 * 1000000000 }

/-- Fractions of a second are not written. -/
theorem text_wholeSeconds (t : Timestamp) : t.wholeSeconds.text = t.text := by
  have hcarry : t.nanos / 1000000000 * 1000000000 / 1000000000 = t.nanos / 1000000000 := by omega
  unfold text
  rw [wholeSeconds, hcarry]

theorem text_eq (t : Timestamp) : t.text.toList =
    (yearText (dateOfDays t.dayOf).year).toList ++ ['-'] ++
      (Text.padded 2 (dateOfDays t.dayOf).month).toList ++ ['-'] ++
      (Text.padded 2 (dateOfDays t.dayOf).day).toList ++ ['T'] ++
      (Text.padded 2 (t.secondOfDay / 3600)).toList ++ [':'] ++
      (Text.padded 2 (t.secondOfDay / 60 % 60)).toList ++ [':'] ++
      (Text.padded 2 t.secondOfMinute).toList ++ ['Z'] := by
  simp only [text, String.toList_append, ← List.append_assoc]
  rfl

/-! ## Reading -/

theorem ofDigitChars_lt {cs : List Char} (h : ∀ c ∈ cs, c.isDigit = true) (n : Nat) :
    Nat.ofDigitChars 10 cs n < (n + 1) * 10 ^ cs.length := by
  induction cs generalizing n with
  | nil => simp
  | cons c cs ih =>
    have hc : c.toNat - '0'.toNat ≤ 9 := by
      have := h c List.mem_cons_self
      simp only [Char.isDigit, Bool.and_eq_true, decide_eq_true_eq, UInt32.le_iff_toNat_le] at this
      have hnine : ('9' : Char).val.toNat = 57 := rfl
      have hzero : ('0' : Char).toNat = 48 := rfl
      have hval : c.val.toNat = c.toNat := rfl
      omega
    rw [Nat.ofDigitChars_cons, List.length_cons, Nat.pow_succ]
    have hrest := ih (fun d hd => h d (List.mem_cons_of_mem _ hd)) (10 * n + (c.toNat - '0'.toNat))
    calc Nat.ofDigitChars 10 cs (10 * n + (c.toNat - '0'.toNat))
        < (10 * n + (c.toNat - '0'.toNat) + 1) * 10 ^ cs.length := hrest
      _ ≤ ((n + 1) * 10) * 10 ^ cs.length := Nat.mul_le_mul_right _ (by omega)
      _ = (n + 1) * (10 ^ cs.length * 10) := by rw [Nat.mul_assoc, Nat.mul_comm 10]

/-- A fraction of a second is less than one. -/
theorem takeFraction_lt {cs rest : List Char} {n : Nat} (h : takeFraction cs = some (n, rest)) :
    n < 1000000000 := by
  unfold takeFraction at h
  split at h
  · rename_i rest'
    dsimp only at h
    split at h
    · cases h
    · cases h
      have hlength : ((rest'.takeWhile Char.isDigit).take 9).length ≤ 9 := List.length_take_le _ _
      have hdigits : ∀ c ∈ (rest'.takeWhile Char.isDigit).take 9, c.isDigit = true := fun c hc =>
        List.mem_takeWhile_imp (List.mem_of_mem_take hc)
      have hlt := ofDigitChars_lt hdigits 0
      generalize (rest'.takeWhile Char.isDigit).take 9 = kept at hdigits hlength hlt
      calc Nat.ofDigitChars 10 kept 0 * pow10 (9 - kept.length)
          < (0 + 1) * 10 ^ kept.length * 10 ^ (9 - kept.length) :=
            Nat.mul_lt_mul_of_pos_right hlt (Nat.pow_pos (by decide))
        _ = 10 ^ 9 := by rw [Nat.one_mul, ← Nat.pow_add, Nat.add_sub_cancel' hlength]
  · cases h
    decide

/-- An offset is one of whole minutes. -/
theorem takeOffset_minutes {cs rest : List Char} {n : Int} (h : takeOffset cs = some (n, rest)) :
    n % 60 = 0 := by
  have hsigned : ∀ (sign : Int) (hours minutes : Nat),
      (sign * ((hours * 3600 + minutes * 60 : Nat) : Int)) % 60 = 0 := fun sign hours minutes =>
    Int.emod_eq_zero_of_dvd ⟨sign * (hours * 60 + minutes), by push_cast; ring⟩
  unfold takeOffset at h
  dsimp only at h
  split at h
  · split at h
    · cases h
      rfl
    split at h
    · cases h
      rfl
    split at h
    · obtain ⟨⟨hours, cs⟩, -, h⟩ := Option.bind_eq_some_iff.mp h
      obtain ⟨⟨minutes, cs⟩, -, h⟩ := Option.bind_eq_some_iff.mp h
      cases h
      exact hsigned 1 hours minutes
    split at h
    · obtain ⟨⟨hours, cs⟩, -, h⟩ := Option.bind_eq_some_iff.mp h
      obtain ⟨⟨minutes, cs⟩, -, h⟩ := Option.bind_eq_some_iff.mp h
      cases h
      exact hsigned (-1) hours minutes
    · cases h
  · split at h
    · cases h
      rfl
    · cases h
  · cases h

/-- A time that was read is one of the calendar, in its years. -/
theorem dated_of_ofText? {s : String} {t : Timestamp} (h : ofText? s = some t) : t.Dated := by
  unfold ofText? at h
  obtain ⟨⟨year, cs⟩, -, h⟩ := Option.bind_eq_some_iff.mp h
  obtain ⟨cs, -, h⟩ := Option.bind_eq_some_iff.mp h
  obtain ⟨⟨month, cs⟩, -, h⟩ := Option.bind_eq_some_iff.mp h
  obtain ⟨cs, -, h⟩ := Option.bind_eq_some_iff.mp h
  obtain ⟨⟨day, cs⟩, -, h⟩ := Option.bind_eq_some_iff.mp h
  -- between the date and the time of day stands one character
  dsimp only at h
  split at h
  rotate_left
  · cases h
  split at h
  rotate_left
  · cases h
  obtain ⟨cs, -, h⟩ := Option.bind_eq_some_iff.mp h
  obtain ⟨⟨hour, cs⟩, -, h⟩ := Option.bind_eq_some_iff.mp h
  obtain ⟨cs, -, h⟩ := Option.bind_eq_some_iff.mp h
  obtain ⟨⟨minute, cs⟩, -, h⟩ := Option.bind_eq_some_iff.mp h
  obtain ⟨cs, -, h⟩ := Option.bind_eq_some_iff.mp h
  obtain ⟨⟨second, cs⟩, -, h⟩ := Option.bind_eq_some_iff.mp h
  obtain ⟨⟨nanos, cs⟩, hnanos, h⟩ := Option.bind_eq_some_iff.mp h
  obtain ⟨⟨offset, cs⟩, hoffset, h⟩ := Option.bind_eq_some_iff.mp h
  have hlt := takeFraction_lt hnanos
  have hminutes := takeOffset_minutes hoffset
  dsimp only at h
  -- what is out of range is not read
  iterate 4
    split at h
    · cases h
  split at h
  · rename_i hleap
    split at h
    · cases h
    · rename_i hrange
      cases h
      obtain ⟨hfirst, hlast⟩ := not_or.mp hrange
      refine ⟨⟨by dsimp only; omega, fun _ => ?_⟩, Int.not_lt.mp hfirst, Int.not_lt.mp hlast⟩
      generalize daysOfDate ⟨year, month, day⟩ = days
      simp only [secondOfDay, dayOf,
        Int.fdiv_eq_ediv_of_nonneg _ (show (0 : Int) ≤ 86400 by decide)]
      omega
  · split at h
    · cases h
    · rename_i hrange
      cases h
      obtain ⟨hfirst, hlast⟩ := not_or.mp hrange
      refine ⟨⟨by dsimp only; omega, fun hnanos => ?_⟩, Int.not_lt.mp hfirst, Int.not_lt.mp hlast⟩
      dsimp only at hnanos
      omega

end Timestamp

end PodSwap
