import Mathlib.Tactic.IntervalCases
import PodSwap.Proofs.Object.Timestamp
import PodSwap.Text.Split

/-!
# Times are read back

What is written of a time is read as that time without its fraction of a second. The numbers in the
text are those that were written, since each has a fixed width or ends before a dash, and they are
numbers that a date and a time of day may have.

Main statement: `ofText?_text`.
-/

namespace PodSwap

namespace Timestamp

/-! ## Dates -/

theorem isLeapYear_iff {y : Int} :
    isLeapYear y = true ↔ (y % 4 = 0 ∧ y % 100 ≠ 0) ∨ y % 400 = 0 := by
  unfold isLeapYear
  rw [Bool.or_eq_true, Bool.and_eq_true, beq_iff_eq, bne_iff_ne, beq_iff_eq]
  rfl

/-- A year counted from March that has a 366th day ends with the leap day of the next year. -/
theorem isLeapYear_of_last_day {era year : Int} (hfour : year % 4 = 3)
    (hcentury : year % 100 = 99 → year = 399) : isLeapYear (year + era * 400 + 1) = true := by
  rw [isLeapYear_iff]
  by_cases h : year % 100 = 99
  · exact .inr (by have := hcentury h; omega)
  · exact .inl ⟨by omega, by omega⟩

theorem daysInMonth_le (y : Int) (m : Nat) : daysInMonth y m ≤ 31 := by
  unfold daysInMonth
  split
  · split <;> decide
  · split <;> decide

/-- The date of a day has a day that its month has. -/
theorem day_le_daysInMonth (days : Int) : (dateOfDays days).day ≤
    daysInMonth (dateOfDays days).year (dateOfDays days).month := by
  obtain ⟨era, year, day, hyear, hday, hlast, -, hdate⟩ := exists_ofEra days
  rw [hdate]
  dsimp only [ofEra, daysInMonth]
  generalize hmonth : (5 * day + 2) / 153 = month
  have hlo : 0 ≤ month := by omega
  have hhi : month ≤ 11 := by omega
  -- only the last month, which is February, is not the same every year
  rcases Int.lt_or_eq_of_le hhi with hother | rfl
  · interval_cases month <;> norm_num <;> omega
  · by_cases hleap : isLeapYear (year + era * 400 + 1) = true
    · norm_num [hleap]
      omega
    · have hday' : day ≠ 365 := fun h =>
        hleap (isLeapYear_of_last_day (hlast h).1 (hlast h).2)
      norm_num [hleap]
      omega

/-- The date of a day between the first and the last has one of the years between. -/
theorem year_bounds {days : Int} (hfirst : daysOfDate ⟨-262143, 1, 1⟩ ≤ days)
    (hlast : days ≤ daysOfDate ⟨262142, 12, 31⟩) :
    -262143 ≤ (dateOfDays days).year ∧ (dateOfDays days).year ≤ 262142 := by
  have hfirstday : daysOfDate ⟨-262143, 1, 1⟩ = -96465292 := by decide +kernel
  have hlastday : daysOfDate ⟨262142, 12, 31⟩ = 95026236 := by decide +kernel
  obtain ⟨era, year, day, hyear, hday, -, hdays, hdate⟩ := exists_ofEra days
  -- counted from March, the first and the last year lie in two eras
  have hera : -656 ≤ era ∧ era ≤ 655 := by omega
  have hlow : era = -656 → 256 ≤ year := by omega
  have hlowday : era = -656 → year = 256 → 306 ≤ day := by omega
  have hhigh : era = 655 → year ≤ 142 := by omega
  have hhighday : era = 655 → year = 142 → day ≤ 305 := by omega
  rw [hdate]
  simp only [ofEra]
  split <;> split <;> omega

/-! ## Numbers and marks -/

theorem skipBlanks_cons {c : Char} (h : Text.isBlank c = false) (cs : List Char) :
    skipBlanks (c :: cs) = c :: cs := by
  rw [skipBlanks, List.dropWhile_cons_of_neg]
  rw [h]
  exact Bool.false_ne_true

theorem takeMark_cons {c : Char} (h : Text.isBlank c = false) (cs : List Char) :
    takeMark c (c :: cs) = some cs := by
  rw [takeMark, skipBlanks_cons h]
  exact if_pos rfl

/-- A number is read where as many digits are taken as were written. -/
theorem takeNumber_padded {most width n : Nat} {rest : List Char}
    (h : (((Text.padded width n).toList ++ rest).takeWhile Char.isDigit).take most =
      (Text.padded width n).toList) :
    takeNumber most ((Text.padded width n).toList ++ rest) = some (n, rest) := by
  have hne : ¬ (Text.padded width n).toList.isEmpty = true := by
    rw [List.isEmpty_iff]
    exact Text.padded_ne_nil width n
  rw [takeNumber, h, if_neg hne, Text.ofDigitChars_padded, List.drop_left]

/-- A number of the width that is asked for is read, whatever stands behind it. -/
theorem takeNumber_padded_of_lt {width n : Nat} (hpos : 0 < width) (hn : n < 10 ^ width)
    (rest : List Char) :
    takeNumber width ((Text.padded width n).toList ++ rest) = some (n, rest) := by
  refine takeNumber_padded ?_
  rw [List.takeWhile_append_of_pos fun _ => Text.isDigit_of_mem_padded,
    List.take_left' (Text.length_padded hpos hn)]

theorem exists_digit_padded (width n : Nat) :
    ∃ d ds, (Text.padded width n).toList = d :: ds ∧ d.isDigit = true := by
  obtain ⟨d, ds, hds⟩ := List.exists_cons_of_ne_nil (Text.padded_ne_nil width n)
  exact ⟨d, ds, hds, Text.isDigit_of_mem_padded (hds ▸ List.mem_cons_self)⟩

theorem skipBlanks_padded (width n : Nat) (rest : List Char) :
    skipBlanks ((Text.padded width n).toList ++ rest) = (Text.padded width n).toList ++ rest := by
  obtain ⟨d, ds, hds, hd⟩ := exists_digit_padded width n
  rw [hds, List.cons_append, skipBlanks_cons (Text.isBlank_of_isDigit hd)]

/-- A number of two digits is read as it was written. -/
theorem takeField_padded {n : Nat} (hn : n < 100) (rest : List Char) :
    takeField 2 ((Text.padded 2 n).toList ++ rest) = some (n, rest) := by
  rw [takeField, skipBlanks_padded, takeNumber_padded_of_lt (by decide) hn]

/-- A number in front of a dash is read to its end, however many digits may be taken. -/
theorem takeNumber_padded_dash (width n : Nat) (rest : List Char) :
    takeNumber ((Text.padded width n).toList ++ '-' :: rest).length
      ((Text.padded width n).toList ++ '-' :: rest) = some (n, '-' :: rest) := by
  have hstop : ∀ c ∈ ('-' :: rest).head?, c.isDigit = false := by
    intro c hc
    cases hc
    decide
  have hwhole : (Text.padded width n).toList.length ≤
      ((Text.padded width n).toList ++ '-' :: rest).length := by
    rw [List.length_append]
    exact Nat.le_add_right _ _
  refine takeNumber_padded ?_
  rw [Text.takeWhile_append_of_stop (fun _ => Text.isDigit_of_mem_padded) hstop,
    List.take_of_length_le hwhole]

theorem takeYear_minus (cs : List Char) : takeYear ('-' :: cs) =
    (takeNumber cs.length cs).map fun (n, r) => (-(n : Int), r) := by
  rw [takeYear, skipBlanks_cons (by decide)]
  rfl

theorem takeYear_plus (cs : List Char) : takeYear ('+' :: cs) =
    (takeNumber cs.length cs).map fun (n, r) => ((n : Int), r) := by
  rw [takeYear, skipBlanks_cons (by decide)]
  rfl

/-- A year is read as it was written. -/
theorem takeYear_yearText (y : Int) (rest : List Char) :
    takeYear ((yearText y).toList ++ '-' :: rest) = some (y, '-' :: rest) := by
  rw [yearText]
  split
  · have hread := takeNumber_padded_of_lt (n := y.toNat) (by decide : 0 < 4) (by omega)
      ('-' :: rest)
    obtain ⟨d, ds, hds, hd⟩ := exists_digit_padded 4 y.toNat
    have hsign : ∀ c ds', c.isDigit = false →
        (Text.padded 4 y.toNat).toList ++ '-' :: rest ≠ c :: ds' := by
      rintro c ds' hc heq
      rw [hds] at heq
      rw [(List.cons.inj heq).1, hc] at hd
      cases hd
    rw [takeYear, skipBlanks_padded]
    split
    · exact absurd ‹_› (hsign _ _ (by decide))
    · exact absurd ‹_› (hsign _ _ (by decide))
    · rw [hread]
      show some ((y.toNat : Int), _) = _
      rw [Int.toNat_of_nonneg (by omega)]
  · rw [String.toList_append]
    split
    · have hy : y = -(y.natAbs : Int) := by omega
      rw [show "-".toList = ['-'] from rfl, List.singleton_append, List.cons_append,
        takeYear_minus, takeNumber_padded_dash]
      exact congrArg (fun n => some (n, _)) hy.symm
    · have hy : y = (y.natAbs : Int) := by omega
      rw [show "+".toList = ['+'] from rfl, List.singleton_append, List.cons_append,
        takeYear_plus, takeNumber_padded_dash]
      exact congrArg (fun n => some (n, _)) hy.symm

/-! ## Times -/

theorem takeOffset_universal : takeOffset (skipBlanks ['Z']) = some (0, []) := by
  decide

/-- A date and a time of day in universal time are read as they were written, the sixtieth second
as a leap second. -/
theorem ofText?_of_parts {s : String} {date : Date} {hour minute second : Nat}
    (htext : s.toList = (yearText date.year).toList ++ '-' ::
      ((Text.padded 2 date.month).toList ++ '-' :: ((Text.padded 2 date.day).toList ++ 'T' ::
      ((Text.padded 2 hour).toList ++ ':' :: ((Text.padded 2 minute).toList ++ ':' ::
      ((Text.padded 2 second).toList ++ ['Z']))))))
    (hyear : -262143 ≤ date.year ∧ date.year ≤ 262142)
    (hmonth : 1 ≤ date.month ∧ date.month ≤ 12)
    (hday : 1 ≤ date.day ∧ date.day ≤ daysInMonth date.year date.month)
    (hhour : hour ≤ 23) (hminute : minute ≤ 59) (hsecond : second ≤ 60) {t : Timestamp}
    (hseconds : t.seconds = daysOfDate date * 86400 +
      (hour * 3600 + minute * 60 + (second - if second = 60 then 1 else 0 : Nat)))
    (hnanos : t.nanos = (if second = 60 then 1 else 0) * 1000000000)
    (hfirst : calendar.1 ≤ t.seconds) (hlast : t.seconds ≤ calendar.2) : ofText? s = some t := by
  have hdash : Text.isBlank '-' = false := by decide
  have hcolon : Text.isBlank ':' = false := by decide
  have hfraction : takeFraction ['Z'] = some (0, ['Z']) := rfl
  have hlength := daysInMonth_le date.year date.month
  -- the numbers and marks in their order
  rw [ofText?, htext]
  refine Option.bind_eq_some_iff.mpr ⟨_, takeYear_yearText _ _, ?_⟩
  refine Option.bind_eq_some_iff.mpr ⟨_, takeMark_cons hdash _, ?_⟩
  refine Option.bind_eq_some_iff.mpr ⟨_, takeField_padded (by omega) _, ?_⟩
  refine Option.bind_eq_some_iff.mpr ⟨_, takeMark_cons hdash _, ?_⟩
  refine Option.bind_eq_some_iff.mpr ⟨_, takeField_padded (by omega) _, ?_⟩
  dsimp only
  rw [if_pos (.inl rfl)]
  refine Option.bind_eq_some_iff.mpr ⟨_, rfl, ?_⟩
  refine Option.bind_eq_some_iff.mpr ⟨_, takeField_padded (by omega) _, ?_⟩
  refine Option.bind_eq_some_iff.mpr ⟨_, takeMark_cons hcolon _, ?_⟩
  refine Option.bind_eq_some_iff.mpr ⟨_, takeField_padded (by omega) _, ?_⟩
  refine Option.bind_eq_some_iff.mpr ⟨_, takeMark_cons hcolon _, ?_⟩
  refine Option.bind_eq_some_iff.mpr ⟨_, takeField_padded (by omega) _, ?_⟩
  refine Option.bind_eq_some_iff.mpr ⟨_, hfraction, ?_⟩
  refine Option.bind_eq_some_iff.mpr ⟨_, takeOffset_universal, ?_⟩
  dsimp only
  -- they are in their ranges, and so is what they come to
  rw [if_neg (by decide), if_neg (by omega), if_neg (by omega), if_neg (by omega)]
  obtain ⟨seconds, nanos⟩ := t
  dsimp only at hseconds hnanos hfirst hlast
  rw [Int.sub_zero, ← hseconds, if_neg (by omega), Nat.zero_add, ← hnanos]

/-- The second of the minute, where a leap second counts as the one before it. -/
theorem secondOfMinute_sub_leap {t : Timestamp} (h : t.Proper) :
    t.secondOfMinute ≤ 60 ∧ (if t.secondOfMinute = 60 then 1 else 0) = t.nanos / 1000000000 ∧
      t.secondOfMinute - t.nanos / 1000000000 = t.secondOfDay % 60 := by
  have hnanos := h.nanos_lt
  have hleap := h.leap
  unfold secondOfMinute
  split <;> omega

/-- What is written of a time is read as the time without its fraction of a second. -/
theorem ofText?_text {t : Timestamp} (h : t.Dated) : ofText? t.text = some t.wholeSeconds := by
  obtain ⟨hmonth, hmonth', hday, -⟩ := dateOfDays_bounds t.dayOf
  obtain ⟨hsecond, hleap, hrest⟩ := secondOfMinute_sub_leap h.toProper
  have hlt := t.secondOfDay_lt
  have hyear : -262143 ≤ (dateOfDays t.dayOf).year ∧ (dateOfDays t.dayOf).year ≤ 262142 := by
    have hseconds := t.seconds_eq
    have hfirst := h.first_le
    have hlast := h.le_last
    unfold calendar at hfirst hlast
    exact year_bounds (by omega) (by omega)
  have htext : t.text.toList = (yearText (dateOfDays t.dayOf).year).toList ++ '-' ::
      ((Text.padded 2 (dateOfDays t.dayOf).month).toList ++ '-' ::
      ((Text.padded 2 (dateOfDays t.dayOf).day).toList ++ 'T' ::
      ((Text.padded 2 (t.secondOfDay / 3600)).toList ++ ':' ::
      ((Text.padded 2 (t.secondOfDay / 60 % 60)).toList ++ ':' ::
      ((Text.padded 2 t.secondOfMinute).toList ++ ['Z']))))) := by
    simp only [text_eq, List.append_assoc, List.cons_append, List.nil_append]
  refine ofText?_of_parts htext hyear ⟨hmonth, hmonth'⟩
    ⟨hday, day_le_daysInMonth t.dayOf⟩ (by omega) (by omega) hsecond ?_ ?_ h.first_le h.le_last
  · rw [daysOfDate_dateOfDays, hleap, hrest]
    refine t.seconds_eq.trans ?_
    omega
  · rw [hleap]
    rfl

end Timestamp

end PodSwap
