import PodSwap.Scale

/-!
# The record of a count

A count is recorded in decimal digits and read back as it was.

Main statement: `recordedCount_recordText`.
-/

namespace PodSwap

namespace Text

theorem digit?_of_isDigit {c : Char} (h : c.isDigit = true) :
    digit? c = some (c.toNat - '0'.toNat) := by
  simp [digit?, h]

theorem le_ofDigitChars (cs : List Char) (acc : Nat) : acc ≤ Nat.ofDigitChars 10 cs acc := by
  induction cs generalizing acc with
  | nil => simp
  | cons c cs ih =>
    rw [Nat.ofDigitChars_cons]
    have := ih (10 * acc + (c.toNat - '0'.toNat))
    omega

/-- Digits are read as the number they stand for, if that is not too large. -/
theorem appendDigits_eq {lo hi : Int} (hlo : lo ≤ 0) {cs : List Char}
    (hcs : ∀ c ∈ cs, c.isDigit = true) (acc : Nat)
    (hhi : (Nat.ofDigitChars 10 cs acc : Int) ≤ hi) :
    appendDigits lo hi 1 acc cs = .ok (Nat.ofDigitChars 10 cs acc : Int) := by
  induction cs generalizing acc with
  | nil => simp [appendDigits]
  | cons c cs ih =>
    rw [Nat.ofDigitChars_cons] at hhi ⊢
    rw [appendDigits, digit?_of_isDigit (hcs c List.mem_cons_self)]
    have hle := le_ofDigitChars cs (10 * acc + (c.toNat - '0'.toNat))
    have hstep : (acc : Int) * 10 + 1 * ((c.toNat - '0'.toNat : Nat) : Int) =
        ((10 * acc + (c.toNat - '0'.toNat) : Nat) : Int) := by
      push_cast
      omega
    simp only [hstep]
    rw [if_neg (by omega), if_neg (by omega)]
    exact ih (fun c' hc' => hcs c' (List.mem_cons_of_mem _ hc')) _ hhi

theorem not_sign_of_isDigit {c : Char} (h : c.isDigit = true) : c ≠ '+' ∧ c ≠ '-' := by
  constructor <;> rintro rfl <;> revert h <;> decide

/-- A number in digits is read as itself. -/
theorem integer_digits {lo hi : Int} (hlo : lo ≤ 0) {cs : List Char} (hne : cs ≠ [])
    (hcs : ∀ c ∈ cs, c.isDigit = true) (hhi : (Nat.ofDigitChars 10 cs 0 : Int) ≤ hi) :
    integer lo hi cs = .ok (Nat.ofDigitChars 10 cs 0 : Int) := by
  cases cs with
  | nil => exact absurd rfl hne
  | cons c cs =>
    obtain ⟨hplus, hminus⟩ := not_sign_of_isDigit (hcs c List.mem_cons_self)
    have h := appendDigits_eq hlo hcs 0 hhi
    unfold integer
    split <;> simp_all

end Text

namespace Scale

/-- The count that a text records, with blanks around it passed over. -/
def recordedCount (recorded : String) : Except Text.IntegerFault Int32 :=
  Text.signed32 (String.ofList (Text.trim recorded.toList))

theorem readRecord_of_recordedCount [Schema] {w : Workload} {recorded : String} {n : Int32}
    (h : recordedCount recorded = .ok n) : readRecord w recorded = .ok n := by
  unfold recordedCount at h
  simp [readRecord, h]

/-- A record says something. -/
theorem ne_empty_of_recordedCount {recorded : String} {n : Int32}
    (h : recordedCount recorded = .ok n) : recorded ≠ "" := by
  rintro rfl
  revert h
  rw [recordedCount, Text.signed32]
  simp [Text.trim, Text.trimEnd, Text.integer, Except.map]

theorem toList_recordText {n : Int32} (h : 0 < n) :
    (recordText n).toList = Nat.toDigits 10 n.toInt.toNat := by
  have hpos : 0 ≤ n.toInt := by
    have : (0 : Int32).toInt < n.toInt := Int32.lt_iff_toInt_lt.mp h
    have hz : (0 : Int32).toInt = 0 := rfl
    omega
  show (toString n.toInt).toList = _
  rw [Int.toString_eq_repr, Int.repr_eq_if, if_pos hpos, Nat.toList_repr]

/-- A positive count is read back as it was recorded. -/
theorem recordedCount_recordText {n : Int32} (h : 0 < n) :
    recordedCount (recordText n) = .ok n := by
  have hpos : 0 < n.toInt := by
    have hlt := Int32.lt_iff_toInt_lt.mp h
    have hz : (0 : Int32).toInt = 0 := rfl
    omega
  have hdigits : ∀ c ∈ Nat.toDigits 10 n.toInt.toNat, c.isDigit = true := fun c hc =>
    Nat.isDigit_of_mem_toDigits (by decide) (by decide) hc
  have hvalue := Nat.ofDigitChars_ten_toDigits (n := n.toInt.toNat)
  have hhi := n.toInt_lt
  have hpow : ((pow2 31 : Nat) : Int) = 2147483648 := by simp [pow2]
  have hlow : -((pow2 31 : Nat) : Int) ≤ 0 := by simp [pow2]
  have hhigh : (Nat.ofDigitChars 10 (Nat.toDigits 10 n.toInt.toNat) 0 : Int) ≤
      ((pow2 31 : Nat) : Int) - 1 := by
    rw [hvalue, hpow]
    omega
  have hread := Text.integer_digits hlow Nat.toDigits_ne_nil hdigits hhigh
  rw [hvalue] at hread
  unfold recordedCount Text.signed32
  rw [toList_recordText h, Text.trim_of_no_blanks fun c hc =>
    Text.isBlank_of_isDigit (hdigits c hc), String.toList_ofList, hread]
  have hcast : ((n.toInt.toNat : Nat) : Int) = n.toInt := Int.toNat_of_nonneg (by omega)
  rw [hcast]
  simp [Except.map]

end Scale

end PodSwap
