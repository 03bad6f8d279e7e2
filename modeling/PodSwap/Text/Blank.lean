/-!
# White space

The characters that count as white space, and trimming by them. Main statements: the characters
that core calls white space are blank (`isBlank_of_isWhitespace`), trimmed text neither begins nor
ends with a blank (`head?_trim`, `getLast?_trim`), and text without blanks stays (`trim_append`).
-/

namespace PodSwap.Text

/-- Whether a character is white space: the ASCII controls from tab to carriage return, the space,
the next-line control and the spaces and separators beyond ASCII. -/
def isBlank (c : Char) : Bool :=
  let n := c.toNat
  (0x9 ≤ n && n ≤ 0xD) || n = 0x20 || n = 0x85 || n = 0xA0 || n = 0x1680 ||
    (0x2000 ≤ n && n ≤ 0x200A) || n = 0x2028 || n = 0x2029 || n = 0x202F || n = 0x205F || n = 0x3000

/-- The text without the blanks at its end. -/
def trimEnd (cs : List Char) : List Char :=
  (cs.reverse.dropWhile isBlank).reverse

/-- The text without the blanks at either end. -/
def trim (cs : List Char) : List Char :=
  trimEnd (cs.dropWhile isBlank)

/-- Every character that core calls white space is blank. -/
theorem isBlank_of_isWhitespace {c : Char} (h : c.isWhitespace = true) : isBlank c = true := by
  simp only [Char.isWhitespace, Bool.or_eq_true, decide_eq_true_eq] at h
  rcases h with ((h | h) | h) | h <;> subst h <;> decide

/-- No character that is printed by itself in ASCII is blank. -/
theorem isBlank_of_visible {c : Char} (hlo : '!' ≤ c) (hhi : c ≤ '~') : isBlank c = false := by
  have hlo : 0x21 ≤ c.toNat := UInt32.le_iff_toNat_le.mp hlo
  have hhi : c.toNat ≤ 0x7E := UInt32.le_iff_toNat_le.mp hhi
  simp only [isBlank, Bool.or_eq_false_iff, Bool.and_eq_false_iff, decide_eq_false_iff_not]
  omega

theorem isBlank_of_isDigit {c : Char} (h : c.isDigit = true) : isBlank c = false := by
  obtain ⟨hlo, hhi⟩ := Bool.and_eq_true_iff.mp h
  exact isBlank_of_visible (Char.le_trans (by decide) (of_decide_eq_true hlo))
    (Char.le_trans (of_decide_eq_true hhi) (by decide))

private theorem head?_dropWhile_blank (cs : List Char) (c : Char)
    (h : (cs.dropWhile isBlank).head? = some c) : isBlank c = false := by
  induction cs with
  | nil => simp at h
  | cons d cs ih =>
    by_cases hd : isBlank d = true
    · exact ih (by simpa [List.dropWhile_cons, hd] using h)
    · simp only [Bool.not_eq_true] at hd
      simp only [List.dropWhile_cons, hd, Bool.false_eq_true, if_false, List.head?_cons,
        Option.some.injEq] at h
      exact h ▸ hd

/-- Trimmed text does not end with a blank. -/
theorem getLast?_trim (cs : List Char) (c : Char) (h : (trim cs).getLast? = some c) :
    isBlank c = false := by
  unfold trim trimEnd at h
  rw [List.getLast?_reverse] at h
  exact head?_dropWhile_blank _ c h

/-- Trimming at the end leaves a beginning of the text. -/
theorem trimEnd_isPrefix (cs : List Char) : trimEnd cs <+: cs := by
  unfold trimEnd
  have := List.reverse_prefix.mpr (List.dropWhile_suffix (l := cs.reverse) isBlank)
  simpa using this

/-- Trimmed text does not begin with a blank. -/
theorem head?_trim (cs : List Char) (c : Char) (h : (trim cs).head? = some c) :
    isBlank c = false := by
  obtain ⟨rest, hrest⟩ := trimEnd_isPrefix (cs.dropWhile isBlank)
  refine head?_dropWhile_blank cs c ?_
  rw [← hrest]
  unfold trim at h
  rw [List.head?_append, h]
  rfl

theorem dropWhile_of_no_blanks {cs : List Char} (h : ∀ c ∈ cs, isBlank c = false) :
    cs.dropWhile isBlank = cs := by
  cases cs with
  | nil => rfl
  | cons c cs =>
    rw [List.dropWhile_cons_of_neg]
    rw [h c List.mem_cons_self]
    exact Bool.false_ne_true

theorem trimEnd_append {cs : List Char} (h : ∀ c ∈ cs, isBlank c = false) (rest : List Char) :
    trimEnd (cs ++ rest) = cs ++ trimEnd rest := by
  have hkept : cs.reverse.dropWhile isBlank = cs.reverse :=
    dropWhile_of_no_blanks fun c hc => h c (List.mem_reverse.mp hc)
  unfold trimEnd
  rw [List.reverse_append, List.dropWhile_append]
  split
  · rename_i hempty
    rw [hkept, List.reverse_reverse, List.isEmpty_iff.mp hempty]
    simp
  · rw [List.reverse_append, List.reverse_reverse]

/-- Trimming leaves a text without blanks where it is, and trims what stands behind it. -/
theorem trim_append {cs : List Char} (hne : cs ≠ []) (h : ∀ c ∈ cs, isBlank c = false)
    (rest : List Char) : trim (cs ++ rest) = cs ++ trimEnd rest := by
  obtain ⟨c, cs, rfl⟩ := List.exists_cons_of_ne_nil hne
  have hc : ¬ isBlank c = true := by
    rw [h c List.mem_cons_self]
    exact Bool.false_ne_true
  rw [trim, List.cons_append, List.dropWhile_cons_of_neg hc, ← List.cons_append]
  exact trimEnd_append h rest

/-- Text without blanks is left alone. -/
theorem trim_of_no_blanks {cs : List Char} (h : ∀ c ∈ cs, isBlank c = false) : trim cs = cs := by
  cases cs with
  | nil => rfl
  | cons c cs => simpa [trimEnd] using trim_append (List.cons_ne_nil c cs) h []

end PodSwap.Text
