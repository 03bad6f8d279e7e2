/-!
# Lengths in bytes

How many bytes a text takes, the longest beginning of it that fits a number of bytes, and the places
between its bytes at which it can be cut: where no character is torn apart.

Main statements: the bytes of a text are those of its characters (`utf8Length_toList`), a cut text
is no longer than it may be (`utf8Length_takeBytes_le`) and is the longest beginning of the whole
that is not (`takeBytes_isPrefix`, `isPrefix_takeBytes`), and the last place to cut a text within a
number of bytes is behind that beginning (`boundary?_eq`).
-/

namespace PodSwap.Text

/-- The number of bytes of a text. -/
def utf8Length : List Char → Nat
  | [] => 0
  | c :: cs => c.utf8Size + utf8Length cs

/-- The longest beginning of a text that has at most so many bytes. -/
def takeBytes (n : Nat) : List Char → List Char
  | [] => []
  | c :: cs => if c.utf8Size ≤ n then c :: takeBytes (n - c.utf8Size) cs else []

/-- Whether a text can be cut behind `n` bytes: a character begins there, or the text ends. -/
def isBoundary (cs : List Char) (n : Nat) : Bool := String.Pos.Raw.isValid (String.ofList cs) ⟨n⟩

/-- The last place to cut a text at, looked for from `n` bytes backwards; absent if its beginning
were passed. -/
def boundary? (cs : List Char) (n : Nat) : Option Nat :=
  if isBoundary cs n then some n
  else
    match n with
    | 0 => none
    | n + 1 => boundary? cs n

/-- The first `n` bytes of a text; absent where they end inside a character or behind the text. -/
def slice? (cs : List Char) (n : Nat) : Option (List Char) :=
  if h : isBoundary cs n then
    some ((String.ofList cs).sliceTo ⟨⟨n⟩, String.Pos.Raw.isValid_eq_true_iff.mp h⟩).copy.toList
  else none

theorem utf8Length_cons (c : Char) (cs : List Char) :
    utf8Length (c :: cs) = c.utf8Size + utf8Length cs := by
  rfl

theorem utf8Length_append (xs ys : List Char) :
    utf8Length (xs ++ ys) = utf8Length xs + utf8Length ys := by
  induction xs with
  | nil => simp [utf8Length]
  | cons c cs ih => simp [utf8Length, ih, Nat.add_assoc]

theorem utf8Length_ofList (cs : List Char) : utf8Length cs = (String.ofList cs).utf8ByteSize := by
  induction cs with
  | nil => simp [utf8Length]
  | cons c cs ih =>
    have hsplit : String.ofList (c :: cs) = String.ofList [c] ++ String.ofList cs := by
      rw [← String.ofList_append]
      rfl
    rw [hsplit, String.utf8ByteSize_append, ← ih, ← String.singleton_eq_ofList,
      String.utf8ByteSize_singleton, utf8Length]

/-- The length of a text in bytes is that of its characters. -/
theorem utf8Length_toList (s : String) : utf8Length s.toList = s.utf8ByteSize := by
  rw [utf8Length_ofList, String.ofList_toList]

theorem utf8Length_takeBytes_le (n : Nat) (cs : List Char) : utf8Length (takeBytes n cs) ≤ n := by
  induction cs generalizing n with
  | nil => simp [takeBytes, utf8Length]
  | cons c cs ih =>
    unfold takeBytes
    split
    · rename_i h
      have := ih (n - c.utf8Size)
      simp only [utf8Length] at this ⊢
      omega
    · simp [utf8Length]

/-- A cut text is a beginning of the whole. -/
theorem takeBytes_isPrefix (n : Nat) (cs : List Char) : takeBytes n cs <+: cs := by
  induction cs generalizing n with
  | nil => exact List.nil_prefix
  | cons c cs ih =>
    unfold takeBytes
    split
    · exact List.cons_prefix_cons.mpr ⟨rfl, ih _⟩
    · exact List.nil_prefix

theorem utf8Length_of_ascii {cs : List Char} (h : ∀ c ∈ cs, c.utf8Size = 1) :
    utf8Length cs = cs.length := by
  induction cs with
  | nil => rfl
  | cons c cs ih =>
    have hc := h c List.mem_cons_self
    have := ih fun d hd => h d (List.mem_cons_of_mem _ hd)
    simp only [utf8Length, List.length_cons] at this ⊢
    omega

/-- A text of one-byte characters is cut behind as many of them. -/
theorem takeBytes_of_ascii {cs : List Char} (h : ∀ c ∈ cs, c.utf8Size = 1) (n : Nat) :
    takeBytes n cs = cs.take n := by
  induction cs generalizing n with
  | nil => rw [takeBytes, List.take_nil]
  | cons c cs ih =>
    rw [takeBytes, h c List.mem_cons_self]
    cases n with
    | zero => rfl
    | succ n =>
      rw [if_pos (Nat.le_add_left 1 n), Nat.add_sub_cancel, List.take_succ_cons,
        ih (fun d hd => h d (List.mem_cons_of_mem c hd))]

/-! ## Places to cut -/

/-- No beginning of a text within so many bytes is longer than the one that is taken. -/
theorem isPrefix_takeBytes {front cs : List Char} {n : Nat} (h : front <+: cs)
    (hn : utf8Length front ≤ n) : front <+: takeBytes n cs := by
  induction cs generalizing front n with
  | nil => exact h
  | cons c cs ih =>
    cases front with
    | nil => exact List.nil_prefix
    | cons d front =>
      obtain ⟨rfl, hfront⟩ := List.cons_prefix_cons.mp h
      rw [utf8Length_cons] at hn
      rw [takeBytes, if_pos (Nat.le_trans (Nat.le_add_right _ _) hn)]
      exact List.cons_prefix_cons.mpr ⟨rfl, ih hfront (Nat.le_sub_of_add_le' hn)⟩

/-- A text can be cut behind the bytes of a beginning. -/
theorem isBoundary_iff_isPrefix {cs : List Char} {n : Nat} :
    isBoundary cs n = true ↔ ∃ front, front <+: cs ∧ utf8Length front = n := by
  rw [isBoundary, String.Pos.Raw.isValid_eq_true_iff, String.Pos.Raw.isValid_ofList]
  constructor
  · rintro ⟨i, hi⟩
    exact ⟨cs.take i, List.take_prefix i cs, (utf8Length_ofList _).trans hi.symm⟩
  · rintro ⟨front, hfront, rfl⟩
    refine ⟨front.length, ?_⟩
    rw [← List.prefix_iff_eq_take.mp hfront]
    exact utf8Length_ofList front

theorem utf8Length_le_of_isPrefix {xs ys : List Char} (h : xs <+: ys) :
    utf8Length xs ≤ utf8Length ys := by
  obtain ⟨zs, rfl⟩ := h
  rw [utf8Length_append]
  exact Nat.le_add_right _ _

/-- A text can be cut behind so many bytes if the beginning within them has as many. -/
theorem isBoundary_iff {cs : List Char} {n : Nat} :
    isBoundary cs n = true ↔ utf8Length (takeBytes n cs) = n := by
  rw [isBoundary_iff_isPrefix]
  constructor
  · rintro ⟨front, hfront, rfl⟩
    exact Nat.le_antisymm (utf8Length_takeBytes_le _ cs)
      (utf8Length_le_of_isPrefix (isPrefix_takeBytes hfront (Nat.le_refl _)))
  · exact fun h => ⟨_, takeBytes_isPrefix n cs, h⟩

theorem takeBytes_zero (cs : List Char) : takeBytes 0 cs = [] := by
  cases cs with
  | nil => rfl
  | cons c cs => exact if_neg (Nat.not_le.mpr c.utf8Size_pos)

theorem takeBytes_succ_of_not_isBoundary {cs : List Char} {n : Nat}
    (h : ¬ isBoundary cs (n + 1) = true) : takeBytes (n + 1) cs = takeBytes n cs := by
  have hlt : utf8Length (takeBytes (n + 1) cs) ≤ n :=
    Nat.le_of_lt_succ (Nat.lt_of_le_of_ne (utf8Length_takeBytes_le _ cs) (mt isBoundary_iff.mpr h))
  have hle : utf8Length (takeBytes n cs) ≤ n + 1 := Nat.le_succ_of_le (utf8Length_takeBytes_le n cs)
  have hforth := isPrefix_takeBytes (takeBytes_isPrefix (n + 1) cs) hlt
  have hback := isPrefix_takeBytes (takeBytes_isPrefix n cs) hle
  exact hforth.eq_of_length (Nat.le_antisymm hforth.length_le hback.length_le)

/-- The place that is found is behind the longest beginning within the bytes. There always is one,
since a text can be cut before its first character. -/
theorem boundary?_eq (cs : List Char) (n : Nat) :
    boundary? cs n = some (utf8Length (takeBytes n cs)) := by
  induction n with
  | zero =>
    have hzero : isBoundary cs 0 = true := isBoundary_iff.mpr (by rw [takeBytes_zero]; rfl)
    rw [boundary?, if_pos hzero, takeBytes_zero]
    rfl
  | succ n ih =>
    rw [boundary?]
    split
    · rename_i h
      rw [isBoundary_iff.mp h]
    · rename_i h
      rw [takeBytes_succ_of_not_isBoundary h]
      exact ih

/-- What is sliced off behind the bytes of a beginning is the beginning. -/
theorem slice?_of_isPrefix {front cs : List Char} (h : front <+: cs) :
    slice? cs (utf8Length front) = some front := by
  have hboundary : isBoundary cs (utf8Length front) = true :=
    isBoundary_iff_isPrefix.mpr ⟨front, h, rfl⟩
  obtain ⟨rest, rfl⟩ := h
  have hsplits : String.Pos.Splits (s := String.ofList (front ++ rest))
      ⟨⟨utf8Length front⟩, String.Pos.Raw.isValid_eq_true_iff.mp hboundary⟩ (String.ofList front)
      (String.ofList rest) :=
    ⟨String.ofList_append, congrArg String.Pos.Raw.mk (utf8Length_ofList front)⟩
  rw [slice?, dif_pos hboundary, (String.Pos.splits _).eq_left hsplits, String.toList_ofList]

end PodSwap.Text
