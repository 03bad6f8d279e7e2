import PodSwap.Json.Printer
import PodSwap.Json.Reader
import PodSwap.Text.Split

/-!
# Values are told by their canonical text

Two values have the same canonical text only if they are the same value, provided that their keys
rise and that no number in them is a floating-point one. The text of a value is followed by other
text inside an array or an object, so what is proved is more: a text that begins with that of a
value, and does not go on with a digit, tells the value and what is behind it.

Main statement: `Plain.eq_of_canonical`.
-/

namespace PodSwap.Json

/-- Whether the keys of every object rise and no number is a floating-point one. -/
inductive Plain : Json → Prop where
  | null : Plain .null
  | bool (b : Bool) : Plain (.bool b)
  | int (n : Int) : Plain (.num (.int n))
  | str (s : String) : Plain (.str s)
  | arr {items : List Json} (h : ∀ j ∈ items, Plain j) : Plain (.arr items)
  | obj {ms : List (String × Json)} (hrising : Rising ms) (h : ∀ e ∈ ms, Plain e.2) :
    Plain (.obj ms)

/-- Whether no number can go on in a text. -/
def NoDigit (cs : List Char) : Prop := ∀ c, cs.head? = some c → c.isDigit = false

theorem noDigit_nil : NoDigit [] := fun _ h => by cases h

theorem noDigit_cons {c : Char} (h : c.isDigit = false) (cs : List Char) : NoDigit (c :: cs) := by
  intro d hd
  cases hd
  exact h

/-! ## Numbers -/

/-- A number in digits is told by them. -/
theorem toDigits_append_inj {m n : Nat} {xs ys : List Char} (hx : NoDigit xs) (hy : NoDigit ys)
    (h : Nat.toDigits 10 m ++ xs = Nat.toDigits 10 n ++ ys) : m = n ∧ xs = ys := by
  have htake : ∀ (k : Nat) {zs : List Char}, NoDigit zs →
      (Nat.toDigits 10 k ++ zs).takeWhile Char.isDigit = Nat.toDigits 10 k := fun k _ hz =>
    Text.takeWhile_append_of_stop
      (fun _ hc => Nat.isDigit_of_mem_toDigits (by decide) (by decide) hc) hz
  have hdigits := congrArg (List.takeWhile Char.isDigit) h
  rw [htake m hx, htake n hy] at hdigits
  have hvalue := congrArg (Nat.ofDigitChars 10 · 0) hdigits
  simp only [Nat.ofDigitChars_ten_toDigits] at hvalue
  rw [hdigits] at h
  exact ⟨hvalue, List.append_cancel_left h⟩

theorem toList_toString_of_nonneg {n : Int} (h : 0 ≤ n) :
    (toString n).toList = Nat.toDigits 10 n.toNat := by
  rw [Int.toString_eq_repr, Int.repr_eq_if, if_pos h, Nat.toList_repr]

theorem toList_toString_of_neg {n : Int} (h : n < 0) :
    (toString n).toList = '-' :: Nat.toDigits 10 (-n).toNat := by
  rw [Int.toString_eq_repr, Int.repr_eq_if, if_neg (by omega), String.toList_append,
    Nat.toList_repr]
  rfl

theorem toDigits_eq_cons (n : Nat) : ∃ c cs, Nat.toDigits 10 n = c :: cs ∧ c.isDigit = true := by
  cases h : Nat.toDigits 10 n with
  | nil => exact absurd h Nat.toDigits_ne_nil
  | cons c cs =>
    refine ⟨c, cs, rfl, Nat.isDigit_of_mem_toDigits (b := 10) (n := n) (by decide) (by decide) ?_⟩
    rw [h]
    exact List.mem_cons_self

/-- An integer is told by its text. -/
theorem toString_append_inj {m n : Int} {xs ys : List Char} (hx : NoDigit xs) (hy : NoDigit ys)
    (h : (toString m).toList ++ xs = (toString n).toList ++ ys) : m = n ∧ xs = ys := by
  have hsign : ∀ (k l : Nat) {zs zs' : List Char},
      Nat.toDigits 10 k ++ zs ≠ '-' :: Nat.toDigits 10 l ++ zs' := by
    intro k l zs zs' heq
    obtain ⟨c, cs, hc, hdigit⟩ := toDigits_eq_cons k
    rw [hc] at heq
    rw [(List.cons.inj heq).1] at hdigit
    exact absurd hdigit (by decide)
  rcases Int.lt_or_le m 0 with hm | hm <;> rcases Int.lt_or_le n 0 with hn | hn
  · rw [toList_toString_of_neg hm, toList_toString_of_neg hn] at h
    obtain ⟨hmn, hxy⟩ := toDigits_append_inj hx hy (List.cons.inj h).2
    exact ⟨by omega, hxy⟩
  · rw [toList_toString_of_neg hm, toList_toString_of_nonneg hn] at h
    exact absurd h.symm (hsign _ _)
  · rw [toList_toString_of_nonneg hm, toList_toString_of_neg hn] at h
    exact absurd h (hsign _ _)
  · rw [toList_toString_of_nonneg hm, toList_toString_of_nonneg hn] at h
    obtain ⟨hmn, hxy⟩ := toDigits_append_inj hx hy h
    exact ⟨by omega, hxy⟩

/-! ## Strings -/

/-- One character of a string, as it may be escaped, and what is behind it. -/
def unescape? : List Char → Option (Option Char × List Char)
  | [] => none
  | c :: cs =>
    if c ≠ '\\' then some (some c, cs)
    else
      match cs with
      | [] => none
      | d :: ds =>
        if d = 'u' then takeNumbered ds else (simpleEscape? d).map fun e => (some e, ds)

/-- A control is told by its number. -/
theorem takeNumbered_control {n : Nat} (hn : n < 32) (cs : List Char) :
    takeNumbered ('0' :: '0' :: Text.hexDigit (n / 16) :: Text.hexDigit n :: cs) =
      some (some (Char.ofNat n), cs) := by
  have hzero : Text.hexValue? '0' = some 0 := by decide
  have hvalue : ((0 * 16 + 0) * 16 + n / 16 % 16) * 16 + n % 16 = n := by omega
  have hhex : takeHex ('0' :: '0' :: Text.hexDigit (n / 16) :: Text.hexDigit n :: cs) =
      some (n, cs) := by
    simp only [takeHex, hzero, Text.hexValue?_hexDigit, Option.bind_eq_bind, Option.bind_some,
      hvalue]
  rw [takeNumbered, hhex]
  simp only [Option.bind_eq_bind, Option.bind_some]
  rw [if_neg (by omega), if_neg (by omega)]

/-- A character is told by how it is written in a string. -/
theorem unescape?_escapeChar (c : Char) (cs : List Char) :
    unescape? (escapeChar c ++ cs) = some (some c, cs) := by
  unfold escapeChar
  -- the characters that have an escape of their own
  iterate 7
    split
    · subst_vars
      rfl
  split
  · rename_i hcontrol
    show takeNumbered
      ('0' :: '0' :: Text.hexDigit (c.toNat / 16) :: Text.hexDigit c.toNat :: cs) = _
    rw [takeNumbered_control hcontrol, Char.ofNat_toNat]
  · rename_i hbackslash _ _ _ _ _ _
    show (if c ≠ '\\' then some (some c, cs) else _) = _
    rw [if_pos hbackslash]

theorem escapeChar_append_inj {c d : Char} {xs ys : List Char}
    (h : escapeChar c ++ xs = escapeChar d ++ ys) : c = d ∧ xs = ys := by
  have hread := congrArg unescape? h
  rw [unescape?_escapeChar, unescape?_escapeChar] at hread
  simp only [Option.some.injEq, Prod.mk.injEq] at hread
  exact hread

/-- No character is written in a string as the quote that ends it. -/
theorem escapeChar_ne_quote (c : Char) (xs ys : List Char) : escapeChar c ++ xs ≠ '"' :: ys := by
  unfold escapeChar
  iterate 8
    split
    · simp
  · rename_i hquote _ _ _ _ _ _ _
    simp [hquote]

/-- A string is told by its text. -/
theorem stringChars_append_inj {s t : String} {xs ys : List Char}
    (h : stringChars s ++ xs = stringChars t ++ ys) : s = t ∧ xs = ys := by
  have hinj : ∀ as bs : List Char, as.flatMap escapeChar ++ '"' :: xs =
      bs.flatMap escapeChar ++ '"' :: ys → as = bs ∧ xs = ys := by
    intro as
    induction as with
    | nil =>
      intro bs heq
      cases bs with
      | nil => exact ⟨rfl, (List.cons.inj heq).2⟩
      | cons b bs =>
        rw [List.flatMap_cons, List.append_assoc] at heq
        exact absurd heq.symm (escapeChar_ne_quote b _ _)
    | cons a as ih =>
      intro bs heq
      cases bs with
      | nil =>
        rw [List.flatMap_cons, List.append_assoc] at heq
        exact absurd heq (escapeChar_ne_quote a _ _)
      | cons b bs =>
        rw [List.flatMap_cons, List.flatMap_cons, List.append_assoc, List.append_assoc] at heq
        obtain ⟨rfl, hrest⟩ := escapeChar_append_inj heq
        obtain ⟨rfl, hxy⟩ := ih bs hrest
        exact ⟨rfl, hxy⟩
  simp only [stringChars, List.cons_append, List.append_assoc, List.nil_append, List.cons.injEq,
    true_and] at h
  obtain ⟨hst, hxy⟩ := hinj _ _ h
  exact ⟨String.toList_inj.mp hst, hxy⟩

/-! ## Lists of texts -/

theorem commaSeparated_cons (t : List Char) (ts : List (List Char)) :
    commaSeparated (t :: ts) = t ++ ts.flatMap (',' :: ·) := by
  induction ts generalizing t with
  | nil => simp [commaSeparated]
  | cons u us ih => rw [commaSeparated, ih, List.flatMap_cons, List.cons_append]; simp

section

variable {α : Type} {text : α → List Char} {P : α → Prop} {close : Char}

/-- Behind a text comes a comma or what closes the list. -/
theorem noDigit_behind (hclose : close.isDigit = false) (as : List α) (xs : List Char) :
    NoDigit (as.flatMap (fun a => ',' :: text a) ++ close :: xs) := by
  cases as with
  | nil => exact noDigit_cons hclose xs
  | cons a as => exact noDigit_cons (by decide) _

/-- Whether an element is told by its text, whatever comes behind that. -/
def Tells (text : α → List Char) (P : α → Prop) (a : α) : Prop :=
  ∀ b xs ys, P b → NoDigit xs → NoDigit ys → text a ++ xs = text b ++ ys → a = b ∧ xs = ys

theorem behind_append_inj (hclose : close.isDigit = false) (hcomma : close ≠ ',') {as bs : List α}
    (has : ∀ a ∈ as, Tells text P a) (hbs : ∀ b ∈ bs, P b) {xs ys : List Char}
    (h : as.flatMap (fun a => ',' :: text a) ++ close :: xs =
      bs.flatMap (fun b => ',' :: text b) ++ close :: ys) : as = bs ∧ xs = ys := by
  induction as generalizing bs with
  | nil =>
    cases bs with
    | nil => exact ⟨rfl, (List.cons.inj h).2⟩
    | cons b bs => exact absurd (List.cons.inj h).1 hcomma
  | cons a as ih =>
    cases bs with
    | nil => exact absurd (List.cons.inj h).1.symm hcomma
    | cons b bs =>
      simp only [List.flatMap_cons, List.cons_append, List.append_assoc, List.cons.injEq,
        true_and] at h
      obtain ⟨rfl, hrest⟩ := has a List.mem_cons_self b _ _ (hbs b List.mem_cons_self)
        (noDigit_behind hclose as xs) (noDigit_behind hclose bs ys) h
      obtain ⟨rfl, hxy⟩ := ih (fun a ha => has a (List.mem_cons_of_mem _ ha))
        (fun b hb => hbs b (List.mem_cons_of_mem _ hb)) hrest
      exact ⟨rfl, hxy⟩

/-- Elements that are told by their texts are told in a list, if no text begins as the list is
closed. -/
theorem commaSeparated_append_inj (hclose : close.isDigit = false) (hcomma : close ≠ ',')
    (hbegin : ∀ a xs ys, P a → text a ++ xs ≠ close :: ys) {as bs : List α}
    (has : ∀ a ∈ as, P a ∧ Tells text P a) (hbs : ∀ b ∈ bs, P b) {xs ys : List Char}
    (h : commaSeparated (as.map text) ++ close :: xs =
      commaSeparated (bs.map text) ++ close :: ys) : as = bs ∧ xs = ys := by
  cases as with
  | nil =>
    cases bs with
    | nil => exact ⟨rfl, (List.cons.inj h).2⟩
    | cons b bs =>
      rw [List.map_cons, commaSeparated_cons, List.append_assoc] at h
      exact absurd h.symm (hbegin b _ _ (hbs b List.mem_cons_self))
  | cons a as =>
    cases bs with
    | nil =>
      rw [List.map_cons, commaSeparated_cons, List.append_assoc] at h
      exact absurd h (hbegin a _ _ (has a List.mem_cons_self).1)
    | cons b bs =>
      simp only [List.map_cons, commaSeparated_cons, List.append_assoc, List.flatMap_map] at h
      obtain ⟨rfl, hrest⟩ := (has a List.mem_cons_self).2 b _ _ (hbs b List.mem_cons_self)
        (noDigit_behind hclose as xs) (noDigit_behind hclose bs ys) h
      obtain ⟨rfl, hxy⟩ := behind_append_inj hclose hcomma
        (fun a ha => (has a (List.mem_cons_of_mem _ ha)).2)
        (fun b hb => hbs b (List.mem_cons_of_mem _ hb)) hrest
      exact ⟨rfl, hxy⟩

end

/-! ## Values -/

theorem charsItems_eq_map (js : List Json) : charsItems js = js.map chars := by
  induction js with
  | nil => rfl
  | cons j js ih => rw [charsItems, ih, List.map_cons]

theorem charsMembers_eq_map (ms : List (String × Json)) :
    charsMembers ms = ms.map fun e => (e.1, e.2.chars) := by
  induction ms with
  | nil => rfl
  | cons m ms ih => rw [charsMembers, ih, List.map_cons, charsMember]

/-- The text of a member. -/
def memberChars (e : String × Json) : List Char := stringChars e.1 ++ ':' :: e.2.chars

theorem chars_arr (items : List Json) :
    chars (.arr items) = '[' :: (commaSeparated (items.map chars) ++ [']']) := by
  rw [chars, charsItems_eq_map]

/-- Members by rising key are written in order. -/
theorem chars_obj {ms : List (String × Json)} (h : Rising ms) :
    chars (.obj ms) = '{' :: (commaSeparated (ms.map memberChars) ++ ['}']) := by
  have hrising : Rising (ms.map fun e => (e.1, e.2.chars)) := List.pairwise_map.mpr h
  have hsorted : Entries.ofList (ms.map fun e => (e.1, e.2.chars)) =
      ms.map fun e => (e.1, e.2.chars) :=
    Entries.eq_of_get? (Entries.rising_ofList _) hrising fun k => by
      rw [Entries.get?_ofList, Entries.get?_reverse hrising]
  rw [chars, charsMembers_eq_map, hsorted, List.map_map]
  rfl

/-- What the first character of a text tells of the value: itself, but that all numbers begin alike,
and both truth values. -/
def opening (c : Char) : Char :=
  if c.isDigit = true ∨ c = '-' then '0' else if c = 't' ∨ c = 'f' then 'b' else c

/-- What the first character of its text tells of a value. -/
def initial : Json → Char
  | .null => 'n'
  | .bool _ => 'b'
  | .num _ => '0'
  | .str _ => '"'
  | .arr _ => '['
  | .obj _ => '{'

theorem Plain.chars_eq_cons {j : Json} (h : Plain j) :
    ∃ c cs, chars j = c :: cs ∧ opening c = initial j := by
  cases h with
  | null => exact ⟨_, _, rfl, rfl⟩
  | bool b => cases b <;> exact ⟨_, _, rfl, rfl⟩
  | int n =>
    show ∃ c cs, (toString n).toList = c :: cs ∧ opening c = '0'
    rcases Int.lt_or_le n 0 with hn | hn
    · exact ⟨_, _, toList_toString_of_neg hn, rfl⟩
    · obtain ⟨c, cs, hc, hdigit⟩ := toDigits_eq_cons n.toNat
      exact ⟨c, cs, (toList_toString_of_nonneg hn).trans hc, if_pos (.inl hdigit)⟩
  | str s => exact ⟨_, _, rfl, rfl⟩
  | arr _ => exact ⟨_, _, rfl, rfl⟩
  | obj _ _ => exact ⟨_, _, rfl, rfl⟩

/-- Values of different kinds have texts that begin differently. -/
theorem Plain.initial_eq {a b : Json} (ha : Plain a) (hb : Plain b) {xs ys : List Char}
    (h : chars a ++ xs = chars b ++ ys) : initial a = initial b := by
  obtain ⟨c, cs, hc, hinitial⟩ := ha.chars_eq_cons
  obtain ⟨d, ds, hd, hinitial'⟩ := hb.chars_eq_cons
  rw [hc, hd] at h
  rw [← hinitial, ← hinitial', (List.cons.inj h).1]

/-- No text of a value begins as an array is closed. -/
theorem Plain.ne_close {a : Json} (ha : Plain a) (xs ys : List Char) :
    chars a ++ xs ≠ ']' :: ys := by
  obtain ⟨c, cs, hc, hinitial⟩ := ha.chars_eq_cons
  rw [hc]
  intro h
  rw [(List.cons.inj h).1, show opening ']' = ']' from rfl] at hinitial
  cases a <;> simp [initial] at hinitial

/-- A member is told by its text, if its value is. -/
theorem tells_memberChars {e : String × Json} (h : Tells chars Plain e.2) :
    Tells memberChars (fun e => Plain e.2) e := by
  intro e' xs ys he' hx hy heq
  rw [memberChars, memberChars, List.append_assoc, List.append_assoc] at heq
  obtain ⟨hkey, hrest⟩ := stringChars_append_inj heq
  obtain ⟨hvalue, hxy⟩ := h e'.2 xs ys he' hx hy (List.cons.inj hrest).2
  exact ⟨Prod.ext hkey hvalue, hxy⟩

/-- A value is told by its text. -/
theorem Plain.tells {a : Json} (ha : Plain a) : Tells chars Plain a := by
  -- over what the first value is made of; the second is of the same kind, by its first character
  induction ha with
  | null =>
    intro b xs ys hb _ _ h
    have hinitial := Plain.null.initial_eq hb h
    cases hb with
    | null => exact ⟨rfl, List.append_cancel_left h⟩
    | _ => simp [initial] at hinitial
  | bool b =>
    intro b' xs ys hb _ _ h
    have hinitial := (Plain.bool b).initial_eq hb h
    cases hb with
    | bool b' =>
      cases b <;> cases b'
      · exact ⟨rfl, List.append_cancel_left h⟩
      · exact absurd (List.cons.inj h).1 (by decide)
      · exact absurd (List.cons.inj h).1 (by decide)
      · exact ⟨rfl, List.append_cancel_left h⟩
    | _ => simp [initial] at hinitial
  | int n =>
    intro b xs ys hb hx hy h
    have hinitial := (Plain.int n).initial_eq hb h
    cases hb with
    | int m =>
      obtain ⟨rfl, hxy⟩ := toString_append_inj hx hy h
      exact ⟨rfl, hxy⟩
    | _ => simp [initial] at hinitial
  | str s =>
    intro b xs ys hb _ _ h
    have hinitial := (Plain.str s).initial_eq hb h
    cases hb with
    | str t =>
      obtain ⟨rfl, hxy⟩ := stringChars_append_inj h
      exact ⟨rfl, hxy⟩
    | _ => simp [initial] at hinitial
  | arr hitems ih =>
    intro b xs ys hb _ _ h
    have hinitial := (Plain.arr hitems).initial_eq hb h
    cases hb with
    | arr hitems' =>
      simp only [chars_arr, List.cons_append, List.append_assoc, List.nil_append, List.cons.injEq,
        true_and] at h
      obtain ⟨rfl, hxy⟩ := commaSeparated_append_inj (by decide) (by decide)
        (fun a xs ys ha => Plain.ne_close ha xs ys) (fun j hj => ⟨hitems j hj, ih j hj⟩) hitems' h
      exact ⟨rfl, hxy⟩
    | _ => simp [initial] at hinitial
  | obj hrising hms ih =>
    intro b xs ys hb _ _ h
    have hinitial := (Plain.obj hrising hms).initial_eq hb h
    cases hb with
    | obj hrising' hms' =>
      simp only [chars_obj hrising, chars_obj hrising', List.cons_append, List.append_assoc,
        List.nil_append, List.cons.injEq, true_and] at h
      obtain ⟨rfl, hxy⟩ := commaSeparated_append_inj (by decide) (by decide)
        (fun a xs ys _ heq => absurd (List.cons.inj heq).1 (by decide))
        (fun e he => ⟨hms e he, tells_memberChars (ih e he)⟩) hms' h
      exact ⟨rfl, hxy⟩
    | _ => simp [initial] at hinitial

/-- A value is told by its canonical text. -/
theorem Plain.eq_of_canonical {a b : Json} (ha : Plain a) (hb : Plain b)
    (h : a.canonical = b.canonical) : a = b := by
  refine (ha.tells b [] [] hb noDigit_nil noDigit_nil ?_).1
  rw [List.append_nil, List.append_nil]
  exact String.ofList_inj.mp h

end PodSwap.Json
