import PodSwap.Json.Basic
import PodSwap.Text.Split

/-!
# Pointers into values

A pointer is empty or a sequence of steps, each behind a slash. In a step `~1` stands for a slash
and `~0` for a tilde. A step into an object is a key; a step into an array is an index without
leading zeros.

Main statement: reading the written form of any steps gives them back (`ofText?_text`).
-/

namespace PodSwap.Json.Pointer

/-- A step with its escapes resolved; a tilde in front of anything else is refused. -/
def unescape : List Char → Option (List Char)
  | [] => some []
  | '~' :: '0' :: cs => (unescape cs).map ('~' :: ·)
  | '~' :: '1' :: cs => (unescape cs).map ('/' :: ·)
  | c :: cs => if c = '~' then none else (unescape cs).map (c :: ·)

/-- A step with its tildes and slashes escaped. -/
def escape : List Char → List Char
  | [] => []
  | c :: cs =>
    if c = '~' then '~' :: '0' :: escape cs
    else if c = '/' then '~' :: '1' :: escape cs
    else c :: escape cs

/-- The steps of a pointer. -/
def ofText? (s : String) : Option (List String) :=
  match s.toList with
  | [] => some []
  | c :: cs =>
    if c = '/' then (Text.splitOn '/' cs).mapM fun step => (unescape step).map String.ofList
    else none

/-- The pointer of some steps. -/
def text (steps : List String) : String :=
  String.ofList (steps.flatMap fun s => '/' :: escape s.toList)

/-- The index that a step into an array names. -/
def index? (step : String) : Option Nat :=
  match step.toList with
  | [] => none
  | ['0'] => some 0
  | c :: cs =>
    if c ≠ '0' ∧ (c :: cs).all Char.isDigit then
      some (Nat.ofDigitChars 10 (c :: cs) 0)
    else none

/-! ## Reading what was written -/

theorem unescape_escape (cs : List Char) : unescape (escape cs) = some cs := by
  induction cs with
  | nil => rfl
  | cons c cs ih =>
    by_cases ht : c = '~'
    · subst ht
      simp [escape, unescape, ih]
    · by_cases hs : c = '/'
      · subst hs
        simp [escape, unescape, ih]
      · simp [escape, ht, hs, unescape, ih]

theorem slash_not_mem_escape (cs : List Char) : '/' ∉ escape cs := by
  induction cs with
  | nil => simp [escape]
  | cons c cs ih =>
    by_cases ht : c = '~'
    · simp [escape, ht, ih]
    · by_cases hs : c = '/'
      · simp [escape, hs, ih]
      · simp [escape, ht, hs, ih, Ne.symm hs]

theorem splitOn_text (s : String) (steps : List String) :
    Text.splitOn '/' (escape s.toList ++ steps.flatMap fun s => '/' :: escape s.toList) =
      escape s.toList :: steps.map fun s => escape s.toList := by
  induction steps generalizing s with
  | nil => simpa using Text.splitOn_of_not_mem (slash_not_mem_escape s.toList)
  | cons t ts ih =>
    rw [List.flatMap_cons, List.cons_append, Text.splitOn_append_sep,
      Text.splitOn_of_not_mem (slash_not_mem_escape s.toList), ih t]
    rfl

/-- Reading the pointer of some steps gives the steps. -/
theorem ofText?_text (steps : List String) : ofText? (text steps) = some steps := by
  cases steps with
  | nil => rfl
  | cons s ss =>
    have hall : ∀ l : List String,
        (l.map fun s => escape s.toList).mapM
          (fun step => (unescape step).map String.ofList) = some l := by
      intro l
      induction l with
      | nil => rfl
      | cons a l ih => simp [unescape_escape, ih]
    have hlist : (text (s :: ss)).toList =
        '/' :: (escape s.toList ++ ss.flatMap fun s => '/' :: escape s.toList) := by
      simp [text]
    unfold ofText?
    rw [hlist]
    simp only [if_true]
    rw [splitOn_text]
    simpa using hall (s :: ss)

end PodSwap.Json.Pointer
