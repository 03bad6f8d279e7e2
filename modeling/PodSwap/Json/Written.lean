import PodSwap.Json.Basic

/-!
# JSON values as they are written

A text can say what no value holds: a number beyond all floating-point numbers, an escape that names
half a character, two members under one key. Whether that matters is for the reader of a value to
decide, who may pass over a part of it without a look; so the written form keeps all members in
order, and gaps for what names nothing.

Main statements: the written form of items and members is that of each (`writtenItems_eq_map`,
`writtenMembers_eq_map`), and only `null` is written as `null` (`written_eq_null_iff`).
-/

namespace PodSwap.Json

/-- The deepest nesting of a value that is read. -/
def maxDepth : Nat := 127

/-- A value as a text writes it. -/
inductive Written where
  | null
  | bool (b : Bool)
  /-- A number, absent where it is too large. -/
  | num (n : Option Number)
  /-- A string, absent where it has half a character. -/
  | str (s : Option String)
  | arr (items : List Written)
  /-- The members in order, with keys that are absent as strings are. -/
  | obj (members : List (Option String × Written))
deriving Repr, Inhabited

namespace Written

/-- The text of a string. -/
def text? : Written → Option String
  | .str s => s
  | _ => none

mutual
/-- The value that is written, without gaps and with nesting at most so deep. Of several members
under one key the last counts. -/
def value? (depth : Nat) : Written → Option Json
  | .null => some .null
  | .bool b => some (.bool b)
  | .num n => n.map .num
  | .str s => s.map .str
  | .arr items => if depth = 0 then none else (values? (depth - 1) items).map .arr
  | .obj ms => if depth = 0 then none else (members? (depth - 1) ms).map object
termination_by structural w => w

/-- The values of items. -/
def values? (depth : Nat) : List Written → Option (List Json)
  | [] => some []
  | w :: ws => do
    let j ← value? depth w
    let js ← values? depth ws
    some (j :: js)
termination_by structural ws => ws

/-- The members with their values. -/
def members? (depth : Nat) : List (Option String × Written) → Option (List (String × Json))
  | [] => some []
  | m :: ms => do
    let e ← member? depth m
    let es ← members? depth ms
    some (e :: es)
termination_by structural ms => ms

/-- A member with its value. -/
def member? (depth : Nat) : Option String × Written → Option (String × Json)
  | (k, w) => do
    let s ← k
    let j ← value? depth w
    some (s, j)
termination_by structural m => m
end

end Written

/-! ## Writing -/

mutual
/-- The value as it is written. -/
def written : Json → Written
  | .null => .null
  | .bool b => .bool b
  | .num n => .num (some n)
  | .str s => .str (some s)
  | .arr items => .arr (writtenItems items)
  | .obj ms => .obj (writtenMembers ms)
termination_by structural j => j

/-- The items as they are written. -/
def writtenItems : List Json → List Written
  | [] => []
  | j :: js => written j :: writtenItems js
termination_by structural js => js

/-- The members as they are written. -/
def writtenMembers : List (String × Json) → List (Option String × Written)
  | [] => []
  | m :: ms => writtenMember m :: writtenMembers ms
termination_by structural ms => ms

/-- The member as it is written. -/
def writtenMember : String × Json → Option String × Written
  | (k, j) => (some k, written j)
termination_by structural m => m
end

theorem writtenItems_eq_map (js : List Json) : writtenItems js = js.map written := by
  induction js with
  | nil => rfl
  | cons j js ih => simp [writtenItems, ih]

theorem writtenMembers_eq_map (ms : List (String × Json)) :
    writtenMembers ms = ms.map fun m => (some m.1, m.2.written) := by
  induction ms with
  | nil => rfl
  | cons m ms ih =>
    obtain ⟨k, j⟩ := m
    simp [writtenMembers, writtenMember, ih]

/-- Only `null` is written as `null`. -/
theorem written_eq_null_iff {j : Json} : j.written = .null ↔ j = .null := by
  cases j <;> simp [written]

end PodSwap.Json
