import PodSwap.Json.Written

/-!
# Documents

A document is a tree that a user wrote, in one notation or another. What a record reads from it is
said once here, over the few questions that every notation answers: the text of a leaf, the items of
a list, the pairs of a table and the fields of a record.

In some notations a reference may stand in place of a tree. It is followed when the tree is read,
and a document says how many may be followed in all, so that a short one cannot stand for an
enormous tree.
-/

namespace PodSwap

/-- What reading a part of a document comes to: a problem, or a value. It carries along how many
references may still be followed. -/
abbrev Following := StateT Nat (Except String)

/-- The questions that a tree of some notation answers. All but the first two are asked of trees
that are no references. -/
class Document (δ : Type) where
  /-- The tree itself, or the one that it refers to. -/
  follow : δ → Following δ := pure
  /-- How many references may be followed in reading the tree. -/
  followLimit : δ → Nat := fun _ => 0
  /-- The text of a leaf. -/
  text? : δ → Option String
  /-- Whether the tree stands for nothing where a value is optional, if it makes sense there. -/
  isAbsent? : δ → Option Bool
  /-- The items of a list. -/
  items? : δ → Option (List δ)
  /-- The pairs of a table in the order they were written. -/
  pairs? : δ → Option (List (δ × δ))
  /-- The pairs of a record that may have fields with the given names. -/
  fields? : List String → δ → Option (List (δ × δ)) := fun _ => pairs?
  /-- The choice among alternatives that carry nothing. -/
  choice? : δ → Option String
  /-- The tree as a value whose shape is free. -/
  value : δ → Following Json

namespace Document

variable {δ : Type} [Document δ] {α : Type}

/-- Counts a reference that is followed. -/
def countReference : Following Unit := do
  match ← get with
  | n + 1 => set n
  | 0 => throw "too many references"

/-- The text of a leaf. -/
def text (d : δ) : Following String := do
  match text? (← follow d) with
  | some s => return s
  | none => throw "expected text"

/-- One of some alternatives. -/
def choice (f : String → Option α) (d : δ) : Following α := do
  match choice? (← follow d) with
  | some s =>
    match f s with
    | some a => return a
    | none => throw s!"unknown alternative {s}"
  | none => throw "expected the name of an alternative"

/-- A list of values. -/
def list (f : δ → Following α) (d : δ) : Following (List α) := do
  match items? (← follow d) with
  | some ds => ds.mapM f
  | none => throw "expected a list"

/-- Pairs with the texts of their keys. -/
def keyed (ps : List (δ × δ)) : Following (List (String × δ)) :=
  ps.mapM fun p => do return (← text p.1, p.2)

/-- A table of values, where a later entry replaces an earlier one. -/
def table (f : δ → Following α) (d : δ) : Following (SortedMap α) := do
  match pairs? (← follow d) with
  | some ps => do
    let es ← keyed ps
    let es ← es.mapM fun e => do return (e.1, ← f e.2)
    return .ofList es
  | none => throw "expected a table"

/-- The fields of a record. What has another name is passed over, and no name may occur twice. -/
def record (names : List String) (d : δ) : Following (List (String × δ)) := do
  match fields? names (← follow d) with
  | some ps => do
    let fs := (← keyed ps).filter fun e => names.contains e.1
    if (fs.map (·.1)).Nodup then return fs else throw "a field occurs twice"
  | none => throw "expected a record"

/-- A field that may be missing or stand for nothing. -/
def optional (fs : List (String × δ)) (name : String) (f : δ → Following α) :
    Following (Option α) := do
  match Entries.get? name fs with
  | none => return none
  | some d =>
    let d ← follow d
    match isAbsent? d with
    | some true => return none
    | some false => return some (← f d)
    | none => throw "expected nothing or a value"

/-- A field that may be missing. -/
def defaulted (fs : List (String × δ)) (name : String) (default : α) (f : δ → Following α) :
    Following α :=
  match Entries.get? name fs with
  | none => return default
  | some d => f d

/-- A field that has to be there. -/
def required (fs : List (String × δ)) (name : String) (f : δ → Following α) : Following α :=
  match Entries.get? name fs with
  | none => throw s!"missing field {name}"
  | some d => f d

/-- What reading a whole document comes to. -/
def run (f : δ → Following α) (d : δ) : Except String α := (f d).run' (followLimit d)

end Document

/-- In JSON only `null` stands for nothing, a record may also be written as the list of its fields
in order, and a choice as an object that has nothing under it. -/
instance : Document Json.Written where
  text? := Json.Written.text?
  isAbsent?
    | .null => some true
    | _ => some false
  items?
    | .arr ws => some ws
    | _ => none
  pairs?
    | .obj ms => some (ms.map fun m => (.str m.1, m.2))
    | _ => none
  fields? names
    | .obj ms => some (ms.map fun m => (.str m.1, m.2))
    | .arr ws =>
      if ws.length ≤ names.length then some ((names.map fun n => .str (some n)).zip ws) else none
    | _ => none
  choice?
    | .str s => s
    | .obj [(k, .null)] => k
    | _ => none
  value w :=
    match w.value? Json.maxDepth with
    | some j => return j
    | none => throw "expected a value"

end PodSwap
