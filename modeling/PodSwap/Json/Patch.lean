import PodSwap.Json.Pointer

/-!
# Patches by pointer

A patch is a list of operations, each adding, replacing or removing one value at the place that a
pointer names. The whole list is checked before the first operation runs, and the first operation
whose place does not exist ends it.
-/

namespace PodSwap.Json

/-- What an operation does at its place. -/
inductive Change where
  | add (value : Json)
  | replace (value : Json)
  | remove

/-- An operation: a change and the text of the pointer to its place. -/
structure Operation where
  path : String
  change : Change

/-- Why a patch does not apply. -/
inductive PatchFault where
  /-- A pointer of the list cannot be read. -/
  | invalidList (path : String)
  /-- The place of the operation with this index does not exist. -/
  | noPlace (index : Nat) (path : String)
deriving DecidableEq, Repr

/-- The wording of a fault. -/
def PatchFault.message : PatchFault → String
  | .invalidList path => s!"invalid patch list: cannot read the pointer {path}"
  | .noPlace index path => s!"operation '/{index}' failed at path '{path}': path is invalid"

/-- The value with a change made at its last step. -/
def changeChild (change : Change) (step : String) : Json → Option Json
  | .obj ms =>
    match change with
    | .add v => some (.obj (Entries.insert step v ms))
    | .replace v => (Entries.get? step ms).map fun _ => .obj (Entries.insert step v ms)
    | .remove => (Entries.get? step ms).map fun _ => .obj (Entries.erase step ms)
  | .arr js =>
    match change with
    | .add v =>
      -- behind the last item, where there is nothing yet to replace or remove
      if step = "-" then some (.arr (js ++ [v]))
      else do
        let i ← Pointer.index? step
        if i ≤ js.length then some (.arr (js.insertIdx i v)) else none
    | .replace v => do
      let i ← Pointer.index? step
      if i < js.length then some (.arr (js.set i v)) else none
    | .remove => do
      let i ← Pointer.index? step
      if i < js.length then some (.arr (js.eraseIdx i)) else none
  | _ => none

/-- The value with a change made at the end of some steps. The value as a whole can be replaced but
not removed. -/
def changeAt (change : Change) : List String → Json → Option Json
  | [], _ =>
    match change with
    | .add v => some v
    | .replace v => some v
    | .remove => none
  | [step], j => changeChild change step j
  | step :: next :: steps, j =>
    match j with
    | .obj ms => do
      let child ← Entries.get? step ms
      let child ← changeAt change (next :: steps) child
      some (.obj (Entries.insert step child ms))
    | .arr js => do
      let i ← Pointer.index? step
      let child ← js[i]?
      let child ← changeAt change (next :: steps) child
      some (.arr (js.set i child))
    | _ => none

/-- Makes changes in turn; `index` counts them. -/
def applyChanges (index : Nat) (j : Json) :
    List (Operation × List String) → Except PatchFault Json
  | [] => .ok j
  | (op, steps) :: rest =>
    match changeAt op.change steps j with
    | none => .error (.noPlace index op.path)
    | some j => applyChanges (index + 1) j rest

/-- The steps of each operation. -/
def readPointers : List Operation → Except PatchFault (List (Operation × List String))
  | [] => .ok []
  | op :: ops =>
    match Pointer.ofText? op.path with
    | none => .error (.invalidList op.path)
    | some steps => (readPointers ops).map ((op, steps) :: ·)

/-- The value with a patch applied to it. -/
def applyPatch (ops : List Operation) (j : Json) : Except PatchFault Json :=
  readPointers ops >>= applyChanges 0 j

end PodSwap.Json
