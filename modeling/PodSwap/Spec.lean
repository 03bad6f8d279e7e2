import PodSwap.Document
import PodSwap.Error
import PodSwap.Json.Patch

/-!
# Replacement specs

A spec says which pod to replace and by what. The pod is selected either by the name of an image or
by labels, never by both; a text left empty counts as not given.

Main statements: a spec is valid exactly if it has one of the two (`validate_eq_ok_iff`), and the
document that is written for a spec has only the fields that were given.
-/

namespace PodSwap

/-- What a patch of a spec does. -/
inductive PatchAction where
  | add
  | replace
  | remove
deriving DecidableEq, Repr, Inhabited

/-- The action as specs name it. -/
def PatchAction.text : PatchAction → String
  | .add => "add"
  | .replace => "replace"
  | .remove => "remove"

/-- The action that a text names. -/
def PatchAction.ofText? (s : String) : Option PatchAction :=
  if s = "add" then some .add
  else if s = "replace" then some .replace
  else if s = "remove" then some .remove
  else none

/-- A patch that a spec makes on the replacement. -/
structure SpecPatch where
  action : PatchAction
  path : String
  value : Option Json := none
deriving Repr, Inhabited

namespace SpecPatch

/-- The operation on a value that the patch stands for; a value left out is `null`. -/
def operation (p : SpecPatch) : Json.Operation :=
  ⟨p.path,
    match p.action with
    | .add => .add (p.value.getD .null)
    | .replace => .replace (p.value.getD .null)
    | .remove => .remove⟩

/-- Writes a patch. -/
def toJson (p : SpecPatch) : Json :=
  .fields [("op", some (.str p.action.text)), ("path", some (.str p.path)), ("value", p.value)]

end SpecPatch

/-- A spec: what to replace, and how. -/
structure Spec where
  imageName : Option String := none
  labelSelector : Option (SortedMap String) := none
  ns : Option String := none
  containerName : Option String := none
  replaceImage : Option String := none
  patches : List SpecPatch := []
deriving Repr, Inhabited

/-- How a spec selects its pod. -/
inductive Selection where
  | imageName (name : String)
  | labels (labels : SortedMap String)
deriving DecidableEq, Repr

/-- The text if it is not empty. -/
def given (s : Option String) : Option String := s.filter (· ≠ "")

namespace Spec

/-- How the spec selects its pod. -/
def selection (s : Spec) : Except Error Selection :=
  match given s.imageName, s.labelSelector.filter (! ·.isEmpty) with
  | some name, none => .ok (.imageName name)
  | none, some labels => .ok (.labels labels)
  | some _, some _ => .error (.invalidSpec "imageName and labelSelector are mutually exclusive")
  | none, none => .error (.invalidSpec "imageName or labelSelector need to be defined")

/-- Checks that the spec selects a pod in one way. -/
def validate (s : Spec) : Except Error Unit := s.selection.map fun _ => ()

/-- The namespace of the pod, with the one to take where the spec has none. -/
def nsOr (s : Spec) (default : String) : String := (given s.ns).getD default

/-- The container to substitute, where the spec names one. -/
def container (s : Spec) : Option String := given s.containerName

/-- The expression for the image to run, where the spec has one. -/
def image (s : Spec) : Option String := given s.replaceImage

/-- Writes a spec; fields that were not given are left out. -/
def toJson (s : Spec) : Json :=
  .fields
    [("containerName", s.containerName.map .str), ("imageName", s.imageName.map .str),
     ("labelSelector", s.labelSelector.map fun m => .obj (m.toList.map fun e => (e.1, .str e.2))),
     ("namespace", s.ns.map .str),
     ("patches", if s.patches.isEmpty then none else some (.arr (s.patches.map SpecPatch.toJson))),
     ("replaceImage", s.replaceImage.map .str)]

/-! ## Reading -/

section Reading

variable {δ : Type} [Document δ]

/-- Reads a patch. -/
def readPatch (d : δ) : Following SpecPatch := do
  let fs ← Document.record ["op", "path", "value"] d
  return {
    action := ← Document.required fs "op" (Document.choice PatchAction.ofText?)
    path := ← Document.required fs "path" Document.text
    value := ← Document.optional fs "value" Document.value }

/-- Reads the fields of a spec. -/
def read (d : δ) : Following Spec := do
  let fs ← Document.record
    ["imageName", "labelSelector", "namespace", "containerName", "replaceImage", "patches"] d
  return {
    imageName := ← Document.optional fs "imageName" Document.text
    labelSelector := ← Document.optional fs "labelSelector" (Document.table Document.text)
    ns := ← Document.optional fs "namespace" Document.text
    containerName := ← Document.optional fs "containerName" Document.text
    replaceImage := ← Document.optional fs "replaceImage" Document.text
    patches := ← Document.defaulted fs "patches" [] (Document.list readPatch) }

/-- Reads a spec without checking it. -/
def ofDocument (d : δ) : Except Error Spec := fromReading (Document.run read d)

/-- Reads a list of patches. -/
def patchesOfDocument (d : δ) : Except Error (List SpecPatch) :=
  fromReading (Document.run (Document.list readPatch) d)

end Reading

/-! ## Validity -/

/-- A spec is valid exactly if it gives an image name or labels, and not both. -/
theorem validate_eq_ok_iff (s : Spec) :
    s.validate = .ok () ↔
      ((given s.imageName).isSome ≠ (s.labelSelector.filter (! ·.isEmpty)).isSome) := by
  unfold validate selection
  cases given s.imageName <;> cases s.labelSelector.filter (! ·.isEmpty) <;>
    simp [Except.map]

end Spec

/-- The value with the patches of a spec applied in order. -/
def applySpecPatches (patches : List SpecPatch) (j : Json) : Except Error Json :=
  match Json.applyPatch (patches.map SpecPatch.operation) j with
  | .ok j => .ok j
  | .error fault => .error (.patch fault.message)

end PodSwap
