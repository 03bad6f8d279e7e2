import PodSwap.Fingerprint
import PodSwap.Replacement.Name
import PodSwap.Selection

/-!
# Building a replacement

A replacement is the selected pod with the image substituted and the patches of the spec applied.
It has a name of its own, no status, none of the labels by which controllers claim pods, and markers
that lead back to its parent.

Main statements: a patched pod is left alone by an empty list of patches (`patchPod_nil`), and the
metadata of a replacement holds a name, a namespace, labels and annotations and nothing else
(`replacementMeta_only`).
-/

namespace PodSwap.Replacement

variable [Schema]

/-- The pod with the patches of a spec applied to its written form. -/
def patchPod (patches : List SpecPatch) (pod : Pod) : Except Error Pod :=
  if patches.isEmpty then .ok pod
  else do
    let patched ← applySpecPatches patches (toJson pod)
    fromReading (ofJson patched)

/-- The pod with the image of a spec substituted. -/
def substituteInPod (pod : Pod) (spec : Spec) (images : ImageResolver) : Except Error Pod :=
  match pod.spec with
  | some podSpec => do
    let podSpec ← inStep "replace image" (substituteImage podSpec spec images)
    return { pod with spec := some podSpec }
  | none => if spec.image.isSome then .error .noContainers else .ok pod

/-- The labels of a replacement. -/
def replacementLabels (labels : SortedMap String) (selection : Selection) : SortedMap String :=
  let kept := Marker.controllerLabels.foldl (fun m l => m.erase l) labels
  let marked := kept.insert Marker.replaced "true"
  match selection with
  | .imageName name => marked.insert Marker.imageName name
  | .labels _ => marked

/-- The annotations of a replacement. -/
def replacementAnnotations (annotations : SortedMap String) (container : Container)
    (parent : Workload) (prints : Fingerprints) : SortedMap String :=
  let annotations := annotations.insert Marker.container container.name
  let annotations := annotations.insert Marker.parentHash prints.parent
  let annotations := annotations.insert Marker.configHash prints.config
  let annotations := annotations.insert Marker.parentName parent.name
  annotations.insert Marker.parentKind parent.kind.text

/-- The metadata of a replacement, made from that of the patched pod. -/
def replacementMeta (m : ObjectMeta) (selection : Selection) (container : Container)
    (parent : Workload) (prints : Fingerprints) : ObjectMeta :=
  { name := some (safeName [m.name.getD "", Marker.nameSuffix])
    ns := m.ns
    labels := some (replacementLabels m.labelTable selection)
    annotations := some (replacementAnnotations m.annotationTable container parent prints) }

/-- The replacement for a selected pod that belongs to a parent. -/
def build (selected : SelectedPod) (parent : Workload) (spec : Spec) (images : ImageResolver)
    (prints : Fingerprints) : Except Error Pod := do
  let pod ← substituteInPod selected.pod spec images
  -- the patches run before the metadata is made, so they can add labels but not remove markers
  let pod ← inStep "apply pod patches" (patchPod spec.patches pod)
  let selection ← spec.selection
  return {
    metadata := replacementMeta pod.metadata selection selected.container parent prints
    spec := pod.spec
    status := none }

/-! ## What is left alone -/

theorem patchPod_nil (pod : Pod) : patchPod [] pod = .ok pod := rfl

/-- The metadata of a replacement holds nothing that a server fills in. -/
theorem replacementMeta_only (m : ObjectMeta) (selection : Selection) (container : Container)
    (parent : Workload) (prints : Fingerprints) :
    let r := replacementMeta m selection container parent prints
    r.uid = none ∧ r.creationTimestamp = none ∧ r.deletionTimestamp = none ∧
      r.ownerReferences = none ∧ r.others = default := by
  simp [replacementMeta]

end PodSwap.Replacement
