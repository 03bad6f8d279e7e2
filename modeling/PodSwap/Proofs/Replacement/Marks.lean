import PodSwap.Ownership
import PodSwap.Proofs.Object.Reading
import PodSwap.Replacement.Build

/-!
# The marks of a replacement

Whatever a spec patches, its replacement carries the marks by which it is known: the label that says
what it is, and the annotations that lead to its parent and say how and of which container it was
made.

Main statements: the labels and the annotations of a replacement (`get?_replacementLabels`,
`get?_replacementAnnotations`), and `build_metadata` with what follows of it, `replaced_of_build`,
`parentMarkers_of_build`, `hashes_of_build` and `container_of_build`.
-/

namespace PodSwap

/-- Only the annotations of a pod say who its parent is. -/
theorem Ownership.parentMarkers_congr [Schema] {pod pod' : Pod}
    (h : pod.metadata.annotations = pod'.metadata.annotations) :
    parentMarkers pod = parentMarkers pod' := by
  unfold parentMarkers ObjectMeta.annotationAt
  rw [h]

namespace Replacement

theorem get?_eraseAll (labels : SortedMap String) (keys : List String) (k : String) :
    (keys.foldl (fun m l => m.erase l) labels).get? k =
      if k ∈ keys then none else labels.get? k := by
  induction keys generalizing labels with
  | nil => simp
  | cons key keys ih =>
    rw [List.foldl_cons, ih, SortedMap.get?_erase]
    by_cases hmem : k ∈ keys
    · simp [hmem]
    · by_cases hkey : key = k
      · simp [hkey]
      · simp [hmem, hkey, Ne.symm hkey]

/-- The labels of a replacement: its marks, and of the rest those that no controller goes by. -/
theorem get?_replacementLabels (labels : SortedMap String) (selection : Selection) (k : String) :
    (replacementLabels labels selection).get? k =
      match selection with
      | .imageName name =>
        if k = Marker.imageName then some name
        else if k = Marker.replaced then some "true"
        else if k ∈ Marker.controllerLabels then none else labels.get? k
      | .labels _ =>
        if k = Marker.replaced then some "true"
        else if k ∈ Marker.controllerLabels then none else labels.get? k := by
  unfold replacementLabels
  cases selection <;> simp only [SortedMap.get?_insert, get?_eraseAll, @eq_comm _ k]

/-- The annotations of a replacement: its marks, and the rest as they were. -/
theorem get?_replacementAnnotations [Schema] (annotations : SortedMap String)
    (container : Container) (parent : Workload) (prints : Fingerprints) (k : String) :
    (replacementAnnotations annotations container parent prints).get? k =
      if k = Marker.parentKind then some parent.kind.text
      else if k = Marker.parentName then some parent.name
      else if k = Marker.configHash then some prints.config
      else if k = Marker.parentHash then some prints.parent
      else if k = Marker.container then some container.name
      else annotations.get? k := by
  simp only [replacementAnnotations, SortedMap.get?_insert, @eq_comm _ k]

theorem kind_text_ne_empty (kind : WorkloadKind) : kind.text ≠ "" := by
  cases kind <;> decide

section

variable [Schema] {selected : SelectedPod} {parent : Workload} {spec : Spec}
  {images : ImageResolver} {prints : Fingerprints} {pod : Pod}

/-- What is built has the metadata of a replacement, made from whatever the patches came to. -/
theorem build_metadata (h : build selected parent spec images prints = .ok pod) :
    ∃ m selection, spec.selection = .ok selection ∧
      pod.metadata = replacementMeta m selection selected.container parent prints := by
  unfold build at h
  obtain ⟨substituted, -, h⟩ := bind_eq_ok.mp h
  obtain ⟨patched, -, h⟩ := bind_eq_ok.mp h
  obtain ⟨selection, hselection, h⟩ := bind_eq_ok.mp h
  cases h
  exact ⟨patched.metadata, selection, hselection, rfl⟩

/-- What is built is marked as a replacement. -/
theorem replaced_of_build (h : build selected parent spec images prints = .ok pod) :
    pod.metadata.labelTable.contains Marker.replaced = true := by
  obtain ⟨m, selection, -, hmeta⟩ := build_metadata h
  have hget : (replacementLabels m.labelTable selection).get? Marker.replaced = some "true" := by
    rw [get?_replacementLabels]
    cases selection <;> rfl
  rw [hmeta]
  show (SortedMap.get? (replacementLabels m.labelTable selection) Marker.replaced).isSome = true
  rw [hget]
  rfl

/-- What is built has the annotations of a replacement, made from whatever the patches came to. -/
theorem annotationAt_of_build (h : build selected parent spec images prints = .ok pod) :
    ∃ annotations, ∀ k, pod.metadata.annotationAt k =
      (replacementAnnotations annotations selected.container parent prints).get? k := by
  obtain ⟨m, selection, -, hmeta⟩ := build_metadata h
  exact ⟨m.annotationTable, fun k => by rw [hmeta]; rfl⟩

/-- What is built leads to its parent, if that has a name. -/
theorem parentMarkers_of_build (h : build selected parent spec images prints = .ok pod)
    (hname : parent.name ≠ "") :
    Ownership.parentMarkers pod = some (parent.kind.text, parent.name) := by
  obtain ⟨annotations, hat⟩ := annotationAt_of_build h
  have hkind : pod.metadata.annotationAt Marker.parentKind = some parent.kind.text := by
    rw [hat, get?_replacementAnnotations]
    rfl
  have hparent : pod.metadata.annotationAt Marker.parentName = some parent.name := by
    rw [hat, get?_replacementAnnotations]
    rfl
  unfold Ownership.parentMarkers
  rw [hkind, hparent, Option.filter_some_pos (by simpa using kind_text_ne_empty parent.kind),
    Option.filter_some_pos (by simpa using hname)]
  rfl

/-- What is built has the fingerprints that it was built with. -/
theorem hashes_of_build (h : build selected parent spec images prints = .ok pod) :
    pod.metadata.annotationAt Marker.parentHash = some prints.parent ∧
      pod.metadata.annotationAt Marker.configHash = some prints.config := by
  obtain ⟨annotations, hat⟩ := annotationAt_of_build h
  rw [hat, hat, get?_replacementAnnotations, get?_replacementAnnotations]
  exact ⟨rfl, rfl⟩

/-- What is built records the name of the selected container. -/
theorem container_of_build (h : build selected parent spec images prints = .ok pod) :
    pod.metadata.annotationAt Marker.container = some selected.container.name := by
  obtain ⟨annotations, hat⟩ := annotationAt_of_build h
  rw [hat, get?_replacementAnnotations]
  rfl

end

end Replacement

end PodSwap
