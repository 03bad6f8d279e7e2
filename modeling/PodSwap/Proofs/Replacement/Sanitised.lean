import Mathlib.Data.List.Basic
import PodSwap.Object.Kubernetes
import PodSwap.Proofs.Replacement.Marks

/-!
# What patches cannot do

The patches of a spec are made on the whole pod, its metadata and status among it, so they can give
it an owner, a deadline for its deletion or a label by which a controller takes it for its own. None
of that gets into the replacement: of the metadata of the patched pod it takes over the namespace,
the labels that no controller goes by and the annotations, and its own marks in place of any other
value.

Main statement: `build_eq_ok_iff_sanitised`, by which that is all there is to a replacement.
-/

namespace PodSwap

theorem inStep_eq_ok {α : Type} {name : String} {x : Except Error α} {a : α} :
    inStep name x = .ok a ↔ x = .ok a := by
  cases x <;> simp [inStep]

/-- The image that a valid spec selects by is the one it names. -/
theorem Spec.selection_eq_imageName_iff {spec : Spec} {selection : Selection}
    (h : spec.selection = .ok selection) {name : String} :
    selection = .imageName name ↔ given spec.imageName = some name := by
  unfold Spec.selection at h
  cases hname : given spec.imageName <;>
    cases hlabels : spec.labelSelector.filter (! ·.isEmpty) <;>
    rw [hname, hlabels] at h <;> cases h <;> simp

namespace Replacement

/-! ## Labels and annotations -/

/-- What becomes of the labels of a patched pod. -/
structure Relabelled (spec : Spec) (before labels : SortedMap String) : Prop where
  unclaimed : ∀ k ∈ Marker.controllerLabels, labels.get? k = none
  replaced : labels.get? Marker.replaced = some "true"
  imageName : ∀ name, given spec.imageName = some name →
    labels.get? Marker.imageName = some name
  others : ∀ k, k ∉ Marker.controllerLabels → k ≠ Marker.replaced →
    (k = Marker.imageName → given spec.imageName = none) → labels.get? k = before.get? k

/-- The annotations by which a replacement is marked. -/
def markedAnnotations : List String :=
  [Marker.container, Marker.parentKind, Marker.parentName, Marker.parentHash, Marker.configHash]

/-- What becomes of the annotations of a patched pod. -/
structure Reannotated [Schema] (container : Container) (parent : Workload) (prints : Fingerprints)
    (before annotations : SortedMap String) : Prop where
  container : annotations.get? Marker.container = some container.name
  parentKind : annotations.get? Marker.parentKind = some parent.kind.text
  parentName : annotations.get? Marker.parentName = some parent.name
  parentHash : annotations.get? Marker.parentHash = some prints.parent
  configHash : annotations.get? Marker.configHash = some prints.config
  others : ∀ k ∉ markedAnnotations, annotations.get? k = before.get? k

section

variable {spec : Spec} {selection : Selection} {before labels : SortedMap String}

/-- The labels of a replacement are what becomes of those of the patched pod. -/
theorem relabelled_replacementLabels (h : spec.selection = .ok selection) :
    Relabelled spec before (replacementLabels before selection) where
  unclaimed k hk := by
    have hreplaced : k ≠ Marker.replaced := by
      rintro rfl
      exact absurd hk (by decide)
    have himage : k ≠ Marker.imageName := by
      rintro rfl
      exact absurd hk (by decide)
    rw [get?_replacementLabels]
    cases selection <;> simp [hreplaced, himage, hk]
  replaced := by
    rw [get?_replacementLabels]
    cases selection <;> rfl
  imageName name hname := by
    rw [(Spec.selection_eq_imageName_iff h).mpr hname, get?_replacementLabels]
    exact if_pos rfl
  others k hclaim hreplaced himage := by
    rw [get?_replacementLabels]
    cases selection with
    | labels _ => simp only [if_neg hreplaced, if_neg hclaim]
    | imageName name =>
      have hne : k ≠ Marker.imageName := fun hk => by
        have hgiven := (Spec.selection_eq_imageName_iff h).mp rfl
        rw [himage hk] at hgiven
        cases hgiven
      simp only [if_neg hne, if_neg hreplaced, if_neg hclaim]

/-- Nothing is left open of what becomes of the labels. -/
theorem Relabelled.unique {labels' : SortedMap String} (h : Relabelled spec before labels)
    (h' : Relabelled spec before labels') : labels = labels' := by
  refine SortedMap.ext_get? fun k => ?_
  by_cases hclaim : k ∈ Marker.controllerLabels
  · rw [h.unclaimed k hclaim, h'.unclaimed k hclaim]
  by_cases hreplaced : k = Marker.replaced
  · rw [hreplaced, h.replaced, h'.replaced]
  by_cases himage : k = Marker.imageName
  · cases hgiven : given spec.imageName with
    | some name => rw [himage, h.imageName name hgiven, h'.imageName name hgiven]
    | none => rw [h.others k hclaim hreplaced fun _ => hgiven,
        h'.others k hclaim hreplaced fun _ => hgiven]
  · rw [h.others k hclaim hreplaced fun hk => absurd hk himage,
      h'.others k hclaim hreplaced fun hk => absurd hk himage]

end

section

variable [Schema]

/-- The annotations of a replacement are what becomes of those of the patched pod, and nothing is
left open of that. -/
theorem reannotated_iff {before annotations : SortedMap String} {container : Container}
    {parent : Workload} {prints : Fingerprints} :
    Reannotated container parent prints before annotations ↔
      annotations = replacementAnnotations before container parent prints := by
  constructor
  · intro h
    refine SortedMap.ext_get? fun k => ?_
    rw [get?_replacementAnnotations]
    split_ifs with hkind hname hconfig hparent hcontainer
    · exact hkind ▸ h.parentKind
    · exact hname ▸ h.parentName
    · exact hconfig ▸ h.configHash
    · exact hparent ▸ h.parentHash
    · exact hcontainer ▸ h.container
    · exact h.others k (by simp [markedAnnotations, hkind, hname, hconfig, hparent, hcontainer])
  · rintro rfl
    have hat := get?_replacementAnnotations before container parent prints
    refine ⟨(hat _).trans rfl, (hat _).trans rfl, (hat _).trans rfl, (hat _).trans rfl,
      (hat _).trans rfl, fun k hk => ?_⟩
    simp only [markedAnnotations, List.mem_cons, List.not_mem_nil, or_false, not_or] at hk
    obtain ⟨hcontainer, hkind, hname, hparent, hconfig⟩ := hk
    rw [hat, if_neg hkind, if_neg hname, if_neg hconfig, if_neg hparent, if_neg hcontainer]

/-! ## The replacement -/

/-- What a replacement has of a patched pod. -/
structure Sanitised (patched : Pod) (spec : Spec) (container : Container) (parent : Workload)
    (prints : Fingerprints) (pod : Pod) : Prop where
  status : pod.status = none
  podSpec : pod.spec = patched.spec
  metadata : ∃ labels annotations,
    pod.metadata =
      { name := some (safeName [patched.metadata.name.getD "", Marker.nameSuffix])
        ns := patched.metadata.ns
        labels := some labels
        annotations := some annotations } ∧
    Relabelled spec patched.metadata.labelTable labels ∧
    Reannotated container parent prints patched.metadata.annotationTable annotations

theorem sanitised_iff {patched pod : Pod} {spec : Spec} {selection : Selection}
    (h : spec.selection = .ok selection) {container : Container} {parent : Workload}
    {prints : Fingerprints} :
    Sanitised patched spec container parent prints pod ↔
      pod = { metadata := replacementMeta patched.metadata selection container parent prints
              spec := patched.spec
              status := none } := by
  constructor
  · rintro ⟨hstatus, hspec, labels, annotations, hmeta, hlabels, hannotations⟩
    obtain ⟨m, s, t⟩ := pod
    obtain rfl : t = none := hstatus
    obtain rfl : s = patched.spec := hspec
    obtain rfl := hmeta
    rw [reannotated_iff.mp hannotations, hlabels.unique (relabelled_replacementLabels h)]
    rfl
  · rintro rfl
    exact ⟨rfl, rfl, _, _, rfl, relabelled_replacementLabels h, reannotated_iff.mpr rfl⟩

/-- A replacement is built for a valid spec whose image can be substituted in the selected pod and
whose patches can be made on what that comes to. Whatever they come to, it has no status, no owner
and nothing else in its metadata but a name, a namespace, labels and annotations; of the labels none
by which controllers claim pods; and its own marks. All the rest is as it is in the patched pod. -/
theorem build_eq_ok_iff_sanitised {selected : SelectedPod} {parent : Workload} {spec : Spec}
    {images : ImageResolver} {prints : Fingerprints} {pod : Pod} :
    build selected parent spec images prints = .ok pod ↔
      spec.validate = .ok () ∧ ∃ substituted patched,
        substituteInPod selected.pod spec images = .ok substituted ∧
        patchPod spec.patches substituted = .ok patched ∧
        Sanitised patched spec selected.container parent prints pod := by
  unfold build
  simp only [bind_eq_ok, inStep_eq_ok]
  constructor
  · rintro ⟨substituted, hsubstituted, patched, hpatched, selection, hselection, hpod⟩
    refine ⟨by rw [Spec.validate, hselection]; rfl, substituted, patched, hsubstituted, hpatched,
      (sanitised_iff hselection).mpr ?_⟩
    exact (Except.ok.inj hpod).symm
  · rintro ⟨hvalid, substituted, patched, hsubstituted, hpatched, hsanitised⟩
    obtain ⟨selection, hselection, -⟩ := map_eq_ok.mp hvalid
    refine ⟨substituted, hsubstituted, patched, hpatched, selection, hselection, ?_⟩
    rw [(sanitised_iff hselection).mp hsanitised]
    rfl

end

/-- A pod with a container, and nothing that says whose it is. -/
def ownerless : SelectedPod where
  pod := { metadata := { name := some "web-0", labels := some .empty }, spec := some {} }
  container := { name := "web" }

/-- A spec that gives the pod an owner, the label of a controller and the mark of a replacement with
a value of its own. -/
def claiming : Spec where
  imageName := some "team/web"
  patches :=
    [⟨.add, "/metadata/ownerReferences", some (.arr [.obj
        [("apiVersion", .str "apps/v1"), ("controller", .bool true), ("kind", .str "ReplicaSet"),
          ("name", .str "web"), ("uid", .str "1")]])⟩,
      ⟨.add, "/metadata/labels/pod-template-hash", some (.str "5d9c")⟩,
      ⟨.add, "/metadata/labels/devspace.sh~1replaced", some (.str "no")⟩]

/-- The patches make the pod that of a controller, but its replacement is nobody's. -/
theorem claimed_pod_is_released : ∃ patched pod,
    patchPod claiming.patches ownerless.pod = .ok patched ∧
    patched.metadata.controller.isSome = true ∧
    patched.metadata.labelAt "pod-template-hash" = some "5d9c" ∧
    build ownerless (.statefulSet {}) claiming ⟨fun _ => .ok [], .ok⟩ ⟨"", ""⟩ = .ok pod ∧
    pod.metadata.controller = none ∧ pod.metadata.labelAt "pod-template-hash" = none ∧
    pod.metadata.labelAt Marker.replaced = some "true" := by
  have hrun : ((build ownerless (.statefulSet {}) claiming ⟨fun _ => .ok [], .ok⟩ ⟨"", ""⟩).map
      fun _ => ()) = .ok () := by decide +kernel
  have hpatch : (patchPod claiming.patches ownerless.pod).map (fun patched =>
      (patched.metadata.controller.isSome, patched.metadata.labelAt "pod-template-hash")) =
        .ok (true, some "5d9c") := by decide +kernel
  obtain ⟨pod, hpod, -⟩ := map_eq_ok.mp hrun
  obtain ⟨patched, hpatched, hclaimed⟩ := map_eq_ok.mp hpatch
  obtain ⟨-, _, _, -, -, -, -, labels, _, hmeta, hlabels, -⟩ := build_eq_ok_iff_sanitised.mp hpod
  refine ⟨patched, pod, hpatched, congrArg Prod.fst hclaimed, congrArg Prod.snd hclaimed, hpod, ?_⟩
  rw [hmeta]
  exact ⟨rfl, hlabels.unclaimed _ (by decide), hlabels.replaced⟩

end Replacement

end PodSwap
