import PodSwap.Object.Kubernetes
import PodSwap.Proofs.Replacement.Sanitised
import PodSwap.Proofs.Replacement.Substitution

/-!
# Patches that change nothing

Without patches a pod is not written at all, and with patches it is written, patched and read again.
Where the patches leave what was written as it was, nothing is lost on the way but the fractions of
seconds in the times of the pod. The metadata of a replacement takes over no times, so the two
replacements differ in the times within their specifications at most, and never as they are written.

Main statement: `build_of_unchanged`.
-/

namespace PodSwap.Replacement

open Json

section

variable [Schema]

/-! ## What becomes of the pod -/

/-- Substituting the image keeps what putting an image into a container keeps. -/
theorem substituteInPod_keeps {P : PodSpec → Prop}
    (hP : ∀ (s : PodSpec) (i : Nat) (image : Option String), P s →
      P { s with containers := s.containers.modify i fun c => { c with image := image } })
    {pod substituted : Pod} {spec : Spec} {images : ImageResolver}
    (hpod : ∀ s ∈ pod.spec, P s) (h : substituteInPod pod spec images = .ok substituted) :
    substituted.metadata = pod.metadata ∧ substituted.status = pod.status ∧
      ∀ s ∈ substituted.spec, P s := by
  unfold substituteInPod at h
  split at h
  · rename_i podSpec hspec
    obtain ⟨podSpec', hsubstituted, h⟩ := bind_eq_ok.mp h
    cases h
    refine ⟨rfl, rfl, fun s hs => ?_⟩
    obtain rfl := Option.mem_some.mp hs
    rw [inStep_eq_ok] at hsubstituted
    cases himage : spec.image with
    | none =>
      unfold substituteImage at hsubstituted
      rw [himage] at hsubstituted
      cases hsubstituted
      exact hpod podSpec hspec
    | some expression =>
      obtain ⟨image, i, -, -, rfl⟩ := substituteImage_eq_ok himage hsubstituted
      exact hP podSpec i (some image) (hpod podSpec hspec)
  · split at h
    · cases h
    · cases h
      exact ⟨rfl, rfl, hpod⟩

/-- The pod with the times within its specification in whole seconds. -/
def wholeSpec (pod : Pod) : Pod := { pod with spec := wholeSeconds pod.spec }

/-- Fractions of seconds are not written. -/
theorem toJson_wholeSpec (pod : Pod) : toJson (wholeSpec pod) = toJson pod := by
  have hspec : (wholeSeconds pod.spec).map toJson = pod.spec.map toJson := by
    show (pod.spec.map wholeSeconds).map toJson = pod.spec.map toJson
    rw [Option.map_map]
    exact congrArg (Option.map · pod.spec) (funext toJson_wholeSeconds)
  show Resource.toJson "v1" "Pod" (wholeSpec pod) = Resource.toJson "v1" "Pod" pod
  rw [Resource.toJson_eq, Resource.toJson_eq]
  exact congrArg (fun j => fields [always "apiVersion" "v1", always "kind" "Pod",
    always "metadata" pod.metadata, ("spec", j), field "status" pod.status]) hspec

theorem wholeSpec_eq {pod : Pod} (h : ∀ s ∈ pod.spec, wholeSeconds s = s) :
    wholeSpec pod = pod := by
  obtain ⟨metadata, spec, status⟩ := pod
  cases spec with
  | none => rfl
  | some s => exact congrArg (fun s => (⟨metadata, some s, status⟩ : Pod)) (h s rfl)

/-- The metadata of a replacement is made without the times. -/
theorem replacementMeta_wholeSeconds (m : ObjectMeta) (selection : Selection)
    (container : Container) (parent : Workload) (prints : Fingerprints) :
    replacementMeta (wholeSeconds m) selection container parent prints =
      replacementMeta m selection container parent prints := by
  have hname : (wholeSeconds m).name = m.name := wholeSeconds_eq m.name
  have hns : (wholeSeconds m).ns = m.ns := wholeSeconds_eq m.ns
  have hlabels : (wholeSeconds m).labels = m.labels := wholeSeconds_eq m.labels
  have hannotations : (wholeSeconds m).annotations = m.annotations :=
    wholeSeconds_eq m.annotations
  simp only [replacementMeta, ObjectMeta.labelTable, ObjectMeta.annotationTable, hname, hns,
    hlabels, hannotations]

/-- A pod that is patched to itself loses nothing but the fractions of seconds. -/
theorem patchPod_of_unchanged {patches : List SpecPatch} {pod : Pod} (hne : patches ≠ [])
    (hdated : Dated pod) (h : applySpecPatches patches (toJson pod) = .ok (toJson pod)) :
    patchPod patches pod = .ok (wholeSeconds pod) := by
  unfold patchPod
  rw [if_neg (by rwa [List.isEmpty_iff]), h]
  show fromReading (ofJson (toJson pod)) = _
  rw [LawfulCodec.ofJson_toJson hdated]
  rfl

/-! ## The replacement -/

/-- Patches that leave the written pod as it was make the same replacement as none, or fail to make
one by the same error, but that times within the specification of the replacement lose their
fractions of seconds. So it is the same replacement where the specification of the pod has whole
seconds only, and it is always the same as it is written. -/
theorem build_of_unchanged {selected : SelectedPod} {parent : Workload} {spec : Spec}
    {images : ImageResolver} {prints : Fingerprints} (hne : spec.patches ≠ [])
    (hdated : Dated selected.pod)
    (h : ∀ substituted, substituteInPod selected.pod spec images = .ok substituted →
      applySpecPatches spec.patches (toJson substituted) = .ok (toJson substituted)) :
    let patched := build selected parent spec images prints
    let unpatched := build selected parent { spec with patches := [] } images prints
    patched = unpatched.map wholeSpec ∧ patched.map toJson = unpatched.map toJson ∧
      ((∀ s ∈ selected.pod.spec, wholeSeconds s = s) → patched = unpatched) := by
  intro patched unpatched
  have hsame : substituteInPod selected.pod { spec with patches := [] } images =
      substituteInPod selected.pod spec images := rfl
  -- both substitute the same pod, and only one of them writes it and reads it again
  have hpatched : patched = unpatched.map wholeSpec := by
    show build selected parent spec images prints =
      (build selected parent { spec with patches := [] } images prints).map wholeSpec
    unfold build
    rw [hsame]
    cases hsubstituted : substituteInPod selected.pod spec images with
    | error e => rfl
    | ok substituted =>
      obtain ⟨hmetadata, hstatus, hspec⟩ :=
        substituteInPod_keeps (fun _ i image hs => PodSpec.dated_modify hs i image) hdated.2.1
          hsubstituted
      have hthere : Dated substituted := ⟨hmetadata ▸ hdated.1, hspec, hstatus ▸ hdated.2.2⟩
      have hread := patchPod_of_unchanged hne hthere (h substituted hsubstituted)
      show (inStep _ (patchPod spec.patches substituted) >>= _) = _
      rw [hread]
      show (spec.selection >>= _) = Except.map wholeSpec (spec.selection >>= _)
      cases spec.selection with
      | error e => rfl
      | ok selection =>
        exact congrArg (fun m => Except.ok (⟨m, wholeSeconds substituted.spec, none⟩ : Pod))
          (replacementMeta_wholeSeconds substituted.metadata selection selected.container parent
            prints)
  refine ⟨hpatched, ?_, fun hwhole => ?_⟩
  · rw [hpatched]
    cases unpatched with
    | error e => rfl
    | ok pod => exact congrArg Except.ok (toJson_wholeSpec pod)
  · rw [hpatched]
    cases hbuilt : unpatched with
    | error e => rfl
    | ok pod =>
      -- the specification of the replacement is the substituted one, which has whole seconds too
      obtain ⟨-, substituted, _, hsubstituted, hnothing, hsanitised⟩ :=
        build_eq_ok_iff_sanitised.mp hbuilt
      cases hnothing
      have hkept := (substituteInPod_keeps (P := fun s => wholeSeconds s = s)
        (fun s i image hs => (PodSpec.wholeSeconds_modify s i image).trans (by rw [hs])) hwhole
        hsubstituted).2.2
      exact congrArg Except.ok (wholeSpec_eq (hsanitised.podSpec ▸ hkept))

end

/-- A running pod that was created half a second past a full one, and so was the claim that a volume
of it makes. -/
def halfPast : Json :=
  .obj [("metadata", .obj [("creationTimestamp", .str "2023-11-14T22:13:20.5Z"),
      ("name", .str "web-0")]),
    ("spec", .obj [("containers", .arr [.obj [("args", .arr []), ("name", .str "web")]]),
      ("volumes", .arr [.obj [("ephemeral", .obj [("volumeClaimTemplate", .obj
          [("metadata", .obj [("creationTimestamp", .str "2023-11-14T22:13:20.5Z")]),
            ("spec", .obj [])])]),
        ("name", .str "cache")]])]),
    ("status", .obj [("phase", .str "Running")])]

/-- A spec with an image, and a patch that gives the pod the name it has. -/
def renamingToItself : Spec where
  imageName := some "team/web"
  replaceImage := some "team/web:dev"
  patches := [⟨.replace, "/metadata/name", some (.str "web-0")⟩]

/-- What the names of images come to for the spec. -/
def onlyWeb : ImageResolver := ⟨fun _ => .ok ["team/web"], .ok⟩

/-- The replacement for a pod of a stateful set, with the patch or without. -/
def renamed (pod : Pod) (patches : List SpecPatch) : Except Error Pod :=
  build ⟨pod, { name := "web" }⟩ (.statefulSet {}) { renamingToItself with patches } onlyWeb
    ⟨"", ""⟩

set_option maxRecDepth 1000 in
/-- The patch leaves the pod as it was written. -/
theorem unchanged_of_halfPast {pod : Pod} (hpod : ofJson halfPast = .ok pod) :
    ∀ substituted, substituteInPod pod renamingToItself onlyWeb = .ok substituted →
      applySpecPatches renamingToItself.patches (toJson substituted) =
        .ok (toJson substituted) := by
  have hread : (ofJson halfPast).map (fun pod : Pod =>
      (substituteInPod pod renamingToItself onlyWeb).map fun substituted =>
        applySpecPatches renamingToItself.patches (toJson substituted)) =
      (ofJson halfPast).map fun pod : Pod =>
        (substituteInPod pod renamingToItself onlyWeb).map fun substituted =>
          .ok (toJson substituted) := rfl
  intro substituted h
  rw [hpod] at hread
  have hpatched : (substituteInPod pod renamingToItself onlyWeb).map _ =
      (substituteInPod pod renamingToItself onlyWeb).map _ := Except.ok.inj hread
  rw [h] at hpatched
  exact Except.ok.inj hpatched

/-- With the patch and without it, the same replacement is written for the pod. -/
theorem half_past_pod_is_unchanged : ∃ pod : Pod,
    ofJson halfPast = .ok pod ∧ Dated pod ∧
    (∀ substituted, substituteInPod pod renamingToItself onlyWeb = .ok substituted →
      applySpecPatches renamingToItself.patches (toJson substituted) =
        .ok (toJson substituted)) ∧
    (renamed pod []).isOk = true ∧
    renamed pod renamingToItself.patches = (renamed pod []).map wholeSpec ∧
    (renamed pod renamingToItself.patches).map toJson = (renamed pod []).map toJson := by
  have hrun : (ofJson halfPast).map (fun pod : Pod => (renamed pod []).isOk) = .ok true := by
    decide +kernel
  obtain ⟨pod, hpod, hok⟩ := map_eq_ok.mp hrun
  have hdated : Dated pod := LawfulCodec.dated_of_read hpod
  have hunchanged := unchanged_of_halfPast hpod
  obtain ⟨hwhole, hwritten, -⟩ := @build_of_unchanged _ ⟨pod, { name := "web" }⟩ (.statefulSet {})
    renamingToItself onlyWeb ⟨"", ""⟩ (List.cons_ne_nil _ _) hdated hunchanged
  exact ⟨pod, hpod, hdated, hunchanged, hok, hwhole, hwritten⟩

/-- Only with the patch the claim of the volume loses its half second, so the two replacements are
not the same. -/
theorem half_second_is_lost : ∃ pod : Pod,
    ofJson halfPast = .ok pod ∧
    (∀ substituted, substituteInPod pod renamingToItself onlyWeb = .ok substituted →
      applySpecPatches renamingToItself.patches (toJson substituted) =
        .ok (toJson substituted)) ∧
    (renamed pod renamingToItself.patches).isOk = true ∧ (renamed pod []).isOk = true ∧
    renamed pod renamingToItself.patches ≠ renamed pod [] := by
  have hrun : (ofJson halfPast).map (fun pod : Pod =>
      ((renamed pod renamingToItself.patches).isOk, (renamed pod []).isOk,
        decide (renamed pod renamingToItself.patches = renamed pod []))) =
      .ok (true, true, false) := by decide +kernel
  obtain ⟨pod, hpod, hbuilt⟩ := map_eq_ok.mp hrun
  simp only [Prod.mk.injEq, decide_eq_false_iff_not] at hbuilt
  exact ⟨pod, hpod, unchanged_of_halfPast hpod, hbuilt⟩

end PodSwap.Replacement
