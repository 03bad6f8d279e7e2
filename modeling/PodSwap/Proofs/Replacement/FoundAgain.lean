import PodSwap.Proofs.Engine.Slot
import PodSwap.Proofs.Replacement.Marks
import PodSwap.Proofs.Replacement.Substitution

/-!
# Finding a replacement again

A replacement is looked for by the labels that its spec selects by, but it does not carry those of
them by which controllers claim pods. So it is found again exactly if its spec selects by none of
those.

Main statement: `found_again_iff`.
-/

namespace PodSwap

/-! ## The labels of a lookup -/

namespace Engine

/-- The labels by which a replacement is looked for that was selected by an image are on it. -/
theorem get?_of_replacementLookup_imageName {name : String} {table : SortedMap String}
    {k v : String} (h : (replacementLookup (.imageName name)).get? k = some v) :
    (Replacement.replacementLabels table (.imageName name)).get? k = some v := by
  rw [Replacement.get?_replacementLabels]
  rw [replacementLookup, SortedMap.get?_insert, SortedMap.get?_insert] at h
  simp only [eq_comm, SortedMap.get?_empty] at h ⊢
  split at h
  · rename_i himage
    rw [if_pos himage]
    exact h
  · rename_i himage
    rw [if_neg himage]
    split at h
    · rename_i hreplaced
      rw [if_pos hreplaced]
      exact h
    · cases h

theorem get?_replacementLookup_labels (labels : SortedMap String) (k : String) :
    (replacementLookup (.labels labels)).get? k =
      (labels.get? k).or (if k = Marker.replaced then some "true" else none) := by
  rw [replacementLookup, get?_insertAll, SortedMap.get?_insert]
  simp only [eq_comm, SortedMap.get?_empty]

/-- A label that was selected by is on the replacement exactly if it is on the target and not one by
which controllers claim pods. -/
theorem get?_replacementLabels_iff {labels table : SortedMap String}
    (hkeys : labels.get? Marker.replaced = none) {k v : String} (h : labels.get? k = some v) :
    (Replacement.replacementLabels table (.labels labels)).get? k = some v ↔
      k ∉ Marker.controllerLabels ∧ table.get? k = some v := by
  have hne : k ≠ Marker.replaced := by
    rintro rfl
    rw [hkeys] at h
    cases h
  simp only [Replacement.get?_replacementLabels, if_neg hne]
  split
  · rename_i hclaims
    exact iff_of_false (fun h => by cases h) fun h => h.1 hclaims
  · rename_i hfree
    exact (and_iff_right hfree).symm

/-- The labels by which a replacement is looked for are on it exactly if those that the spec selects
by are on the target, and none of them is one by which controllers claim pods. -/
theorem replacementLookup_subset_iff {selection : Selection} {table : SortedMap String}
    (hkeys : ∀ labels, selection = .labels labels → labels.get? Marker.replaced = none) :
    (∀ k v, (replacementLookup selection).get? k = some v →
        (Replacement.replacementLabels table selection).get? k = some v) ↔
      ∀ labels, selection = .labels labels → ∀ k v, labels.get? k = some v →
        k ∉ Marker.controllerLabels ∧ table.get? k = some v := by
  cases selection with
  | imageName name =>
    exact iff_of_true (fun k v hk => get?_of_replacementLookup_imageName hk)
      fun labels h => by cases h
  | labels labels =>
    have hkeys := hkeys labels rfl
    constructor
    · rintro h _ ⟨⟩ k v hk
      refine (get?_replacementLabels_iff hkeys hk).mp (h k v ?_)
      rw [get?_replacementLookup_labels, hk, Option.some_or]
    · intro h k v hk
      rw [get?_replacementLookup_labels] at hk
      cases hl : labels.get? k with
      | some w =>
        rw [hl, Option.some_or] at hk
        cases hk
        exact (get?_replacementLabels_iff hkeys hl).mpr (h labels rfl k v hl)
      | none =>
        rw [hl, Option.none_or] at hk
        split at hk
        · rename_i hreplaced
          cases hk
          rw [Replacement.get?_replacementLabels, hreplaced]
          rfl
        · cases hk

end Engine

/-! ## What is built -/

/-- Containers that are changed one by one fit the same condition where the condition does not see
the change. -/
theorem any_modify {α : Type} {p : α → Bool} {f : α → α} (hf : ∀ a, p (f a) = p a) (xs : List α)
    (i : Nat) : (xs.modify i f).any p = xs.any p := by
  induction xs generalizing i with
  | nil => cases i <;> rfl
  | cons x xs ih =>
    cases i with
    | zero => simp [List.modify, hf]
    | succ i => simp [ih]

section

variable [Schema]

namespace Replacement

variable {selected : SelectedPod} {parent : Workload} {spec : Spec} {images : ImageResolver}
  {prints : Fingerprints} {pod : Pod}

/-- Substituting an image changes no container in any other way. -/
theorem any_containers_of_substituteImage {p : Container → Bool}
    (hp : ∀ c image, p { c with image := image } = p c) {podSpec podSpec' : PodSpec}
    (h : substituteImage podSpec spec images = .ok podSpec') :
    podSpec'.containers.any p = podSpec.containers.any p := by
  cases himage : spec.image with
  | none =>
    rw [substituteImage, himage] at h
    cases h
    rfl
  | some expression =>
    obtain ⟨image, i, -, -, rfl⟩ := substituteImage_eq_ok himage h
    exact any_modify (fun c => hp c (some image)) podSpec.containers i

/-- Without patches, what is built of a pod with containers has those, but for an image, and the
metadata of a replacement. -/
theorem build_of_no_patches (hpatches : spec.patches = [])
    (h : build selected parent spec images prints = .ok pod) {podSpec : PodSpec}
    (hspec : selected.pod.spec = some podSpec) :
    ∃ selection podSpec', spec.selection = .ok selection ∧
      pod.metadata =
        replacementMeta selected.pod.metadata selection selected.container parent prints ∧
      pod.spec = some podSpec' ∧ substituteImage podSpec spec images = .ok podSpec' := by
  unfold build at h
  obtain ⟨substituted, hsubstituted, h⟩ := bind_eq_ok.mp h
  rw [hpatches, patchPod_nil] at h
  obtain ⟨patched, hpatched, h⟩ := bind_eq_ok.mp h
  cases hpatched
  obtain ⟨selection, hselection, h⟩ := bind_eq_ok.mp h
  cases h
  unfold substituteInPod at hsubstituted
  rw [hspec] at hsubstituted
  obtain ⟨podSpec', hpodSpec', hsubstituted⟩ := bind_eq_ok.mp hsubstituted
  cases hsubstituted
  refine ⟨selection, podSpec', hselection, rfl, rfl, ?_⟩
  cases hx : substituteImage podSpec spec images with
  | ok y =>
    rw [hx] at hpodSpec'
    cases hpodSpec'
    rfl
  | error err =>
    rw [hx] at hpodSpec'
    cases hpodSpec'

end Replacement

namespace Engine

variable {σ : Type} {e : Engine σ} {view : σ → Stored} {drift : Stored → Stored → Prop}

/-- What is selected in a store is in the namespace that was asked for, and has a container that was
asked for. -/
theorem selected_of_select (law : e.cluster.Stores view drift) {opts : SelectOptions}
    {r r' : Run (σ × List CallEvent)} {s : SelectedPod}
    (h : (e.noted.select opts).from r = (.ok (some s), r')) :
    s.pod.ns = opts.ns ∧ opts.matchingContainer s.pod = some s.container := by
  have hwait := law.wait_ends .caller (c := .listPods opts.ns opts.selectorText)
    (f := opts.pick) (p := ⟨opts.operation, opts.intervalMs, opts.timeoutMs⟩)
    (A := fun _ _ => True)
    (B := fun s _ _ => s.pod.ns = opts.ns ∧ opts.matchingContainer s.pod = some s.container)
    (fun _ _ _ _ _ => trivial) (fun _ _ _ _ _ hs => hs)
    (fun st pods _ _ x _ ⟨hlist, _⟩ hx => by
      obtain ⟨hmem, -, hcontainer, -⟩ := SelectOptions.pick_eq_some hx
      obtain ⟨⟨name, hname⟩, -⟩ := (hlist x.pod).mp hmem
      exact ⟨(st.pod_named hname).1, hcontainer⟩)
    (fun _ _ _ _ _ _ _ => trivial) (r := r) trivial
  have hselect : (e.noted.select opts).Ends r fun x _ => ∀ s, x = .ok (some s) →
      s.pod.ns = opts.ns ∧ opts.matchingContainer s.pod = some s.container := by
    apply hwait.tried
    intro x r₁ _ hx
    cases x with
    | ok s' =>
      refine .of_pure ?_
      intro s hs
      cases hs
      exact hx
    | error err =>
      dsimp only
      split
      · exact .of_pure fun s hs => by cases hs
      · exact .of_throw fun s hs => by cases hs
  exact hselect.result s (by rw [h])

/-- A container that was asked for in the target is asked for in what is built of it. -/
theorem isSome_matchingContainer_of_target {ns : String} {spec : Spec} {selection : Selection}
    (imgs : List String) {timeoutMs : Nat} {images : ImageResolver} {podSpec podSpec' : PodSpec}
    {target pod : Pod} (hpod : pod.spec = some podSpec')
    (hsubstitute : Replacement.substituteImage podSpec spec images = .ok podSpec')
    (hspec : target.spec = some podSpec)
    (htarget : ((e.targetOptions ns spec selection imgs).matchingContainer target).isSome = true) :
    ((e.replacementOptions ns spec selection timeoutMs).matchingContainer pod).isSome = true := by
  rw [SelectOptions.matchingContainer_eq_find? rfl hspec, List.isSome_find?] at htarget
  rw [SelectOptions.matchingContainer_eq_find? rfl hpod, List.isSome_find?]
  obtain ⟨c, hc, hwants⟩ := List.any_eq_true.mp htarget
  -- the lookup asks for the name only, and that is left alone
  have hlookup : (e.replacementOptions ns spec selection timeoutMs).wants c = true := by
    have hnamed := (Bool.and_eq_true_iff.mp hwants).1
    unfold SelectOptions.wants
    rw [Bool.and_eq_true]
    exact ⟨hnamed, rfl⟩
  have hkept := Replacement.any_containers_of_substituteImage
    (p := (e.replacementOptions ns spec selection timeoutMs).wants) (fun _ _ => rfl) hsubstitute
  rw [hkept]
  exact List.any_eq_true.mpr ⟨c, hc, hlookup⟩

/-- Exactly when a replacement that was built without patches is found again by its spec: if every
label that the spec selects by is one of the target's and none by which controllers claim pods. The
target has the labels that it was selected by, unless the text of one reads as several terms. -/
theorem found_again_iff (law : e.cluster.Stores view drift) {ns : String} {spec : Spec}
    {selection : Selection} (hselection : spec.selection = .ok selection)
    (hpatches : spec.patches = [])
    (hkeys : ∀ labels, selection = .labels labels → labels.get? Marker.replaced = none)
    {imgs : List String} {r r' : Run (σ × List CallEvent)} {target : SelectedPod}
    (htarget : (e.noted.select (e.targetOptions ns spec selection imgs)).from r =
      (.ok (some target), r'))
    {parent : Workload} {prints : Fingerprints} {pod : Pod}
    (hbuild : Replacement.build target parent spec e.images prints = .ok pod)
    {lookup : SelectOptions} {timeoutMs : Nat}
    (hlookup : lookup = e.replacementOptions ns spec selection timeoutMs) :
    ((∀ k v, lookup.labels.get? k = some v → pod.metadata.labelTable.get? k = some v) ∧
        pod.ns = lookup.ns ∧ (lookup.matchingContainer pod).isSome = true) ↔
      ∀ labels, selection = .labels labels → ∀ k v, labels.get? k = some v →
        k ∉ Marker.controllerLabels ∧ target.pod.metadata.labelTable.get? k = some v := by
  obtain ⟨hns, hcontainer⟩ := selected_of_select law htarget
  cases hspec : target.pod.spec with
  | none =>
    rw [SelectOptions.matchingContainer, hspec] at hcontainer
    cases hcontainer
  | some podSpec =>
    obtain ⟨selection', podSpec', hselection', hmeta, hpod, hsubstitute⟩ :=
      Replacement.build_of_no_patches hpatches hbuild hspec
    have hsame : selection' = selection := Except.ok.inj (hselection'.symm.trans hselection)
    subst hsame hlookup
    have hpodns : pod.ns = target.pod.ns := by
      rw [Resource.ns, hmeta]
      rfl
    have hlabels : ∀ k, pod.metadata.labelTable.get? k =
        (Replacement.replacementLabels target.pod.metadata.labelTable selection').get? k := by
      intro k
      rw [hmeta]
      rfl
    have hthere : ((e.replacementOptions ns spec selection'
        timeoutMs).matchingContainer pod).isSome = true := by
      apply isSome_matchingContainer_of_target imgs hpod hsubstitute hspec
      rw [hcontainer]
      rfl
    rw [← replacementLookup_subset_iff hkeys]
    simp only [hlabels]
    exact and_iff_left ⟨hpodns.trans hns, hthere⟩

end Engine

end

namespace Slot

/-- The pod of the stateful set with its container. -/
def selectedTarget : SelectedPod := ⟨target, { name := "main" }⟩

/-- The options by which the cluster's pod is selected afresh. -/
def targetOptions (selector : SortedMap String) : SelectOptions :=
  (engine fun _ => false).targetOptions key.ns (spec selector) (.labels selector) []

/-- The options by which its replacement is looked for. -/
def lookupOptions (selector : SortedMap String) : SelectOptions :=
  (engine fun _ => false).replacementOptions key.ns (spec selector) (.labels selector) 0

theorem targetOptions_timeout (selector : SortedMap String) :
    (targetOptions selector).timeoutMs = 0 :=
  Nat.zero_mul _

/-- The replacement of the selected pod for a spec that selects by labels. -/
def built (selector : SortedMap String) : Except Error Pod :=
  Replacement.build selectedTarget (.statefulSet {}) (spec selector)
    (engine fun _ => false).images ⟨"", ""⟩

/-- The pod of the stateful set is selected by labels of its own, and by one that the controller put
on it as well. -/
theorem select_target :
    (((engine fun _ => false).noted.select (targetOptions selector)).from
        (begin { pod := some target }).unnoted).1 = .ok (some selectedTarget) ∧
      (((engine fun _ => false).noted.select (targetOptions labels)).from
        (begin { pod := some target }).unnoted).1 = .ok (some selectedTarget) := by
  simp only [Engine.select, Poll.wait_eq_once, targetOptions_timeout]
  decide +kernel

/-- A replacement that was selected by a label of the pod's own is found again. -/
theorem found_again_by_own_label : ∃ pod, built selector = .ok pod ∧
    ∀ k v, (Engine.replacementLookup (.labels selector)).get? k = some v →
      pod.metadata.labelTable.get? k = some v := by
  refine ⟨_, rfl, ?_⟩
  have hkeys : ∀ labels, Selection.labels selector = .labels labels →
      labels.get? Marker.replaced = none := by
    rintro _ ⟨⟩
    decide +kernel
  have hselected : ((engine fun _ => false).noted.select (targetOptions selector)).from
      (begin { pod := some target }).unnoted = (.ok (some selectedTarget), _) :=
    Prod.ext select_target.1 rfl
  have hbuilt : built selector = .ok _ := rfl
  have hlookup : lookupOptions selector =
      (engine fun _ => false).replacementOptions key.ns (spec selector) (.labels selector) 0 := rfl
  refine ((Engine.found_again_iff (engine_stores fun _ => false) rfl rfl hkeys hselected hbuilt
    hlookup).mpr ?_).1
  rintro _ ⟨⟩ k v hk
  rw [selector, SortedMap.get?_insert] at hk
  split at hk
  · rename_i hkey
    cases hk
    subst hkey
    decide +kernel
  · cases hk

/-- A replacement that was selected by a label of a controller's is not found again. -/
theorem not_found_again_by_controller_label :
    (((engine fun _ => false).noted.select (targetOptions labels)).from
        (begin { pod := some target }).unnoted).1 = .ok (some selectedTarget) ∧
      ∃ pod, built labels = .ok pod ∧
        ¬ ∀ k v, (Engine.replacementLookup (.labels labels)).get? k = some v →
          pod.metadata.labelTable.get? k = some v := by
  refine ⟨select_target.2, _, rfl, fun h => ?_⟩
  have hasked : (Engine.replacementLookup (.labels labels)).get? "pod-template-hash" =
      some "5d4" := by decide +kernel
  have hkept := h _ _ hasked
  revert hkept
  decide +kernel

end Slot

end PodSwap
