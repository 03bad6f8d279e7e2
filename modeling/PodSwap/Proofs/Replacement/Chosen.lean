import PodSwap.Proofs.Engine.Slot
import PodSwap.Proofs.Replacement.Marks
import PodSwap.Proofs.Replacement.Substitution

/-!
# The container that gets the image

The container of a pod is chosen twice. The selection takes the first that has the name and runs one
of the images that are asked for, and that one is recorded on the replacement. The substitution goes
by the name for a spec that selects by labels, but only by the image for one that selects by an
image. So the image goes to the selected container, unless the spec selects by an image and names a
container that is not the first to run it.

Main statement: `substituted_is_selected_iff`.
-/

namespace PodSwap

section

variable [Schema]

namespace Replacement

/-- Containers with names of their own, of which one is changed, are told by its name. -/
theorem modify_eq_map {containers : List Container} (f : Container → Container)
    (hnames : (containers.map (·.name)).Nodup) {i : Nat} {s : Container}
    (hi : containers[i]? = some s) :
    containers.modify i f = containers.map fun c => if c.name = s.name then f c else c := by
  refine List.ext_getElem? fun j => ?_
  rw [List.getElem?_modify, List.getElem?_map]
  by_cases hj : i = j
  · subst hj
    simp [hi]
  · cases hc : containers[j]? with
    | none => rfl
    | some c =>
      have hne : c.name ≠ s.name := by
        intro heq
        have hlt := (List.getElem?_eq_some_iff.mp hi).1
        refine hj ((List.getElem?_inj (by simpa using hlt) hnames).mp ?_)
        rw [List.getElem?_map, List.getElem?_map, hi, hc]
        exact congrArg some heq.symm
      simp [hj, hne]

end Replacement

namespace Engine

variable {σ : Type} {e : Engine σ}

/-- The options by which a fresh pod is found, whatever its container is called. -/
def unnamedOptions (e : Engine σ) (ns : String) (spec : Spec) (selection : Selection)
    (images : List String) : SelectOptions :=
  { e.targetOptions ns spec selection images with containerName := none }

section

variable {ns : String} {spec : Spec} {imgs : List String} {pod : Pod} {podSpec : PodSpec}
  {c : Container} (hpod : pod.spec = some podSpec)

include hpod

/-- For a spec that selects by labels, the image goes to the container that was selected. -/
theorem getElem?_substitutedIndex_labels {labels : SortedMap String}
    (hselection : spec.selection = .ok (.labels labels))
    (hc : (e.targetOptions ns spec (.labels labels) []).matchingContainer pod = some c) {i : Nat}
    (hi : Replacement.substitutedIndex podSpec.containers spec e.images = .ok i) :
    podSpec.containers[i]? = some c := by
  rw [SelectOptions.matchingContainer_eq_find? rfl hpod] at hc
  rcases Replacement.substitutedIndex_labels hselection hi with ⟨hone, rfl⟩ | ⟨name, hname, hj⟩
  · obtain ⟨x, hx⟩ := List.length_eq_one_iff.mp hone
    rw [hx] at hc ⊢
    rw [List.mem_singleton.mp (List.mem_of_find?_eq_some hc)]
    rfl
  · have hwants : (e.targetOptions ns spec (.labels labels) []).wants =
        fun x => decide (x.name = name) := by
      funext x
      simp [SelectOptions.wants, targetOptions, hname]
    rw [hwants, List.find?_eq_bind_findIdx?_getElem?, hj] at hc
    exact hc

/-- For a spec that selects by an image, the image goes to the container that is selected whatever
it is called. -/
theorem getElem?_substitutedIndex_imageName {name : String}
    (hselection : spec.selection = .ok (.imageName name))
    (himages : e.images.selectors name = .ok imgs)
    (hc : (e.targetOptions ns spec (.imageName name) imgs).matchingContainer pod = some c) {i : Nat}
    (hi : Replacement.substitutedIndex podSpec.containers spec e.images = .ok i) :
    podSpec.containers[i]? =
      (e.unnamedOptions ns spec (.imageName name) imgs).matchingContainer pod := by
  obtain ⟨selector, hselector, hplace⟩ := Replacement.substitutedIndex_imageName hselection hi
  obtain rfl : imgs = [selector] := Except.ok.inj (himages.symm.trans hselector)
  have hruns : (e.unnamedOptions ns spec (.imageName name) [selector]).wants =
      Container.runs selector := by
    funext x
    cases hx : x.image <;>
      simp [SelectOptions.wants, unnamedOptions, targetOptions, Container.runs, hx]
  rw [SelectOptions.matchingContainer_eq_find? rfl hpod] at hc
  rw [SelectOptions.matchingContainer_eq_find? rfl hpod, hruns]
  rcases hplace with ⟨hone, rfl⟩ | hfirst
  · -- the only container is the selected one, which runs the image
    obtain ⟨x, hx⟩ := List.length_eq_one_iff.mp hone
    rw [hx] at hc ⊢
    obtain rfl := List.mem_singleton.mp (List.mem_of_find?_eq_some hc)
    have hwants : (e.targetOptions ns spec (.imageName name) [selector]).wants c = true :=
      List.find?_some hc
    have hc : Container.runs selector c = true := by
      rw [← hruns]
      exact (Bool.and_eq_true_iff.mp hwants).2
    rw [List.find?_cons, hc]
    rfl
  · rw [List.find?_eq_bind_findIdx?_getElem?, hfirst]
    rfl

end

/-- The image of a spec goes to one container, whose name tells it from the others, and nothing else
of the pod's specification is changed. For a spec that selects by labels, it is the container that
was selected. For one that selects by an image, it is the first that runs the image, whatever name
the spec has for it; so it is the one that was selected exactly if that is the first. What is built
of the pod records the one that was selected, either way. -/
theorem substituted_is_selected_iff {ns : String} {spec : Spec} {selection : Selection}
    (hselection : spec.selection = .ok selection) {expression : String}
    (hexpression : spec.image = some expression) {imgs : List String}
    (himages : e.selectedImages selection = .ok imgs) {pod : Pod} {podSpec podSpec' : PodSpec}
    (hpod : pod.spec = some podSpec) (hnames : (podSpec.containers.map (·.name)).Nodup)
    {c : Container}
    (hc : (e.targetOptions ns spec selection imgs).matchingContainer pod = some c)
    (hsubstitute : Replacement.substituteImage podSpec spec e.images = .ok podSpec') :
    ∃ image s, e.images.replacement expression = .ok image ∧ s ∈ podSpec.containers ∧
      podSpec' = { podSpec with
        containers := podSpec.containers.map fun x =>
          if x.name = s.name then { x with image := some image } else x } ∧
      (∀ name, selection = .imageName name →
        (e.unnamedOptions ns spec selection imgs).matchingContainer pod = some s) ∧
      (s = c ↔ (∃ labels, selection = .labels labels) ∨
        (e.unnamedOptions ns spec selection imgs).matchingContainer pod = some c) ∧
      ∀ parent prints replacement,
        Replacement.build ⟨pod, c⟩ parent spec e.images prints = .ok replacement →
        replacement.metadata.annotationAt Marker.container = some c.name := by
  obtain ⟨image, i, himage, hi, rfl⟩ := Replacement.substituteImage_eq_ok hexpression hsubstitute
  have hlt := Replacement.substitutedIndex_lt hi
  have hs := List.getElem?_eq_getElem hlt
  refine ⟨image, podSpec.containers[i], himage, List.getElem_mem hlt, ?_, ?_, ?_,
    fun _ _ _ hbuild => Replacement.container_of_build hbuild⟩
  · rw [Replacement.modify_eq_map _ hnames hs]
  · rintro name rfl
    rw [← hs, getElem?_substitutedIndex_imageName hpod hselection himages hc hi]
  · cases selection with
    | labels labels =>
      cases himages
      have hat := getElem?_substitutedIndex_labels hpod hselection hc hi
      exact iff_of_true (Option.some.inj (hs.symm.trans hat)) (.inl ⟨labels, rfl⟩)
    | imageName name =>
      rw [← getElem?_substitutedIndex_imageName hpod hselection himages hc hi, hs]
      simp

end Engine

end

namespace Slot

/-- The specification of a pod with two containers that run one image. -/
def twins : PodSpec where
  containers := [{ name := "a", image := some "team/web:1" },
    { name := "b", image := some "team/web:1" }]

/-- The pod. -/
def twinPod : Pod := { metadata := { name := some "web-0", ns := some key.ns }, spec := some twins }

/-- A spec that selects by labels and names the second container. -/
def byLabels : Spec where
  labelSelector := some selector
  containerName := some "b"
  replaceImage := some "team/web:2"

/-- A spec that selects by the image and names the second container. -/
def byImage : Spec where
  imageName := some "team/web:1"
  containerName := some "b"
  replaceImage := some "team/web:2"

/-- The names of containers with what they run. -/
def running (s : PodSpec) : List (String × Option String) :=
  s.containers.map fun c => (c.name, c.image)

/-- A container that is named goes by its name for a spec that selects by labels. -/
theorem named_container_by_labels : ∃ podSpec,
    Replacement.substituteImage twins byLabels (engine fun _ => false).images = .ok podSpec ∧
      running podSpec = [("a", some "team/web:1"), ("b", some "team/web:2")] := by
  obtain ⟨podSpec, hpodSpec⟩ : ∃ podSpec, Replacement.substituteImage twins byLabels
      (engine fun _ => false).images = .ok podSpec := ⟨_, rfl⟩
  have hc : ((engine fun _ => false).targetOptions key.ns byLabels (.labels selector)
      []).matchingContainer twinPod = some { name := "b", image := some "team/web:1" } := rfl
  obtain ⟨image, s, himage, -, hsubstituted, -, hchosen, -⟩ :=
    Engine.substituted_is_selected_iff rfl rfl rfl rfl (by decide) hc hpodSpec
  cases himage
  rw [hchosen.mpr (.inl ⟨_, rfl⟩)] at hsubstituted
  exact ⟨podSpec, hpodSpec, by rw [hsubstituted]; rfl⟩

/-- The container that is named is selected and recorded, but the image goes to the other, for a
spec that selects by the image of both. -/
theorem other_container_by_image : ∃ c podSpec replacement,
    (twins.containers.map (·.name)).Nodup ∧ byImage.selection = .ok (.imageName "team/web:1") ∧
    ((engine fun _ => false).targetOptions key.ns byImage (.imageName "team/web:1")
      ["team/web:1"]).matchingContainer twinPod = some c ∧ c.name = "b" ∧
    Replacement.substituteImage twins byImage (engine fun _ => false).images = .ok podSpec ∧
    running podSpec = [("a", some "team/web:2"), ("b", some "team/web:1")] ∧
    Replacement.build ⟨twinPod, c⟩ (.statefulSet {}) byImage (engine fun _ => false).images
      ⟨"", ""⟩ = .ok replacement ∧
    replacement.spec = some podSpec ∧
    replacement.metadata.annotationAt Marker.container = some "b" := by
  refine ⟨{ name := "b", image := some "team/web:1" }, _, _, by decide, rfl, ?_, rfl, rfl, ?_, rfl,
    ?_, ?_⟩
  all_goals decide +kernel

end Slot

end PodSwap
