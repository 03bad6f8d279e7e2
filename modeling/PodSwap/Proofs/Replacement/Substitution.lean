import PodSwap.Fingerprint
import PodSwap.Proofs.Object.Told

/-!
# What a substituted image changes

A spec with an image expression puts the image into one container and leaves the rest of the
template alone, its metadata too. So of two templates that are the same once the images are put
into them, the rest is the same, and if the images went to the same place then so are they.

Main statements: `sameBut_of_substituted` and `replacement_eq_of_substituted`.
-/

namespace PodSwap

variable [Schema]

/-- Whether a container runs an image that is asked for. -/
def Container.runs (selector : String) (c : Container) : Bool :=
  c.image.any (Image.matches? selector)

namespace Replacement

variable {containers : List Container} {spec : Spec} {images : ImageResolver}

/-- Where the image goes for a spec that selects by labels: to the only container, or to the one
with the name that the spec has. -/
theorem substitutedIndex_labels {labels : SortedMap String} {i : Nat}
    (hselection : spec.selection = .ok (.labels labels))
    (h : substitutedIndex containers spec images = .ok i) :
    (containers.length = 1 ∧ i = 0) ∨
      ∃ name, spec.container = some name ∧
        containers.findIdx? (fun c => c.name = name) = some i := by
  unfold substitutedIndex at h
  rw [hselection] at h
  change (if containers.length = 1 then _ else _) = _ at h
  split at h
  · rename_i hone
    cases h
    exact .inl ⟨hone, rfl⟩
  · split at h
    · cases h
    · rename_i name hname
      split at h
      · cases h
        exact .inr ⟨name, hname, ‹_›⟩
      · cases h

/-- Where the image goes for a spec that selects by an image, which has to be one: to the only
container, or to the first that runs it. -/
theorem substitutedIndex_imageName {name : String} {i : Nat}
    (hselection : spec.selection = .ok (.imageName name))
    (h : substitutedIndex containers spec images = .ok i) :
    ∃ selector, images.selectors name = .ok [selector] ∧
      ((containers.length = 1 ∧ i = 0) ∨
        containers.findIdx? (Container.runs selector) = some i) := by
  unfold substitutedIndex at h
  rw [hselection] at h
  change (images.selectors name >>= _) = _ at h
  obtain ⟨selectors, hselectors, h⟩ := bind_eq_ok.mp h
  split at h
  · rename_i selector
    refine ⟨selector, hselectors, ?_⟩
    split at h
    · rename_i hone
      cases h
      exact .inl ⟨hone, rfl⟩
    · dsimp only at h
      split at h
      · rename_i j hj
        cases h
        refine .inr ?_
        rw [← hj]
        congr 1
        funext c
        cases hc : c.image <;> simp [Container.runs, hc]
      · cases h
  · cases h

/-- The place of the container whose image is substituted is that of one. -/
theorem substitutedIndex_lt {i : Nat} (h : substitutedIndex containers spec images = .ok i) :
    i < containers.length := by
  have hfound : ∀ p : Container → Bool, containers.findIdx? p = some i → i < containers.length :=
    fun p hp => (List.findIdx?_eq_some_iff_getElem.mp hp).1
  obtain ⟨selection, hselection, -⟩ := bind_eq_ok.mp h
  cases selection with
  | labels labels =>
    rcases substitutedIndex_labels hselection h with ⟨hone, rfl⟩ | ⟨name, -, hname⟩
    · omega
    · exact hfound _ hname
  | imageName name =>
    obtain ⟨selector, -, ⟨hone, rfl⟩ | hfirst⟩ := substitutedIndex_imageName hselection h
    · omega
    · exact hfound _ hfirst

/-- The containers of a substituted specification are those of the pod but for one image. -/
theorem substituteImage_eq_ok {pod pod' : PodSpec} {expression : String}
    (hspec : spec.image = some expression) (h : substituteImage pod spec images = .ok pod') :
    ∃ image i, images.replacement expression = .ok image ∧
      substitutedIndex pod.containers spec images = .ok i ∧
      pod' = { pod with
        containers := pod.containers.modify i fun c => { c with image := some image } } := by
  unfold substituteImage at h
  rw [hspec] at h
  obtain ⟨image, himage, h⟩ := bind_eq_ok.mp h
  split at h
  · cases h
  · obtain ⟨i, hi, h⟩ := bind_eq_ok.mp h
    cases h
    exact ⟨image, i, himage, hi, rfl⟩

end Replacement

/-- The specification without the images of the containers at some places. -/
def PodSpec.withoutImages (places : List Nat) (s : PodSpec) : PodSpec :=
  { s with
    containers := s.containers.mapIdx fun i c =>
      if i ∈ places then { c with image := none } else c }

/-- The template without the images of the containers at some places. -/
def PodTemplate.withoutImages (places : List Nat) (t : PodTemplate) : PodTemplate :=
  { t with spec := t.spec.map (PodSpec.withoutImages places) }

/-- Whether templates are the same but for fractions of seconds and for the images of the containers
at some places. -/
def PodTemplate.SameBut (places : List Nat) (t u : PodTemplate) : Prop :=
  (wholeSeconds t).withoutImages places = (wholeSeconds u).withoutImages places

theorem PodSpec.withoutImages_modify {places : List Nat} {i : Nat} (hi : i ∈ places)
    (image : Option String) (s : PodSpec) :
    withoutImages places { s with
      containers := s.containers.modify i fun c => { c with image := image } } =
        s.withoutImages places := by
  simp only [withoutImages, PodSpec.mk.injEq, and_true]
  refine List.ext_getElem? fun j => ?_
  rw [List.getElem?_mapIdx, List.getElem?_mapIdx, List.getElem?_modify]
  by_cases hj : i = j
  · subst hj
    cases s.containers[i]? <;> simp [hi]
  · simp [hj]

/-- Leaving out images leaves alone the times. -/
theorem PodSpec.withoutImages_wholeSeconds (places : List Nat) (s : PodSpec) :
    (wholeSeconds s).withoutImages places = wholeSeconds (s.withoutImages places) := by
  obtain ⟨containers, initContainers, others⟩ := s
  show PodSpec.mk ((containers.map wholeSeconds).mapIdx _) _ _ =
    PodSpec.mk ((containers.mapIdx _).map wholeSeconds) _ _
  congr 1
  refine List.ext_getElem? fun i => ?_
  simp only [List.getElem?_map, List.getElem?_mapIdx, Option.map_map]
  refine congrArg (Option.map · containers[i]?) (funext fun c => ?_)
  by_cases hi : i ∈ places
  · simp only [Function.comp_apply, if_pos hi]
    rfl
  · simp only [Function.comp_apply, if_neg hi]

theorem PodTemplate.withoutImages_wholeSeconds (places : List Nat) (t : PodTemplate) :
    (wholeSeconds t).withoutImages places = wholeSeconds (t.withoutImages places) := by
  obtain ⟨metadata, spec⟩ := t
  cases spec with
  | none => rfl
  | some s =>
    exact congrArg (fun s => PodTemplate.mk _ (some s)) (s.withoutImages_wholeSeconds places)

theorem Container.wholeSeconds_eq (c : Container) :
    wholeSeconds c = { c with others := wholeSeconds c.others } := by
  show Container.mk (wholeSeconds c.name) (wholeSeconds c.image) _ = _
  simp only [PodSwap.wholeSeconds_eq]

/-- An image that is put into a container leaves alone the times. -/
theorem PodSpec.wholeSeconds_modify (s : PodSpec) (i : Nat) (image : Option String) :
    wholeSeconds { s with containers := s.containers.modify i fun c => { c with image := image } } =
      { wholeSeconds s with
        containers := (wholeSeconds s).containers.modify i
          fun c => { c with image := image } } := by
  obtain ⟨containers, initContainers, others⟩ := s
  show PodSpec.mk ((containers.modify i _).map wholeSeconds) _ _ =
    PodSpec.mk ((containers.map wholeSeconds).modify i _) _ _
  congr 1
  refine List.ext_getElem? fun j => ?_
  simp only [List.getElem?_map, List.getElem?_modify, Option.map_eq_map, Option.map_map]
  refine congrArg (Option.map · containers[j]?) (funext fun c => ?_)
  by_cases hj : i = j <;> simp [hj, Container.wholeSeconds_eq]

/-- Times of the calendar stay so where an image is put into a container. -/
theorem PodSpec.dated_modify {s : PodSpec} (h : Dated s) (i : Nat) (image : Option String) :
    Dated { s with containers := s.containers.modify i fun c => { c with image := image } } := by
  refine ⟨fun c hc => ?_, h.2⟩
  obtain ⟨j, hj⟩ := List.mem_iff_getElem?.mp hc
  have hj : (s.containers.modify i _)[j]? = some c := hj
  rw [List.getElem?_modify] at hj
  obtain ⟨c₀, hc₀, rfl⟩ := Option.map_eq_some_iff.mp hj
  have hdated : Dated c₀ := h.1 c₀ (List.mem_of_getElem? hc₀)
  split
  · exact ⟨trivial, fun _ _ => trivial, hdated.2.2⟩
  · exact hdated

namespace Fingerprint

variable {w : Workload} {spec : Spec} {images : ImageResolver} {u : PodTemplate}

/-- The place of the container that a spec puts an image into, if it does. -/
def place (w : Workload) (spec : Spec) (images : ImageResolver) : Option Nat :=
  if spec.image.isSome then
    (Replacement.substitutedIndex ((w.podTemplate.getD {}).spec.getD {}).containers spec
      images).toOption
  else none

/-- What is made of a template where an image is put into it. -/
theorem substitutedTemplate_eq_ok {expression : String} (hspec : spec.image = some expression)
    (h : substitutedTemplate w spec images = .ok u) :
    ∃ podSpec image i, (w.podTemplate.getD {}).spec = some podSpec ∧
      images.replacement expression = .ok image ∧ place w spec images = some i ∧
      i < podSpec.containers.length ∧
      u = { w.podTemplate.getD {} with spec := some { podSpec with
        containers := podSpec.containers.modify i fun c => { c with image := some image } } } := by
  unfold substitutedTemplate at h
  rw [hspec] at h
  obtain ⟨podSpec', hsubstituted, h⟩ := bind_eq_ok.mp h
  cases h
  obtain ⟨image, i, himage, hi, rfl⟩ := Replacement.substituteImage_eq_ok hspec hsubstituted
  have hlt := Replacement.substitutedIndex_lt hi
  have hplace : place w spec images = some i := by
    rw [place, hspec, hi]
    rfl
  cases hpod : (w.podTemplate.getD {}).spec with
  | none =>
    rw [hpod] at hlt
    cases hlt
  | some podSpec =>
    rw [hpod] at hlt
    exact ⟨podSpec, image, i, rfl, himage, hplace, hlt, rfl⟩

theorem substitutedTemplate_of_no_image (hspec : spec.image = none) :
    substitutedTemplate w spec images = .ok (w.podTemplate.getD {}) := by
  unfold substitutedTemplate
  rw [hspec]
  rfl

/-- Nothing enters but the template of the workload. -/
theorem substitutedTemplate_congr {w' : Workload}
    (h : w.podTemplate.getD {} = w'.podTemplate.getD {}) :
    substitutedTemplate w spec images = substitutedTemplate w' spec images := by
  unfold substitutedTemplate
  rw [h]

/-- The times of the template are left alone. -/
theorem dated_of_substituted (hw : Dated (w.podTemplate.getD {}))
    (h : substitutedTemplate w spec images = .ok u) : Dated u := by
  cases hspec : spec.image with
  | none =>
    rw [substitutedTemplate_of_no_image hspec] at h
    cases h
    exact hw
  | some expression =>
    obtain ⟨podSpec, image, i, hpod, -, -, -, rfl⟩ := substitutedTemplate_eq_ok hspec h
    refine ⟨hw.1, fun s hs => ?_⟩
    obtain rfl := Option.mem_some.mp hs
    exact PodSpec.dated_modify (hw.2 podSpec hpod) i (some image)

/-- All is left alone but the image of the container at the place. -/
theorem withoutImages_of_substituted (h : substitutedTemplate w spec images = .ok u)
    {places : List Nat} (hplaces : ∀ i ∈ place w spec images, i ∈ places) :
    u.withoutImages places = (w.podTemplate.getD {}).withoutImages places := by
  cases hspec : spec.image with
  | none =>
    rw [substitutedTemplate_of_no_image hspec] at h
    cases h
    rfl
  | some expression =>
    obtain ⟨podSpec, image, i, hpod, -, hi, -, rfl⟩ := substitutedTemplate_eq_ok hspec h
    simp only [PodTemplate.withoutImages, PodTemplate.mk.injEq, true_and, hpod, Option.map_some,
      Option.some.injEq]
    exact PodSpec.withoutImages_modify (hplaces i hi) _ _

section

variable {w' : Workload} {images' : ImageResolver} {u' : PodTemplate}
  (h : substitutedTemplate w spec images = .ok u)
  (h' : substitutedTemplate w' spec images' = .ok u')

include h h'

/-- Templates that are the same, up to fractions of seconds, once images are put into them are the
same but for the images that were there. -/
theorem sameBut_of_substituted (hsame : wholeSeconds u = wholeSeconds u') :
    PodTemplate.SameBut ((place w spec images).toList ++ (place w' spec images').toList)
      (w.podTemplate.getD {}) (w'.podTemplate.getD {}) := by
  generalize hplaces : (place w spec images).toList ++ (place w' spec images').toList = places
  have hleft : u.withoutImages places = (w.podTemplate.getD {}).withoutImages places :=
    withoutImages_of_substituted h fun i hi =>
      hplaces ▸ List.mem_append_left _ (Option.mem_toList.mpr hi)
  have hright : u'.withoutImages places = (w'.podTemplate.getD {}).withoutImages places :=
    withoutImages_of_substituted h' fun i hi =>
      hplaces ▸ List.mem_append_right _ (Option.mem_toList.mpr hi)
  unfold PodTemplate.SameBut
  rw [PodTemplate.withoutImages_wholeSeconds, PodTemplate.withoutImages_wholeSeconds, ← hleft,
    ← hright, ← PodTemplate.withoutImages_wholeSeconds, ← PodTemplate.withoutImages_wholeSeconds,
    hsame]

/-- Where templates are the same, up to fractions of seconds, once images are put into them at the
same place, the images are the same. -/
theorem replacement_eq_of_substituted (hsame : wholeSeconds u = wholeSeconds u')
    (hplace : place w spec images = place w' spec images') :
    spec.image.map images.replacement = spec.image.map images'.replacement := by
  cases hspec : spec.image with
  | none => rfl
  | some expression =>
    obtain ⟨podSpec, image, i, -, himage, hi, hlt, rfl⟩ := substitutedTemplate_eq_ok hspec h
    obtain ⟨podSpec', image', i', -, himage', hi', hlt', rfl⟩ := substitutedTemplate_eq_ok hspec h'
    rw [hi, hi', Option.some.injEq] at hplace
    subst hplace
    have hcontainers := congrArg (fun t => t.spec.map (·.containers)) hsame
    have hat : ((podSpec.containers.modify i _).map wholeSeconds)[i]?.map (·.image) =
        ((podSpec'.containers.modify i _).map wholeSeconds)[i]?.map (·.image) :=
      congrArg (·[i]?.map (·.image)) (Option.some.inj hcontainers)
    simp only [List.getElem?_map, List.getElem?_modify_eq, List.getElem?_eq_getElem hlt,
      List.getElem?_eq_getElem hlt', Option.map_eq_map, Option.map_some] at hat
    have hboth : some image = some image' := Option.some.inj hat
    rw [Option.map_some, Option.map_some, himage, himage', Option.some.inj hboth]

end

end Fingerprint

end PodSwap
