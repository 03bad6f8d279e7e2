import Mathlib.Data.List.Nodup
import PodSwap.Selection

/-!
# The pod that is picked

Pods are in a total order by age and name, so the pod that is picked from a list is the least of
those that fit, and which it is does not depend on the order of the list.

Main statements: what is picked fits and comes before all others that fit (`pick_eq_some`), and
nothing is picked only where nothing fits (`pick_eq_none`). Two pods neither of which comes before
the other have the same name (`name_of_podLe`). Of pods with names of their own, what is picked is
the one that is first by age and name (`pick_eq_some_iff`), in whatever order they are listed
(`pick_eq_of_perm`).
-/

namespace PodSwap

/-! ## The order of pods -/

theorem Timestamp.before_iff {a b : Timestamp} :
    a.before b = true ↔
      a.seconds < b.seconds ∨ (a.seconds = b.seconds ∧ a.nanos < b.nanos) := by
  simp [Timestamp.before]

theorem Timestamp.eq_of_not_before {a b : Timestamp} (h : ¬ a.before b = true)
    (h' : ¬ b.before a = true) : a = b := by
  rw [Timestamp.before_iff] at h h'
  obtain ⟨s, n⟩ := a
  obtain ⟨s', n'⟩ := b
  simp only [Timestamp.mk.injEq] at *
  omega

theorem not_newer_self (s : Option Timestamp) : newer s s = false := by
  cases s with
  | none => rfl
  | some t =>
    show t.before t = false
    simp [Timestamp.before]

theorem newer_trans {a b c : Option Timestamp} (h : newer a b = true) (h' : newer b c = true) :
    newer a c = true := by
  cases a with
  | none => cases h
  | some a =>
    cases c with
    | none => rfl
    | some c =>
      cases b with
      | none => cases h'
      | some b =>
        simp only [newer, Timestamp.before_iff] at h h' ⊢
        omega

theorem eq_of_not_newer {a b : Option Timestamp} (h : ¬ newer a b = true)
    (h' : ¬ newer b a = true) : a = b := by
  cases a with
  | none =>
    cases b with
    | none => rfl
    | some b => exact absurd rfl h'
  | some a =>
    cases b with
    | none => exact absurd rfl h
    | some b => rw [Timestamp.eq_of_not_before h' h]

theorem nameLe_total (a b : Option String) : nameLe a b = true ∨ nameLe b a = true := by
  cases a with
  | none => exact .inl rfl
  | some a =>
    cases b with
    | none => exact .inr rfl
    | some b =>
      by_cases h : Before b a
      · have h' : ¬ Before a b := fun hab => not_before_self a (before_trans hab h)
        exact .inr (by simpa [nameLe] using h')
      · exact .inl (by simpa [nameLe] using h)

theorem nameLe_trans {a b c : Option String} (h : nameLe a b = true) (h' : nameLe b c = true) :
    nameLe a c = true := by
  cases a with
  | none => rfl
  | some a =>
    cases b with
    | none => cases h
    | some b =>
      cases c with
      | none => cases h'
      | some c =>
        simp only [nameLe, Bool.not_eq_true', decide_eq_false_iff_not] at h h' ⊢
        intro hca
        by_cases hab : Before a b
        · exact h' (before_trans hca hab)
        · exact h' (eq_of_not_before hab h ▸ hca)

theorem nameLe_antisymm {a b : Option String} (h : nameLe a b = true) (h' : nameLe b a = true) :
    a = b := by
  cases a with
  | none =>
    cases b with
    | none => rfl
    | some b => cases h'
  | some a =>
    cases b with
    | none => cases h
    | some b =>
      simp only [nameLe, Bool.not_eq_true', decide_eq_false_iff_not] at h h'
      rw [eq_of_not_before h' h]

variable [Schema]

/-- A pod comes no later than another if it is newer, or of the same age with a name no greater. -/
theorem podLe_iff {a b : Pod} :
    podLe a b = true ↔
      newer a.metadata.creationTimestamp b.metadata.creationTimestamp = true ∨
        (a.metadata.creationTimestamp = b.metadata.creationTimestamp ∧
          nameLe a.metadata.name b.metadata.name = true) := by
  unfold podLe
  simp only [Bool.or_eq_true, Bool.and_eq_true, Bool.not_eq_true']
  constructor
  · rintro (h | ⟨h, hname⟩)
    · exact .inl h
    · by_cases hab :
        newer a.metadata.creationTimestamp b.metadata.creationTimestamp = true
      · exact .inl hab
      · exact .inr ⟨eq_of_not_newer hab (by simpa using h), hname⟩
  · rintro (h | ⟨h, hname⟩)
    · exact .inl h
    · exact .inr ⟨by rw [h]; exact not_newer_self _, hname⟩

theorem podLe_total (a b : Pod) : (podLe a b || podLe b a) = true := by
  rw [Bool.or_eq_true, podLe_iff, podLe_iff]
  by_cases h : newer a.metadata.creationTimestamp b.metadata.creationTimestamp = true
  · exact .inl (.inl h)
  · by_cases h' : newer b.metadata.creationTimestamp a.metadata.creationTimestamp = true
    · exact .inr (.inl h')
    · have heq := eq_of_not_newer h h'
      rcases nameLe_total a.metadata.name b.metadata.name with hname | hname
      · exact .inl (.inr ⟨heq, hname⟩)
      · exact .inr (.inr ⟨heq.symm, hname⟩)

theorem podLe_trans (a b c : Pod) (h : podLe a b = true) (h' : podLe b c = true) :
    podLe a c = true := by
  rw [podLe_iff] at h h' ⊢
  rcases h with h | ⟨heq, hname⟩
  · rcases h' with h' | ⟨heq', -⟩
    · exact .inl (newer_trans h h')
    · exact .inl (heq' ▸ h)
  · rcases h' with h' | ⟨heq', hname'⟩
    · exact .inl (heq ▸ h')
    · exact .inr ⟨heq.trans heq', nameLe_trans hname hname'⟩

/-- Two pods neither of which comes before the other have the same name. -/
theorem name_of_podLe {a b : Pod} (h : podLe a b = true) (h' : podLe b a = true) :
    a.metadata.name = b.metadata.name := by
  rw [podLe_iff] at h h'
  have hself := not_newer_self b.metadata.creationTimestamp
  rcases h with h | ⟨heq, hname⟩
  · rcases h' with h' | ⟨heq', -⟩
    · rw [newer_trans h' h] at hself
      cases hself
    · rw [← heq', hself] at h
      cases h
  · rcases h' with h' | ⟨-, hname'⟩
    · rw [heq, hself] at h'
      cases h'
    · exact nameLe_antisymm hname hname'

/-! ## Picking -/

namespace SelectOptions

variable {o : SelectOptions} {pods : List Pod}

/-- Whether a pod can be picked: it is not on its way out and has a container that is asked for. -/
def fits (o : SelectOptions) (pod : Pod) : Bool :=
  !pod.isTerminating && (o.matchingContainer pod).isSome

/-- Where only regular containers count, the first of them that is wanted is the one. -/
theorem matchingContainer_eq_find? {pod : Pod} {spec : PodSpec} (hskip : o.skipInit = true)
    (hspec : pod.spec = some spec) : o.matchingContainer pod = spec.containers.find? o.wants := by
  simp [matchingContainer, containersOf, hskip, hspec]

theorem candidate_eq_some {pod : Pod} {s : SelectedPod} :
    o.candidate pod = some s ↔ s.pod = pod ∧ o.matchingContainer pod = some s.container := by
  obtain ⟨p, c⟩ := s
  unfold candidate
  cases o.matchingContainer pod with
  | none => simp
  | some c' => simp [SelectedPod.mk.injEq, eq_comm]

/-- The candidates of a list in the order in which they are considered. -/
def candidates (o : SelectOptions) (pods : List Pod) : List SelectedPod :=
  (pods.mergeSort podLe).filterMap o.candidate

theorem mem_candidates {s : SelectedPod} :
    s ∈ o.candidates pods ↔ s.pod ∈ pods ∧ o.matchingContainer s.pod = some s.container := by
  unfold candidates
  rw [List.mem_filterMap]
  constructor
  · rintro ⟨pod, hmem, hcandidate⟩
    obtain ⟨rfl, hc⟩ := candidate_eq_some.mp hcandidate
    exact ⟨List.mem_mergeSort.mp hmem, hc⟩
  · rintro ⟨hmem, hc⟩
    exact ⟨s.pod, List.mem_mergeSort.mpr hmem, candidate_eq_some.mpr ⟨rfl, hc⟩⟩

theorem pairwise_candidates (o : SelectOptions) (pods : List Pod) :
    (o.candidates pods).Pairwise fun s t => podLe s.pod t.pod = true := by
  unfold candidates
  rw [List.pairwise_filterMap]
  apply (List.pairwise_mergeSort podLe_trans podLe_total pods).imp
  intro a b hab s hs t ht
  obtain ⟨rfl, -⟩ := candidate_eq_some.mp hs
  obtain ⟨rfl, -⟩ := candidate_eq_some.mp ht
  exact hab

/-- The pod that is picked is in the list and fits, its container is the first that is asked for,
and no other pod of the list that fits comes before it. -/
theorem pick_eq_some {s : SelectedPod} (h : o.pick pods = some s) :
    s.pod ∈ pods ∧ o.fits s.pod = true ∧ o.matchingContainer s.pod = some s.container ∧
      ∀ pod ∈ pods, o.fits pod = true → podLe s.pod pod = true := by
  have hpick : (o.candidates pods).find? (fun s => !s.pod.isTerminating) = some s := h
  obtain ⟨hlive, before, after, hsplit, hbefore⟩ := List.find?_eq_some_iff_append.mp hpick
  obtain ⟨hmem, hc⟩ := mem_candidates.mp
    (by rw [hsplit]; exact List.mem_append_right _ List.mem_cons_self)
  refine ⟨hmem, by simp_all [fits], hc, fun pod hpod hfits => ?_⟩
  obtain ⟨hpodlive, hpodc⟩ := Bool.and_eq_true_iff.mp hfits
  obtain ⟨c, hc'⟩ := Option.isSome_iff_exists.mp hpodc
  have hcand : (⟨pod, c⟩ : SelectedPod) ∈ o.candidates pods := mem_candidates.mpr ⟨hpod, hc'⟩
  have hsorted := pairwise_candidates o pods
  rw [hsplit] at hcand hsorted
  -- a live candidate is not before the one that was found
  rcases List.mem_append.mp hcand with hcand | hcand
  · have := hbefore _ hcand
    simp_all
  · rcases List.mem_cons.mp hcand with heq | hcand
    · rw [← heq]
      have := podLe_total pod pod
      simpa using this
    · exact (List.pairwise_cons.mp (List.pairwise_append.mp hsorted).2.1).1 _ hcand

/-- Nothing is picked only where no pod of the list fits. -/
theorem pick_eq_none (h : o.pick pods = none) : ∀ pod ∈ pods, o.fits pod = false := by
  have hpick : (o.candidates pods).find? (fun s => !s.pod.isTerminating) = none := h
  rw [List.find?_eq_none] at hpick
  intro pod hpod
  cases hfits : o.fits pod with
  | false => rfl
  | true =>
    obtain ⟨hlive, hc⟩ := Bool.and_eq_true_iff.mp hfits
    obtain ⟨c, hc⟩ := Option.isSome_iff_exists.mp hc
    exact absurd hlive (hpick ⟨pod, c⟩ (mem_candidates.mpr ⟨hpod, hc⟩))

/-! ## What is asked for -/

/-- A container that is asked for: it has the name, if there is one, and runs one of the images, if
there are any. -/
def Wanted (o : SelectOptions) (c : Container) : Prop :=
  (∀ name, o.containerName = some name → c.name = name) ∧
    (o.images ≠ [] → ∃ selector ∈ o.images, ∃ image, c.image = some image ∧
      Image.matches? selector image = true)

theorem wants_iff {c : Container} : o.wants c = true ↔ o.Wanted c := by
  unfold wants
  rw [Bool.and_eq_true]
  refine and_congr ?_ ?_
  · cases o.containerName <;> simp
  · cases c.image <;> simp [Decidable.imp_iff_not_or]

/-- The first of some containers that is asked for. -/
def FirstWanted (o : SelectOptions) (containers : List Container) (c : Container) : Prop :=
  o.Wanted c ∧ ∃ before after, containers = before ++ c :: after ∧ ∀ c' ∈ before, ¬ o.Wanted c'

theorem find?_wants_iff {containers : List Container} {c : Container} :
    containers.find? o.wants = some c ↔ o.FirstWanted containers c := by
  rw [List.find?_eq_some_iff_append, wants_iff]
  simp only [FirstWanted, Bool.not_eq_true', ← Bool.not_eq_true, wants_iff]

theorem find?_wants_eq_none {containers : List Container} :
    containers.find? o.wants = none ↔ ∀ c ∈ containers, ¬ o.Wanted c := by
  rw [List.find?_eq_none]
  simp only [wants_iff]

/-- The container of a pod that is taken: the first regular one that is asked for or, where those
for the start count as well and no regular one is, the first of them. -/
inductive Takes (o : SelectOptions) (spec : PodSpec) (c : Container) : Prop where
  | regular (h : o.FirstWanted spec.containers c)
  | init (hcount : o.skipInit = false) (hregular : ∀ c' ∈ spec.containers, ¬ o.Wanted c')
    (h : ∃ containers, spec.initContainers = some containers ∧ o.FirstWanted containers c)

theorem matchingContainer_eq_some_iff {pod : Pod} {c : Container} :
    o.matchingContainer pod = some c ↔ ∃ spec, pod.spec = some spec ∧ o.Takes spec c := by
  unfold matchingContainer
  rw [Option.bind_eq_some_iff]
  refine exists_congr fun spec => and_congr_right fun _ => ?_
  unfold containersOf
  rw [List.find?_append, Option.or_eq_some_iff, find?_wants_iff, find?_wants_eq_none]
  constructor
  · rintro (h | ⟨hregular, h⟩)
    · exact .regular h
    · cases hskip : o.skipInit with
      | true => simp [hskip] at h
      | false =>
        cases hinit : spec.initContainers with
        | none => simp [hskip, hinit] at h
        | some containers =>
          simp only [hskip, hinit, Bool.false_eq_true, if_false, Option.getD_some] at h
          exact .init hskip hregular ⟨containers, hinit, find?_wants_iff.mp h⟩
  · rintro (h | ⟨hskip, hregular, containers, hinit, h⟩)
    · exact .inl h
    · refine .inr ⟨hregular, ?_⟩
      simp only [hskip, hinit, Bool.false_eq_true, if_false, Option.getD_some]
      exact find?_wants_iff.mpr h

/-- A pod that can be taken with a container: it is not on its way out. -/
structure Offers (o : SelectOptions) (pod : Pod) (c : Container) : Prop where
  live : pod.metadata.deletionTimestamp = none
  takes : ∃ spec, pod.spec = some spec ∧ o.Takes spec c

theorem offers_iff {pod : Pod} {c : Container} :
    o.Offers pod c ↔ o.fits pod = true ∧ o.matchingContainer pod = some c := by
  have hlive : pod.isTerminating = false ↔ pod.metadata.deletionTimestamp = none := by
    simp [Resource.isTerminating]
  constructor
  · rintro ⟨h, htakes⟩
    have hc := matchingContainer_eq_some_iff.mpr htakes
    exact ⟨by simp [fits, hlive.mpr h, hc], hc⟩
  · rintro ⟨hfits, hc⟩
    have hnot := (Bool.and_eq_true_iff.mp hfits).1
    exact ⟨hlive.mp (by simpa using hnot), matchingContainer_eq_some_iff.mp hc⟩

theorem fits_iff {pod : Pod} : o.fits pod = true ↔ ∃ c, o.Offers pod c := by
  simp only [offers_iff]
  constructor
  · intro h
    obtain ⟨c, hc⟩ := Option.isSome_iff_exists.mp (Bool.and_eq_true_iff.mp h).2
    exact ⟨c, h, hc⟩
  · rintro ⟨_, h, -⟩
    exact h

/-- A pod that comes before another: it is newer, or of the same age with a name that is less. One
without a time of creation is the oldest. -/
def ComesBefore (a b : Pod) : Prop :=
  newer a.metadata.creationTimestamp b.metadata.creationTimestamp = true ∨
    a.metadata.creationTimestamp = b.metadata.creationTimestamp ∧
      nameLe a.metadata.name b.metadata.name = true ∧ a.metadata.name ≠ b.metadata.name

theorem ComesBefore.podLe {a b : Pod} (h : ComesBefore a b) : podLe a b = true := by
  rw [podLe_iff]
  exact h.imp_right fun ⟨htime, hname, _⟩ => ⟨htime, hname⟩

theorem comesBefore_of_podLe {a b : Pod} (h : PodSwap.podLe a b = true)
    (hne : a.metadata.name ≠ b.metadata.name) : ComesBefore a b := by
  rw [podLe_iff] at h
  exact h.imp_right fun ⟨htime, hname⟩ => ⟨htime, hname, hne⟩

/-- The choice among some pods: one that can be taken, with its container, before which comes no
other that can. -/
structure Chosen (o : SelectOptions) (pods : List Pod) (s : SelectedPod) : Prop where
  listed : s.pod ∈ pods
  offers : o.Offers s.pod s.container
  first : ∀ pod ∈ pods, ∀ c, o.Offers pod c → pod ≠ s.pod → ComesBefore s.pod pod

section

variable (hnames : (pods.map fun pod => pod.metadata.name).Nodup)

include hnames

theorem Chosen.unique {s t : SelectedPod} (hs : o.Chosen pods s) (ht : o.Chosen pods t) :
    s = t := by
  have hpod : s.pod = t.pod := by
    by_contra hne
    have hst := hs.first t.pod ht.listed _ ht.offers (Ne.symm hne)
    have hts := ht.first s.pod hs.listed _ hs.offers hne
    have hname := name_of_podLe hst.podLe hts.podLe
    exact hne (List.inj_on_of_nodup_map hnames hs.listed ht.listed hname)
  have hcontainer := (offers_iff.mp hs.offers).2
  rw [hpod, (offers_iff.mp ht.offers).2] at hcontainer
  obtain ⟨_, _⟩ := s
  obtain ⟨_, _⟩ := t
  exact congr (congrArg SelectedPod.mk hpod) (Option.some.inj hcontainer).symm

theorem chosen_of_pick {s : SelectedPod} (h : o.pick pods = some s) : o.Chosen pods s := by
  obtain ⟨hmem, hfits, hc, hfirst⟩ := pick_eq_some h
  refine ⟨hmem, offers_iff.mpr ⟨hfits, hc⟩, fun pod hpod c hoffers hne => ?_⟩
  refine comesBefore_of_podLe (hfirst pod hpod (fits_iff.mpr ⟨c, hoffers⟩)) fun hname => hne ?_
  exact List.inj_on_of_nodup_map hnames hpod hmem hname.symm

omit hnames in
/-- Nothing is picked exactly where there is nothing to be taken. -/
theorem pick_eq_none_iff : o.pick pods = none ↔ ∀ pod ∈ pods, ∀ c, ¬ o.Offers pod c := by
  constructor
  · intro h pod hpod c hoffers
    have hfits := fits_iff.mpr ⟨c, hoffers⟩
    rw [pick_eq_none h pod hpod] at hfits
    cases hfits
  · intro h
    cases hpick : o.pick pods with
    | none => rfl
    | some s =>
      obtain ⟨hmem, hfits, hc, -⟩ := pick_eq_some hpick
      exact absurd (offers_iff.mpr ⟨hfits, hc⟩) (h s.pod hmem _)

/-- Of pods with names of their own, the choice among them is what is picked. -/
theorem pick_eq_some_iff {s : SelectedPod} : o.pick pods = some s ↔ o.Chosen pods s := by
  refine ⟨chosen_of_pick hnames, fun h => ?_⟩
  cases hpick : o.pick pods with
  | none => exact absurd h.offers (pick_eq_none_iff.mp hpick s.pod h.listed _)
  | some t => rw [(chosen_of_pick hnames hpick).unique hnames h]

/-- What is picked does not depend on the order in which the pods are listed. -/
theorem pick_eq_of_perm {pods' : List Pod} (hperm : pods.Perm pods') :
    o.pick pods' = o.pick pods := by
  have hnames' : (pods'.map fun pod => pod.metadata.name).Nodup :=
    (hperm.map _).nodup_iff.mp hnames
  cases hpick : o.pick pods with
  | none =>
    have hnone := pick_eq_none_iff.mp hpick
    exact pick_eq_none_iff.mpr fun pod hpod => hnone pod (hperm.mem_iff.mpr hpod)
  | some s =>
    obtain ⟨hlisted, hoffers, hfirst⟩ := chosen_of_pick hnames hpick
    exact (pick_eq_some_iff hnames').mpr ⟨hperm.mem_iff.mp hlisted, hoffers,
      fun pod hpod => hfirst pod (hperm.mem_iff.mpr hpod)⟩

end

end SelectOptions

end PodSwap
