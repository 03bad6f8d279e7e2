import PodSwap.Engine
import PodSwap.Proofs.Replacement.Marks
import PodSwap.Proofs.Replacement.Substitution

/-!
# What fingerprints tell

The fingerprints of a template and a spec are digests of their canonical texts. Where the digest
tells the texts apart, and the patches hold no floating-point numbers, they are the same exactly if
the specs are and the templates are up to fractions of seconds.

Main statements: `Fingerprints.of_eq_iff`, and `Engine.isCurrent_of_build` for the marks that are
left of them.
-/

namespace PodSwap

open Json

/-- Whether the values in the patches of a spec have rising keys and no floating-point numbers. -/
def Spec.PlainPatches (s : Spec) : Prop := ∀ p ∈ s.patches, ∀ v ∈ p.value, v.Plain

theorem SpecPatch.plain_toJson {p : SpecPatch} (h : ∀ v ∈ p.value, v.Plain) : p.toJson.Plain := by
  refine plain_fields fun m hm => ?_
  simp only [List.mem_cons, List.not_mem_nil, or_false] at hm
  obtain rfl | rfl | rfl := hm
  · exact fieldPlain_always "op" p.action.text
  · exact fieldPlain_always "path" p.path
  · exact h

theorem Spec.plain_toJson {s : Spec} (h : s.PlainPatches) : s.toJson.Plain := by
  have hpatches : FieldPlain ("patches",
      if s.patches.isEmpty then none else some (.arr (s.patches.map SpecPatch.toJson))) := by
    intro j hj
    split at hj
    · cases hj
    · cases hj
      refine .arr fun j hj => ?_
      obtain ⟨p, hp, rfl⟩ := List.mem_map.mp hj
      exact SpecPatch.plain_toJson (h p hp)
  refine plain_fields fun m hm => ?_
  simp only [List.mem_cons, List.not_mem_nil, or_false] at hm
  obtain rfl | rfl | rfl | rfl | rfl | rfl := hm
  · exact fieldPlain_field "containerName" s.containerName
  · exact fieldPlain_field "imageName" s.imageName
  · exact fieldPlain_field "labelSelector" s.labelSelector
  · exact fieldPlain_field "namespace" s.ns
  · exact hpatches
  · exact fieldPlain_field "replaceImage" s.replaceImage

namespace Fingerprint

/-- Whether the digest tells the texts of two values apart. -/
def TellsApart (a b : Json) : Prop :=
  Digest.hex a.canonical = Digest.hex b.canonical → a.canonical = b.canonical

/-- Plain values that the digest tells apart have the same digest only if they are the same. -/
theorem ofJson_eq_iff {a b : Json} (ha : a.Plain) (hb : b.Plain) (h : TellsApart a b) :
    ofJson a = ofJson b ↔ a = b :=
  ⟨fun heq => ha.eq_of_canonical hb (h heq), congrArg ofJson⟩

variable [Schema]

/-- Templates that the digest tells apart have the same digest only if they are the same up to
fractions of seconds. -/
theorem ofJson_template_eq_iff {u₀ u₁ : PodTemplate} (hu₀ : Dated u₀) (hu₁ : Dated u₁)
    (h : TellsApart (toJson u₀) (toJson u₁)) :
    ofJson (toJson u₀) = ofJson (toJson u₁) ↔ wholeSeconds u₀ = wholeSeconds u₁ :=
  (ofJson_eq_iff (plain_toJson u₀) (plain_toJson u₁) h).trans (toJson_eq_iff hu₀ hu₁)

/-- Nothing enters the fingerprint of a workload but its template. -/
theorem ofWorkload_congr {w w' : Workload} {spec : Spec} {images : ImageResolver}
    (h : w.podTemplate.getD {} = w'.podTemplate.getD {}) :
    ofWorkload w spec images = ofWorkload w' spec images := by
  unfold ofWorkload
  rw [substitutedTemplate_congr h]

end Fingerprint

namespace Fingerprints

variable [Schema]

/-- The fingerprints of a template, with the image in it, and a spec. -/
def of (u : PodTemplate) (spec : Spec) : Fingerprints :=
  ⟨Fingerprint.ofJson (toJson u), Fingerprint.ofSpec spec⟩

/-- Fingerprints tell specs, and templates up to fractions of seconds. -/
theorem of_eq_iff {u₀ u₁ : PodTemplate} {s₀ s₁ : Spec} (hu₀ : Dated u₀) (hu₁ : Dated u₁)
    (hs₀ : s₀.PlainPatches) (hs₁ : s₁.PlainPatches)
    (hspecs : Fingerprint.TellsApart s₀.toJson s₁.toJson)
    (htemplates : Fingerprint.TellsApart (toJson u₀) (toJson u₁)) :
    of u₀ s₀ = of u₁ s₁ ↔ s₀ = s₁ ∧ wholeSeconds u₀ = wholeSeconds u₁ := by
  have hspec : Fingerprint.ofSpec s₀ = Fingerprint.ofSpec s₁ ↔ s₀ = s₁ := by
    refine (Fingerprint.ofJson_eq_iff (Spec.plain_toJson hs₀) (Spec.plain_toJson hs₁) hspecs).trans
      ⟨Spec.toJson_inj, congrArg Spec.toJson⟩
  rw [of, of, Fingerprints.mk.injEq, Fingerprint.ofJson_template_eq_iff hu₀ hu₁ htemplates, hspec,
    and_comm]

end Fingerprints

namespace Engine

variable [Schema] {σ : Type} {e : Engine σ}

theorem fingerprints_of_substituted {w : Workload} {spec : Spec} {u : PodTemplate}
    (h : Fingerprint.substitutedTemplate w spec e.images = .ok u) :
    e.fingerprints w spec = .ok (.of u spec) := by
  unfold fingerprints Fingerprint.ofWorkload
  rw [h]
  rfl

/-- The fingerprints of a workload are those of its template. -/
theorem fingerprints_congr {w w' : Workload} {spec : Spec}
    (h : w.podTemplate.getD {} = w'.podTemplate.getD {}) :
    e.fingerprints w spec = e.fingerprints w' spec := by
  unfold fingerprints
  rw [Fingerprint.ofWorkload_congr h]

theorem isCurrent_eq_true {pod : Pod} {prints : Fingerprints} : isCurrent pod prints = true ↔
    pod.metadata.annotationAt Marker.parentHash = some prints.parent ∧
      pod.metadata.annotationAt Marker.configHash = some prints.config := by
  rw [isCurrent, Bool.and_eq_true, decide_eq_true_eq, decide_eq_true_eq]

theorem isCurrent_congr {pod pod' : Pod} (h : pod.metadata.annotations = pod'.metadata.annotations)
    (prints : Fingerprints) : isCurrent pod prints = isCurrent pod' prints := by
  unfold isCurrent ObjectMeta.annotationAt
  rw [h]

/-- What is built is marked with the fingerprints it was built with, and with no others. -/
theorem isCurrent_of_build {target : SelectedPod} {parent : Workload} {spec : Spec}
    {images : ImageResolver} {prints : Fingerprints} {pod : Pod}
    (h : Replacement.build target parent spec images prints = .ok pod) (prints' : Fingerprints) :
    isCurrent pod prints' = true ↔ prints = prints' := by
  obtain ⟨hparent, hconfig⟩ := Replacement.hashes_of_build h
  rw [isCurrent_eq_true, hparent, hconfig, Option.some.injEq, Option.some.injEq]
  cases prints
  cases prints'
  rw [Fingerprints.mk.injEq]

end Engine

end PodSwap
