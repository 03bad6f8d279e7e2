import PodSwap.Object.Kubernetes
import PodSwap.Proofs.Replacement.Prints
import PodSwap.Proofs.Scale.Outdated

/-!
# Fingerprints under scaling

The fingerprint of a workload is taken of its template. Of the rest nothing enters, neither the kind
nor the count nor the metadata. Scaling leaves the template alone, where no template counts as the
empty one: also a workload without a specification, which gets one with its count, makes its pods
from the empty template before and after.

This holds of the workload that is sent and of the one that is stored, however that differs from
what was read.

Main statements: nothing but the template is seen (`fingerprint_sees_template`), and of the template
all but fractions of seconds (`ofWorkload_eq_iff`).
-/

namespace PodSwap

open Json

section

variable [Schema]

namespace Workload

theorem podTemplate_withRecord (w : Workload) (record : Option (Option String)) :
    (w.withRecord record).podTemplate = w.podTemplate := by
  rcases record with - | - | text
  · rfl
  · exact podTemplate_setMetadata w _
  · exact podTemplate_setMetadata w _

theorem podTemplate_withCount (w : Workload) (count : Option Int32) :
    (w.withCount count).podTemplate.getD {} = w.podTemplate.getD {} := by
  cases count with
  | none => rfl
  | some n => exact podTemplate_setReplicas w n

end Workload

namespace Scale

variable {w w' : Workload}

/-- Restoring leaves the template alone, where no template counts as the empty one. -/
theorem podTemplate_restored (h : restored w = .ok (some w')) :
    w'.podTemplate.getD {} = w.podTemplate.getD {} := by
  unfold restored at h
  split at h
  · cases h
  · obtain ⟨n, -, h⟩ := bind_eq_ok.mp h
    cases h
    have hbare : (w.unannotate Marker.replicas).podTemplate = w.podTemplate :=
      Workload.podTemplate_setMetadata w _
    split
    · rw [Workload.podTemplate_setReplicas, hbare]
    · rw [hbare]

/-! ## What is read of a stored workload after a patch -/

namespace Rescaled

variable {kind : WorkloadKind} {record : Option (Option String)} {count : Option Int32}
  {d d' : Json} (h : Rescaled kind record count d d') (hd : d.WellFormed)

include h hd

/-- What is read of any workload that was rescaled has the template that was read of it before. -/
theorem podTemplate_reread {c : Workload} (hc : Workload.ofJson kind d = .ok c) :
    ∃ c', Workload.ofJson kind d' = .ok c' ∧ c'.podTemplate.getD {} = c.podTemplate.getD {} := by
  refine ⟨_, h.reread hd hc, ?_⟩
  rw [Workload.podTemplate_withCount, Workload.podTemplate_withRecord]

end Rescaled

/-! ## What the fingerprint sees -/

/-- Workloads whose templates the digest tells apart have the same fingerprint exactly if these are
the same up to fractions of seconds, with the image in them. -/
theorem ofWorkload_eq_iff {spec : Spec} {images : ImageResolver} {u u' : PodTemplate}
    (hw : Dated (w.podTemplate.getD {})) (hw' : Dated (w'.podTemplate.getD {}))
    (hu : Fingerprint.substitutedTemplate w spec images = .ok u)
    (hu' : Fingerprint.substitutedTemplate w' spec images = .ok u')
    (h : Fingerprint.TellsApart (toJson u) (toJson u')) :
    Fingerprint.ofWorkload w spec images = Fingerprint.ofWorkload w' spec images ↔
      wholeSeconds u = wholeSeconds u' := by
  unfold Fingerprint.ofWorkload
  rw [hu, hu']
  exact (Iff.of_eq (Except.ok.injEq _ _)).trans (Fingerprint.ofJson_template_eq_iff
    (Fingerprint.dated_of_substituted hw hu) (Fingerprint.dated_of_substituted hw' hu') h)

/-- Workloads of any kinds with the same template have the same fingerprint, or the same error,
where no template counts as the empty one. So it is the same when the count is set, when a workload
is quiesced or restored, and when it is read back after the patch that does so, whatever it was that
was stored by then. -/
theorem fingerprint_sees_template (spec : Spec) (images : ImageResolver) :
    (∀ w w' : Workload, w.podTemplate.getD {} = w'.podTemplate.getD {} →
      Fingerprint.ofWorkload w spec images = Fingerprint.ofWorkload w' spec images) ∧
    (∀ (w : Workload) (n : Int32),
      Fingerprint.ofWorkload (w.setReplicas n) spec images =
        Fingerprint.ofWorkload w spec images) ∧
    (∀ w w' : Workload, quiesced w = some w' ∨ restored w = .ok (some w') →
      Fingerprint.ofWorkload w' spec images = Fingerprint.ofWorkload w spec images) ∧
    ∀ (w c : Workload) (p d : Json), quiescePatch w = some p ∨ restorePatch w = .ok (some p) →
      d.WellFormed → Workload.ofJson w.kind d = .ok c →
      ∃ c', Workload.ofJson w.kind (merge d p) = .ok c' ∧
        Fingerprint.ofWorkload c' spec images = Fingerprint.ofWorkload c spec images := by
  refine ⟨fun w w' => Fingerprint.ofWorkload_congr,
    fun w n => Fingerprint.ofWorkload_congr (w.podTemplate_setReplicas n), ?_, ?_⟩
  · rintro w w' (h | h)
    · exact Fingerprint.ofWorkload_congr (podTemplate_quiesced h)
    · exact Fingerprint.ofWorkload_congr (podTemplate_restored h)
  · intro w c p d hsent hd hread
    obtain ⟨record, count, h⟩ := rescaled_of_sent hsent hd
    obtain ⟨c', hc', htemplate⟩ := h.podTemplate_reread hd hread
    exact ⟨c', hc', Fingerprint.ofWorkload_congr htemplate⟩

end Scale

end

namespace Scale

/-- A replica set without a specification, as it is stored. -/
def unspecified : Json :=
  .obj [("apiVersion", .str "apps/v1"), ("kind", .str "ReplicaSet"),
    ("metadata", .obj [("name", .str "web"), ("namespace", .str "default")])]

/-- What is read of it. -/
def named : Workload := .replicaSet { metadata := { name := some "web", ns := some "default" } }

/-- The replica set is quiesced, which gives it a specification with a count. Its fingerprint stays
the one of a stateful set with the empty template. -/
theorem fingerprint_of_unspecified_quiesced :
    let images : ImageResolver := ⟨fun name => .ok [name], .ok⟩
    ∃ p c, Workload.ofJson .replicaSet unspecified = .ok named ∧ named.hasSpec = false ∧
      quiescePatch named = some p ∧ at? replicasPath (merge unspecified p) = some (.int 0) ∧
      Workload.ofJson .replicaSet (merge unspecified p) = .ok c ∧
      Fingerprint.ofWorkload c {} images =
        Fingerprint.ofWorkload (.statefulSet { spec := some default }) {} images := by
  intro images
  have hwf : unspecified.WellFormed := by
    simp only [unspecified, WellFormed, WellFormedMembers, WellFormedMember]
    decide
  obtain ⟨p, hp⟩ : ∃ p, quiescePatch named = some p := ⟨_, rfl⟩
  obtain ⟨hsame, -, -, hstored⟩ := fingerprint_sees_template {} images
  obtain ⟨c, hc, hprint⟩ := hstored named named p unspecified (.inl hp) hwf rfl
  exact ⟨p, c, rfl, rfl, hp, replicas_of_quiescePatch hp unspecified, hc,
    hprint.trans (hsame _ _ rfl)⟩

end Scale

end PodSwap
