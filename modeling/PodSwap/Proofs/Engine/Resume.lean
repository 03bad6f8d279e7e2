import PodSwap.Proofs.Engine.Slot

/-!
# Reverting again after a failure

A revert that failed may be begun again. Whether the parent gets its pods back then depends on what
the first revert left: as long as the replacement stands it leads to the parent, but once the
replacement is deleted nothing else does, unless another replacement carries the same markers.

Main statement: `revert_again_restores_iff`.
-/

namespace PodSwap

open Scale

section

variable [Schema]

namespace Engine

variable {σ : Type} {e : Engine σ} {view : σ → Stored} {drift : Stored → Stored → Prop}
  {key : WorkloadKey} {n : Int32} {spec : Spec} {selection : Selection}

/-- Exactly when reverting again, with nothing failing, gives a workload back its pods that was down
and had a replacement, whatever failed in the revert before: if that revert did not delete the
replacement or restored the workload as well, or else if the replacement that there is for the
second revert to find carries the markers of the workload. -/
theorem revert_again_restores_iff (law : e.cluster.Stores view drift)
    (still : Undisturbed drift key Pod.isReplacement) (hn : 0 < n)
    (hselection : spec.selection = .ok selection) {first second : Run σ} {d : Json}
    (hd : (view first.world).workloads key = some d) (hdown : Scaled n .down d) {p : Pod}
    (hfound : PodTable.Finds (view first.world).pods (e.revertOptions spec selection) p)
    (hlinks : Links key p)
    (hbetween : drift (view (e.reverting spec first).2.world.1) (view second.world))
    (hcalm : e.Calm (e.reverting spec second).2) :
    (view (e.reverting spec second).2.world.1).Restored key n ↔
      (.deleted p.ns p.name ∈ mutations (e.reverting spec first).2.world.2 →
        ∃ patch, .patched key patch ∈ mutations (e.reverting spec first).2.world.2) ∨
      ∃ q, PodTable.Finds (view second.world).pods (e.revertOptions spec selection) q ∧
        Links key q := by
  have hsort : ∀ pod : Pod, pod.ns = (e.revertOptions spec selection).ns →
      (e.revertOptions spec selection).matches pod = true → pod.isReplacement = true :=
    fun _ _ h => isReplacement_of_matches h
  obtain ⟨k₁, L₁, hend₁, hledger₁, -⟩ :=
    reverting_ends law still hn hselection hsort hd hdown rfl
  have hreplacement := isReplacement_of_matches hfound.matching
  obtain ⟨hk₁, hL₁⟩ := hend₁.changes_of_finds (hfound.those hreplacement)
  have hns : p.ns = (e.revertOptions spec selection).ns :=
    ((view first.world).pod_named hfound.stored).1
  -- the second revert begins in the phase in which the first ended
  have hbegin := Watch.Ledger.stable still _ _ _ hbetween hledger₁
  obtain ⟨d', hd', hs', -⟩ := hbegin.workload
  obtain ⟨k₂, L₂, hend₂, hledger₂, -⟩ :=
    reverting_ends law still hn hselection hsort hd' hs' rfl
  have hdeleted : ∀ L, L = [] ∨ L = [Mutation.deleted p.ns p.name] →
      (.deleted p.ns p.name ∈ L ↔ L ≠ []) := by
    rintro L (rfl | rfl) <;> simp
  rw [hledger₁.mem_iff rfl, hdeleted L₁ (by rw [hns]; exact hL₁), hledger₁.patched_iff]
  rcases hk₁ with rfl | rfl
  · by_cases hL : L₁ = []
    · -- nothing was deleted, so the second revert finds the replacement
      subst hL
      have hfinds := hfound.those hreplacement
      rw [← hbegin.those_eq] at hfinds
      obtain ⟨q, hq, hessence⟩ := hfinds.of_those hsort
      have hlinks' : Links key q := by
        rw [← links_essence, hessence]
        exact hlinks
      have hup := (hend₂.up_iff hcalm rfl hsort).mpr ⟨q, hq, hlinks'⟩
      exact iff_of_true ((hledger₂.restored_iff rfl).mpr hup) (.inl fun h => absurd rfl h)
    · rw [hledger₂.restored_iff rfl, hend₂.up_iff hcalm rfl hsort]
      simp [hL]
  · have hrestored := hbegin.restored Nat.one_pos rfl
    refine iff_of_true (hledger₂.still_restored (hend₂.stays_up rfl) hrestored) (.inl fun _ => ?_)
    exact Nat.one_pos

end Engine

end

namespace Slot

/-- After a deletion that was refused nothing is lost. -/
theorem refused_deletion :
    (mutations (revert (· = 3) replaced).2.world.2).any Mutation.isOfPod = false ∧
      (revert (· = 3) (revert (· = 3) replaced).2.world.1).2.cancelAt = none ∧
      (revert (· = 3) (revert (· = 3) replaced).2.world.1).2.world.2.all CallEvent.isSmooth =
        true := by
  simp only [revert, Engine.reverting, Engine.revertPod, Engine.findReplacement, Engine.select,
    Engine.deleteReplacement, Termination.deleteAndWait, Poll.wait_eq_once, revert_timeout,
    termination_timeout]
  decide +kernel

/-- A second revert restores the workload after one whose deletion was refused. -/
theorem restored_after_refused_deletion :
    (revert (· = 3) (revert (· = 3) replaced).2.world.1).2.world.1.stored.Restored key count := by
  obtain ⟨hkept, hcancel, hsmooth⟩ := refused_deletion
  refine (Engine.revert_again_restores_iff (engine_stores (· = 3))
    (undisturbed fun _ h => h) (by decide) rfl (stored_doc replaced) (scaled_doc .down)
    (finds_standIn _ _) (by decide +kernel) (.refl _)
    (.of_isSmooth hcancel hsmooth (by decide))).mpr (.inl fun hdeleted => ?_)
  have hany := List.any_eq_true (p := Mutation.isOfPod).mpr ⟨_, hdeleted, rfl⟩
  exact absurd (hkept.symm.trans hany) Bool.false_ne_true

/-- A second revert finds nothing after one that deleted the replacement and whose patch was
refused, and the workload stays down. -/
theorem stranded_after_refused_patch :
    PodTable.Finds replaced.stored.pods
        ((engine (· = 5)).revertOptions (spec selector) (.labels selector)) standIn ∧
      Links key standIn ∧ Scaled count .down (doc replaced.phase) ∧
      (engine (· = 5)).Calm (revert (· = 5) (revert (· = 5) replaced).2.world.1).2 ∧
      ¬ (revert (· = 5) (revert (· = 5) replaced).2.world.1).2.world.1.stored.Restored key
        count := by
  have hrun : (revert (· = 5) (revert (· = 5) replaced).2.world.1).2.cancelAt = none ∧
      (revert (· = 5) (revert (· = 5) replaced).2.world.1).2.world.2.all CallEvent.isSmooth =
        true ∧
      (revert (· = 5) (revert (· = 5) replaced).2.world.1).2.world.1.phase ≠ .up := by
    simp only [revert, Engine.reverting, Engine.revertPod, Engine.findReplacement, Engine.select,
      Engine.deleteReplacement, Termination.deleteAndWait, Poll.wait_eq_once, revert_timeout,
      termination_timeout]
    decide +kernel
  obtain ⟨hcancel, hsmooth, hphase⟩ := hrun
  refine ⟨finds_standIn _ _, by decide +kernel, scaled_doc .down,
    .of_isSmooth hcancel hsmooth (by decide), ?_⟩
  rw [restored_iff]
  exact hphase

end Slot

end PodSwap
