import Mathlib.Algebra.Ring.Parity
import PodSwap.Proofs.Engine.Slot
import PodSwap.Proofs.Replacement.Marks

/-!
# The way back from a replacement to its parent

A parent that is down gets its pods back by a replacement that carries its markers. As long as one
stands there is a way back; once the last of them is deleted, a parent that is not restored is
stranded.

Main statement: `replace_leaves_way_back_iff`.
-/

namespace PodSwap

open Scale

theorem Scale.Phase.after_eq_up_iff (k : Nat) : Phase.down.after k = .up ↔ Odd k := by
  have hflip : ∀ ph : Phase, ph.flip = .up ↔ ¬ ph = .up := by
    intro ph
    cases ph <;> decide
  induction k with
  | zero => decide
  | succ k ih => exact (hflip _).trans ((not_congr ih).trans Nat.odd_add_one.symm)

section

variable [Schema]

/-- Whether a pod leads back to a workload: it is a replacement, not on its way out, and carries the
markers of the workload. -/
structure Stored.WayBack (s : Stored) (key : WorkloadKey) (pod : Pod) : Prop where
  stored : s.pods pod.ns pod.name = some pod
  live : pod.isTerminating = false
  replacement : pod.isReplacement = true
  links : Links key pod

/-- Whether a pod in a table carries the markers of a workload. -/
def PodTable.Leads (t : PodTable) (key : WorkloadKey) : Prop :=
  ∃ name pod, t key.ns name = some pod ∧ Links key pod

theorem PodTable.leads_set_none {t : PodTable} {key : WorkloadKey} {name : String} :
    (t.set key.ns name none).Leads key ↔
      ∃ name' pod, name' ≠ name ∧ t key.ns name' = some pod ∧ Links key pod := by
  constructor
  · rintro ⟨name', pod, hpod, hlinks⟩
    unfold PodTable.set at hpod
    split at hpod
    · cases hpod
    · rename_i hne
      exact ⟨name', pod, fun heq => hne ⟨rfl, heq⟩, hpod, hlinks⟩
  · rintro ⟨name', pod, hne, hpod, hlinks⟩
    refine ⟨name', pod, ?_, hlinks⟩
    rw [PodTable.set, if_neg (fun h => hne h.2), hpod]

theorem PodTable.leads_set_some {t : PodTable} {key : WorkloadKey} {ns name : String} (pod : Pod)
    (hfree : t ns name = none) (hns : pod.ns = ns) :
    (t.set ns name (some pod)).Leads key ↔ Links key pod ∨ t.Leads key := by
  constructor
  · rintro ⟨name', pod', hpod', hlinks⟩
    unfold PodTable.set at hpod'
    split at hpod'
    · cases hpod'
      exact .inl hlinks
    · exact .inr ⟨name', pod', hpod', hlinks⟩
  · rintro (hlinks | ⟨name', pod', hpod', hlinks⟩)
    · refine ⟨name, pod, ?_, hlinks⟩
      rw [PodTable.set, if_pos ⟨hlinks.1.symm.trans hns, rfl⟩]
    · refine ⟨name', pod', ?_, hlinks⟩
      rw [PodTable.set, if_neg, hpod']
      rintro ⟨hns', rfl⟩
      rw [hns', hfree] at hpod'
      cases hpod'

/-- What leads to a workload after a replacement that was there was deleted, or not, and another was
created, or not. -/
theorem Turns.leads_iff {sort : Pod → Bool} {t t' : PodTable} {key : WorkloadKey} {name : String}
    {p : Pod} (hp : t key.ns name = some p) (hlinks : Links key p) {L₀ L : List Mutation}
    (hL₀ : L₀ = [] ∨ L₀ = [.deleted key.ns name])
    (hL : L = L₀ ∨
      ∃ pod, L = L₀ ++ [.created pod] ∧ ofSort sort (some pod) = some pod.essence)
    (h : Turns sort t L t') :
    t'.Leads key ↔ .deleted key.ns name ∉ L ∨ (∃ pod, .created pod ∈ L ∧ Links key pod) ∨
      (t.set key.ns name none).Leads key := by
  rcases hL₀ with rfl | rfl
  · have hthere : t.Leads key := ⟨name, p, hp, hlinks⟩
    rcases hL with rfl | ⟨pod, rfl, hpod⟩
    · cases h
      exact iff_of_true hthere (.inl List.not_mem_nil)
    · obtain ⟨hfree, rfl⟩ := h
      rw [hpod]
      have hleads := (PodTable.leads_set_some pod.essence hfree rfl).mpr (.inr hthere)
      exact iff_of_true hleads (.inl (by simp))
  · rcases hL with rfl | ⟨pod, rfl, hpod⟩
    · cases h
      simp
    · obtain ⟨hfree, rfl⟩ := h
      rw [hpod, PodTable.leads_set_some pod.essence hfree rfl, links_essence]
      simp

namespace Stored

variable {s : Stored} {key : WorkloadKey}

theorem wayBack_ne_iff {name : String} :
    (∃ pod, s.WayBack key pod ∧ pod.name ≠ name) ↔
      ((s.those Pod.isReplacement).set key.ns name none).Leads key := by
  rw [PodTable.leads_set_none]
  constructor
  · rintro ⟨pod, hway, hne⟩
    refine ⟨pod.name, pod.essence, hne, ?_, (links_essence key pod).mpr hway.links⟩
    rw [← hway.links.1]
    exact those_of_pod hway.stored hway.live hway.replacement
  · rintro ⟨name', pod, hne, hpod, hlinks⟩
    obtain ⟨p, hp, hlive, hreplacement, rfl⟩ := pod_of_those hpod
    obtain ⟨hns, rfl⟩ := s.pod_named hp
    rw [← hns] at hp
    exact ⟨p, ⟨hp, hlive, hreplacement, (links_essence key p).mp hlinks⟩, hne⟩

theorem wayBack_iff :
    (∃ pod, s.WayBack key pod) ↔ (s.those Pod.isReplacement).Leads key := by
  constructor
  · rintro ⟨pod, hway⟩
    refine ⟨pod.name, pod.essence, ?_, (links_essence key pod).mpr hway.links⟩
    rw [← hway.links.1]
    exact those_of_pod hway.stored hway.live hway.replacement
  · rintro ⟨name, pod, hpod, hlinks⟩
    obtain ⟨p, hp, hlive, hreplacement, rfl⟩ := pod_of_those hpod
    obtain ⟨hns, rfl⟩ := s.pod_named hp
    rw [← hns] at hp
    exact ⟨p, hp, hlive, hreplacement, (links_essence key p).mp hlinks⟩

end Stored

namespace Engine

variable {σ : Type} {e : Engine σ} {view : σ → Stored} {drift : Stored → Stored → Prop}
  {key : WorkloadKey} {n : Int32} {spec : Spec} {selection : Selection}

/-- What is made of a replacement is one, and not on its way out. -/
theorem ofSort_of_makes {parent : Workload} {pod : Pod} (h : e.Makes spec parent pod) :
    ofSort Pod.isReplacement (some pod) = some pod.essence := by
  obtain ⟨target, prints, replacement, hbuild, hmade⟩ := h
  have hreplaced : pod.isReplacement = true := by
    rw [Pod.isReplacement, ObjectMeta.labelTable, hmade.labels]
    exact Replacement.replaced_of_build hbuild
  simp [ofSort, hreplaced, hmade.live]

/-- What a replacement changes that finds a replacement which leads to a workload. -/
theorem replacing_changes (law : e.cluster.Stores view drift)
    (still : Undisturbed drift key Pod.isReplacement) (hn : 0 < n)
    (hselection : spec.selection = .ok selection) {r : Run σ} {d : Json}
    (hd : (view r.world).workloads key = some d) (hdown : Scaled n .down d) {p : Pod}
    (hfound : PodTable.Finds (view r.world).pods (e.replaceOptions spec selection) p)
    (hns : p.ns = key.ns) :
    ∃ k L₀ L, (L₀ = [] ∨ L₀ = [.deleted key.ns p.name]) ∧ (L = L₀ ∨
        ∃ pod, L = L₀ ++ [.created pod] ∧
          ofSort Pod.isReplacement (some pod) = some pod.essence) ∧
      (⟨drift, key, n, Pod.isReplacement, view r.world, .down⟩ : Watch).Ledger k L
        (view (e.replacing spec r).2.world.1) (mutations (e.replacing spec r).2.world.2) := by
  have hthere := hfound.those (isReplacement_of_matches hfound.matching)
  have hfind := lookup_ends (r := r.unnoted) law
    (Watch.Ledger.stable (o := ⟨drift, key, n, Pod.isReplacement, view r.world, .down⟩) still)
    (fun _ _ h => h.those_eq) (e.replaceOptions spec selection)
    (fun pod _ h => isReplacement_of_matches h) (Watch.Ledger.begin hd hdown)
  have hends := Watch.replacePod_ends
    (o := ⟨drift, key, n, Pod.isReplacement, view r.world, .down⟩)
    (F := fun s => s.pod.ns = key.ns ∧ s.pod.name = p.name) law still hn hselection
    (hfind.mono fun x r' _ hx => ⟨hx.1, fun s hs => by
      -- what is found can only be the replacement that there is
      subst hs
      have hname := congrArg Resource.name (hx.2.2.unique hthere)
      have hsame := ((view r.world).pod_named hfound.stored).1
      exact ⟨hx.2.1.trans (hsame.symm.trans hns), hname⟩⟩)
  obtain ⟨k, L, hend, hledger⟩ := hends.result
  obtain ⟨L₀, hremoved, hL⟩ := hend.changes
  refine ⟨k, L₀, L, hremoved.imp id ?_, hL.imp id ?_, hledger⟩
  · rintro ⟨s, ⟨hs, hname⟩, rfl⟩
    rw [hs, hname]
  · rintro ⟨parent, pod, hmakes, rfl⟩
    exact ⟨pod, rfl, ofSort_of_makes hmakes⟩

/-- Exactly when a replacement leaves a workload that was down with its pods back or with a way
back, whatever failed: if it did not delete the replacement that there was, or restored the workload
and did not quiesce it again, or created a replacement with the same markers, or if there was
another of that kind. -/
theorem replace_leaves_way_back_iff (law : e.cluster.Stores view drift)
    (still : Undisturbed drift key Pod.isReplacement) (hn : 0 < n)
    (hselection : spec.selection = .ok selection) {r : Run σ} {d : Json}
    (hd : (view r.world).workloads key = some d) (hdown : Scaled n .down d) {p : Pod}
    (hfound : PodTable.Finds (view r.world).pods (e.replaceOptions spec selection) p)
    (hlinks : Links key p) :
    ((view (e.replacing spec r).2.world.1).Restored key n ∨
        ∃ pod, (view (e.replacing spec r).2.world.1).WayBack key pod) ↔
      .deleted p.ns p.name ∉ mutations (e.replacing spec r).2.world.2 ∨
      Odd ((mutations (e.replacing spec r).2.world.2).countP (·.isPatchOf key)) ∨
      (∃ pod, .created pod ∈ mutations (e.replacing spec r).2.world.2 ∧ Links key pod) ∨
      ∃ pod, (view r.world).WayBack key pod ∧ pod.name ≠ p.name := by
  have hns : p.ns = key.ns := hlinks.1
  obtain ⟨k, L₀, L, hL₀, hL, hledger⟩ :=
    replacing_changes law still hn hselection hd hdown hfound hns
  have hstored := (hfound.those (isReplacement_of_matches hfound.matching)).stored
  rw [show (e.replaceOptions spec selection).ns = key.ns from
    (((view r.world).pod_named hfound.stored).1.symm.trans hns)] at hstored
  have hleads := Turns.leads_iff hstored ((links_essence key p).mpr hlinks) hL₀ hL hledger.turns
  have hcreated : (∃ pod, .created pod ∈ mutations (e.replacing spec r).2.world.2 ∧
      Links key pod) ↔ ∃ pod, .created pod ∈ L ∧ Links key pod :=
    exists_congr fun pod => and_congr_left fun _ => hledger.mem_iff rfl
  rw [hledger.restored_iff rfl, Scale.Phase.after_eq_up_iff, Stored.wayBack_iff, hleads, hns,
    hledger.mem_iff rfl, hledger.patches, Stored.wayBack_ne_iff, hcreated]
  exact or_left_comm

end Engine

end

namespace Slot

/-- A replacement whose deletion was refused still leads back to the workload. -/
theorem way_back_after_refused_deletion :
    (replace (· = 3) replaced).2.world.1.stored.Restored key count ∨
      ∃ pod, (replace (· = 3) replaced).2.world.1.stored.WayBack key pod := by
  have hkept : (mutations (replace (· = 3) replaced).2.world.2).any Mutation.isOfPod = false := by
    simp only [replace, Engine.replacing, Engine.replacePod, Engine.findReplacement, Engine.select,
      Engine.keepsReplacement, Engine.deleteReplacement, Termination.deleteAndWait,
      Engine.findTarget, Engine.swap, Engine.swapIn, Termination.waitForTermination,
      Poll.wait_eq_once, find_timeout, target_timeout, termination_timeout]
    decide +kernel
  refine (Engine.replace_leaves_way_back_iff (engine_stores (· = 3)) (undisturbed fun _ h => h)
    (by decide) rfl (stored_doc replaced) (scaled_doc .down) (finds_standIn _ _)
    (by decide +kernel)).mpr (.inl fun hdeleted => ?_)
  have hany := List.any_eq_true (p := Mutation.isOfPod).mpr ⟨_, hdeleted, rfl⟩
  exact absurd (hkept.symm.trans hany) Bool.false_ne_true

/-- A replacement that was taken down, and whose parent was not scaled up then, leaves the workload
down with no way back. -/
theorem no_way_back_after_refused_patch :
    PodTable.Finds replaced.stored.pods
        ((engine (· = 5)).replaceOptions (spec selector) (.labels selector)) standIn ∧
      Links key standIn ∧ Scaled count .down (doc replaced.phase) ∧
      ¬ ((replace (· = 5) replaced).2.world.1.stored.Restored key count ∨
        ∃ pod, (replace (· = 5) replaced).2.world.1.stored.WayBack key pod) := by
  have hrun : (replace (· = 5) replaced).2.world.1.phase ≠ .up ∧
      (replace (· = 5) replaced).2.world.1.pod.isNone = true := by
    simp only [replace, Engine.replacing, Engine.replacePod, Engine.findReplacement, Engine.select,
      Engine.keepsReplacement, Engine.deleteReplacement, Termination.deleteAndWait,
      Engine.findTarget, Engine.swap, Engine.swapIn, Termination.waitForTermination,
      Poll.wait_eq_once, find_timeout, target_timeout, termination_timeout]
    decide +kernel
  obtain ⟨hphase, hnone⟩ := hrun
  refine ⟨finds_standIn _ _, by decide +kernel, scaled_doc .down, ?_⟩
  rintro (hrestored | ⟨pod, hway⟩)
  · exact hphase (restored_iff.mp hrestored)
  · obtain ⟨hthere, -⟩ := podAt_eq_some.mp hway.stored
    rw [hthere] at hnone
    cases hnone

end Slot

end PodSwap
