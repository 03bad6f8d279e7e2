import PodSwap.Proofs.Engine.Slot
import PodSwap.Proofs.Replacement.Marks

/-!
# Replacing and then reverting

A revert undoes what a replacement did to the parent: the replacement leads back to the workload
that was quiesced for it, and the record gives that as many pods as it had.

Main statement: `revert_undoes_replace`.
-/

namespace PodSwap

open Scale

section

variable [Schema]

/-- Kind, namespace and name in one text, as those of a workload with the key. -/
def WorkloadKey.identity (key : WorkloadKey) : String :=
  key.kind.text ++ " " ++ key.ns ++ "/" ++ key.name

/-- The identity of a workload in a namespace tells it from the others there. -/
theorem WorkloadKey.eq_of_identity {w : Workload} {key : WorkloadKey} (hns : w.ns = key.ns)
    (h : w.identity = key.identity) : w.key = key := by
  obtain ⟨kind, ns, name⟩ := key
  simp only at hns
  have hchars := congrArg String.toList h
  simp only [Workload.identity, WorkloadKey.identity, hns, String.toList_append,
    List.append_assoc] at hchars
  rw [Workload.key, hns]
  have hkind : w.kind = kind := by
    -- the first letters of the kinds differ
    cases hw : w.kind <;> cases kind <;> rw [hw] at hchars <;>
      first | rfl | (simp [WorkloadKind.text] at hchars)
  subst hkind
  have hname : w.name = name := by
    have htail := List.append_cancel_left (List.append_cancel_left
      (List.append_cancel_left (List.append_cancel_left hchars)))
    exact String.toList_inj.mp htail
  rw [hname]

namespace Engine

variable {σ : Type} {e : Engine σ} {view : σ → Stored} {drift : Stored → Stored → Prop}
  {key : WorkloadKey} {n : Int32} {spec : Spec} {selection : Selection}

/-- What a server makes of a replacement leads to the parent, if that has a name. -/
theorem parentMarkers_of_makes {parent : Workload} {pod : Pod} (h : e.Makes spec parent pod)
    (hname : parent.name ≠ "") :
    Ownership.parentMarkers pod = some (parent.kind.text, parent.name) := by
  obtain ⟨target, prints, replacement, hbuild, hmade⟩ := h
  rw [Ownership.parentMarkers_congr hmade.annotations]
  exact Replacement.parentMarkers_of_build hbuild hname

/-- After a replacement was made for a pod of a workload, the workload is down, and the replacement
leads to it. -/
theorem replacing_down (law : e.cluster.Stores view drift)
    (still : Undisturbed drift key fun _ => false) (hn : 0 < n)
    (hselection : spec.selection = .ok selection)
    (hns : key.ns = spec.nsOr e.settings.defaultNamespace) (hname : key.name ≠ "") {r : Run σ}
    {ph : Phase} {d : Json} (hd : (view r.world).workloads key = some d) (hs : Scaled n ph d)
    {selected replacement : String} (hreplaced : (e.replacing spec r).1 =
      .ok (.replaced selected replacement key.identity)) {o : Watch}
    (ho : o = ⟨drift, key, n, fun _ => false, view r.world, ph⟩) :
    ∃ k L, o.Ledger k L (view (e.replacing spec r).2.world.1)
        (mutations (e.replacing spec r).2.world.2) ∧
      o.phase.after k = .down ∧
      ∀ pod, .created pod ∈ mutations (e.replacing spec r).2.world.2 →
        Ownership.parentMarkers pod = some (key.kind.text, key.name) := by
  subst ho
  have hfind := select_ends (r := r.unnoted) law
    (Watch.Ledger.stable (o := ⟨drift, key, n, fun _ => false, view r.world, ph⟩) still)
    (e.replaceOptions spec selection) (φ := fun _ => True) (ψ := True)
    (fun _ _ _ _ _ _ _ => trivial) (fun _ _ _ _ _ _ => trivial) (Watch.Ledger.begin hd hs)
  have hends := Watch.replacePod_ends (o := ⟨drift, key, n, fun _ => false, view r.world, ph⟩)
    (F := fun _ => True) law still hn hselection
    (hfind.mono fun x r' _ hx => ⟨hx.1, fun _ _ => trivial⟩)
  obtain ⟨k, L, hend, hledger⟩ := hends.result
  obtain ⟨parent, pod, L₀, hidentity, hmakes, hparent, hdown, hremoved, rfl⟩ :=
    hend.of_replaced hreplaced
  have hkey := WorkloadKey.eq_of_identity (hparent.trans hns.symm) hidentity
  refine ⟨k, _, hledger, hdown hkey, fun made hcreated => ?_⟩
  have hmem : .created made ∈ L₀ ++ [Mutation.created pod] := (hledger.mem_iff rfl).mp hcreated
  rw [List.mem_append, List.mem_singleton] at hmem
  rcases hmem with hmem | hsame
  · exact absurd hmem (hremoved.not_created made)
  · cases hsame
    have hparentName : parent.name = key.name := congrArg WorkloadKey.name hkey
    have hparentKind : parent.kind = key.kind := congrArg WorkloadKey.kind hkey
    rw [parentMarkers_of_makes hmakes (by rw [hparentName]; exact hname), hparentName, hparentKind]

/-- A revert that follows a replacement undoes it: it removes the pod that was created, and the
workload asks for as many pods as before, without a record and with all else as it was. Others may
do as they like in between, except with the scale of the workload, and while the revert goes on also
with the pod. -/
theorem revert_undoes_replace {later : Cluster σ} {drift' : Stored → Stored → Prop}
    (law : e.cluster.Stores view drift) (still : Undisturbed drift key fun _ => false)
    (law' : later.Stores view drift')
    (still' : Undisturbed drift' key fun pod => pod.ns = (e.revertOptions spec selection).ns &&
      (e.revertOptions spec selection).matches pod)
    (hn : 0 < n) (hselection : spec.selection = .ok selection)
    (hns : key.ns = spec.nsOr e.settings.defaultNamespace) (hname : key.name ≠ "")
    {first second : Run σ} {d : Json} (hd : (view first.world).workloads key = some d)
    (hup : Scaled n .up d) {selected replacement : String}
    (hreplaced : (e.replacing spec first).1 =
      .ok (.replaced selected replacement key.identity))
    {made : Pod} (hmade : .created made ∈ mutations (e.replacing spec first).2.world.2)
    (hbetween : drift (view (e.replacing spec first).2.world.1) (view second.world)) {pod : Pod}
    (hthere : (view second.world).pods made.ns made.name = some pod)
    (hmarkers : Ownership.parentMarkers pod = Ownership.parentMarkers made)
    (honly : (view second.world).Only (e.revertOptions spec selection) pod)
    (hcalm : Calm { e with cluster := later }
      (reverting { e with cluster := later } spec second).2) :
    let reverted := reverting { e with cluster := later } spec second
    let after := view reverted.2.world.1
    (∃ s, reverted.1 = .ok (some s) ∧ s.pod.essence = pod.essence) ∧
      ((∀ s s', drift' s s' → s.pods made.ns made.name = none → s'.pods made.ns made.name = none) →
        after.pods made.ns made.name = none) ∧
      after.Restored key n ∧
      ∀ path, Elsewhere path →
        (∀ s s', drift s s' ∨ drift' s s' → s'.field key path = s.field key path) →
        after.field key path = (view first.world).field key path := by
  dsimp only
  obtain ⟨k, L, hledger, hdown, hlead⟩ :=
    replacing_down law still hn hselection hns hname hd hup hreplaced rfl
  have hbegin := Watch.Ledger.stable still _ _ _ hbetween hledger
  obtain ⟨d', hd', hs', -⟩ := hbegin.workload
  rw [hdown] at hs'
  have hmarked : ∀ q : Pod, q.ns = (e.revertOptions spec selection).ns →
      (e.revertOptions spec selection).matches q = true →
      (q.ns = (e.revertOptions spec selection).ns &&
        (e.revertOptions spec selection).matches q) = true := by
    intro q hq hmatch
    simpa using ⟨hq, hmatch⟩
  obtain ⟨k', L', hend, hledger', hgone⟩ := reverting_ends (e := { e with cluster := later }) law'
    still' hn hselection hmarked hd' hs' rfl
  obtain ⟨hpodns, hpodname⟩ := (view second.world).pod_named honly.stored
  obtain ⟨hmadens, hmadename⟩ := (view second.world).pod_named hthere
  have hlinks : Links key pod := by
    refine ⟨hpodns.trans hns.symm, ?_⟩
    rw [hmarkers, hlead made hmade]
  obtain ⟨s, hs, hessence⟩ := hend.removes_of_finds hcalm
    (honly.finds.those (hmarked pod hpodns honly.matching)) ((links_essence key pod).mpr hlinks)
  have hup := (hend.up_iff hcalm rfl hmarked).mpr ⟨pod, honly.finds, hlinks⟩
  have hrestored := (hledger'.restored_iff rfl).mpr hup
  refine ⟨⟨s, hs, hessence⟩, ?_, hrestored, ?_⟩
  · intro habsent
    have hsns : s.pod.ns = made.ns := (congrArg Resource.ns hessence).trans hmadens
    have hsname : s.pod.name = made.name := (congrArg Resource.name hessence).trans hmadename
    rw [← hsns, ← hsname] at habsent ⊢
    exact hgone s hs habsent
  · intro path hpath hkept
    rw [hledger'.elsewhere path hpath fun s s' h => hkept s s' (.inr h),
      hbegin.elsewhere path hpath fun s s' h => hkept s s' (.inl h)]

end Engine

end

namespace Slot

/-- The stateful set is up, with its pod. -/
def fresh : Slot := { pod := some target }

/-- A replacement and a revert on the cluster when no call is refused. -/
theorem smooth_round_trip :
    let first := replace (fun _ => false) fresh
    let second := revert (fun _ => false) first.2.world.1
    first.1 = .ok (.replaced "web-0" "web-0-devspace" key.identity) ∧
      ((mutations first.2.world.2).findSome? Mutation.created?).map (fun made =>
        (made.ns, made.name, Ownership.parentMarkers made)) =
          some (key.ns, "web-0-devspace", some (key.kind.text, key.name)) ∧
      first.2.world.1.pod.map (fun pod => (pod.ns, pod.name, Ownership.parentMarkers pod)) =
          some (key.ns, "web-0-devspace", some (key.kind.text, key.name)) ∧
      first.2.world.1.pod.map ((engine fun _ => false).revertOptions (spec selector)
        (.labels selector)).matches = some true ∧
      second.2.cancelAt = none ∧ second.2.world.2.all CallEvent.isSmooth = true := by
  simp only [replace, Engine.replacing, Engine.replacePod, revert, Engine.reverting,
    Engine.revertPod, Engine.findReplacement, Engine.select, Engine.keepsReplacement,
    Engine.deleteReplacement, Termination.deleteAndWait, Engine.findTarget, Engine.swap,
    Engine.swapIn, Termination.waitForTermination, Poll.wait_eq_once, find_timeout, revert_timeout,
    target_timeout, termination_timeout]
  decide +kernel

/-- The pod of the stateful set is replaced and the replacement removed again. -/
theorem restored_after_round_trip :
    let first := replace (fun _ => false) fresh
    let second := revert (fun _ => false) first.2.world.1
    first.1 = .ok (.replaced "web-0" "web-0-devspace" key.identity) ∧
      second.2.world.1.stored.Restored key count := by
  obtain ⟨hreplaced, hmade, hpod, hmatch, hcancel, hsmooth⟩ := smooth_round_trip
  obtain ⟨made, hfound, hmade⟩ := Option.map_eq_some_iff.mp hmade
  obtain ⟨pod, hthere, hpod⟩ := Option.map_eq_some_iff.mp hpod
  simp only [Prod.mk.injEq] at hmade hpod
  obtain ⟨hmadeNs, hmadeName, hmadeMarkers⟩ := hmade
  obtain ⟨hpodNs, hpodName, hpodMarkers⟩ := hpod
  have hcreated : .created made ∈ mutations (replace (fun _ => false) fresh).2.world.2 := by
    obtain ⟨x, hmem, hx⟩ := List.exists_of_findSome?_eq_some hfound
    cases x with
    | created q =>
      cases hx
      exact hmem
    | deleted _ _ => cases hx
    | patched _ _ => cases hx
  rw [hthere] at hmatch
  have honly := only _ hthere hpodNs (Option.some.inj hmatch)
  have hmarked : ∀ pod : Pod, (decide (pod.ns = ((engine fun _ => false).revertOptions
      (spec selector) (.labels selector)).ns) && ((engine fun _ => false).revertOptions
      (spec selector) (.labels selector)).matches pod) = true → pod.isReplacement = true :=
    fun pod h => Engine.isReplacement_of_matches (Bool.and_eq_true_iff.mp h).2
  refine ⟨hreplaced, (Engine.revert_undoes_replace (e := engine fun _ => false)
    (engine_stores _) (undisturbed fun _ h => by cases h) (stores fun _ => false)
    (undisturbed hmarked) (by decide) rfl rfl (by decide) (stored_doc fresh) (scaled_doc .up)
    hreplaced hcreated (.refl _) ?_ (hpodMarkers.trans hmadeMarkers.symm) honly
    (.of_isSmooth hcancel hsmooth (by decide))).2.2.1⟩
  exact podAt_eq_some.mpr ⟨hthere, hpodNs.trans hmadeNs.symm, hpodName.trans hmadeName.symm⟩

end Slot

end PodSwap
