import PodSwap.Proofs.Engine.Quiet
import PodSwap.Proofs.Engine.Standing
import PodSwap.Proofs.Replacement.Prints

/-!
# Replacing again

A replacement that was made is found again by the next replacement, with markers that lead to its
parent and with the fingerprints that the parent and the spec have then: scaling the parent down
changed nothing of what they are taken of. The parent asks for no pods already. So there is nothing
to do.

Main statement: `replace_again_unchanged`.
-/

namespace PodSwap

open Scale

section

variable [Schema]

namespace Engine

variable {σ : Type} {e : Engine σ} {spec : Spec} {key : WorkloadKey} {template : PodTemplate}

/-- Whether a pod is marked as the replacement that a spec makes of a pod of a workload as long as
the workload has a template. -/
structure UpToDate (e : Engine σ) (spec : Spec) (key : WorkloadKey) (template : PodTemplate)
    (pod : Pod) : Prop where
  markers : Ownership.parentMarkers pod = some (key.kind.text, key.name)
  current : ∀ w : Workload, w.podTemplate.getD {} = template →
    ∃ prints, e.fingerprints w spec = .ok prints ∧ isCurrent pod prints = true

/-- What is made of a replacement is up to date. -/
theorem upToDate_of_build {target : SelectedPod} {parent : Workload} {prints : Fingerprints}
    {wanted pod : Pod} (hname : parent.name ≠ "")
    (hprints : e.fingerprints parent spec = .ok prints)
    (hbuild : Replacement.build target parent spec e.images prints = .ok wanted)
    (hmade : Pod.MadeFrom wanted pod) :
    e.UpToDate spec parent.key (parent.podTemplate.getD {}) pod where
  markers := by
    rw [Ownership.parentMarkers_congr hmade.annotations]
    exact Replacement.parentMarkers_of_build hbuild hname
  current w hw := by
    refine ⟨prints, (fingerprints_congr hw).trans hprints, ?_⟩
    rw [isCurrent_congr hmade.annotations]
    exact (isCurrent_of_build hbuild prints).mpr rfl

/-- What the cluster keeps writing to a pod has nothing to do with it. -/
theorem UpToDate.of_essence {pod pod' : Pod} (h : e.UpToDate spec key template pod)
    (hessence : pod'.essence = pod.essence) : e.UpToDate spec key template pod' := by
  have hsame := Pod.annotations_of_essence hessence
  refine ⟨(Ownership.parentMarkers_congr hsame).trans h.markers, fun w hw => ?_⟩
  obtain ⟨prints, hprints, hcurrent⟩ := h.current w hw
  exact ⟨prints, hprints, (isCurrent_congr hsame prints).trans hcurrent⟩

/-! ## Looking for what there is -/

section

variable {view : σ → Stored} {drift : Stored → Stored → Prop} {A : Stored → List Mutation → Prop}
  {r : Run (σ × List CallEvent)} (law : e.cluster.Stores view drift) (hA : Stable drift A)
  (hquiet : ∀ s m, A s m → s.Quiet key template)

include law hA hquiet

/-- A replacement that is up to date is kept, and nothing is done about it. -/
theorem keepsReplacement_upToDate {s : SelectedPod} (hns : s.pod.ns = key.ns)
    (hcurrent : e.UpToDate spec key template s.pod) (hr : Holds view A r) :
    (e.noted.keepsReplacement s spec).Ends r fun x r' =>
      ¬ Troubled r' → x = .ok true ∧ r.Notes Call.Reads r' := by
  refine keepsReplacement_of_parent law hA key hns hcurrent.markers
    (φ := fun w => w.replicas = some 0 ∧ w.podTemplate.getD {} = template)
    (fun s m hs => (hquiet s m hs).isSome) ?_ ?_ hr
  · intro s m w hs ha
    obtain ⟨hkey, hstands⟩ := Stored.standsAs_of_answers ha
    rw [hkey] at hstands
    exact (hquiet s m hs).of_standsAs hstands
  · rintro w r₁ ⟨hzero, htemplate⟩ hreads
    obtain ⟨prints, hprints, hmarked⟩ := hcurrent.current w htemplate
    have hkept : e.noted.judge spec s (.ok w) = .kept w := by
      rw [judge, show e.noted.fingerprints w spec = .ok prints from hprints]
      exact if_pos hmarked
    rw [hkept, carryOut, Scale.quiesce, quiescePatch_of_replicas hzero]
    exact Op.Ends.of_pure fun _ => ⟨rfl, hreads⟩

/-- Where the replacement that there is is up to date, a replacement only reads. -/
theorem replacePod_upToDate {selection : Selection} (hselection : spec.selection = .ok selection)
    {t : PodTable} (ht : ∀ s m, A s m → s.those (e.replaceOptions spec selection).admits = t)
    (hns : key.ns = spec.nsOr e.settings.defaultNamespace) {pod : Pod}
    (hfinds : t.Finds (e.replaceOptions spec selection) pod.essence)
    (hcurrent : e.UpToDate spec key template pod) (hr : Holds view A r) :
    (e.noted.replacePod spec).Ends r fun x r' => ¬ Troubled r' →
      x = .ok (.unchanged pod.name) ∧ r.Notes Call.Reads r' := by
  refine (replacePod_of_found law hA hselection ht hfinds (K := fun r' => r.Notes Call.Reads r')
    (D := fun _ => False) (fun _ _ _ h => h) ?_ hr).mono ?_
  · intro s r₁ hs hsame hholds hreads
    refine (keepsReplacement_upToDate law hA hquiet (hs.trans hns.symm)
      (hcurrent.of_essence hsame) hholds).mono fun x r' _ h hcalm => ?_
    obtain ⟨hx, hreads'⟩ := h hcalm
    exact .inl ⟨hx, hreads.trans hreads'⟩
  · exact fun x r' _ h hcalm => (h hcalm).resolve_right fun h => h.2

end

/-- Replacing twice is replacing once. Let a replacement have been made for a pod of a workload with
a name. Let the pod that was created have a name, and let it be the only one that the spec finds as
its replacement when it is made again; others leave alone the workload's count and template and what
the spec finds. If nothing fails then, the second replacement leaves things unchanged, tells the
name that the first one told, and was found by reading only. -/
theorem replace_again_unchanged {view : σ → Stored} {drift : Stored → Stored → Prop}
    {selection : Selection} (law : e.cluster.Stores view drift)
    (still : Untouched drift key (e.replaceOptions spec selection).admits)
    (hselection : spec.selection = .ok selection)
    (hns : key.ns = spec.nsOr e.settings.defaultNamespace) (hname : key.name ≠ "")
    {first second : Run σ} {selected replacement : String}
    (hreplaced : (e.replacing spec first).1 =
      .ok (.replaced selected replacement key.identity))
    {made : Pod} (hmade : .created made ∈ mutations (e.replacing spec first).2.world.2)
    (hnamed : made.metadata.name ≠ none)
    (hbetween : drift (view (e.replacing spec first).2.world.1) (view second.world)) {pod : Pod}
    (hthere : (view second.world).pods made.ns made.name = some pod)
    (honly : (view second.world).Only (e.replaceOptions spec selection) pod)
    (hcalm : ¬ Troubled (e.replacing spec second).2) :
    (e.replacing spec second).1 = .ok (.unchanged replacement) ∧
      ∀ event ∈ (e.replacing spec second).2.world.2, event.call.isMutating = false := by
  obtain ⟨target, parent, prints, wanted, hkey, hprints, hbuild, hfrom, htold, hquiet, hthose⟩ :=
    replacing_leaves law still hns hreplaced hmade
  have hparentName : parent.name ≠ "" := by
    rw [show parent.name = key.name from congrArg WorkloadKey.name hkey]
    exact hname
  -- the pod that is there is the one that was created
  have hadmits : (e.replaceOptions spec selection).admits pod = true :=
    SelectOptions.admits_of_matches ((view second.world).pod_named honly.stored).1 honly.matching
  have hsame : pod.essence = made.essence := by
    have hstored := Stored.those_of_pod hthere (SelectOptions.live_of_matches honly.matching)
      hadmits
    rw [still.pods _ _ hbetween, hthose] at hstored
    obtain ⟨p, hp, hessence⟩ := Option.map_eq_some_iff.mp hstored
    cases (Option.filter_eq_some_iff.mp hp).1
    exact hessence.symm
  have hcurrent : e.UpToDate spec key (parent.podTemplate.getD {}) pod := by
    rw [← hkey]
    exact (upToDate_of_build hparentName hprints hbuild hfrom).of_essence hsame
  let A : Stored → List Mutation → Prop := fun s _ =>
    s.those (e.replaceOptions spec selection).admits =
      (view second.world).those (e.replaceOptions spec selection).admits ∧
    s.Quiet key (parent.podTemplate.getD {})
  have hA : Stable drift A := fun s s' _ hdrift h =>
    ⟨(still.pods s s' hdrift).trans h.1, still.quiet hdrift h.2⟩
  have hends := replacePod_upToDate (r := second.unnoted) law hA (fun _ _ h => h.2) hselection
    (fun _ _ h => h.1) hns (honly.finds.those hadmits) hcurrent ⟨rfl, still.quiet hbetween hquiet⟩
  obtain ⟨hresult, new, hnew, hreads⟩ := hends.result hcalm
  have hname' : pod.name = replacement := by
    rw [((view second.world).pod_named hthere).2, htold, Resource.name]
    cases hm : made.metadata.name with
    | none => exact absurd hm hnamed
    | some name => rfl
  rw [hname'] at hresult
  refine ⟨hresult, fun event hevent => hreads event ?_⟩
  rw [show new = (e.replacing spec second).2.world.2 from (hnew.trans (List.append_nil new)).symm]
  exact hevent

end Engine

end

namespace Slot

/-- Others leave the stateful set and every sort of replacements alone. -/
theorem untouched {sort : Pod → Bool} (h : ∀ pod, sort pod = true → pod.isReplacement = true) :
    Untouched Drifts key sort where
  count s s' hdrift := by rw [Stored.field, Stored.field, hdrift.1]
  template s s' hdrift := by rw [Stored.field, Stored.field, hdrift.1]
  pods := (undisturbed h).pods

/-- The replacement of the pod of the stateful set, with the fingerprints it is marked with. -/
def marked (prints : Fingerprints) : Pod :=
  { standIn with metadata := { standIn.metadata with
      annotations := some (((standIn.metadata.annotationTable.insert Marker.container "main").insert
        Marker.parentHash prints.parent).insert Marker.configHash prints.config) } }

/-- What a replacement leaves of the cluster. -/
def left (prints : Fingerprints) : Slot :=
  { pod := some (marked prints), phase := .down, calls := 6 }

theorem eq_left {w : Slot} {prints : Fingerprints} (hpod : w.pod = some (marked prints))
    (hphase : w.phase = .down) (hcalls : w.calls = 6) : w = left prints := by
  cases w
  rw [left, ← hpod, ← hphase, ← hcalls]

/-- The fingerprints of an empty template and the spec that selects by a label. -/
def prints : Fingerprints :=
  ⟨"44136fa355b3678a1146ad16f7e8649e94fb4fc21fe77e8310c060f61caaff8a",
    "4b4f0fa1fd9534ec0082beb9080df954ba9f59452ad9a8115166c8416ab58f32"⟩

/-- A replacement on the cluster when no call is refused. -/
theorem smooth_replacement :
    let first := replace (fun _ => false) fresh
    first.1 = .ok (.replaced "web-0" "web-0-devspace" key.identity) ∧
      (mutations first.2.world.2).findSome? Mutation.created? = some (marked prints) ∧
      first.2.world.1.pod = some (marked prints) ∧ first.2.world.1.phase = .down ∧
      first.2.world.1.calls = 6 := by
  simp only [replace, Engine.replacing, Engine.replacePod, Engine.findReplacement, Engine.select,
    Engine.keepsReplacement, Engine.deleteReplacement, Termination.deleteAndWait, Engine.findTarget,
    Engine.swap, Engine.swapIn, Termination.waitForTermination, Poll.wait_eq_once, find_timeout,
    target_timeout, termination_timeout]
  decide +kernel

theorem left_of_replace : (replace (fun _ => false) fresh).2.world.1 = left prints := by
  obtain ⟨-, -, hpod, hphase, hcalls⟩ := smooth_replacement
  exact eq_left hpod hphase hcalls

/-- Two replacements on the cluster when no call is refused. -/
theorem smooth_repetition :
    let first := replace (fun _ => false) fresh
    let second := replace (fun _ => false) first.2.world.1
    first.1 = .ok (.replaced "web-0" "web-0-devspace" key.identity) ∧
      ((mutations first.2.world.2).findSome? Mutation.created?).map (fun made =>
        (made.ns, made.name, made.metadata.name)) =
          some (key.ns, "web-0-devspace", some "web-0-devspace") ∧
      first.2.world.1.pod.map (fun pod => (pod.ns, pod.name)) = some (key.ns, "web-0-devspace") ∧
      first.2.world.1.pod.map ((engine fun _ => false).replaceOptions (spec selector)
        (.labels selector)).matches = some true ∧
      second.2.cancelAt = none ∧ second.2.world.2.all CallEvent.isSmooth = true := by
  obtain ⟨hreplaced, hmade, -⟩ := smooth_replacement
  refine ⟨hreplaced, hmade ▸ rfl, ?_⟩
  rw [left_of_replace]
  simp only [replace, Engine.replacing, Engine.replacePod, Engine.findReplacement, Engine.select,
    Engine.keepsReplacement, Engine.deleteReplacement, Termination.deleteAndWait, Engine.findTarget,
    Engine.swap, Engine.swapIn, Termination.waitForTermination, Poll.wait_eq_once, find_timeout,
    target_timeout, termination_timeout]
  decide +kernel

/-- The pod of the stateful set is replaced, and the replacement kept when it is replaced again. -/
theorem unchanged_after_replacement :
    let first := replace (fun _ => false) fresh
    let second := replace (fun _ => false) first.2.world.1
    first.1 = .ok (.replaced "web-0" "web-0-devspace" key.identity) ∧
      second.1 = .ok (.unchanged "web-0-devspace") ∧
      ∀ event ∈ second.2.world.2, event.call.isMutating = false := by
  obtain ⟨hreplaced, hmade, hpod, hmatch, hcancel, hsmooth⟩ := smooth_repetition
  obtain ⟨made, hfound, hmade⟩ := Option.map_eq_some_iff.mp hmade
  obtain ⟨pod, hthere, hpod⟩ := Option.map_eq_some_iff.mp hpod
  simp only [Prod.mk.injEq] at hmade hpod
  obtain ⟨hmadeNs, hmadeName, hnamed⟩ := hmade
  obtain ⟨hpodNs, hpodName⟩ := hpod
  rw [hthere] at hmatch
  have hcalm := Engine.Calm.of_isSmooth (e := engine fun _ => false) hcancel hsmooth (by decide)
  refine ⟨hreplaced, Engine.replace_again_unchanged (e := engine fun _ => false)
    (engine_stores _) (untouched fun pod h => ?_) rfl rfl (by decide) hreplaced
    (mem_of_created? hfound) (by rw [hnamed]; simp) (.refl _) ?_
    (only _ hthere hpodNs (Option.some.inj hmatch)) hcalm.untroubled⟩
  · exact Engine.isReplacement_of_matches (Bool.and_eq_true_iff.mp h).2
  · exact podAt_eq_some.mpr ⟨hthere, hpodNs.trans hmadeNs.symm, hpodName.trans hmadeName.symm⟩

end Slot

end PodSwap
