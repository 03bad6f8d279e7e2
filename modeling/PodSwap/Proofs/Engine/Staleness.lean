import PodSwap.Proofs.Engine.Again
import PodSwap.Proofs.Engine.Deletions

/-!
# When a replacement is stale

A replacement is made for a spec, images and a template of its parent, and later found again for
others. It is left alone if the spec is the same and so is, up to fractions of seconds, the template
with the image put into it; otherwise it is deleted. Nothing else about the parent enters. What the
images are put into may hide that they differ, but only if they are put into different containers.

Main statement: `leavesAlone_iff`.
-/

namespace PodSwap

open Json Scale

section

variable [Schema]

/-! ## The template that is stored -/

namespace Stored

variable {s s' : Stored} {key : WorkloadKey} {w : Workload}

/-- Whether a workload is stored, with a template. -/
structure Templates (s : Stored) (key : WorkloadKey) (template : PodTemplate) : Prop where
  there : s.workloads key ≠ none
  template : (readField (s.field key templatePath)).map (·.getD {}) = .ok template

/-- What is stored as it is stands as it was read. -/
theorem Shows.standsAs (h : s.Shows w) : s.StandsAs w.key w := by
  have hread : s.Answers (.getWorkload w.kind w.ns w.name) (some w) s := ⟨h, rfl⟩
  exact (standsAs_of_answers hread).2

theorem Shows.templates (h : s.Shows w) : s.Templates w.key (w.podTemplate.getD {}) := by
  obtain ⟨d, hd, -⟩ := id h
  refine ⟨fun hnone => ?_, h.standsAs.template⟩
  cases hd.symm.trans hnone

/-- What is read of a workload has the template that is stored. -/
theorem Templates.of_answers {template : PodTemplate} (h : s.Templates key template)
    (ha : s.Answers (.getWorkload key.kind key.ns key.name) (some w) s') :
    w.podTemplate.getD {} = template := by
  obtain ⟨hkey, hstands⟩ := standsAs_of_answers ha
  obtain ⟨-, rfl⟩ := ha
  have htemplate := hstands.template
  rw [hkey, h.template] at htemplate
  exact (Except.ok.inj htemplate).symm

end Stored

/-- Whether a call was begun, unless a run met a failure. -/
def Run.Made {σ : Type} (c : Call) (r : Run (σ × List CallEvent)) : Prop :=
  Troubled r ∨ ∃ event ∈ r.world.2, event.call = c

theorem Run.Made.leads {σ : Type} {c : Call} {r r' : Run (σ × List CallEvent)} (h : r.Made c)
    (hleads : r.Leads r') : r'.Made c := by
  rcases h with htrouble | ⟨event, hevent, hcall⟩
  · exact .inl (htrouble.leads hleads)
  · exact .inr ⟨event, hleads.events.subset hevent, hcall⟩

namespace Engine

variable {σ : Type} {e : Engine σ} {view : σ → Stored} {drift : Stored → Stored → Prop}
  {r : Run (σ × List CallEvent)}

/-! ## Keeping and taking down -/

section

variable (law : e.cluster.Stores view drift)

include law

/-- Scaling a workload fails only in trouble. -/
theorem send_fails (w : Workload) (patch : Option Json) (r : Run (σ × List CallEvent)) :
    (send e.noted.cluster .caller w patch).Ends r fun x r' => ∀ err, x = .error err →
      Troubled r' := by
  cases patch with
  | none => exact .of_pure fun _ h => by cases h
  | some p =>
    refine (law.request_ends .caller (c := .patchWorkload w.kind w.ns w.name p)
      (A := fun _ _ => True) (B := fun _ _ _ => True) (fun _ _ _ _ _ => trivial)
      (fun _ _ _ _ _ _ => trivial) (fun _ _ _ _ _ _ => trivial) trivial).bind ?_
      fun _ _ _ h _ _ => h.2
    exact fun _ _ _ _ => .of_pure fun _ h => by cases h

/-- A replacement that is to be kept is, and no pod is deleted. -/
theorem carryOut_kept (s : SelectedPod) (w : Workload) (r : Run (σ × List CallEvent)) :
    (e.noted.carryOut s (.kept w)).Ends r fun x r' => ¬ Troubled r' →
      x = .ok true ∧ r.Notes Call.Spares r' := by
  have hspares : (quiesce e.noted.cluster .caller w).Calls Call.Spares :=
    Op.Calls.closed.quiesce (fun _ _ _ _ _ _ h => by cases h) w
  refine ((send_fails law w (quiescePatch w) r).and (hspares r)).tried ?_
  rintro x r₁ - ⟨hfails, hnotes⟩
  cases x with
  | ok _ => exact .of_pure fun _ => ⟨rfl, hnotes⟩
  | error err =>
    have htrouble := hfails err rfl
    dsimp only
    split
    · exact .of_throw fun hcalm => absurd htrouble hcalm
    · exact .of_pure fun _ => ⟨rfl, hnotes⟩

/-- A call that comes first is made. -/
theorem request_bind_made {α : Type} {c : Call} {f : c.Answer → Op (σ × List CallEvent) α}
    (hf : ∀ a, (f a).Calls fun _ => True) (r : Run (σ × List CallEvent)) :
    (e.noted.cluster.request .caller c >>= f).Ends r fun _ r' => r'.Made c := by
  refine (law.request_ends .caller (c := c) (A := fun _ _ => True) (B := fun _ _ _ => True)
    (fun _ _ _ _ _ => trivial) (fun _ _ _ _ _ _ => trivial) (fun _ _ _ _ _ _ => trivial)
    trivial).bind ?_ fun _ _ _ h => .inl h.2
  rintro a r₁ - ⟨-, hevent⟩
  exact (hf a r₁).mono fun _ _ hleads _ => .inr ⟨_, hleads.events.subset hevent, rfl⟩

theorem deleteReplacement_made (s : SelectedPod) (r : Run (σ × List CallEvent)) :
    (e.noted.deleteReplacement s).Ends r fun _ r' =>
      r'.Made (.deletePod s.pod.ns s.pod.name) := by
  unfold deleteReplacement Termination.deleteAndWait
  refine (request_bind_made law ?_ r).during _ fun _ _ _ h => h
  intro found
  cases found with
  | false => exact .of_pure ()
  | true => exact Op.Calls.closed.wait _ _ trivial

/-- A replacement that is to be taken down is not kept, and its deletion is begun. -/
theorem carryOut_takenDown_made (s : SelectedPod) (parent : Option Workload)
    (r : Run (σ × List CallEvent)) :
    (e.noted.carryOut s (.takenDown parent)).Ends r fun x r' =>
      x ≠ .ok true ∧ r'.Made (.deletePod s.pod.ns s.pod.name) := by
  have htakeDown : (e.noted.takeDown s parent).Ends r fun _ r' =>
      r'.Made (.deletePod s.pod.ns s.pod.name) := by
    cases parent with
    | none =>
      rw [takeDown_none]
      exact (deleteReplacement_made law s r).bind (fun _ _ _ h => .of_pure h) fun _ _ _ h => h
    | some w =>
      have hrestore : (Scale.restore e.noted.cluster .caller w).Calls fun _ => True :=
        Op.Calls.closed.restore (fun _ _ _ _ => trivial) w
      rw [takeDown_some]
      refine (deleteReplacement_made law s r).bind (fun _ r₁ _ h => ?_) fun _ _ _ h => h
      have hrest := (hrestore.during "scale up parent").bind fun _ => .of_pure ()
      exact (hrest r₁).mono fun _ _ hleads _ => h.leads hleads
  rw [carryOut_takenDown]
  refine htakeDown.bind (fun _ r₁ _ h => .of_pure ⟨?_, h⟩) fun _ _ _ h => ⟨?_, h⟩
  · exact fun h => by cases h
  · exact fun h => by cases h

/-- The replacement that is found is left alone if it is current, and is deleted if it is not. -/
theorem replacePod_judges {spec : Spec} {selection : Selection} {key : WorkloadKey}
    {template : PodTemplate} {prints : Fingerprints} {t : PodTable} {pod : Pod}
    {A : Stored → List Mutation → Prop} (hA : Stable drift A)
    (htemplate : ∀ s m, A s m → s.Templates key template)
    (ht : ∀ s m, A s m → s.those (e.replaceOptions spec selection).admits = t)
    (hselection : spec.selection = .ok selection)
    (hns : key.ns = spec.nsOr e.settings.defaultNamespace)
    (hfinds : t.Finds (e.replaceOptions spec selection) pod.essence) (hpodNs : pod.ns = key.ns)
    (hmarkers : Ownership.parentMarkers pod = some (key.kind.text, key.name))
    (hprints : ∀ w : Workload, w.podTemplate.getD {} = template →
      e.fingerprints w spec = .ok prints) (hr : Holds view A r) :
    (e.noted.replacePod spec).Ends r fun x r' => ¬ Troubled r' →
      x = .ok (.unchanged pod.name) ∧ isCurrent pod prints = true ∧ r.Notes Call.Spares r' ∨
        (∀ name, x ≠ .ok (.unchanged name)) ∧ isCurrent pod prints = false ∧
          r'.Made (.deletePod pod.ns pod.name) := by
  refine replacePod_of_found law hA hselection ht hfinds
    (K := fun r' => isCurrent pod prints = true ∧ r.Notes Call.Spares r')
    (D := fun r' => isCurrent pod prints = false ∧ r'.Made (.deletePod pod.ns pod.name))
    (fun r₁ r₂ hleads h => ⟨h.1, h.2.leads hleads⟩) ?_ hr
  intro s r₁ hs hsame hholds hreads
  have hsNs : s.pod.ns = key.ns := hs.trans hns.symm
  have hannotations := Pod.annotations_of_essence hsame
  refine keepsReplacement_of_parent law hA key hsNs
    ((Ownership.parentMarkers_congr hannotations).trans hmarkers)
    (φ := fun w => w.podTemplate.getD {} = template) (fun s m h => (htemplate s m h).there)
    (fun s m w h ha => (htemplate s m h).of_answers ha) ?_ hholds
  intro w r₂ hw hreads'
  -- the pod was read from a list, so it is the one that is found up to what the cluster writes
  have hjudge : e.noted.judge spec s (.ok w) =
      if isCurrent pod prints then .kept w else .takenDown (some w) := by
    rw [judge, show e.noted.fingerprints w spec = .ok prints from hprints w hw]
    dsimp only
    rw [isCurrent_congr hannotations]
  rw [hjudge]
  cases hcurrent : isCurrent pod prints with
  | true =>
    refine (carryOut_kept law s w r₂).mono fun x r₃ _ h hcalm => .inl ?_
    obtain ⟨hx, hspares⟩ := h hcalm
    have hread := (hreads.trans hreads').mono fun _ h => h.spares
    exact ⟨hx, rfl, hread.trans hspares⟩
  | false =>
    refine (carryOut_takenDown_made law s (some w) r₂).mono fun x r₃ _ h _ => .inr ?_
    rw [hsNs, ← hpodNs, Pod.name_of_essence hsame] at h
    exact ⟨h.1, rfl, h.2⟩

end

/-! ## Found again -/

/-- Whether a replacement is left alone: things are left unchanged, and no pod is deleted. -/
def LeavesAlone (pod : Pod) (x : Except Error Outcome × Run (σ × List CallEvent)) : Prop :=
  x.1 = .ok (.unchanged pod.name) ∧ ∀ event ∈ x.2.world.2, event.call.Spares

/-- Whether a replacement is removed: its deletion is begun, and things are not left unchanged. -/
def Removes (pod : Pod) (x : Except Error Outcome × Run (σ × List CallEvent)) : Prop :=
  (∀ name, x.1 ≠ .ok (.unchanged name)) ∧
    ∃ event ∈ x.2.world.2, event.call = .deletePod pod.ns pod.name

theorem Removes.not_leavesAlone {pod : Pod} {x : Except Error Outcome × Run (σ × List CallEvent)}
    (h : Removes pod x) : ¬ LeavesAlone pod x := fun hleft => h.1 pod.name hleft.1

section

variable {spec : Spec} {key : WorkloadKey} {w : Workload} {u : PodTemplate} {pod : Pod}

/-- A replacement that was made is marked with its parent, and with the fingerprints that the
template has which the parent has after that. -/
theorem marked_of_replacing (law : e.cluster.Stores view drift) {sort : Pod → Bool}
    (still : Untouched drift key sort) (hns : key.ns = spec.nsOr e.settings.defaultNamespace)
    (hname : key.name ≠ "") {first : Run σ} {selected replacement : String}
    (hreplaced : (e.replacing spec first).1 = .ok (.replaced selected replacement key.identity))
    {made : Pod} (hmade : .created made ∈ mutations (e.replacing spec first).2.world.2)
    (hsame : pod.metadata.annotations = made.metadata.annotations) (hkey : w.key = key)
    (hw : (view (e.replacing spec first).2.world.1).Shows w)
    (hu : Fingerprint.substitutedTemplate w spec e.images = .ok u) :
    Ownership.parentMarkers pod = some (key.kind.text, key.name) ∧
      ∀ prints, isCurrent pod prints = true ↔ Fingerprints.of u spec = prints := by
  obtain ⟨target, parent, prints, wanted, hparent, hprints, hbuild, hfrom, -, hquiet, -⟩ :=
    replacing_leaves law still hns hreplaced hmade
  have hannotations := hsame.trans hfrom.annotations
  have hparentName : parent.name = key.name := congrArg WorkloadKey.name hparent
  have hof : prints = .of u spec := by
    have htemplate := (hquiet.of_standsAs (hkey ▸ hw.standsAs)).2
    have hfingerprints := fingerprints_of_substituted hu
    rw [fingerprints_congr htemplate, hprints] at hfingerprints
    exact Except.ok.inj hfingerprints
  refine ⟨?_, fun prints' => ?_⟩
  · rw [Ownership.parentMarkers_congr hannotations, ← hparent]
    exact Replacement.parentMarkers_of_build hbuild (hparentName ▸ hname)
  · rw [isCurrent_congr hannotations, isCurrent_of_build hbuild, hof]

/-- A replacement that is found with the markers of a workload that is there is left alone if it is
current by the template of the workload, and removed if it is not. -/
theorem leavesAlone_or_removes (law : e.cluster.Stores view drift) {selection : Selection}
    (still : Untouched drift key (e.replaceOptions spec selection).admits)
    (hstays : ∀ s s', drift s s' → s.workloads key ≠ none → s'.workloads key ≠ none)
    (hselection : spec.selection = .ok selection)
    (hns : key.ns = spec.nsOr e.settings.defaultNamespace) {second : Run σ}
    (hfinds : PodTable.Finds (view second.world).pods (e.replaceOptions spec selection) pod)
    (hmarkers : Ownership.parentMarkers pod = some (key.kind.text, key.name)) (hkey : w.key = key)
    (hw : (view second.world).Shows w)
    (hu : Fingerprint.substitutedTemplate w spec e.images = .ok u)
    (hcalm : ¬ Troubled (e.replacing spec second).2) :
    LeavesAlone pod (e.replacing spec second) ∧ isCurrent pod (.of u spec) = true ∨
      Removes pod (e.replacing spec second) ∧ isCurrent pod (.of u spec) = false := by
  have hpodNs : pod.ns = key.ns := ((view second.world).pod_named hfinds.stored).1.trans hns.symm
  have hadmits : (e.replaceOptions spec selection).admits pod = true :=
    SelectOptions.admits_of_matches (hpodNs.trans hns) hfinds.matching
  let A : Stored → List Mutation → Prop := fun s _ =>
    s.those (e.replaceOptions spec selection).admits =
      (view second.world).those (e.replaceOptions spec selection).admits ∧
    s.Templates key (w.podTemplate.getD {})
  have hA : Stable drift A := fun s s' _ hdrift h =>
    ⟨(still.pods s s' hdrift).trans h.1, hstays s s' hdrift h.2.there, by
      rw [still.template s s' hdrift]
      exact h.2.template⟩
  have hends := replacePod_judges (r := second.unnoted) law hA (fun _ _ h => h.2)
    (fun _ _ h => h.1) hselection hns (hfinds.those hadmits) hpodNs hmarkers
    (fun w' hw' => (fingerprints_congr hw').trans (fingerprints_of_substituted hu))
    ⟨rfl, hkey ▸ hw.templates⟩
  obtain ⟨hresult, hcurrent, new, hnew, hspares⟩ | ⟨hresult, hstale, hmade⟩ := hends.result hcalm
  · refine .inl ⟨⟨hresult, fun event hevent => hspares event ?_⟩, hcurrent⟩
    rw [show new = (e.replacing spec second).2.world.2 from (hnew.trans (List.append_nil new)).symm]
    exact hevent
  · exact .inr ⟨⟨hresult, hmade.resolve_left hcalm⟩, hstale⟩

end

/-- Staleness is decided by the spec and by the template with the image put into it. Let a
replacement have been made for a pod of a workload with a name, and let another replacement, by a
spec and images of its own, find it with its annotations as they were made; others leave alone the
workload's template and what the spec finds. Let the images be put into the template that the
workload has after the first and into the one that it has before the second. If neither spec has
floating-point numbers in its patches, the digest tells the texts of the specs and of the templates
apart and nothing fails in the second replacement, then the replacement is left alone exactly if the
specs are the same and so are, up to fractions of seconds, the templates with the images in them;
otherwise it is removed. So it is left alone if spec, images and template are the same, whatever
else about the workload is not. And if it is left alone then the templates are the same but for
fractions of seconds and the images of the containers that images are put into, and where these
containers are in the same place the images are the same. -/
theorem leavesAlone_iff (e₀ e₁ : Engine σ) (s₀ s₁ : Spec) (first second : Run σ)
    {selection : Selection} {key : WorkloadKey} (law₀ : e₀.cluster.Stores view drift)
    (law₁ : e₁.cluster.Stores view drift)
    (still : Untouched drift key (e₁.replaceOptions s₁ selection).admits)
    (hstays : ∀ s s', drift s s' → s.workloads key ≠ none → s'.workloads key ≠ none)
    (hselection : s₁.selection = .ok selection)
    (hns₀ : key.ns = s₀.nsOr e₀.settings.defaultNamespace)
    (hns₁ : key.ns = s₁.nsOr e₁.settings.defaultNamespace) (hname : key.name ≠ "")
    {selected replacement : String}
    (hreplaced : (e₀.replacing s₀ first).1 = .ok (.replaced selected replacement key.identity))
    {made : Pod} (hmade : .created made ∈ mutations (e₀.replacing s₀ first).2.world.2)
    {pod : Pod} (hfinds : PodTable.Finds (view second.world).pods
      (e₁.replaceOptions s₁ selection) pod)
    (hsame : pod.metadata.annotations = made.metadata.annotations)
    {w₀ w₁ : Workload} (hkey₀ : w₀.key = key) (hkey₁ : w₁.key = key)
    (hw₀ : (view (e₀.replacing s₀ first).2.world.1).Shows w₀)
    (hw₁ : (view second.world).Shows w₁) {u₀ u₁ : PodTemplate}
    (hu₀ : Fingerprint.substitutedTemplate w₀ s₀ e₀.images = .ok u₀)
    (hu₁ : Fingerprint.substitutedTemplate w₁ s₁ e₁.images = .ok u₁)
    (hs₀ : s₀.PlainPatches) (hs₁ : s₁.PlainPatches)
    (hspecs : Fingerprint.TellsApart s₀.toJson s₁.toJson)
    (htemplates : Fingerprint.TellsApart (toJson u₀) (toJson u₁))
    (hcalm : ¬ Troubled (e₁.replacing s₁ second).2) :
    let run := e₁.replacing s₁ second
    let place₀ := Fingerprint.place w₀ s₀ e₀.images
    let place₁ := Fingerprint.place w₁ s₁ e₁.images
    (LeavesAlone pod run ↔ s₀ = s₁ ∧ wholeSeconds u₀ = wholeSeconds u₁) ∧
      (¬ LeavesAlone pod run → Removes pod run) ∧
      (s₀ = s₁ → e₀.images = e₁.images →
        w₀.podTemplate.getD {} = w₁.podTemplate.getD {} → LeavesAlone pod run) ∧
      (LeavesAlone pod run →
        PodTemplate.SameBut (place₀.toList ++ place₁.toList) (w₀.podTemplate.getD {})
            (w₁.podTemplate.getD {}) ∧
          (place₀ = place₁ →
            s₁.image.map e₀.images.replacement = s₁.image.map e₁.images.replacement)) := by
  intro run place₀ place₁
  have hdated : ∀ {s : Stored} {w : Workload}, s.Shows w → Dated (w.podTemplate.getD {}) := by
    rintro s w ⟨d, hd, hw⟩
    exact Workload.dated_of_read (s.workload_wellFormed hd) hw
  obtain ⟨hmarkers, hmarked⟩ := marked_of_replacing law₀ still hns₀ hname hreplaced hmade hsame
    hkey₀ hw₀ hu₀
  -- the marks are those of the first template and spec, so being current compares these
  have hcurrent : isCurrent pod (.of u₁ s₁) = true ↔
      s₀ = s₁ ∧ wholeSeconds u₀ = wholeSeconds u₁ :=
    (hmarked _).trans <| Fingerprints.of_eq_iff
      (Fingerprint.dated_of_substituted (hdated hw₀) hu₀)
      (Fingerprint.dated_of_substituted (hdated hw₁) hu₁) hs₀ hs₁ hspecs htemplates
  have hdecided := leavesAlone_or_removes law₁ still hstays hselection hns₁ hfinds hmarkers hkey₁
    hw₁ hu₁ hcalm
  have hiff : LeavesAlone pod run ↔ s₀ = s₁ ∧ wholeSeconds u₀ = wholeSeconds u₁ := by
    rw [← hcurrent]
    -- each of the two ends decides both sides
    rcases hdecided with ⟨hleft, hcurrent⟩ | ⟨hremoved, hstale⟩
    · exact iff_of_true hleft hcurrent
    · exact iff_of_false hremoved.not_leavesAlone (by rw [hstale]; decide)
  refine ⟨hiff, fun hleft => ?_, fun hs himages ht => hiff.mpr ⟨hs, ?_⟩, fun hleft => ?_⟩
  · exact (hdecided.resolve_left fun h => hleft h.1).1
  · rw [Fingerprint.substitutedTemplate_congr ht, hs, himages, hu₁] at hu₀
    rw [Except.ok.inj hu₀]
  · obtain ⟨rfl, hwhole⟩ := hiff.mp hleft
    exact ⟨Fingerprint.sameBut_of_substituted hu₀ hu₁ hwhole,
      Fingerprint.replacement_eq_of_substituted hu₀ hu₁ hwhole⟩

end Engine

end

namespace Slot

/-- A spec that patches its replacement. -/
def patching : Spec :=
  { spec selector with patches := [⟨.add, "/metadata/labels/tier", some (.str "dev")⟩] }

theorem plainPatches_patching : patching.PlainPatches := by
  intro p hp v hv
  rw [List.mem_singleton.mp hp] at hv
  cases hv
  exact .str "dev"

/-- The digest tells the spec with the patch from the one without. -/
theorem tellsApart_patching : Fingerprint.TellsApart (spec selector).toJson patching.toJson := by
  have hne : Fingerprint.ofSpec (spec selector) ≠ Fingerprint.ofSpec patching := by decide +kernel
  exact fun h => absurd h hne

/-- A replacement by the spec with the patch, where there is one by the spec without. -/
theorem smooth_patching :
    let second := (engine fun _ => false).replacing patching (begin (left prints))
    second.2.cancelAt = none ∧ second.2.world.2.all CallEvent.isSmooth = true := by
  simp only [Engine.replacing, Engine.replacePod, Engine.findReplacement, Engine.select,
    Engine.keepsReplacement, Engine.deleteReplacement, Termination.deleteAndWait, Engine.findTarget,
    Engine.swap, Engine.swapIn, Termination.waitForTermination, Poll.wait_eq_once, find_timeout,
    target_timeout, termination_timeout]
  decide +kernel

/-- The replacement is removed when another patch is asked for. -/
theorem removed_for_patch :
    let first := replace (fun _ => false) fresh
    let second := (engine fun _ => false).replacing patching (begin first.2.world.1)
    first.1 = .ok (.replaced "web-0" "web-0-devspace" key.identity) ∧
      Engine.Removes (marked prints) second := by
  obtain ⟨hreplaced, hmade, -⟩ := smooth_replacement
  obtain ⟨hcancel, hsmooth⟩ := smooth_patching
  have hread : (Workload.ofJson key.kind (doc .down)).map Workload.key = .ok key := by
    decide
  have hmatch : ((engine fun _ => false).replaceOptions patching (.labels selector)).matches
      (marked prints) = true := by decide
  obtain ⟨w, hw, hkey⟩ := map_eq_ok.mp hread
  have hcalm := Engine.Calm.of_isSmooth (e := engine fun _ => false) hcancel hsmooth (by decide)
  have hkind : w.kind = key.kind := congrArg WorkloadKey.kind hkey
  have hshows : (left prints).stored.Shows w :=
    ⟨doc .down, by rw [hkey]; exact stored_doc (left prints), hkind ▸ hw⟩
  have hsubstituted : ∀ s : Spec, s.image = none →
      Fingerprint.substitutedTemplate w s (engine fun _ => false).images =
        .ok (w.podTemplate.getD {}) := fun s => Fingerprint.substitutedTemplate_of_no_image
  refine ⟨hreplaced, ?_⟩
  obtain ⟨hiff, hremoved, -⟩ := Engine.leavesAlone_iff (engine fun _ => false)
    (engine fun _ => false) (spec selector) patching (begin fresh)
    (begin (replace (fun _ => false) fresh).2.world.1) (engine_stores _) (engine_stores _)
    (untouched fun pod h => Engine.isReplacement_of_matches (Bool.and_eq_true_iff.mp h).2)
    (fun s s' hdrift hs => hdrift.1 ▸ hs) rfl rfl rfl (by decide) hreplaced
    (mem_of_created? hmade) (left_of_replace ▸ (only _ rfl rfl hmatch).finds) rfl hkey hkey
    (show Stored.Shows (replace (fun _ => false) fresh).2.world.1.stored w from
      left_of_replace ▸ hshows)
    (left_of_replace ▸ hshows) (hsubstituted _ rfl) (hsubstituted _ rfl) (fun p hp => by cases hp)
    plainPatches_patching tellsApart_patching (fun _ => rfl) (left_of_replace ▸ hcalm.untroubled)
  refine hremoved fun hleft => ?_
  cases congrArg (fun s : Spec => s.patches.length) (hiff.mp hleft).1

end Slot

/-! ## What goes unnoticed -/

namespace Stamp

/-- Metadata of something that was created at a fraction of a second. -/
def created (fraction : String) : Json :=
  .obj [("creationTimestamp", .str ("2024-01-01T00:00:00." ++ fraction ++ "Z"))]

/-- A template that was created at a fraction of a second, and so was the claim that a volume in it
makes. -/
def stamped (fraction : String) : Json :=
  .obj [("metadata", created fraction),
    ("spec", .obj [("containers", .arr []), ("volumes", .arr [.obj [
      ("ephemeral", .obj [("volumeClaimTemplate", .obj
        [("metadata", created fraction), ("spec", .obj [])])]),
      ("name", .str "cache")]])])]

/-- A template of two containers. -/
def paired : Json :=
  .obj [("spec", .obj [("containers", .arr [.obj [("image", .str "x"), ("name", .str "a")],
    .obj [("image", .str "y"), ("name", .str "b")]])])]

/-- The stateful set as it is stored in a phase, with a template. -/
def doc (template : Json) (ph : Phase) : Json :=
  merge (Slot.doc ph) (.obj [("spec", .obj [("template", template)])])

/-- The cluster with room for one pod, on which the stateful set has a template. -/
def cluster (template : Json) : Cluster Slot where
  call
    | .getWorkload kind ns name =>
      { start := fun _ w => { w with calls := w.calls + 1 }
        span := fun _ => 1
        finish := fun _ w =>
          if (⟨kind, ns, name⟩ : WorkloadKey) = Slot.key then
            ⟨(fromReading (Workload.ofJson kind (doc template w.phase))).map some, w, false⟩
          else ⟨.ok none, w, false⟩ }
    | c => (Slot.cluster fun _ => false).call c

/-- The engine on the cluster. -/
def engine (template : Json) : Engine Slot :=
  { Slot.engine fun _ => false with cluster := cluster template }

/-- A replacement on the cluster. -/
def replace (template : Json) (w : Slot) : Except Error Outcome × Run (Slot × List CallEvent) :=
  (engine template).replacing (Slot.spec Slot.selector) (Slot.begin w)

/-- A template of the stateful set with an image put into it. -/
def substituted (template : Json) (spec : Spec) (images : ImageResolver) :
    Except Error PodTemplate := do
  let w ← fromReading (Workload.ofJson Slot.key.kind (doc template .up))
  Fingerprint.substitutedTemplate w spec images

/-- A spec that selects by an image and puts one in its place. -/
def swapping : Spec := { imageName := some "app", replaceImage := some "app" }

/-- Images for which every name and every expression is one image. -/
def always (image : String) : ImageResolver := ⟨fun _ => .ok [image], fun _ => .ok image⟩

section

variable {template : Json} {ns : String} {s : Spec} {selection : Selection} {images : List String}

theorem find_timeout : ((engine template).noted.replacementOptions ns s selection
    (engine template).noted.settings.findReplacedTimeout).timeoutMs = 0 := Nat.zero_mul _

theorem target_timeout :
    ((engine template).noted.targetOptions ns s selection images).timeoutMs = 0 := Nat.zero_mul _

theorem termination_timeout : (engine template).noted.settings.terminationTimeout = 0 :=
  Nat.zero_mul _

end

/-- The fingerprints of the template that was created at a fraction of a second, and the spec. -/
def prints : Fingerprints :=
  { Slot.prints with parent := "44e18213782b8b3c118aa9dba597187f3e62163505abe987e4a870d3d85d6568" }

/-- A replacement on the cluster. -/
theorem smooth_replacement :
    let first := replace (stamped "25") Slot.fresh
    first.1 = .ok (.replaced "web-0" "web-0-devspace" Slot.key.identity) ∧
      first.2.world.1.pod = some (Slot.marked prints) ∧ first.2.world.1.phase = .down ∧
      first.2.world.1.calls = 6 := by
  simp only [replace, Engine.replacing, Engine.replacePod, Engine.findReplacement, Engine.select,
    Engine.keepsReplacement, Engine.deleteReplacement, Termination.deleteAndWait, Engine.findTarget,
    Engine.swap, Engine.swapIn, Termination.waitForTermination, Poll.wait_eq_once, find_timeout,
    target_timeout, termination_timeout]
  decide +kernel

/-- The replacement is left alone, and nothing failed, after the template and the claim that a
volume in it makes came to be created half a second later, although the templates are not the same.
And where an image goes into another container, the template with the image in it may be the same
although the images are not. -/
theorem left_alone_for_fraction :
    let first := replace (stamped "25") Slot.fresh
    let second := replace (stamped "75") first.2.world.1
    let plain := Slot.spec Slot.selector
    let images := (engine paired).images
    (first.1 = .ok (.replaced "web-0" "web-0-devspace" Slot.key.identity) ∧
        second.1 = .ok (.unchanged "web-0-devspace") ∧
        second.2.world.2.all (fun event => event.isSmooth && !event.call.isMutating) = true) ∧
      ((substituted (stamped "25") plain images).isOk = true ∧
        (substituted (stamped "75") plain images).isOk = true ∧
        substituted (stamped "25") plain images ≠ substituted (stamped "75") plain images) ∧
      (substituted paired swapping (always "x")).isOk = true ∧
        substituted paired swapping (always "x") = substituted paired swapping (always "y") ∧
        (always "x").replacement "app" ≠ (always "y").replacement "app" := by
  obtain ⟨hreplaced, hpod, hphase, hcalls⟩ := smooth_replacement
  refine ⟨⟨hreplaced, ?_⟩, ?_, ?_⟩
  · rw [Slot.eq_left hpod hphase hcalls]
    simp only [replace, Engine.replacing, Engine.replacePod, Engine.findReplacement, Engine.select,
      Engine.keepsReplacement, Engine.deleteReplacement, Termination.deleteAndWait,
      Engine.findTarget, Engine.swap, Engine.swapIn, Termination.waitForTermination,
      Poll.wait_eq_once, find_timeout, target_timeout, termination_timeout]
    decide +kernel
  · decide +kernel
  · decide +kernel

end Stamp

end PodSwap
