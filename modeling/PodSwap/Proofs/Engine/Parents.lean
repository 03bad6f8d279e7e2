import PodSwap.Proofs.Engine.Slot
import PodSwap.Proofs.Replacement.Marks

/-!
# The way back from a replacement to its parent

A workload is stored under its kind, its namespace and its name. The kind and the name are in the
markers of a replacement, whatever the pod carried or a patch wrote, and the namespace is that of
the pod. So the markers lead back to the workload that the pod was replaced for.

Main statement: `parentOfReplacement_of_build`.
-/

namespace PodSwap

open Json

section

variable [Schema]

/-- Whether a workload is stored as it is. -/
def Stored.Shows (s : Stored) (w : Workload) : Prop :=
  ∃ d, s.workloads w.key = some d ∧ Workload.ofJson w.kind d = .ok w

namespace Ownership

section

variable {σ : Type} {cluster : Cluster σ} {view : σ → Stored} {drift : Stored → Stored → Prop}
  {r : Run (σ × List CallEvent)} (law : cluster.Stores view drift) (heed : Heed)

include law

/-- What is fetched has the name that it was fetched by. -/
theorem fetch_key (kind : WorkloadKind) (ns name : String) :
    (fetch cluster.traced heed kind ns name).Ends r fun x _ =>
      ∀ w, x = .ok w → w.key = ⟨kind, ns, name⟩ := by
  have hread := law.read_ends heed (r := r) (A := fun _ _ => True) (fun _ _ _ _ h => h)
    (c := .getWorkload kind ns name) rfl
    (φ := fun found => ∀ w, found = some w → w.key = ⟨kind, ns, name⟩) ?_ trivial
  · refine hread.bind ?_ fun _ _ _ _ _ h => by cases h
    intro found r' _ hfound
    cases found with
    | none => exact .of_throw fun _ h => by cases h
    | some w =>
      refine .of_pure fun w' hw' => ?_
      cases hw'
      exact hfound.2 w rfl
  · rintro s found - - ha w rfl
    obtain ⟨⟨d, hd, hw⟩, -⟩ := ha
    exact Stored.key_of_read hd hw

/-- The workload that controls a pod is in the namespace of the pod. -/
theorem resolveParent_ns {pod : Pod} {parent : Workload} {r' : Run (σ × List CallEvent)}
    (h : (resolveParent cluster.traced heed pod).from r = (.ok parent, r')) :
    parent.ns = pod.ns := by
  have hfetch : ∀ kind name (r : Run (σ × List CallEvent)), True →
      (fetch cluster.traced heed kind pod.ns name).Ends r
        fun x _ => True ∧ ∀ w, x = .ok w → w.ns = pod.ns := fun kind name r _ =>
    (fetch_key law heed kind pod.ns name).mono fun _ _ _ hkey =>
      ⟨trivial, fun w hw => congrArg WorkloadKey.ns (hkey w hw)⟩
  have hends := resolveParent_ends_of_fetch (I := fun _ => True) (Q := fun w _ => w.ns = pod.ns)
    hfetch (r := r) trivial
  exact (hends.of_from h).2 parent rfl

/-- What is fetched of a workload that is there is so as it is stored, as long as others leave that
alone and nothing fails. -/
theorem fetch_ends {A : Stored → List Mutation → Prop} (hA : Stable drift A) (key : WorkloadKey)
    {φ : Workload → Prop} (hthere : ∀ s m, A s m → s.workloads key ≠ none)
    (hφ : ∀ s m w, A s m → s.Answers (.getWorkload key.kind key.ns key.name) (some w) s → φ w)
    (hr : Holds view A r) :
    (fetch cluster.traced heed key.kind key.ns key.name).Ends r fun x r' => Holds view A r' ∧
      match x with
      | .ok w => φ w
      | .error _ => Troubled r' := by
  have hread := law.read_ends heed hA (c := .getWorkload key.kind key.ns key.name) rfl
    (φ := fun found => ∃ w, found = some w ∧ φ w) ?_ hr
  · refine hread.bind ?_ fun _ _ _ h => h
    rintro found r' - ⟨hholds, w, rfl, hw⟩
    exact .of_pure ⟨hholds, hw⟩
  · intro s found m hs ha
    cases found with
    | none => exact absurd ha.1 (hthere s m hs)
    | some w => exact ⟨w, rfl, hφ s m w hs ha⟩

/-- A workload is fetched as it is stored, as long as others leave it so and nothing fails. -/
theorem fetch_shown {w : Workload} (hstays : ∀ s s', drift s s' → s.Shows w → s'.Shows w)
    (hr : (view r.world.1).Shows w) :
    (fetch cluster.traced heed w.kind w.ns w.name).Ends r fun x r' => x = .ok w ∨ Troubled r' := by
  refine (fetch_ends law heed (A := fun s _ => s.Shows w)
    (fun s s' _ hdrift h => hstays s s' hdrift h) w.key (φ := (· = w)) ?_ ?_ hr).mono ?_
  · rintro s - ⟨d, hd, -⟩ hnone
    cases hd.symm.trans hnone
  · rintro s - w' ⟨d, hd, hw⟩ ⟨⟨d', hd', hw'⟩, -⟩
    cases hd.symm.trans hd'
    cases hw.symm.trans hw'
    rfl
  · rintro x r' - ⟨-, hx⟩
    cases x with
    | ok w' => exact .inl (congrArg Except.ok hx)
    | error err => exact .inr hx

end

/-- Markers of a workload are followed to it, in the namespace of the pod. -/
theorem parentOfReplacement_of_markers {σ : Type} (cluster : Cluster σ) (heed : Heed) {pod : Pod}
    (key : WorkloadKey) (hmarkers : parentMarkers pod = some (key.kind.text, key.name))
    (hns : pod.ns = key.ns) :
    parentOfReplacement cluster heed pod = fetch cluster heed key.kind key.ns key.name := by
  unfold parentOfReplacement
  rw [hmarkers]
  dsimp only
  rw [WorkloadKind.parse, WorkloadKind.ofText?_text, Op.purely_ok_bind, hns]

/-- Markers lead back to the same parent. Let a workload with a name have been found to control a
pod, and let a replacement for it have been built of the pod, by patches that left its namespace
alone. Then the replacement has markers, and following them is fetching that workload by its kind,
its namespace and its name, on any cluster. So they lead to what is stored as that workload, as long
as others leave it so and nothing fails. -/
theorem parentOfReplacement_of_build {σ : Type} {cluster : Cluster σ} {view : σ → Stored}
    {drift : Stored → Stored → Prop} (law : cluster.Stores view drift) {heed : Heed}
    {target : SelectedPod} {parent : Workload} {r r' : Run (σ × List CallEvent)}
    (hparent : (resolveParent cluster.traced heed target.pod).from r = (.ok parent, r'))
    (hname : parent.name ≠ "") {spec : Spec} {images : ImageResolver} {prints : Fingerprints}
    {pod : Pod} (hbuild : Replacement.build target parent spec images prints = .ok pod)
    (hns : pod.ns = target.pod.ns) :
    parentMarkers pod = some (parent.kind.text, parent.name) ∧
      (∀ {τ : Type} (anywhere : Cluster τ) (heed : Heed), parentOfReplacement anywhere heed pod =
        fetch anywhere heed parent.kind parent.ns parent.name) ∧
      ∀ (heed : Heed) (w : Workload), w.key = parent.key →
        (∀ s s', drift s s' → s.Shows w → s'.Shows w) →
        ∀ later : Run σ, (view later.world).Shows w →
          ¬ Troubled ((parentOfReplacement cluster.traced heed pod).from later.unnoted).2 →
          ((parentOfReplacement cluster.traced heed pod).from later.unnoted).1 = .ok w := by
  have hmarkers := Replacement.parentMarkers_of_build hbuild hname
  have hparentNs : pod.ns = parent.key.ns := hns.trans (resolveParent_ns law heed hparent).symm
  refine ⟨hmarkers, fun anywhere heed =>
    parentOfReplacement_of_markers anywhere heed parent.key hmarkers hparentNs, ?_⟩
  intro heed w hw hstays later hshows hcalm
  rw [parentOfReplacement_of_markers _ heed parent.key hmarkers hparentNs, ← hw] at hcalm ⊢
  exact (fetch_shown law heed hstays (r := later.unnoted) hshows).result.resolve_right hcalm

end Ownership

end

namespace Slot

/-- A spec that has its replacement claim to be another workload's. -/
def misleading : Spec :=
  { spec selector with patches := [⟨.add, "/metadata/annotations",
      some (.obj [(Marker.parentKind, .str "Deployment"), (Marker.parentName, .str "other")])⟩] }

/-- The pod of the stateful set, selected. -/
def selected : SelectedPod := ⟨target, { name := "main" }⟩

/-- The parent of the pod of the stateful set, looked for while that is up. -/
def resolved : Except Error Workload × Run (Slot × List CallEvent) :=
  (Ownership.resolveParent (cluster fun _ => false).traced .caller selected.pod).from
    (begin { pod := some target }).unnoted

/-- The replacement for the pod that the misleading spec asks for. -/
def misled : Except Error Pod :=
  resolved.1 >>= fun parent =>
    Replacement.build selected parent misleading (engine fun _ => false).images ⟨"", ""⟩

/-- Following the markers of a pod while the stateful set is down. -/
def followed (pod : Pod) : Except Error Workload × Run (Slot × List CallEvent) :=
  (Ownership.parentOfReplacement (cluster fun _ => false).traced .caller pod).from
    (begin { phase := .down }).unnoted

/-- What there is to see of the misleading spec: it makes a replacement of the stateful set, whose
markers are followed without a failure while that is down. -/
structure Misleads : Prop where
  parent : resolved.1.map Workload.key = .ok key
  down : (Workload.ofJson key.kind (doc .down)).map Workload.key = .ok key
  smooth : (misled.map fun pod => (pod.ns, (followed pod).2.cancelAt,
    (followed pod).2.world.2.all CallEvent.isSmooth)) = .ok (key.ns, none, true)

theorem misleads : Misleads := by
  constructor <;> decide +kernel

/-- The misleading patch misleads nobody: the markers lead to the stateful set. -/
theorem misled_leads_back : ∃ parent pod down, resolved.1 = .ok parent ∧ parent.key = key ∧
    misled = .ok pod ∧ Workload.ofJson key.kind (doc .down) = .ok down ∧
    Ownership.parentMarkers pod = some (key.kind.text, key.name) ∧
    (followed pod).1 = .ok down := by
  obtain ⟨hresolved, hdown, hmisled⟩ := misleads
  obtain ⟨pod, hpod, hseen⟩ := map_eq_ok.mp hmisled
  obtain ⟨down, hread, hdownKey⟩ := map_eq_ok.mp hdown
  simp only [Prod.mk.injEq] at hseen
  obtain ⟨hns, hcancel, hsmooth⟩ := hseen
  obtain ⟨parent, hparent, hbuild⟩ := bind_eq_ok.mp hpod
  have hkey : parent.key = key := by
    rw [hparent] at hresolved
    exact Except.ok.inj hresolved
  have hname : parent.name = key.name := congrArg WorkloadKey.name hkey
  have hkind : parent.kind = key.kind := congrArg WorkloadKey.kind hkey
  have hcalm : (engine fun _ => false).Calm (followed pod).2 :=
    .of_isSmooth hcancel hsmooth (by decide)
  have hrun : resolved = (.ok parent, resolved.2) := Prod.ext hparent rfl
  obtain ⟨hmarkers, -, hleads⟩ := Ownership.parentOfReplacement_of_build
    (stores fun _ => false) hrun (by rw [hname]; decide) hbuild hns
  rw [hkind, hname] at hmarkers
  have hshows : Stored.Shows (begin { phase := .down }).world.stored down := by
    have hdownKind : down.kind = key.kind := congrArg WorkloadKey.kind hdownKey
    refine ⟨doc .down, ?_, hdownKind ▸ hread⟩
    rw [hdownKey]
    exact stored_doc { phase := .down }
  refine ⟨parent, pod, down, hparent, hkey, hpod, hread, hmarkers, ?_⟩
  refine hleads .caller down (hdownKey.trans hkey.symm) ?_ (begin { phase := .down }) hshows
    hcalm.untroubled
  rintro s s' hdrift ⟨d, hd, hw⟩
  exact ⟨d, by rw [hdrift.1, hd], hw⟩

end Slot

end PodSwap
