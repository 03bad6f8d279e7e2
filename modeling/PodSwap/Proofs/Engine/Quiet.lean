import PodSwap.Proofs.Engine.Requests
import PodSwap.Proofs.Engine.RoundTrip
import PodSwap.Proofs.Scale.Quiesce

/-!
# What a replacement leaves of its parent

The parent may be in any condition when a replacement finds it. Once it is scaled down it asks for
no pods, and its template is the one that was read, where no template counts as the empty one. With
that stands the pod that was created, if it is of a sort that others leave alone.

Main statement: `replacing_leaves`.
-/

namespace PodSwap

open Json Scale

variable [Schema]

/-- Others leave alone the count and the template of a workload and the pods of a sort. -/
structure Untouched (drift : Stored → Stored → Prop) (key : WorkloadKey) (sort : Pod → Bool) :
    Prop where
  count : ∀ s s', drift s s' → s'.field key replicasPath = s.field key replicasPath
  template : ∀ s s', drift s s' → s'.field key templatePath = s.field key templatePath
  pods : ∀ s s', drift s s' → s'.those sort = s.those sort

namespace Stored

/-- Whether the count and the template of a stored workload are as they were read. -/
structure StandsAs (s : Stored) (key : WorkloadKey) (w : Workload) : Prop where
  count : readField (s.field key replicasPath) = .ok w.replicas
  template : (readField (s.field key templatePath)).map (·.getD {}) = .ok (w.podTemplate.getD {})
  bare : w.hasSpec = false → s.field key templatePath = none

/-- Whether a stored workload asks for no pods and has a template. -/
structure Quiet (s : Stored) (key : WorkloadKey) (template : PodTemplate) : Prop where
  count : readField (s.field key replicasPath) = .ok (some (0 : Int32))
  template : (readField (s.field key templatePath)).map (·.getD {}) = .ok template

variable {s s' : Stored} {key : WorkloadKey} {w : Workload} {template : PodTemplate}

/-- What is read stands as it was read. -/
theorem standsAs_of_answers {kind : WorkloadKind} {ns name : String}
    (h : s.Answers (.getWorkload kind ns name) (some w) s') :
    w.key = ⟨kind, ns, name⟩ ∧ s'.StandsAs w.key w := by
  obtain ⟨⟨d, hd, hw⟩, rfl⟩ := h
  have hkey := key_of_read hd hw
  have hwf := s'.workload_wellFormed hd
  obtain ⟨htemplate, hbare⟩ := Workload.podTemplate_of_read hwf hw
  have hfield := field_of_workloads (hkey ▸ hd)
  refine ⟨hkey, ?_, ?_, ?_⟩
  · rw [hfield]
    exact Workload.replicas_of_read hwf hw
  · rw [hfield]
    exact htemplate
  · rw [hfield]
    exact hbare

/-- What is read of a quiet workload asks for no pods and has its template. -/
theorem Quiet.of_standsAs (h : s.Quiet key template) (hw : s.StandsAs key w) :
    w.replicas = some 0 ∧ w.podTemplate.getD {} = template := by
  refine ⟨?_, ?_⟩
  · have hcount := hw.count
    rw [h.count] at hcount
    exact (Except.ok.inj hcount).symm
  · have htemplate := hw.template
    rw [h.template] at htemplate
    exact (Except.ok.inj htemplate).symm

/-- A quiet workload is there. -/
theorem Quiet.isSome (h : s.Quiet key template) : s.workloads key ≠ none := by
  intro hnone
  have hcount := h.count
  rw [Stored.field, hnone] at hcount
  cases hcount

/-- A workload that stands as it was read and needs no quiescing is quiet. -/
theorem StandsAs.quiet (h : s.StandsAs key w) (hnone : quiescePatch w = none) :
    s.Quiet key (w.podTemplate.getD {}) := by
  refine ⟨?_, h.template⟩
  rw [h.count, replicas_of_no_quiescePatch hnone]

/-- A workload that stands as it was read is quiet once it is patched to be. -/
theorem StandsAs.quiesced (h : s.StandsAs w.key w) {p : Json} (hp : quiescePatch w = some p)
    (ha : s.Answers (.patchWorkload w.kind w.ns w.name p) () s') :
    s'.Quiet w.key (w.podTemplate.getD {}) := by
  obtain ⟨⟨d, hd, hd'⟩, -⟩ := ha
  have hbefore : ∀ path, s.field w.key path = at? path d := field_of_workloads hd
  have hafter : ∀ path, s'.field w.key path = at? path (merge d p) := field_of_workloads hd'
  refine ⟨?_, ?_⟩
  · rw [hafter, replicas_of_quiescePatch hp]
    exact readField_count 0
  · rw [hafter]
    refine template_of_quiescePatch hp ?_ ?_
    · rw [← hbefore]
      exact h.template
    · rw [← hbefore]
      exact h.bare

end Stored

namespace Untouched

variable {drift : Stored → Stored → Prop} {key : WorkloadKey} {sort : Pod → Bool}
  (still : Untouched drift key sort) {s s' : Stored}

include still

theorem standsAs {w : Workload} (hdrift : drift s s') (h : s.StandsAs key w) :
    s'.StandsAs key w := by
  refine ⟨?_, ?_, ?_⟩
  · rw [still.count s s' hdrift]
    exact h.count
  · rw [still.template s s' hdrift]
    exact h.template
  · rw [still.template s s' hdrift]
    exact h.bare

theorem quiet {template : PodTemplate} (hdrift : drift s s') (h : s.Quiet key template) :
    s'.Quiet key template := by
  refine ⟨?_, ?_⟩
  · rw [still.count s s' hdrift]
    exact h.count
  · rw [still.template s s' hdrift]
    exact h.template

end Untouched

/-! ## Finding the parent -/

section

variable {σ : Type} {e : Engine σ} {view : σ → Stored} {drift : Stored → Stored → Prop}
  {key : WorkloadKey} {sort : Pod → Bool} {r : Run (σ × List CallEvent)}
  (law : e.cluster.Stores view drift) (still : Untouched drift key sort)

include law still

/-- A workload that was fetched stands as it was read. -/
theorem fetch_stands (heed : Heed) (kind : WorkloadKind) (ns name : String) :
    (Ownership.fetch e.cluster.traced heed kind ns name).Ends r fun x r' => ∀ w, x = .ok w →
      w.ns = ns ∧ (w.key = key → (view r'.world.1).StandsAs key w) := by
  have hread := law.request_ends heed (r := r) (c := .getWorkload kind ns name)
    (A := fun _ _ => True)
    (B := fun found s _ => ∀ w, found = some w → w.ns = ns ∧ (w.key = key → s.StandsAs key w))
    (fun _ _ _ _ _ => trivial)
    (fun found s s' _ hdrift h w hw =>
      ⟨(h w hw).1, fun hkey => still.standsAs hdrift ((h w hw).2 hkey)⟩)
    (fun s found s' _ _ ha w hw => by
      subst hw
      obtain ⟨hkey, hstands⟩ := Stored.standsAs_of_answers ha
      exact ⟨congrArg WorkloadKey.ns hkey, fun h => h ▸ hstands⟩) trivial
  refine hread.bind ?_ fun _ _ _ _ _ h => by cases h
  intro found r' _ hfound
  cases found with
  | none => exact .of_throw fun _ h => by cases h
  | some w =>
    refine .of_pure fun w' hw' => ?_
    cases hw'
    exact hfound.1 w rfl

/-- The workload that controls a pod stands as it was read. -/
theorem resolveParent_stands (heed : Heed) (pod : Pod) :
    (Ownership.resolveParent e.cluster.traced heed pod).Ends r fun x r' => ∀ w, x = .ok w →
      w.ns = pod.ns ∧ (w.key = key → (view r'.world.1).StandsAs key w) := by
  refine (Ownership.resolveParent_ends_of_fetch (I := fun _ => True) (fun kind name r _ => ?_)
    trivial).mono fun _ _ _ h => h.2
  exact (fetch_stands law still heed kind pod.ns name).mono fun _ _ _ h => ⟨trivial, h⟩

namespace Engine

omit still in
/-- A pod that is selected is in the namespace that it is looked for in. -/
theorem select_ns (opts : SelectOptions) :
    (e.noted.select opts).Ends r fun x _ => ∀ s, x = .ok (some s) → s.pod.ns = opts.ns := by
  refine (select_ends law (A := fun _ _ => True) (fun _ _ _ _ h => h) opts
    (φ := fun s => s.pod.ns = opts.ns) (ψ := True) ?_ (fun _ _ _ _ _ _ => trivial) trivial).mono ?_
  · rintro s pods m x - ⟨hlist, -⟩ hx
    obtain ⟨hmem, -⟩ := SelectOptions.pick_eq_some hx
    obtain ⟨⟨name, hname⟩, -⟩ := (hlist x.pod).mp hmem
    exact (s.pod_named hname).1
  · rintro x r' - ⟨-, hx⟩ s rfl
    exact hx

theorem findTarget_stands (spec : Spec) (ns : String) :
    (e.noted.findTarget spec ns).Ends r fun x r' => ∀ target parent, x = .ok (target, parent) →
      parent.ns = ns ∧ (parent.key = key → (view r'.world.1).StandsAs key parent) := by
  unfold Engine.findTarget
  cases spec.selection with
  | error err => exact .of_throw fun _ _ h => by cases h
  | ok selection =>
    rw [Op.purely_ok_bind]
    refine (Op.Ends.of_purely (Q := fun _ _ => True) trivial).during_bind _ ?_
      fun _ _ _ _ _ _ h => by cases h
    intro images r₁ _ _
    refine (select_ns law (e.targetOptions ns spec selection images)).during_bind _ ?_
      fun _ _ _ _ _ _ h => by cases h
    intro found r₂ _ hfound
    cases found with
    | none => exact .of_throw fun _ _ h => by cases h
    | some target =>
      refine (resolveParent_stands law still .caller target.pod).during_bind _ ?_
        fun _ _ _ _ _ _ h => by cases h
      intro parent r₃ _ hparent
      refine .of_pure fun target' parent' h => ?_
      cases h
      obtain ⟨hns, hstands⟩ := hparent parent rfl
      exact ⟨hns.trans (hfound target rfl), hstands⟩

theorem seekTarget_stands (spec : Spec) :
    (e.noted.seekTarget spec).Ends r fun x r' => ∀ target parent, x = .ok (.target target parent) →
      parent.ns = spec.nsOr e.settings.defaultNamespace ∧
        (parent.key = key → (view r'.world.1).StandsAs key parent) := by
  refine (findTarget_stands law still spec (spec.nsOr e.settings.defaultNamespace)).bind ?_
    fun _ _ _ _ _ _ h => by cases h
  intro found r₁ _ hfound
  refine .of_pure fun target parent h => ?_
  cases h
  exact hfound _ _ rfl

/-- The parent of a pod to replace stands as it was read. -/
theorem seek_stands (spec : Spec) :
    (e.noted.seek spec).Ends r fun x r' => ∀ target parent, x = .ok (.target target parent) →
      parent.ns = spec.nsOr e.settings.defaultNamespace ∧
        (parent.key = key → (view r'.world.1).StandsAs key parent) := by
  -- whatever becomes of the replacement that there is, the target is looked for after that
  have hclosed : Op.Closed e.cluster .caller (fun _ => True) fun op => op.Calls fun _ => True :=
    Op.Calls.closed
  have hany : ∀ c : Call, c.Reads → True := fun _ _ => trivial
  unfold Engine.seek
  refine (Op.Ends.of_purely (Q := fun _ _ => True) trivial).bind ?_
    fun _ _ _ _ _ _ h => by cases h
  intro _ r₁ _ _
  refine (hclosed.findReplacement hany spec _ _ r₁).during_bind _ ?_
    fun _ _ _ _ _ _ h => by cases h
  intro existing r₂ _ _
  cases existing with
  | none => exact seekTarget_stands law still spec
  | some s =>
    refine (hclosed.keepsReplacement hany (fun _ _ _ _ => trivial) trivial spec r₂).bind ?_
      fun _ _ _ _ _ _ h => by cases h
    intro kept r₃ _ _
    cases kept with
    | true => exact .of_pure fun _ _ h => by cases h
    | false => exact seekTarget_stands law still spec

/-! ## Scaling it down and creating the replacement -/

/-- A workload that stands as it was read is quiet once it is quiesced. -/
theorem quiesce_quiet {w : Workload} (hkey : w.key = key)
    (hr : (view r.world.1).StandsAs key w) :
    (Scale.quiesce e.noted.cluster .caller w).Ends r fun x r' => ∀ b, x = .ok b →
      (view r'.world.1).Quiet key (w.podTemplate.getD {}) := by
  subst hkey
  unfold Scale.quiesce Scale.send
  cases hpatch : quiescePatch w with
  | none => exact .of_pure fun _ _ => hr.quiet hpatch
  | some p =>
    have hsent := law.request_ends .caller (r := r) (c := .patchWorkload w.kind w.ns w.name p)
      (A := fun s _ => s.StandsAs w.key w)
      (B := fun _ s _ => s.Quiet w.key (w.podTemplate.getD {}))
      (fun s s' _ hdrift h => still.standsAs hdrift h)
      (fun _ s s' _ hdrift h => still.quiet hdrift h)
      (fun s _ s' _ hs ha => hs.quiesced hpatch ha) hr
    refine hsent.bind ?_ fun _ _ _ _ _ h => by cases h
    exact fun _ r' _ hr' => .of_pure fun _ _ => hr'.1

/-- Where the replacement was created the parent is quiet still, and the pod stands. It is the only
one that was created. -/
theorem swapIn_stands (target : SelectedPod) (parent : Workload) (wanted : Pod)
    {template : PodTemplate} (hr : (view r.world.1).Quiet key template)
    (hnone : ∀ pod, .created pod ∉ mutations r.world.2) :
    (e.noted.swapIn target parent wanted).Ends r fun x r' => ∀ pod, x = .ok pod →
      Pod.MadeFrom wanted pod ∧ (view r'.world.1).Quiet key template ∧
        (view r'.world.1).those sort pod.ns pod.name = ofSort sort (some pod) ∧
        ∀ pod', .created pod' ∈ mutations r'.world.2 → pod' = pod := by
  let A : Stored → List Mutation → Prop := fun s m =>
    s.Quiet key template ∧ ∀ pod, .created pod ∉ m
  have hA : Stable drift A := fun s s' m hdrift h => ⟨still.quiet hdrift h.1, h.2⟩
  have hwait := law.poll_ends .caller hA (c := .getPod target.pod.ns target.pod.name) rfl
    (f := fun pod => Termination.doneIf (Termination.hasTerminated parent.kind pod))
    (φ := fun _ => True) (ψ := True)
    (p := ⟨"pod " ++ target.pod.ns ++ "/" ++ target.pod.name ++ " to terminate",
      e.settings.terminationPollIntervalMs, e.settings.terminationTimeout⟩)
    (fun _ _ _ _ _ _ _ => trivial) (fun _ _ _ _ _ _ => trivial) (r := r) ⟨hr, hnone⟩
  unfold Engine.swapIn
  refine hwait.during_bind _ ?_ fun _ _ _ _ _ h => by cases h
  intro _ r₁ _ hr₁
  have hcreate := law.request_ends .caller (c := .createPod wanted) (A := A)
    (B := fun pod s m => Pod.MadeFrom wanted pod ∧ s.Quiet key template ∧
      s.those sort pod.ns pod.name = ofSort sort (some pod) ∧
      ∀ pod', .created pod' ∈ m → pod' = pod) hA
    (fun pod s s' m hdrift h => ⟨h.1, still.quiet hdrift h.2.1, by
      rw [still.pods s s' hdrift]
      exact h.2.2⟩) ?_ hr₁.1
  · refine hcreate.during _ ?_
    intro x r₂ _ hx pod hpod
    cases x with
    | ok pod' =>
      cases hpod
      exact hx.1
    | error err => cases hpod
  · rintro s pod s' m ⟨hquiet, hnone⟩ ⟨hmade, -, hstored, honly⟩
    refine ⟨hmade, ?_, ?_, ?_⟩
    · refine ⟨?_, ?_⟩
      · rw [Stored.field, honly.2]
        exact hquiet.count
      · rw [Stored.field, honly.2]
        exact hquiet.template
    · rw [Stored.those, hstored]
    · intro pod' hpod'
      rcases List.mem_append.mp hpod' with hpod' | hpod'
      · exact absurd hpod' (hnone pod')
      · cases List.mem_singleton.mp hpod'
        rfl

/-- What a replacement leaves that was made: the pod that was created is made of what was built for
the parent and stands, and the parent is quiet. -/
theorem replacing_leaves {spec : Spec} (hns : key.ns = spec.nsOr e.settings.defaultNamespace)
    {r : Run σ} {selected replacement : String} (hreplaced : (e.replacing spec r).1 =
      .ok (.replaced selected replacement key.identity))
    {made : Pod} (hmade : .created made ∈ mutations (e.replacing spec r).2.world.2) :
    ∃ target parent prints wanted, parent.key = key ∧ e.fingerprints parent spec = .ok prints ∧
      Replacement.build target parent spec e.images prints = .ok wanted ∧
      Pod.MadeFrom wanted made ∧
      replacement = (made.metadata.name.or wanted.metadata.name).getD "" ∧
      (view (e.replacing spec r).2.world.1).Quiet key (parent.podTemplate.getD {}) ∧
      (view (e.replacing spec r).2.world.1).those sort made.ns made.name =
        ofSort sort (some made) := by
  have hrun : (e.noted.replacePod spec).from r.unnoted =
      (.ok (.replaced selected replacement key.identity), (e.replacing spec r).2) :=
    Prod.ext hreplaced rfl
  obtain ⟨target, parent, r₁, wanted, quiesced, r₂, created, hseek, hprepare, hswapIn, hname,
    hidentity⟩ := e.noted.stages_of_replaced hrun
  obtain ⟨hparent, hstands⟩ := (seek_stands law still spec).of_from hseek target parent rfl
  have hkey := WorkloadKey.eq_of_identity (hparent.trans hns.symm) hidentity.symm
  obtain ⟨hquiet, prints, hprints, hbuild⟩ := (prepare_ends target spec
    (quiesce_quiet law still hkey (hstands hkey))).of_from hprepare wanted quiesced rfl
  obtain ⟨hfrom, hquiet, hthose, honly⟩ := (swapIn_stands law still target parent wanted
    (hquiet _ rfl) (not_created_of_prepare hseek hprepare)).of_from hswapIn created rfl
  cases honly made hmade
  exact ⟨target, parent, prints, wanted, hkey, hprints, hbuild, hfrom, hname, hquiet, hthose⟩

end Engine

end

end PodSwap
