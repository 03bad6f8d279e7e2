import PodSwap.Proofs.Engine.Lookup
import PodSwap.Proofs.Engine.Parents
import PodSwap.Proofs.Engine.Requests

/-!
# What becomes of a replacement that stands

A replacement that is found when pods are to be replaced is judged by what its markers lead to.
Either it is kept, and that is the end of it, or it goes, and then a pod is looked for and never is
there nothing to do.

Main statements: `keepsReplacement_of_parent` and `replacePod_of_found`.
-/

namespace PodSwap.Engine

variable [Schema]

variable {σ : Type} {e : Engine σ} {spec : Spec} {r : Run (σ × List CallEvent)}

/-! ## Nothing stands that was looked for afresh -/

theorem seekTarget_fresh (spec : Spec) (r : Run (σ × List CallEvent)) :
    (e.noted.seekTarget spec).Ends r fun x _ => ∀ s, x ≠ .ok (.standing s) := by
  have hfind : (e.noted.findTarget spec (spec.nsOr e.settings.defaultNamespace)).Calls
      fun _ => True := Op.Calls.closed.findTarget (fun _ _ => trivial) spec _
  refine (hfind r).bind ?_ fun _ _ _ _ _ h => by cases h
  rintro ⟨target, parent⟩ r' - -
  exact .of_pure fun s h => by cases h

theorem swap_replaces (target : SelectedPod) (parent : Workload) (spec : Spec)
    (r : Run (σ × List CallEvent)) :
    (e.noted.swap target parent spec).Ends r fun x _ => ∀ name, x ≠ .ok (.unchanged name) := by
  have hany : ∀ c : Call, c.Reads → True := fun _ _ => trivial
  have hprepare : (e.noted.prepare target parent spec).Calls fun _ => True :=
    Op.Calls.closed.prepare (fun _ _ _ _ => trivial) target parent spec
  have hswapIn : ∀ wanted, (e.noted.swapIn target parent wanted).Calls fun _ => True :=
    fun wanted => Op.Calls.closed.swapIn hany trivial target parent
  have hrollBack : (e.noted.rollBack parent).Calls fun _ => True :=
    rollBack_calls hany (fun _ _ _ _ => trivial) parent
  rw [swap_eq]
  refine (hprepare r).bind ?_ fun _ _ _ _ _ h => by cases h
  intro ready r₁ _ _
  refine (hswapIn ready.1 r₁).tried ?_
  intro x r₂ _ _
  cases x with
  | ok created => exact .of_pure fun _ h => by cases h
  | error err =>
    dsimp only
    split
    · refine (hrollBack r₂).bind ?_ fun _ _ _ _ _ h => by cases h
      exact fun _ _ _ _ => .of_throw fun _ h => by cases h
    · exact .of_throw fun _ h => by cases h

/-! ## Dealing with what stands -/

section

variable {view : σ → Stored} {drift : Stored → Stored → Prop} {A : Stored → List Mutation → Prop}
  (law : e.cluster.Stores view drift) (hA : Stable drift A)

include law hA

/-- A replacement that carries the markers of a workload that is there is dealt with as is judged by
that workload. -/
theorem keepsReplacement_of_parent {s : SelectedPod} (key : WorkloadKey)
    (hns : s.pod.ns = key.ns)
    (hmarkers : Ownership.parentMarkers s.pod = some (key.kind.text, key.name))
    {φ : Workload → Prop} (hthere : ∀ s m, A s m → s.workloads key ≠ none)
    (hφ : ∀ s m w, A s m → s.Answers (.getWorkload key.kind key.ns key.name) (some w) s → φ w)
    {Q : Except Error Bool → Run (σ × List CallEvent) → Prop}
    (hcarry : ∀ w r₁, φ w → r.Notes Call.Reads r₁ →
      (e.noted.carryOut s (e.noted.judge spec s (.ok w))).Ends r₁ fun x r' =>
        ¬ Troubled r' → Q x r') (hr : Holds view A r) :
    (e.noted.keepsReplacement s spec).Ends r fun x r' => ¬ Troubled r' → Q x r' := by
  have hparent := (Ownership.fetch_ends law .caller hA key hthere hφ hr).and
    (Op.Calls.closed.fetch (p := Call.Reads) (fun _ h => h) key.kind key.ns key.name r)
  rw [← Ownership.parentOfReplacement_of_markers _ _ key hmarkers hns] at hparent
  rw [keepsReplacement_eq]
  refine hparent.tried ?_
  rintro x r₁ - ⟨⟨-, hx⟩, hreads⟩
  cases x with
  | error err =>
    have hcarriedOut : (e.noted.carryOut s (e.noted.judge spec s (.error err))).Calls
        fun _ => True :=
      Op.Calls.closed.carryOut (fun _ _ => trivial) (fun _ _ _ _ => trivial) trivial _
    exact (hcarriedOut.troubled hx).mono fun _ _ _ htrouble hcalm => absurd htrouble hcalm
  | ok w => exact hcarry w r₁ hx hreads

variable {selection : Selection} (hselection : spec.selection = .ok selection) {t : PodTable}
  (ht : ∀ s m, A s m → s.those (e.replaceOptions spec selection).admits = t) {pod : Pod}
  (hfinds : t.Finds (e.replaceOptions spec selection) pod.essence)
  {K D : Run (σ × List CallEvent) → Prop} (hD : ∀ r r', r.Leads r' → D r → D r')
  (hkeeps : ∀ (s : SelectedPod) r₁, s.pod.ns = spec.nsOr e.settings.defaultNamespace →
    s.pod.essence = pod.essence → Holds view A r₁ → r.Notes Call.Reads r₁ →
    (e.noted.keepsReplacement s spec).Ends r₁ fun x r' => ¬ Troubled r' →
      x = .ok true ∧ K r' ∨ x ≠ .ok true ∧ D r')

include hselection ht hfinds hD hkeeps

/-- The replacement that is found stands if it is kept. -/
theorem seek_of_found (hr : Holds view A r) :
    (e.noted.seek spec).Ends r fun x r' => ¬ Troubled r' →
      (∃ s, x = .ok (.standing s) ∧ s.pod.name = pod.name ∧ K r') ∨
        (∀ s, x ≠ .ok (.standing s)) ∧ D r' := by
  have htarget : (e.noted.seekTarget spec).Calls fun _ => True :=
    Op.Calls.closed.seekTarget (fun _ _ => trivial) spec
  have hlookup := (lookup_ends law hA ht (e.replaceOptions spec selection)
    (fun _ => SelectOptions.admits_of_matches) hr).and
    (Op.Calls.closed.select (p := Call.Reads) (fun _ h => h) (e.replaceOptions spec selection) r)
  unfold Engine.seek
  rw [Spec.validate_of_selection hselection, Op.purely_ok_bind,
    e.findReplacement_eq_select hselection]
  refine hlookup.during_bind _ ?_ fun _ _ _ h hcalm => absurd h.1.2 hcalm
  rintro existing r₁ - ⟨⟨hholds, hfound⟩, hreads⟩
  cases existing with
  | none =>
    rcases hfound with htrouble | hnone
    · exact (htarget.troubled htrouble).mono fun _ _ _ h hcalm => absurd h hcalm
    · have hmatching := hfinds.matching
      rw [hnone _ _ hfinds.stored] at hmatching
      cases hmatching
  | some s =>
    obtain ⟨hs, hfound⟩ := hfound
    have hsame := hfound.unique hfinds
    refine (hkeeps s r₁ hs hsame hholds hreads).bind ?_ fun err _ _ h hcalm =>
      .inr ⟨fun _ h => (by cases h), ?_⟩
    · intro kept r₂ _ hkept
      cases kept with
      | true =>
        refine .of_pure fun hcalm => .inl ⟨s, rfl, Pod.name_of_essence hsame, ?_⟩
        exact ((hkept hcalm).resolve_right fun h => h.1 rfl).2
      | false =>
        refine (seekTarget_fresh spec r₂).mono fun x r' hleads hx hcalm => .inr ⟨hx, ?_⟩
        refine hD r₂ r' hleads (((hkept fun h => hcalm (h.leads hleads)).resolve_left ?_).2)
        exact fun h => by cases h.1
    · exact ((h hcalm).resolve_left fun h => by cases h.1).2

/-- Where the replacement that is found is kept, things are left unchanged, and where it is not they
are not. -/
theorem replacePod_of_found (hr : Holds view A r) :
    (e.noted.replacePod spec).Ends r fun x r' => ¬ Troubled r' →
      x = .ok (.unchanged pod.name) ∧ K r' ∨ (∀ name, x ≠ .ok (.unchanged name)) ∧ D r' := by
  rw [replacePod_eq]
  refine (seek_of_found law hA hselection ht hfinds hD hkeeps hr).bind ?_ fun err _ _ h hcalm =>
    .inr ⟨fun _ h => (by cases h), ?_⟩
  · intro found r₁ _ hfound
    cases found with
    | standing s =>
      refine .of_pure fun hcalm => ?_
      obtain ⟨s', hs', hname, hK⟩ | ⟨hnot, -⟩ := hfound hcalm
      · cases hs'
        exact .inl ⟨by rw [hname], hK⟩
      · exact absurd rfl (hnot s)
    | target target parent =>
      refine (swap_replaces target parent spec r₁).mono fun x r' hleads hx hcalm => .inr ⟨hx, ?_⟩
      obtain ⟨s, hs, -⟩ | ⟨-, hgone⟩ := hfound fun h => hcalm (h.leads hleads)
      · cases hs
      · exact hD r₁ r' hleads hgone
  · obtain ⟨s, hs, -⟩ | ⟨-, hgone⟩ := h hcalm
    · cases hs
    · exact hgone

end

end PodSwap.Engine
