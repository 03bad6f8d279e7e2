import PodSwap.Proofs.Engine.Lookup

/-!
# How a revert ends

A revert finds the replacement of its spec, reads the parent that its markers lead to, deletes the
replacement and restores the parent. It ends before, at or after the deletion.

Main statement: `revertPod_ends`, by which a revert is over in one of four ways.
-/

namespace PodSwap

open Scale

variable [Schema]

namespace Watch

variable {σ : Type} {e : Engine σ} {view : σ → Stored} {o : Watch} {k : Nat} {L : List Mutation}
  {r : Run (σ × List CallEvent)}

/-- How a revert ends that looks for a replacement in a way, by its result, the number of patches of
the watched workload and the changes of pods that it made. -/
inductive RevertEnd (o : Watch) (e : Engine σ) (opts : SelectOptions)
    (r : Run (σ × List CallEvent)) :
    Except Error (Option SelectedPod) → Nat → List Mutation → Prop
  /-- No replacement was found. -/
  | nothing
    (h : Troubled r ∨ ∀ name pod, o.start.those o.sort opts.ns name = some pod →
      opts.matches pod = false) :
    RevertEnd o e opts r (.ok none) 0 []
  /-- It came to an error before the deletion. -/
  | failed {err : Error} (h : Troubled r) : RevertEnd o e opts r (.error err) 0 []
  /-- It came to an error at the deletion or after it. -/
  | stuck {err : Error} {s : SelectedPod} {L : List Mutation}
    (found : s.pod.ns = opts.ns ∧ (o.start.those o.sort).Finds opts s.pod.essence)
    (deletes : L = [] ∨ L = [.deleted s.pod.ns s.pod.name])
    (h : e.Calm r → ¬ Links o.key s.pod) :
    RevertEnd o e opts r (.error err) 0 L
  /-- The replacement is removed. -/
  | removed {s : SelectedPod} {k : Nat}
    (found : s.pod.ns = opts.ns ∧ (o.start.those o.sort).Finds opts s.pod.essence)
    (patches : k = 0 ∨ k = 1)
    (unlinked : ¬ Links o.key s.pod → k = 0)
    (restored : Links o.key s.pod → o.phase.after k = .up ∨ k = 0 ∧ Troubled r) :
    RevertEnd o e opts r (.ok (some s)) k [.deleted s.pod.ns s.pod.name]

namespace RevertEnd

variable {opts : SelectOptions} {x : Except Error (Option SelectedPod)} {p : Pod}

/-- A revert that looks for what there is changes no other pod. -/
theorem changes_of_finds (h : RevertEnd o e opts r x k L)
    (hp : (o.start.those o.sort).Finds opts p) :
    (k = 0 ∨ k = 1) ∧ (L = [] ∨ L = [.deleted opts.ns p.name]) := by
  have hsame : ∀ s : SelectedPod, s.pod.ns = opts.ns →
      (o.start.those o.sort).Finds opts s.pod.essence →
      Mutation.deleted s.pod.ns s.pod.name = .deleted opts.ns p.name := by
    intro s hns hs
    have hname : s.pod.essence.name = p.name := by rw [hs.unique hp]
    rw [hns, ← hname]
    rfl
  cases h with
  | nothing _ => exact ⟨.inl rfl, .inl rfl⟩
  | failed _ => exact ⟨.inl rfl, .inl rfl⟩
  | stuck found deletes _ =>
    rw [hsame _ found.1 found.2] at deletes
    exact ⟨.inl rfl, deletes⟩
  | removed found patches _ _ => exact ⟨patches, .inr (by rw [hsame _ found.1 found.2])⟩

/-- A revert in which nothing fails removes the linked replacement that there is. -/
theorem removes_of_finds (h : RevertEnd o e opts r x k L) (hcalm : e.Calm r)
    (hp : (o.start.those o.sort).Finds opts p) (hlinks : Links o.key p) :
    ∃ s, x = .ok (some s) ∧ s.pod.essence = p := by
  cases h with
  | nothing h =>
    rcases h with htroubled | hnone
    · exact absurd htroubled hcalm.untroubled
    · have hmatch := hnone p.name p hp.stored
      rw [hp.matching] at hmatch
      cases hmatch
  | failed htroubled => exact absurd htroubled hcalm.untroubled
  | stuck found _ hunlinked =>
    have hpod := found.2.unique hp
    rw [← hpod] at hlinks
    exact absurd hlinks (hunlinked hcalm)
  | removed found _ _ _ => exact ⟨_, rfl, found.2.unique hp⟩

/-- A workload that is up stays up. -/
theorem stays_up (h : RevertEnd o e opts r x k L) (hup : o.phase = .up) :
    o.phase.after k = .up := by
  cases h with
  | nothing _ => exact hup
  | failed _ => exact hup
  | stuck _ _ _ => exact hup
  | @removed s _ _ _ unlinked restored =>
    by_cases hlinks : Links o.key s.pod
    · rcases restored hlinks with hrestored | ⟨rfl, -⟩
      · exact hrestored
      · exact hup
    · rw [unlinked hlinks]
      exact hup

/-- A revert in which nothing fails takes a workload up that is down exactly if the replacement that
there is to be found carries its markers. -/
theorem up_iff (h : RevertEnd o e opts r x k L) (hcalm : e.Calm r) (hdown : o.phase = .down)
    (hsort : ∀ pod : Pod, pod.ns = opts.ns → opts.matches pod = true → o.sort pod = true) :
    o.phase.after k = .up ↔ ∃ q, PodTable.Finds o.start.pods opts q ∧ Links o.key q := by
  have hstill : o.phase.after 0 ≠ .up := by
    rw [Phase.after, hdown]
    exact Phase.noConfusion
  constructor
  · intro hup
    cases h with
    | nothing _ => exact absurd hup hstill
    | failed _ => exact absurd hup hstill
    | stuck _ _ _ => exact absurd hup hstill
    | @removed s _ found _ unlinked _ =>
      obtain ⟨q, hq, hessence⟩ := found.2.of_those hsort
      refine ⟨q, hq, ?_⟩
      by_contra hlinks
      have hunlinked : ¬ Links o.key s.pod := by
        rw [← links_essence, ← hessence, links_essence]
        exact hlinks
      rw [unlinked hunlinked] at hup
      exact hstill hup
  · rintro ⟨q, hq, hlinks⟩
    have hns := (o.start.pod_named hq.stored).1
    have hlinks' := (links_essence o.key q).mpr hlinks
    obtain ⟨s, hs, hessence⟩ :=
      h.removes_of_finds hcalm (hq.those (hsort q hns hq.matching)) hlinks'
    rw [← hessence, links_essence] at hlinks'
    cases h with
    | nothing _ => cases hs
    | failed _ => cases hs
    | stuck _ _ _ => cases hs
    | removed _ _ _ restored =>
      cases hs
      rcases restored hlinks' with hup | ⟨-, htroubled⟩
      · exact hup
      · exact absurd htroubled hcalm.untroubled

end RevertEnd

/-- What is left of a revert: it ended in some way, and where it names a pod as removed the pod is
gone, if others leave its name unused. -/
def Reverts (o : Watch) (e : Engine σ) (view : σ → Stored) (opts : SelectOptions)
    (x : Except Error (Option SelectedPod)) (r : Run (σ × List CallEvent)) : Prop :=
  ∃ k L, RevertEnd o e opts r x k L ∧
    Holds view (fun st m => o.Ledger k L st m ∧ ∀ s, x = .ok (some s) →
      o.KeepsAbsent s.pod.ns s.pod.name → st.pods s.pod.ns s.pod.name = none) r

theorem Reverts.of_error {opts : SelectOptions} {err : Error}
    (h : RevertEnd o e opts r (.error err) k L) (hr : Holds view (o.Ledger k L) r) :
    o.Reverts e view opts (.error err) r :=
  ⟨k, L, h, hr, fun s hs => by cases hs⟩

theorem Reverts.of_removed {opts : SelectOptions} {s : SelectedPod}
    (h : RevertEnd o e opts r (.ok (some s)) k L)
    (hr : Holds view (fun st m => o.Ledger k L st m ∧
      (o.KeepsAbsent s.pod.ns s.pod.name → st.pods s.pod.ns s.pod.name = none)) r) :
    o.Reverts e view opts (.ok (some s)) r := by
  refine ⟨k, L, h, hr.1, ?_⟩
  intro s' hs'
  cases hs'
  exact hr.2

section

variable (law : e.cluster.Stores view o.drift) (still : Undisturbed o.drift o.key o.sort)

include law still

/-- The parent that is to be restored is the watched workload exactly if the markers name it. -/
theorem parentToRestore_ends {s : SelectedPod} (hr : Holds view (o.Ledger k L) r) :
    (e.noted.parentToRestore s).Ends r fun x r' => Holds view (o.Ledger k L) r' ∧
      match x with
      | .ok (some w) => (w.key = o.key ↔ Links o.key s.pod) ∧ o.Reads k w
      | .ok none => Troubled r' ∨ ¬ Links o.key s.pod
      | .error _ => Troubled r' := by
  unfold Engine.parentToRestore
  split
  · rename_i hnone
    refine .of_pure ⟨hr, .inr fun hl => ?_⟩
    rw [hl.2] at hnone
    cases hnone
  · apply (parentOfReplacement_ends law still .caller hr).tried
    intro x r' _ hx
    obtain ⟨hholds, hwhy⟩ := hx
    cases x with
    | ok w => exact .of_pure ⟨hholds, hwhy⟩
    | error err =>
      dsimp only
      split
      · rename_i hcancelled
        refine .of_throw ⟨hholds, hwhy.resolve_right fun h => ?_⟩
        rw [h.2] at hcancelled
        cases hcancelled
      · exact .of_pure ⟨hholds, hwhy.imp id And.left⟩

/-- A replacement that is stored is deleted, unless something fails. -/
theorem deleteReplacement_ends {s : SelectedPod}
    (hfound : ∀ st m, o.Ledger k L st m → st.pods s.pod.ns s.pod.name ≠ none)
    (hr : Holds view (o.Ledger k L) r) :
    (e.noted.deleteReplacement s).Ends r fun x r' =>
      match x with
      | .ok () => Holds view
          (fun st m => o.Ledger k (L ++ [.deleted s.pod.ns s.pod.name]) st m ∧
            (o.KeepsAbsent s.pod.ns s.pod.name → st.pods s.pod.ns s.pod.name = none)) r'
      | .error _ =>
        (Holds view (o.Ledger k L) r' ∨
          Holds view (o.Ledger k (L ++ [.deleted s.pod.ns s.pod.name])) r') ∧ ¬ e.Calm r' := by
  apply (deleteAndWait_ends law still .caller hr).during _
  intro x r' _ hx
  cases x with
  | ok _ => exact hx.resolve_right fun ⟨_, st, m, hst, hnone⟩ => hfound st m hst hnone
  | error err =>
    refine ⟨hx.1, fun hcalm => ?_⟩
    rcases hx.2 with htroubled | hlate
    · exact hcalm.untroubled htroubled
    · exact hcalm.timely (hlate (hcalm.passes.imp id fun h => h _ _))

/-- After a deletion restoring takes the watched workload up, and the pod stays away. -/
theorem restored_ends (hn : 0 < o.count) {name : String} (pod : Pod) {w : Workload}
    (hw : o.Reads k w)
    (hr : Holds view (fun st m => o.Ledger k L st m ∧
      (o.KeepsAbsent pod.ns pod.name → st.pods pod.ns pod.name = none)) r) :
    (during name (Scale.restore e.cluster.traced .caller w)).Ends r fun x r' =>
      match x with
      | .ok _ => ∃ k', Holds view (fun st m => o.Ledger k' L st m ∧
          (o.KeepsAbsent pod.ns pod.name → st.pods pod.ns pod.name = none)) r' ∧
          Scales o .up w k k'
      | .error _ => Holds view (o.Ledger k L) r' ∧ (Troubled r' ∨ w.key ≠ o.key) := by
  have hpods := restore_keeps_pods law .caller (w := w)
    (F := fun st => o.KeepsAbsent pod.ns pod.name → st.pods pod.ns pod.name = none)
    (fun st st' hd hst habsent => habsent st st' hd (hst habsent))
    (fun st st' heq hst habsent => by rw [heq, hst habsent]) hr.2
  apply ((restore_ends law still .caller hn hw hr.1).and hpods).during _
  intro x r' _ hx
  cases x with
  | ok _ =>
    obtain ⟨⟨k', hholds, hscales⟩, hgone⟩ := hx
    exact ⟨k', ⟨hholds, hgone⟩, hscales⟩
  | error err => exact hx.1

/-- After the deletion the parent is restored that the markers led to. -/
theorem restoresParent_ends (hn : 0 < o.count) {name : String} {opts : SelectOptions}
    {s : SelectedPod} {w : Workload}
    (hfound : s.pod.ns = opts.ns ∧ (o.start.those o.sort).Finds opts s.pod.essence)
    (hkey : w.key = o.key ↔ Links o.key s.pod) (hw : o.Reads 0 w)
    (hr : Holds view (fun st m => o.Ledger 0 [.deleted s.pod.ns s.pod.name] st m ∧
      (o.KeepsAbsent s.pod.ns s.pod.name → st.pods s.pod.ns s.pod.name = none)) r) :
    (during name (Scale.restore e.cluster.traced .caller w) >>= fun _ => pure (some s)).Ends r
      (o.Reverts e view opts) := by
  refine (restored_ends law still hn s.pod hw hr).bind ?_ ?_
  · intro _ r' _ hx
    obtain ⟨k', hholds, hpatches, hup, hother⟩ := hx
    have hunlinked : ¬ Links o.key s.pod → k' = 0 := fun hl => hother (hl ∘ hkey.mp)
    have hrestored : Links o.key s.pod → o.phase.after k' = .up := fun hl => hup (hkey.mpr hl)
    exact .of_pure (.of_removed (.removed hfound hpatches hunlinked fun hl => .inl (hrestored hl))
      hholds)
  · intro err r' _ hx
    refine .of_error (.stuck hfound (.inr rfl) ?_) hx.1
    intro hcalm hlinks
    rcases hx.2 with htroubled | hne
    · exact hcalm.untroubled htroubled
    · exact hne (hkey.mpr hlinks)

/-- How a revert ends. -/
theorem revertPod_ends {spec : Spec} {selection : Selection} {opts : SelectOptions}
    (hn : 0 < o.count) (hselection : spec.selection = .ok selection)
    (hopts : opts = e.replacementOptions (spec.nsOr e.settings.defaultNamespace) spec selection
      e.settings.revertFindTimeout)
    (hsort : ∀ pod : Pod, pod.ns = opts.ns → opts.matches pod = true → o.sort pod = true)
    (hr : Holds view (o.Ledger 0 []) r) :
    (e.noted.revertPod spec).Ends r (o.Reverts e view opts) := by
  unfold Engine.revertPod
  rw [Spec.validate_of_selection hselection, Op.purely_ok_bind]
  dsimp only
  rw [e.findReplacement_eq_select hselection, show e.noted.settings = e.settings from rfl, ← hopts]
  refine (Engine.lookup_ends law (Ledger.stable still) (fun _ _ h => h.those_eq) opts hsort
    hr).during_bind _ ?_ ?_
  · intro x r' _ hx
    obtain ⟨hholds, hfound⟩ := hx
    cases x with
    | none => exact .of_pure ⟨0, [], .nothing hfound, hholds, fun s hs => by cases hs⟩
    | some s =>
      have hstored : ∀ st m, o.Ledger 0 [] st m → st.pods s.pod.ns s.pod.name ≠ none :=
        fun st m hst => Ledger.found_stored hfound.1 hfound.2 hst
      refine (parentToRestore_ends law still hholds).bind ?_ ?_
      · intro parent r₁ _ hparent
        refine (deleteReplacement_ends law still hstored hparent.1).bind ?_ ?_
        · intro _ r₂ hl hx
          cases parent with
          | none =>
            -- without trouble there is no parent only where the markers name none
            refine .of_pure (.of_removed (.removed hfound (.inl rfl) (fun _ => rfl) ?_) hx)
            intro hlinks
            have htroubled := hparent.2.resolve_right fun h => h hlinks
            exact .inr ⟨rfl, htroubled.leads hl⟩
          | some w => exact restoresParent_ends law still hn hfound hparent.2.1 hparent.2.2 hx
        · intro err r₂ _ hx
          obtain ⟨hholds | hholds, hfailed⟩ := hx
          · exact .of_error (.stuck hfound (.inl rfl) fun hcalm => absurd hcalm hfailed) hholds
          · exact .of_error (.stuck hfound (.inr rfl) fun hcalm => absurd hcalm hfailed) hholds
      · intro err r₁ _ hx
        exact .of_error (.failed hx.2) hx.1
  · intro err r' _ hx
    exact .of_error (.failed hx.2) hx.1

end

end Watch

namespace Engine

variable {σ : Type} {e : Engine σ} {view : σ → Stored} {drift : Stored → Stored → Prop}
  {key : WorkloadKey} {n : Int32} {sort : Pod → Bool} {spec : Spec} {selection : Selection}

/-- The options by which a revert finds the replacement of a spec. -/
def revertOptions (e : Engine σ) (spec : Spec) (selection : Selection) : SelectOptions :=
  e.replacementOptions (spec.nsOr e.settings.defaultNamespace) spec selection
    e.settings.revertFindTimeout

/-- A revert with what it comes to and with what it does noted. -/
def reverting (e : Engine σ) (spec : Spec) (r : Run σ) :
    Except Error (Option SelectedPod) × Run (σ × List CallEvent) :=
  (e.noted.revertPod spec).from r.unnoted

/-- How a revert ends that is begun while a workload is in a phase. -/
theorem reverting_ends (law : e.cluster.Stores view drift) (still : Undisturbed drift key sort)
    (hn : 0 < n) (hselection : spec.selection = .ok selection)
    (hsort : ∀ pod : Pod, pod.ns = (e.revertOptions spec selection).ns →
      (e.revertOptions spec selection).matches pod = true → sort pod = true)
    {r : Run σ} {ph : Phase} {d : Json} (hd : (view r.world).workloads key = some d)
    (hs : Scaled n ph d) {o : Watch} (ho : o = ⟨drift, key, n, sort, view r.world, ph⟩) :
    ∃ k L, o.RevertEnd e (e.revertOptions spec selection) (e.reverting spec r).2
        (e.reverting spec r).1 k L ∧
      o.Ledger k L (view (e.reverting spec r).2.world.1)
        (mutations (e.reverting spec r).2.world.2) ∧
      ∀ s, (e.reverting spec r).1 = .ok (some s) → o.KeepsAbsent s.pod.ns s.pod.name →
        (view (e.reverting spec r).2.world.1).pods s.pod.ns s.pod.name = none := by
  subst ho
  exact (Watch.revertPod_ends (o := ⟨drift, key, n, sort, view r.world, ph⟩) law still hn
    hselection rfl hsort (r := r.unnoted) (Watch.Ledger.begin hd hs)).result

end Engine

end PodSwap
