import PodSwap.Proofs.Engine.Requests
import PodSwap.Proofs.Engine.Slot

/-!
# What is deleted

Both operations delete at most the pod that the lookup of a replacement found, and that pod carries
the mark of a replacement with the value that the lookup asks for: `true`, unless the spec itself
selects by the mark. A fresh target has no such mark.

Main statement: `deletes_only_marked`.
-/

namespace PodSwap

section

variable [Schema]

/-- Whether a cluster lists only pods that fit what is asked for. -/
def Cluster.ListsFitting {σ : Type} (cluster : Cluster σ) : Prop :=
  ∀ ns selector now w pods,
    ((cluster.call (.listPods ns selector)).finish now w).result = .ok pods →
      ∀ pod ∈ pods, satisfies pod.metadata.labelTable selector = true

/-- Whether a pod was picked from an answer among the events. -/
def Picked (opts : SelectOptions) (s : SelectedPod) (events : List CallEvent) : Prop :=
  ∃ pods now, opts.pick pods = some s ∧
    CallEvent.answered now (.listPods opts.ns opts.selectorText) (.ok pods) ∈ events

/-- Every deletion that was begun is of a pod that had been picked before, from an answer in which
it was as the condition says. -/
def DeletesOnly (opts : SelectOptions) (φ : Pod → Prop) (events : List CallEvent) : Prop :=
  ∀ now ns name earlier, CallEvent.begun now (.deletePod ns name) :: earlier <:+ events →
    ∃ s, Picked opts s earlier ∧ φ s.pod ∧ s.pod.ns = ns ∧ s.pod.name = name

namespace DeletesOnly

variable {σ : Type} {opts : SelectOptions} {φ : Pod → Prop} {p : Call → Prop}

theorem nil : DeletesOnly opts φ [] := by
  intro now ns name earlier h
  cases List.suffix_nil.mp h

/-- Calls add no other deletions if those of them that delete are of a pod that was picked. -/
theorem append {old new : List CallEvent} (h : DeletesOnly opts φ old)
    (hnew : ∀ event ∈ new, ∀ ns name, event.call = .deletePod ns name →
      ∃ s, Picked opts s old ∧ φ s.pod ∧ s.pod.ns = ns ∧ s.pod.name = name) :
    DeletesOnly opts φ (new ++ old) := by
  induction new with
  | nil => exact h
  | cons event new ih =>
    intro now ns name earlier hsuffix
    rcases List.suffix_cons_iff.mp hsuffix with heq | hsuffix
    · obtain ⟨rfl, rfl⟩ := List.cons.inj heq
      obtain ⟨s, ⟨pods, at', hpick, hlisted⟩, hs⟩ :=
        hnew _ List.mem_cons_self ns name rfl
      exact ⟨s, ⟨pods, at', hpick, List.mem_append_right _ hlisted⟩, hs⟩
    · exact ih (fun event hevent => hnew event (List.mem_cons_of_mem _ hevent)) now ns name earlier
        hsuffix

section

variable {r r' : Run (σ × List CallEvent)} (h : DeletesOnly opts φ r.world.2)
  (hp : ∀ ns name, p (.deletePod ns name) →
    ∃ s, Picked opts s r.world.2 ∧ φ s.pod ∧ s.pod.ns = ns ∧ s.pod.name = name)

include h hp

theorem notes (hnotes : r.Notes p r') : DeletesOnly opts φ r'.world.2 := by
  obtain ⟨new, hnew, hcalls⟩ := hnotes
  rw [hnew]
  refine h.append fun event hevent ns name hcall => hp ns name ?_
  rw [← hcall]
  exact hcalls event hevent

/-- The same over what an operation calls. -/
theorem of_calls {α : Type} {op : Op (σ × List CallEvent) α} (hop : op.Calls p) :
    op.Ends r fun _ r' => DeletesOnly opts φ r'.world.2 :=
  (hop r).mono fun _ _ _ hnotes => h.notes hp hnotes

end

end DeletesOnly

/-- Whether a call deletes no pod but one. -/
def Call.SparesBut (ns name : String) (c : Call) : Prop :=
  ∀ ns' name', c = .deletePod ns' name' → ns' = ns ∧ name' = name

/-- Whether a call deletes no pod. -/
def Call.Spares (c : Call) : Prop := ∀ ns name, c ≠ .deletePod ns name

theorem Call.Reads.spares {c : Call} (h : c.Reads) : c.Spares := by
  rintro ns name rfl
  cases h

theorem Call.Spares.but {c : Call} (h : c.Spares) (ns name : String) : c.SparesBut ns name :=
  fun ns' name' hc => absurd hc (h ns' name')

theorem Call.sparesBut_self (ns name : String) : (Call.deletePod ns name).SparesBut ns name := by
  rintro ns' name' ⟨⟩
  exact ⟨rfl, rfl⟩

/-- What deletes no pod but one that was picked deletes pods that were picked only. -/
theorem picked_of_sparesBut {opts : SelectOptions} {φ : Pod → Prop} {s : SelectedPod}
    {events : List CallEvent} (h : Picked opts s events ∧ φ s.pod) (ns name : String)
    (hcall : (Call.deletePod ns name).SparesBut s.pod.ns s.pod.name) :
    ∃ s, Picked opts s events ∧ φ s.pod ∧ s.pod.ns = ns ∧ s.pod.name = name := by
  obtain ⟨rfl, rfl⟩ := hcall ns name rfl
  exact ⟨s, h.1, h.2, rfl, rfl⟩

namespace Engine

variable {σ : Type} {e : Engine σ} {spec : Spec} {selection : Selection}
  {r : Run (σ × List CallEvent)}

/-- Whether a pod is marked as the lookup of a replacement asks for it. -/
def Marked (selection : Selection) (pod : Pod) : Prop :=
  pod.metadata.labelTable.get? Marker.replaced = some (beforeComma (markAskedFor selection))

section

variable (hlists : e.cluster.ListsFitting) (hselection : spec.selection = .ok selection)
  (ns : String) (timeoutMs : Nat)

include hlists hselection

/-- The lookup of a replacement deletes nothing, and what it finds is marked. -/
theorem findReplacement_picks {opts : SelectOptions}
    (hopts : e.replacementOptions ns spec selection timeoutMs = opts)
    (hr : DeletesOnly opts (Marked selection) r.world.2) :
    (e.noted.findReplacement spec ns timeoutMs).Ends r fun x r' =>
      DeletesOnly opts (Marked selection) r'.world.2 ∧
        ∀ s, x = .ok (some s) → Picked opts s r'.world.2 ∧ Marked selection s.pod := by
  rw [e.findReplacement_eq_select hselection, hopts]
  refine (select_noted opts (φ := fun pods => ∀ pod ∈ pods,
    satisfies pod.metadata.labelTable opts.selectorText = true)
    (fun now w pods h => hlists _ _ now w pods h) r).mono ?_
  rintro x r' - ⟨hnotes, hvalue⟩
  refine ⟨hr.notes (fun _ _ h => nomatch h) hnotes, fun s hs => ?_⟩
  obtain ⟨pods, now, hpick, hfit, hevent⟩ := hvalue s hs
  have hfits := hfit s.pod (SelectOptions.pick_eq_some hpick).1
  rw [← hopts] at hfits
  exact ⟨⟨pods, now, hpick, hevent⟩, replaced_of_satisfies hfits⟩

/-- A replacement deletes at most the pod that its lookup found. -/
theorem replacePod_deletes (hr : DeletesOnly (e.replaceOptions spec selection) (Marked selection)
    r.world.2) :
    (e.noted.replacePod spec).Ends r fun _ r' =>
      DeletesOnly (e.replaceOptions spec selection) (Marked selection) r'.world.2 := by
  have hfresh : (e.noted.findTarget spec (spec.nsOr e.settings.defaultNamespace) >>= fun found =>
      e.noted.swap found.1 found.2 spec).Calls Call.Spares :=
    Op.Calls.bind (Op.Calls.closed.findTarget (fun _ h => h.spares) spec _) fun found =>
      swap_calls (fun _ h => h.spares) (fun _ _ _ _ _ _ h => nomatch h)
        (fun _ _ _ h => nomatch h) found.1 found.2 spec
  -- making a fresh replacement deletes nothing
  have hmakes : ∀ r : Run (σ × List CallEvent),
      DeletesOnly (e.replaceOptions spec selection) (Marked selection) r.world.2 →
      (e.noted.findTarget spec (spec.nsOr e.settings.defaultNamespace) >>= fun found =>
        e.noted.swap found.1 found.2 spec).Ends r fun _ r' =>
          DeletesOnly (e.replaceOptions spec selection) (Marked selection) r'.world.2 :=
    fun r hr => hr.of_calls (fun ns name h => absurd rfl (h ns name)) hfresh
  unfold Engine.replacePod
  rw [Spec.validate_of_selection hselection, Op.purely_ok_bind]
  refine (findReplacement_picks hlists hselection _ _ rfl hr).during_bind _ ?_ fun _ _ _ h => h.1
  intro existing r₁ _ hr₁
  cases existing with
  | none => exact hmakes r₁ hr₁.1
  | some s =>
    have hkeeps : (e.noted.keepsReplacement s spec).Calls
        (Call.SparesBut s.pod.ns s.pod.name) :=
      Op.Calls.closed.keepsReplacement (fun _ h => h.spares.but _ _)
        (fun _ _ _ _ _ _ h => nomatch h) (Call.sparesBut_self _ _) spec
    refine (hr₁.1.of_calls (picked_of_sparesBut (hr₁.2 s rfl)) hkeeps).bind ?_ fun _ _ _ h => h
    intro kept r₂ _ hr₂
    cases kept with
    | true => exact .of_pure hr₂
    | false => exact hmakes r₂ hr₂

/-- A revert deletes at most the pod that its lookup found. -/
theorem revertPod_deletes (hr : DeletesOnly (e.revertOptions spec selection) (Marked selection)
    r.world.2) :
    (e.noted.revertPod spec).Ends r fun _ r' =>
      DeletesOnly (e.revertOptions spec selection) (Marked selection) r'.world.2 := by
  rw [revertPod_eq]
  unfold lookUp
  rw [Spec.validate_of_selection hselection, Op.purely_ok_bind]
  refine (findReplacement_picks hlists hselection _ _ rfl hr).during_bind _ ?_ fun _ _ _ h => h.1
  intro existing r₁ _ hr₁
  cases existing with
  | none => exact .of_pure hr₁.1
  | some s =>
    -- all that follows deletes no pod but the one that was found
    refine hr₁.1.of_calls (picked_of_sparesBut (hr₁.2 s rfl)) ?_
    refine Op.Calls.bind (Op.Calls.closed.parentToRestore (fun _ h => h.spares.but _ _) s)
      fun parent => ?_
    exact Op.Calls.bind (Op.Calls.closed.takeDown (fun _ h => h.spares.but _ _)
      (fun _ _ _ _ _ _ h => nomatch h) (Call.sparesBut_self _ _) parent) fun _ => .of_pure _

omit hselection in
/-- A fresh target is no replacement. -/
theorem findTarget_unmarked {target : SelectedPod} {parent : Workload}
    {r' : Run (σ × List CallEvent)}
    (h : (e.noted.findTarget spec ns).from r = (.ok (target, parent), r')) :
    target.pod.isReplacement = false := by
  have hends : (e.noted.findTarget spec ns).Ends r fun x _ =>
      ∀ found, x = .ok found → found.1.pod.isReplacement = false := by
    unfold Engine.findTarget
    cases spec.selection with
    | error err => exact .of_throw fun _ h => by cases h
    | ok selection =>
      rw [Op.purely_ok_bind]
      refine (Op.Ends.of_purely (Q := fun _ _ => True) trivial).during_bind _ ?_
        fun _ _ _ _ _ h => by cases h
      intro images r₁ _ _
      refine (select_noted (e.targetOptions ns spec selection images)
        (φ := fun pods => ∀ pod ∈ pods, satisfies pod.metadata.labelTable
          (e.targetOptions ns spec selection images).selectorText = true)
        (fun now w pods h => hlists _ _ now w pods h) r₁).during_bind _ ?_
        fun _ _ _ _ _ h => by cases h
      intro selected r₂ _ hr₂
      cases selected with
      | none => exact .of_throw fun _ h => by cases h
      | some target =>
        obtain ⟨pods, now, hpick, hfit, -⟩ := hr₂.2 target rfl
        have hfits := hfit target.pod (SelectOptions.pick_eq_some hpick).1
        have hparent : (Ownership.resolveParent e.cluster.traced .caller target.pod).Calls
            fun _ => True := Op.Calls.closed.resolveParent (fun _ _ => trivial) target.pod
        refine (hparent r₂).during_bind _ ?_ fun _ _ _ _ _ h => by cases h
        intro parent r₃ _ _
        refine .of_pure ?_
        rintro found ⟨⟩
        exact not_contains_of_satisfies hfits rfl
  exact hends.result (target, parent) (by rw [h])

end

/-- Whatever the cluster does, as long as it lists only pods that fit: a replacement and a revert
delete only pods that their lookup listed with the mark of a replacement, of the value that the
lookup asks for, and no replacement is replaced afresh. -/
theorem deletes_only_marked (hlists : e.cluster.ListsFitting)
    (hselection : spec.selection = .ok selection) (start : Run σ) :
    DeletesOnly (e.replaceOptions spec selection) (Marked selection)
        (e.replacing spec start).2.world.2 ∧
      DeletesOnly (e.revertOptions spec selection) (Marked selection)
        (e.reverting spec start).2.world.2 ∧
      ∀ ns r r' target parent,
        (e.noted.findTarget spec ns).from r = (.ok (target, parent), r') →
          target.pod.isReplacement = false :=
  ⟨(replacePod_deletes hlists hselection .nil).result,
    (revertPod_deletes hlists hselection .nil).result,
    fun ns _ _ _ _ h => findTarget_unmarked hlists ns h⟩

end Engine

/-- Whether a deletion of a pod is begun. -/
def CallEvent.deletes (ns name : String) : CallEvent → Bool
  | .begun _ (.deletePod ns' name') => ns' = ns && name' = name
  | _ => false

/-- Whether pods that are listed are of a kind. -/
def CallEvent.listsOnly (q : Pod → Bool) : CallEvent → Bool
  | .answered _ (.listPods _ _) (.ok pods) => pods.all q
  | _ => true

theorem CallEvent.exists_of_deletes {ns name : String} {events : List CallEvent}
    (h : events.any (CallEvent.deletes ns name) = true) :
    ∃ now earlier, CallEvent.begun now (.deletePod ns name) :: earlier <:+ events := by
  obtain ⟨event, hmem, hdeletes⟩ := List.any_eq_true.mp h
  obtain ⟨later, earlier, rfl⟩ := List.append_of_mem hmem
  unfold CallEvent.deletes at hdeletes
  split at hdeletes
  · rename_i now ns' name'
    simp only [Bool.and_eq_true, decide_eq_true_eq] at hdeletes
    obtain ⟨rfl, rfl⟩ := hdeletes
    exact ⟨now, earlier, List.suffix_append later _⟩
  · cases hdeletes

end

namespace Slot

theorem listsFitting (refuses : Nat → Bool) : (engine refuses).cluster.ListsFitting := by
  intro ns selector now w pods h pod hpod
  replace h : (if refuses w.calls then
      (⟨.error (.cluster "refused"), w, false⟩ : Finish Slot (List Pod))
    else w.answer (.listPods ns selector)).result = .ok pods := h
  split at h
  · cases h
  · cases h
    rw [Option.mem_toList] at hpod
    have hfits := (Option.filter_eq_some_iff.mp hpod).2
    exact (Bool.and_eq_true_iff.mp hfits).2

/-- The replacement that a revert deletes carries the mark. -/
theorem deletes_marked : ∃ s : SelectedPod, s.pod.name = "web-0-devspace" ∧
    Picked ((engine fun _ => false).revertOptions (spec selector) (.labels selector)) s
      (revert (fun _ => false) replaced).2.world.2 ∧
    s.pod.metadata.labelTable.get? Marker.replaced = some "true" := by
  have hrun : (revert (fun _ => false) replaced).2.world.2.any
      (CallEvent.deletes key.ns "web-0-devspace") = true := by
    simp only [revert, Engine.reverting, Engine.revertPod, Engine.findReplacement, Engine.select,
      Engine.deleteReplacement, Termination.deleteAndWait, Poll.wait_eq_once, revert_timeout,
      termination_timeout]
    decide +kernel
  obtain ⟨now, earlier, hsuffix⟩ := CallEvent.exists_of_deletes hrun
  obtain ⟨s, ⟨pods, at', hpick, hlisted⟩, hmarked, -, hname⟩ :=
    (Engine.deletes_only_marked (listsFitting fun _ => false)
      (show (spec selector).selection = .ok (.labels selector) from rfl)
      (begin replaced)).2.1 now _ _ earlier hsuffix
  exact ⟨s, hname, ⟨pods, at', hpick, hsuffix.subset (List.mem_cons_of_mem _ hlisted)⟩, hmarked⟩

/-- Labels with a mark of a replacement that is no mark. -/
def ownMark : SortedMap String := selector.insert Marker.replaced "no"

/-- A pod that is no replacement, and says so. -/
def bystander : Pod where
  metadata := { name := some "web-0", ns := some key.ns, labels := some ownMark }
  spec := some { containers := [{ name := "main" }] }

/-- A spec that itself selects by the mark takes pods for replacements that are none, and a revert
deletes them. -/
theorem deletes_bystander :
    let run := (engine fun _ => false).reverting (spec ownMark) (begin { pod := some bystander })
    (spec ownMark).validate = .ok () ∧
      run.2.world.2.any (CallEvent.deletes key.ns "web-0") = true ∧
      ¬ DeletesOnly ((engine fun _ => false).revertOptions (spec ownMark) (.labels ownMark))
        (fun pod => pod.metadata.labelTable.get? Marker.replaced = some "true")
        run.2.world.2 := by
  have hrun : ((engine fun _ => false).reverting (spec ownMark)
        (begin { pod := some bystander })).2.world.2.any (CallEvent.deletes key.ns "web-0") = true ∧
      ((engine fun _ => false).reverting (spec ownMark)
        (begin { pod := some bystander })).2.world.2.all (CallEvent.listsOnly fun pod =>
          pod.metadata.labelTable.get? Marker.replaced ≠ some "true") = true := by
    simp only [Engine.reverting, Engine.revertPod, Engine.findReplacement, Engine.select,
      Engine.deleteReplacement, Termination.deleteAndWait, Poll.wait_eq_once, revert_timeout,
      termination_timeout]
    decide +kernel
  refine ⟨rfl, hrun.1, fun hmarked => ?_⟩
  obtain ⟨now, earlier, hsuffix⟩ := CallEvent.exists_of_deletes hrun.1
  obtain ⟨s, ⟨pods, at', hpick, hlisted⟩, hmark, -⟩ := hmarked now _ _ earlier hsuffix
  have hpods := List.all_eq_true.mp hrun.2 _ (hsuffix.subset (List.mem_cons_of_mem _ hlisted))
  have hpod := List.all_eq_true.mp hpods s.pod (SelectOptions.pick_eq_some hpick).1
  exact absurd hmark (by simpa using hpod)

end Slot

end PodSwap
