import PodSwap.Proofs.Engine.Lookup

/-!
# How a replacement ends

A replacement that is found and not kept is taken down, and its parent restored. Then the target's
parent is quiesced and the fresh replacement created; where that fails the parent is rolled back.

Main statement: `replacePod_ends`, by which at most one pod was deleted, the replacement that was
found, and after it at most one created, and that exactly if the result says so.
-/

namespace PodSwap

variable [Schema]

/-- Whether a pod is what a server made of a replacement for a pod of a workload. -/
def Engine.Makes {σ : Type} (e : Engine σ) (spec : Spec) (parent : Workload) (pod : Pod) : Prop :=
  ∃ target prints replacement,
    Replacement.build target parent spec e.images prints = .ok replacement ∧
      Pod.MadeFrom replacement pod

namespace Engine

variable {σ : Type}

/-- The options by which a replacement looks for the one that there is. -/
def replaceOptions (e : Engine σ) (spec : Spec) (selection : Selection) : SelectOptions :=
  e.replacementOptions (spec.nsOr e.settings.defaultNamespace) spec selection
    e.settings.findReplacedTimeout

/-- A replacement with what it comes to and with what it does noted. -/
def replacing (e : Engine σ) (spec : Spec) (r : Run σ) :
    Except Error Outcome × Run (σ × List CallEvent) :=
  (e.noted.replacePod spec).from r.unnoted

end Engine

namespace Watch

open Scale

variable {σ : Type} {e : Engine σ} {view : σ → Stored} {o : Watch} {k : Nat} {L : List Mutation}
  {r : Run (σ × List CallEvent)}

/-- No pod was deleted, or one of which something is known. -/
def Removed (F : SelectedPod → Prop) (L : List Mutation) : Prop :=
  L = [] ∨ ∃ s, F s ∧ L = [.deleted s.pod.ns s.pod.name]

/-- How replacing ends, by its result, the number of patches of the watched workload and the changes
of pods that it made. -/
inductive ReplaceEnd (o : Watch) (e : Engine σ) (spec : Spec) (F : SelectedPod → Prop) :
    Except Error Outcome → Nat → List Mutation → Prop
  /-- No replacement was made. -/
  | unmade {x : Except Error Outcome} {k : Nat} {L : List Mutation} (removed : Removed F L)
    (result : ∀ selected replacement parent, x ≠ .ok (.replaced selected replacement parent)) :
    ReplaceEnd o e spec F x k L
  /-- A replacement was made, and the parent is down. -/
  | made {selected name : String} {parent : Workload} {pod : Pod} {k : Nat} {L : List Mutation}
    (removed : Removed F L) (makes : e.Makes spec parent pod)
    (ns : parent.ns = spec.nsOr e.settings.defaultNamespace)
    (down : parent.key = o.key → o.phase.after k = .down) :
    ReplaceEnd o e spec F (.ok (.replaced selected name parent.identity)) k (L ++ [.created pod])

/-- A replacement deletes at most one pod, and after that creates at most one. -/
theorem ReplaceEnd.changes {spec : Spec} {F : SelectedPod → Prop} {x : Except Error Outcome}
    (h : ReplaceEnd o e spec F x k L) : ∃ L₀, Removed F L₀ ∧
      (L = L₀ ∨ ∃ parent pod, e.Makes spec parent pod ∧ L = L₀ ++ [.created pod]) := by
  cases h with
  | unmade removed _ => exact ⟨L, removed, .inl rfl⟩
  | made removed makes _ _ => exact ⟨_, removed, .inr ⟨_, _, makes, rfl⟩⟩

/-- Where a replacement was made, the last change of pods is that it was created. -/
theorem ReplaceEnd.of_replaced {spec : Spec} {F : SelectedPod → Prop} {x : Except Error Outcome}
    (h : ReplaceEnd o e spec F x k L) {selected replacement identity : String}
    (hx : x = .ok (.replaced selected replacement identity)) :
    ∃ parent pod L₀, parent.identity = identity ∧ e.Makes spec parent pod ∧
      parent.ns = spec.nsOr e.settings.defaultNamespace ∧
      (parent.key = o.key → o.phase.after k = .down) ∧
      Removed F L₀ ∧ L = L₀ ++ [.created pod] := by
  cases h with
  | unmade _ result => exact absurd hx (result _ _ _)
  | made removed makes ns down =>
    cases hx
    exact ⟨_, _, _, rfl, makes, ns, down, removed, rfl⟩

/-- No pod was created where at most one was deleted. -/
theorem Removed.not_created {F : SelectedPod → Prop} (h : Removed F L) (pod : Pod) :
    .created pod ∉ L := by
  rcases h with rfl | ⟨s, -, rfl⟩ <;> simp

section

variable (law : e.cluster.Stores view o.drift) (still : Undisturbed o.drift o.key o.sort)

include law still

/-! ## The replacement that was found -/

/-- Taking a replacement down deletes at most that. -/
theorem takesDown_ends {s : SelectedPod} (hr : Holds view (o.Ledger k L) r) :
    (e.noted.deleteReplacement s).Ends r fun _ r' =>
      ∃ L', (L' = L ∨ L' = L ++ [.deleted s.pod.ns s.pod.name]) ∧
        Holds view (o.Ledger k L') r' := by
  apply (deleteAndWait_ends law still .caller hr).during _
  intro x r' _ hx
  cases x with
  | ok _ =>
    rcases hx with hdeleted | ⟨hnone, -⟩
    · exact ⟨_, .inr rfl, hdeleted.1⟩
    · exact ⟨_, .inl rfl, hnone⟩
  | error err =>
    rcases hx.1 with hkept | hdeleted
    · exact ⟨_, .inl rfl, hkept⟩
    · exact ⟨_, .inr rfl, hdeleted⟩

/-- A replacement that was found is at most deleted. -/
theorem keepsReplacement_ends {s : SelectedPod} {spec : Spec} (hn : 0 < o.count)
    (hr : Holds view (o.Ledger k L) r) :
    (e.noted.keepsReplacement s spec).Ends r fun _ r' =>
      ∃ k' L', (L' = L ∨ L' = L ++ [.deleted s.pod.ns s.pod.name]) ∧
        Holds view (o.Ledger k' L') r' := by
  have hdown : ∀ {r : Run (σ × List CallEvent)}, Holds view (o.Ledger k L) r →
      (e.noted.deleteReplacement s >>= fun _ => pure false).Ends r fun _ r' =>
        ∃ k' L', (L' = L ∨ L' = L ++ [.deleted s.pod.ns s.pod.name]) ∧
          Holds view (o.Ledger k' L') r' := fun hr =>
    (takesDown_ends law still hr).bind (fun _ r' _ h => .of_pure ⟨k, h⟩) fun _ r' _ h => ⟨k, h⟩
  unfold Engine.keepsReplacement
  split
  · exact hdown hr
  · apply (parentOfReplacement_ends law still .caller hr).tried
    intro x r₁ _ hx
    obtain ⟨hholds, hwhy⟩ := hx
    cases x with
    | error err =>
      dsimp only
      split
      · exact .of_throw ⟨k, L, .inl rfl, hholds⟩
      · exact hdown hholds
    | ok w =>
      dsimp only
      cases e.noted.fingerprints w spec with
      | error err => exact .of_throw ⟨k, L, .inl rfl, hholds⟩
      | ok prints =>
        rw [Op.purely_ok_bind]
        split
        · apply (quiesce_ends law still .caller hn hwhy.2 hholds).tried
          intro x r₂ _ hx
          cases x with
          | ok _ =>
            obtain ⟨k', hholds', -⟩ := hx
            exact .of_pure ⟨k', L, .inl rfl, hholds'⟩
          | error err =>
            dsimp only
            split
            · exact .of_throw ⟨k, L, .inl rfl, hx.1⟩
            · exact .of_pure ⟨k, L, .inl rfl, hx.1⟩
        · refine (takesDown_ends law still hholds).bind ?_ fun _ r₂ _ hx => ⟨k, hx⟩
          intro _ r₂ _ hx
          obtain ⟨L', hL', hholds'⟩ := hx
          refine (restore_ends law still .caller hn hwhy.2 hholds').during_bind _ ?_ ?_
          · intro _ r₃ _ hx
            obtain ⟨k', hk', -⟩ := hx
            exact .of_pure ⟨k', L', hL', hk'⟩
          · intro _ r₃ _ hx
            exact ⟨k, L', hL', hx.1⟩

/-! ## The fresh replacement -/

/-- The target is in the namespace that it is looked for in, and so is its parent. -/
theorem findTarget_ends {spec : Spec} {ns : String} (hr : Holds view (o.Ledger k L) r) :
    (e.noted.findTarget spec ns).Ends r fun x r' => Holds view (o.Ledger k L) r' ∧
      match x with
      | .ok (_, parent) => parent.ns = ns ∧ o.Reads k parent
      | .error _ => True := by
  unfold Engine.findTarget
  cases spec.selection with
  | error err => exact .of_throw ⟨hr, trivial⟩
  | ok selection =>
    rw [Op.purely_ok_bind]
    refine (Op.Ends.of_purely (Q := fun _ r' => Holds view (o.Ledger k L) r') hr).during_bind _
      ?_ fun _ r₁ _ h => ⟨h, trivial⟩
    intro images r₁ _ hr₁
    have hselect := Engine.select_ends law (Ledger.stable still)
      (e.targetOptions ns spec selection images)
      (φ := fun s => s.pod.ns = ns) (ψ := True)
      (fun s pods m x _ ⟨hlist, _⟩ hx => by
        obtain ⟨hmem, -⟩ := SelectOptions.pick_eq_some hx
        obtain ⟨⟨name, hname⟩, -⟩ := (hlist x.pod).mp hmem
        exact (s.pod_named hname).1)
      (fun _ _ _ _ _ _ => trivial) hr₁
    refine hselect.during_bind _ ?_ fun _ r₂ _ h => ⟨h.1, trivial⟩
    intro target r₂ _ hr₂
    cases target with
    | none => exact .of_throw ⟨hr₂.1, trivial⟩
    | some target =>
      obtain ⟨hr₂, hns⟩ := hr₂
      refine (resolveParent_ends law still .caller target.pod hr₂).during_bind _ ?_
        fun _ r₃ _ h => ⟨h.1, trivial⟩
      rintro parent r₃ - ⟨hr₃, hparent⟩
      obtain ⟨hparentNs, hreads⟩ := hparent parent rfl
      exact .of_pure ⟨hr₃, hparentNs.trans hns, hreads⟩

/-- The replacement is created or nothing is. -/
theorem swapIn_ends {target : SelectedPod} {parent : Workload} {replacement : Pod}
    (hr : Holds view (o.Ledger k L) r) :
    (e.noted.swapIn target parent replacement).Ends r fun x r' =>
      match x with
      | .ok pod => Pod.MadeFrom replacement pod ∧ Holds view (o.Ledger k (L ++ [.created pod])) r'
      | .error _ => Holds view (o.Ledger k L) r' := by
  have hwait := law.poll_ends .caller (Ledger.stable still)
    (c := .getPod target.pod.ns target.pod.name) rfl
    (f := fun pod => Termination.doneIf (Termination.hasTerminated parent.kind pod))
    (φ := fun _ => True) (ψ := True) (p :=
      ⟨"pod " ++ target.pod.ns ++ "/" ++ target.pod.name ++ " to terminate",
        e.settings.terminationPollIntervalMs, e.settings.terminationTimeout⟩)
    (fun _ _ _ _ _ _ _ => trivial) (fun _ _ _ _ _ _ => trivial) hr
  unfold Engine.swapIn
  refine hwait.during_bind _ ?_ fun _ r₁ _ h => h.1
  intro _ r₁ _ hr₁
  have hcreate := law.request_ends .caller (c := .createPod replacement)
    (A := o.Ledger k L)
    (B := fun pod s m => Pod.MadeFrom replacement pod ∧ o.Ledger k (L ++ [.created pod]) s m)
    (Ledger.stable still) (fun pod s s' m hd hs => ⟨hs.1, Ledger.stable still s s' m hd hs.2⟩)
    (fun s pod s' m hs ha => ⟨ha.1, hs.create ha⟩) hr₁.1
  apply hcreate.during _
  intro x r₂ _ hx
  cases x with
  | ok pod => exact hx.1
  | error err => exact hx.1

/-- A roll-back changes no pod. -/
theorem rollBack_ends (hn : 0 < o.count) {parent : Workload} (hr : Holds view (o.Ledger k L) r) :
    (e.noted.rollBack parent).Ends r fun _ r' => ∃ k', Holds view (o.Ledger k' L) r' := by
  unfold Engine.rollBack
  refine ((getWorkload_ends law still .nobody parent.kind parent.ns parent.name hr).bind
    (R := fun _ r' => ∃ k', Holds view (o.Ledger k' L) r') ?_ fun _ r₁ _ h => ⟨k, h.1⟩).tried
    fun _ r₁ _ h => .of_pure h
  intro current r₁ _ h
  cases current with
  | none => exact .of_pure ⟨k, h.1⟩
  | some w =>
    refine (restore_ends law still .nobody hn h.2.2 h.1).bind ?_ fun _ r₂ _ hx => ⟨k, hx.1⟩
    intro _ r₂ _ hx
    obtain ⟨k', hk', -⟩ := hx
    exact .of_pure ⟨k', hk'⟩

/-- A swap creates the replacement, with its parent down, or nothing. -/
theorem swap_ends (hn : 0 < o.count) {target : SelectedPod} {parent : Workload} {spec : Spec}
    (hparent : o.Reads k parent) (hr : Holds view (o.Ledger k L) r) :
    (e.noted.swap target parent spec).Ends r fun x r' =>
      match x with
      | .ok outcome => ∃ selected name pod k',
          outcome = .replaced selected name parent.identity ∧ e.Makes spec parent pod ∧
          (parent.key = o.key → o.phase.after k' = .down) ∧
          Holds view (o.Ledger k' (L ++ [.created pod])) r'
      | .error _ => ∃ k', Holds view (o.Ledger k' L) r' := by
  unfold Engine.swap
  cases e.noted.fingerprints parent spec with
  | error err => exact .of_throw ⟨k, hr⟩
  | ok prints =>
    rw [Op.purely_ok_bind]
    refine (Op.Ends.of_purely (Q := fun x r' =>
      Replacement.build target parent spec e.images prints = x ∧ Holds view (o.Ledger k L) r')
      ⟨rfl, hr⟩).during_bind _ ?_ fun _ r₁ _ h => ⟨k, h.2⟩
    intro replacement r₁ _ hr₁
    obtain ⟨hbuild, hr₁⟩ := hr₁
    refine (quiesce_ends law still .caller hn hparent hr₁).during_bind _ ?_
      fun _ r₂ _ h => ⟨k, h.1⟩
    intro quiesced r₂ _ hr₂
    obtain ⟨k', hk', -, hdown, -⟩ := hr₂
    apply (swapIn_ends law still hk').tried
    intro x r₃ _ hx
    cases x with
    | ok pod =>
      exact .of_pure ⟨_, _, pod, k', rfl, ⟨target, prints, replacement, hbuild, hx.1⟩, hdown, hx.2⟩
    | error err =>
      dsimp only
      cases quiesced with
      | false => exact .of_throw ⟨k', hx⟩
      | true =>
        exact (rollBack_ends law still hn hx).bind (fun _ r₄ _ h => .of_throw h) fun _ r₄ _ h => h

/-! ## The whole of it -/

/-- How making a fresh replacement ends. -/
theorem makesFresh_ends {spec : Spec} {F : SelectedPod → Prop} (hn : 0 < o.count)
    (hL : Removed F L) (hr : Holds view (o.Ledger k L) r) :
    (e.noted.findTarget spec (spec.nsOr e.settings.defaultNamespace) >>= fun found =>
      e.noted.swap found.1 found.2 spec).Ends r fun x r' => ∃ k L, ReplaceEnd o e spec F x k L ∧
        Holds view (o.Ledger k L) r' := by
  refine (findTarget_ends law still hr).bind ?_
    fun err r₁ _ h => ⟨k, L, .unmade hL (fun _ _ _ h => by cases h), h.1⟩
  intro found r₁ _ hr₁
  obtain ⟨target, parent⟩ := found
  apply (swap_ends law still hn hr₁.2.2 hr₁.1).mono
  intro x r₂ _ hx
  cases x with
  | ok outcome =>
    obtain ⟨selected, name, pod, k', rfl, hmakes, hdown, hk'⟩ := hx
    exact ⟨k', _, .made hL hmakes hr₁.2.1 hdown, hk'⟩
  | error err =>
    obtain ⟨k', hk'⟩ := hx
    exact ⟨k', L, .unmade hL (fun _ _ _ h => by cases h), hk'⟩

/-- How replacing ends, where something is known of the replacement that is found. -/
theorem replacePod_ends {spec : Spec} {selection : Selection} {F : SelectedPod → Prop}
    (hn : 0 < o.count) (hselection : spec.selection = .ok selection)
    (hfind : (e.noted.select (e.replaceOptions spec selection)).Ends r fun x r' =>
      Holds view (o.Ledger 0 []) r' ∧ ∀ s, x = .ok (some s) → F s) :
    (e.noted.replacePod spec).Ends r fun x r' => ∃ k L, ReplaceEnd o e spec F x k L ∧
      Holds view (o.Ledger k L) r' := by
  unfold Engine.replacePod
  rw [Spec.validate_of_selection hselection, Op.purely_ok_bind]
  dsimp only
  rw [e.findReplacement_eq_select hselection]
  have hnever : ∀ {err : Error} (a b c : String),
      (.error err : Except Error Outcome) ≠ .ok (.replaced a b c) := fun _ _ _ h => by cases h
  refine hfind.during_bind _ ?_ fun err r₁ _ h => ⟨0, [], .unmade (.inl rfl) hnever, h.1⟩
  intro existing r₁ _ hr₁
  cases existing with
  | none => exact makesFresh_ends law still hn (.inl rfl) hr₁.1
  | some s =>
    have hremoved : ∀ {L}, L = [] ∨ L = [] ++ [Mutation.deleted s.pod.ns s.pod.name] →
        Removed F L := fun h => h.imp id fun h => ⟨s, hr₁.2 s rfl, h⟩
    refine (keepsReplacement_ends law still hn hr₁.1).bind ?_
      fun err r₂ _ ⟨k, L, hL, h⟩ => ⟨k, L, .unmade (hremoved hL) hnever, h⟩
    intro kept r₂ _ hx
    obtain ⟨k, L, hL, hholds⟩ := hx
    cases kept with
    | true => exact .of_pure ⟨k, L, .unmade (hremoved hL) (fun _ _ _ h => by cases h), hholds⟩
    | false => exact makesFresh_ends law still hn (hremoved hL) hholds

end

end Watch

end PodSwap
