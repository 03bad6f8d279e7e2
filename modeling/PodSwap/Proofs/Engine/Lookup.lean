import PodSwap.Engine
import PodSwap.Proofs.Engine.Calls
import PodSwap.Proofs.Selection.Pick
import PodSwap.Proofs.Selection.Selector

/-!
# Finding pods in a store

The pod that a selection finds in a store is the least of those that match it, and the only one of
that kind, whatever order a list has.

Main statements: there is at most one pod that a selection finds (`PodTable.Finds.unique`), and a
lookup finds that one, or none if there is none, unless it runs into trouble (`lookup_ends`).
-/

namespace PodSwap

theorem Spec.validate_of_selection {spec : Spec} {selection : Selection}
    (h : spec.selection = .ok selection) : spec.validate = .ok () := by
  rw [Spec.validate, h]
  rfl

variable [Schema]

/-- Whether a pod matches a selection: its labels fit, and it can be picked. -/
def SelectOptions.matches (opts : SelectOptions) (pod : Pod) : Bool :=
  satisfies pod.metadata.labelTable opts.selectorText && opts.fits pod

theorem SelectOptions.matches_essence (opts : SelectOptions) (pod : Pod) :
    opts.matches pod.essence = opts.matches pod := by
  have hcontainer : (opts.matchingContainer pod.essence) = opts.matchingContainer pod := by
    unfold SelectOptions.matchingContainer Pod.essence
    cases pod.spec <;> rfl
  unfold SelectOptions.matches SelectOptions.fits
  rw [hcontainer]
  rfl

theorem SelectOptions.live_of_matches {opts : SelectOptions} {pod : Pod}
    (h : opts.matches pod = true) : pod.isTerminating = false := by
  simp only [SelectOptions.matches, SelectOptions.fits, Bool.and_eq_true, Bool.not_eq_true'] at h
  exact h.2.1

/-- Whether a pod is one that a selection looks for. -/
def SelectOptions.admits (opts : SelectOptions) (pod : Pod) : Bool :=
  pod.ns = opts.ns && opts.matches pod

theorem SelectOptions.admits_of_matches {opts : SelectOptions} {pod : Pod} (hns : pod.ns = opts.ns)
    (h : opts.matches pod = true) : opts.admits pod = true := by
  rw [SelectOptions.admits, h, hns]
  simp

/-- The pod that a selection finds: it matches, and no other that matches comes before it. -/
structure PodTable.Finds (t : PodTable) (opts : SelectOptions) (pod : Pod) : Prop where
  stored : t opts.ns pod.name = some pod
  matching : opts.matches pod = true
  least : ∀ name q, t opts.ns name = some q → opts.matches q = true → podLe pod q = true

/-- A selection finds no two pods. -/
theorem PodTable.Finds.unique {t : PodTable} {opts : SelectOptions} {p q : Pod}
    (hp : t.Finds opts p) (hq : t.Finds opts q) : p = q := by
  have hname := name_of_podLe (hp.least q.name q hq.stored hq.matching)
    (hq.least p.name p hp.stored hp.matching)
  have hkey : p.name = q.name := by rw [Resource.name, Resource.name, hname]
  have hstored := hp.stored
  rw [hkey, hq.stored] at hstored
  exact (Option.some.inj hstored).symm

/-- The only pod that a selection finds. -/
structure Stored.Only (s : Stored) (opts : SelectOptions) (pod : Pod) : Prop where
  stored : s.pods opts.ns pod.name = some pod
  matching : opts.matches pod = true
  only : ∀ name q, s.pods opts.ns name = some q → opts.matches q = true → q = pod

theorem Stored.Only.finds {s : Stored} {opts : SelectOptions} {pod : Pod} (h : s.Only opts pod) :
    PodTable.Finds s.pods opts pod where
  stored := h.stored
  matching := h.matching
  least name q hq hmatch := by
    rw [h.only name q hq hmatch]
    simpa using podLe_total pod pod

/-- A pod of the sort that a selection finds among all pods it finds among those of the sort. -/
theorem PodTable.Finds.those {s : Stored} {opts : SelectOptions} {p : Pod}
    (h : PodTable.Finds s.pods opts p) {sort : Pod → Bool} (hsort : sort p = true) :
    (s.those sort).Finds opts p.essence where
  stored := Stored.those_of_pod h.stored (SelectOptions.live_of_matches h.matching) hsort
  matching := (opts.matches_essence p).trans h.matching
  least name q hq hmatch := by
    obtain ⟨q', hq', -, -, rfl⟩ := Stored.pod_of_those hq
    exact h.least name q' hq' ((opts.matches_essence q').symm.trans hmatch)

/-- What a selection of a sort finds among the pods of that sort it finds among all. -/
theorem PodTable.Finds.of_those {s : Stored} {opts : SelectOptions} {sort : Pod → Bool} {p : Pod}
    (h : (s.those sort).Finds opts p)
    (hsort : ∀ pod : Pod, pod.ns = opts.ns → opts.matches pod = true → sort pod = true) :
    ∃ q, PodTable.Finds s.pods opts q ∧ q.essence = p := by
  obtain ⟨q, hq, -, -, rfl⟩ := Stored.pod_of_those h.stored
  refine ⟨q, ⟨hq, (opts.matches_essence q).symm.trans h.matching, ?_⟩, rfl⟩
  intro name q' hq' hmatch
  have hns := (s.pod_named hq').1
  have hthere := Stored.those_of_pod hq' (SelectOptions.live_of_matches hmatch)
    (hsort q' hns hmatch)
  exact h.least name q'.essence hthere ((opts.matches_essence q').trans hmatch)

/-- What is looked for as a replacement is one. -/
theorem Engine.isReplacement_of_matches {σ : Type} {e : Engine σ} {ns : String} {spec : Spec}
    {selection : Selection} {timeoutMs : Nat} {pod : Pod}
    (h : (e.replacementOptions ns spec selection timeoutMs).matches pod = true) :
    pod.isReplacement = true := by
  show (pod.metadata.labelTable.get? Marker.replaced).isSome = true
  rw [replaced_of_satisfies (Bool.and_eq_true_iff.mp h).1]
  rfl

/-- The engine on a cluster that notes its calls. -/
def Engine.noted {σ : Type} (e : Engine σ) : Engine (σ × List CallEvent) where
  cluster := e.cluster.traced
  images := e.images
  settings := e.settings

/-- A replacement is selected by what its spec selects by. -/
theorem Engine.findReplacement_eq_select {σ : Type} (e : Engine σ) {spec : Spec}
    {selection : Selection} (h : spec.selection = .ok selection) (ns : String) (timeoutMs : Nat) :
    e.noted.findReplacement spec ns timeoutMs =
      e.noted.select (e.replacementOptions ns spec selection timeoutMs) := by
  rw [Engine.findReplacement, h, Op.purely_ok_bind]
  rfl

/-- The run with nothing noted. -/
def Run.unnoted {σ : Type} (r : Run σ) : Run (σ × List CallEvent) :=
  { now := r.now, cancelAt := r.cancelAt, world := (r.world, []) }

/-- A run in which nothing fails: it was not cancelled, no call failed, every deleted pod was gone
in time, and time passes between two looks at a pod. -/
structure Engine.Calm {σ : Type} (e : Engine σ) (r : Run (σ × List CallEvent)) : Prop where
  untroubled : ¬ Troubled r
  timely : ¬ Late e.settings.terminationTimeout r
  passes : 0 < e.settings.deletePollIntervalMs ∨
    ∀ ns name w, 0 < (e.cluster.call (.getPod ns name)).span w

/-- Whether an event tells of no failure, and of no pod that was seen. -/
def CallEvent.isSmooth : CallEvent → Bool
  | .begun _ _ => true
  | .answered _ _ (.error _) => false
  | .answered _ c (.ok a) =>
    match c, a with
    | .getPod _ _, some _ => false
    | _, _ => true

/-- Nothing failed in a run where every event is smooth. -/
theorem Engine.Calm.of_isSmooth {σ : Type} {e : Engine σ} {r : Run (σ × List CallEvent)}
    (hcancel : r.cancelAt = none) (hsmooth : r.world.2.all CallEvent.isSmooth = true)
    (hpasses : 0 < e.settings.deletePollIntervalMs) : e.Calm r where
  untroubled := by
    rintro (h | ⟨now, c, err, hmem⟩)
    · exact h hcancel
    · cases List.all_eq_true.mp hsmooth _ hmem
  timely := by
    rintro ⟨now, now', ns, name, pod, -, hmem, -⟩
    cases List.all_eq_true.mp hsmooth _ hmem
  passes := .inl hpasses

/-- What a lookup comes to that finds the pod that there is, or none if there is none, unless it
runs into trouble. -/
def PodTable.LooksUp {σ : Type} (t : PodTable) (opts : SelectOptions)
    (r : Run (σ × List CallEvent)) : Except Error (Option SelectedPod) → Prop
  | .ok (some s) => s.pod.ns = opts.ns ∧ t.Finds opts s.pod.essence
  | .ok none => Troubled r ∨ ∀ name pod, t opts.ns name = some pod → opts.matches pod = false
  | .error _ => Troubled r

namespace Engine

variable {σ : Type} {e : Engine σ} {view : σ → Stored} {drift : Stored → Stored → Prop}
  {A : Stored → List Mutation → Prop} {r : Run (σ × List CallEvent)}
  (law : e.cluster.Stores view drift) (hA : Stable drift A)

include law hA

/-- What is selected is picked from a list of what is stored. Nothing is selected where nothing was
picked, or in trouble. -/
theorem select_ends (opts : SelectOptions) {φ : SelectedPod → Prop} {ψ : Prop}
    (hφ : ∀ s pods m x, A s m → s.Answers (.listPods opts.ns opts.selectorText) pods s →
      opts.pick pods = some x → φ x)
    (hψ : ∀ s pods m, A s m → s.Answers (.listPods opts.ns opts.selectorText) pods s →
      opts.pick pods = none → ψ)
    (hr : Holds view A r) :
    (e.noted.select opts).Ends r fun x r' => Holds view A r' ∧
      match x with
      | .ok (some s) => φ s
      | .ok none => Troubled r' ∨ ψ
      | .error _ => Troubled r' := by
  have hpoll := law.poll_ends .caller hA
    (c := .listPods opts.ns opts.selectorText) rfl (f := opts.pick) (φ := φ) (ψ := ψ)
    (p := ⟨opts.operation, opts.intervalMs, opts.timeoutMs⟩)
    (fun s pods m x hs ha hx => hφ s pods m x hs ha hx)
    (fun s pods m hs ha hx => hψ s pods m hs ha hx) hr
  unfold Engine.select
  apply hpoll.tried
  intro y r' _ hy
  obtain ⟨hholds, hwhy⟩ := hy
  cases y with
  | ok s => exact .of_pure ⟨hholds, hwhy⟩
  | error err =>
    dsimp only
    split
    · exact .of_pure ⟨hholds, hwhy.imp id And.right⟩
    · rename_i hnot
      refine .of_throw ⟨hholds, ?_⟩
      rcases hwhy with htrouble | ⟨rfl, -⟩
      · exact htrouble
      · exact absurd rfl hnot

/-- A lookup among pods of a sort, of which there are always the same, finds the one that there
is. -/
theorem lookup_ends {sort : Pod → Bool} {t : PodTable} (ht : ∀ s m, A s m → s.those sort = t)
    (opts : SelectOptions)
    (hsort : ∀ pod : Pod, pod.ns = opts.ns → opts.matches pod = true → sort pod = true)
    (hr : Holds view A r) :
    (e.noted.select opts).Ends r fun x r' => Holds view A r' ∧ t.LooksUp opts r' x := by
  refine (select_ends law hA opts
    (φ := fun s => s.pod.ns = opts.ns ∧ t.Finds opts s.pod.essence)
    (ψ := ∀ name pod, t opts.ns name = some pod → opts.matches pod = false)
    ?_ ?_ hr).mono ?_
  · rintro s pods m x hs ⟨hlist, -⟩ hx
    obtain ⟨hmem, hfits, -, hleast⟩ := SelectOptions.pick_eq_some hx
    obtain ⟨⟨name, hname⟩, hlabels⟩ := (hlist x.pod).mp hmem
    obtain ⟨hns, rfl⟩ := s.pod_named hname
    have hmatch : opts.matches x.pod = true := by simp [SelectOptions.matches, hlabels, hfits]
    have hsorted := hsort x.pod hns hmatch
    refine ⟨hns, ?_, (opts.matches_essence x.pod).trans hmatch, ?_⟩
    · rw [← ht s m hs]
      exact Stored.those_of_pod hname (SelectOptions.live_of_matches hmatch) hsorted
    · intro name q hq hqmatch
      rw [← ht s m hs] at hq
      obtain ⟨p, hp, -, -, rfl⟩ := Stored.pod_of_those hq
      rw [SelectOptions.matches_essence, SelectOptions.matches, Bool.and_eq_true] at hqmatch
      exact hleast p ((hlist p).mpr ⟨⟨name, hp⟩, hqmatch.1⟩) hqmatch.2
  · rintro s pods m hs ⟨hlist, -⟩ hx name pod hpod
    rw [← ht s m hs] at hpod
    obtain ⟨p, hp, -, -, rfl⟩ := Stored.pod_of_those hpod
    rw [SelectOptions.matches_essence, SelectOptions.matches]
    -- a pod whose labels fit is in the list, and then it would have been picked
    cases hlabels : satisfies p.metadata.labelTable opts.selectorText with
    | false => rfl
    | true =>
      rw [Bool.true_and]
      exact SelectOptions.pick_eq_none hx p ((hlist p).mpr ⟨⟨name, hp⟩, hlabels⟩)
  · intro x r' _ hx
    cases x with
    | ok s => cases s <;> exact hx
    | error err => exact hx

end Engine

namespace Watch

variable {o : Watch} {k : Nat}

/-- A pod that a lookup found is stored as long as none was deleted. -/
theorem Ledger.found_stored {opts : SelectOptions} {pod : Pod} (hns : pod.ns = opts.ns)
    (hfinds : (o.start.those o.sort).Finds opts pod.essence) {s : Stored} {m : List Mutation}
    (hs : o.Ledger k [] s m) : s.pods pod.ns pod.name ≠ none := by
  have hstored := hfinds.stored
  rw [← hs.those_eq] at hstored
  obtain ⟨p, hp, -⟩ := Stored.pod_of_those hstored
  rw [hns]
  intro hnone
  rw [show s.pods opts.ns pod.essence.name = s.pods opts.ns pod.name from rfl, hnone] at hp
  cases hp

end Watch

end PodSwap
