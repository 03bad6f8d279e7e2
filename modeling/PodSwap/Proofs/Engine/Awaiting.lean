import PodSwap.Proofs.Engine.Deletions
import PodSwap.Proofs.Engine.Undertaking

/-!
# Waiting for what was deleted

Once the deletion of a pod was begun, an operation begins nothing but looks at that pod until the
deletion found no pod or a look did.

Main statements: `replacePod_awaits` and `revertPod_awaits`.
-/

namespace PodSwap

variable [Schema]

variable {σ α β : Type}

/-- Whether a pod is known to be gone, by what was noted since its deletion was begun. -/
def KnownGone (ns name : String) (since : List CallEvent) : Prop :=
  (∃ now, CallEvent.answered now (.deletePod ns name) (.ok false) ∈ since) ∨
    ∃ now, CallEvent.answered now (.getPod ns name) (.ok none) ∈ since

theorem KnownGone.mono {ns name : String} {since since' : List CallEvent}
    (h : KnownGone ns name since) (hsubset : since ⊆ since') : KnownGone ns name since' :=
  h.imp (fun ⟨now, hevent⟩ => ⟨now, hsubset hevent⟩) fun ⟨now, hevent⟩ => ⟨now, hsubset hevent⟩

/-- Every pod whose deletion was begun is known to be gone, or is one that is still awaited. -/
def DeletionsOver (awaited : String → String → Prop) (events : List CallEvent) : Prop :=
  ∀ since now ns name before, events = since ++ .begun now (.deletePod ns name) :: before →
    KnownGone ns name since ∨ awaited ns name

namespace DeletionsOver

variable {awaited awaited' : String → String → Prop} {events : List CallEvent}

theorem nil : DeletionsOver awaited [] := by
  intro since now ns name before h
  cases since <;> cases h

theorem mono (h : DeletionsOver awaited events)
    (hle : ∀ ns name, awaited ns name → awaited' ns name) : DeletionsOver awaited' events :=
  fun since now ns name before heq => (h since now ns name before heq).imp id (hle ns name)

/-- An event adds no deletion that is not over, unless it begins one that is awaited. -/
theorem cons (h : DeletionsOver awaited events) {event : CallEvent}
    (hevent : ∀ now ns name, event = .begun now (.deletePod ns name) → awaited ns name) :
    DeletionsOver awaited (event :: events) := by
  intro since now ns name before heq
  cases since with
  | nil => exact .inr (hevent now ns name (List.cons.inj heq).1)
  | cons event' since =>
    refine (h since now ns name before (List.cons.inj heq).2).imp (fun hgone => ?_) id
    exact hgone.mono (List.subset_cons_self event' since)

theorem append (h : DeletionsOver awaited events) {new : List CallEvent}
    (hnew : ∀ event ∈ new, event.call.Spares) : DeletionsOver awaited (new ++ events) := by
  induction new with
  | nil => exact h
  | cons event new ih =>
    refine (ih fun event hevent => hnew event (List.mem_cons_of_mem _ hevent)).cons ?_
    rintro now ns name rfl
    exact absurd rfl (hnew _ List.mem_cons_self ns name)

/-- What is no longer awaited because it is known to be gone. -/
theorem known {new : List CallEvent} {ns name : String} {now : Nat}
    (h : DeletionsOver (fun _ _ => False) events) (hgone : KnownGone ns name new)
    (hnew : ∀ event ∈ new,
      event.call.Spares ∨ ∃ now' x, event = .answered now' (.deletePod ns name) x) :
    DeletionsOver (fun _ _ => False) (new ++ .begun now (.deletePod ns name) :: events) := by
  intro since now' ns' name' before heq
  rcases List.append_eq_append_iff.mp heq with ⟨between, hsince, hrest⟩ | ⟨between, hnews, hrest⟩
  · -- the deletion is this one, or one before it
    cases between with
    | nil =>
      obtain ⟨hevent, -⟩ := List.cons.inj hrest
      cases hevent
      rw [hsince, List.append_nil]
      exact .inl hgone
    | cons event between =>
      refine (h between now' ns' name' before (List.cons.inj hrest).2).imp (fun hgone' => ?_) id
      rw [hsince]
      exact hgone'.mono fun _ hmem =>
        List.mem_append_right new (List.mem_cons_of_mem event hmem)
  · cases between with
    | nil =>
      obtain ⟨hevent, -⟩ := List.cons.inj hrest
      cases hevent
      rw [hnews, List.append_nil] at hgone
      exact .inl hgone
    | cons event between =>
      obtain ⟨rfl, -⟩ := List.cons.inj hrest
      rcases hnew _ (hnews ▸ List.mem_append_right since List.mem_cons_self) with hspares | hanswer
      · exact absurd rfl (hspares ns' name')
      · obtain ⟨_, _, hanswer⟩ := hanswer
        cases hanswer

end DeletionsOver

/-- Nothing is begun while a deletion is not over, but a look at the pod that is deleted. -/
def AwaitsDeletions (c : Call) (earlier : List CallEvent) : Prop :=
  DeletionsOver (fun ns name => c = .getPod ns name) earlier

/-- Whether all deletions are over. -/
def Settled (events : List CallEvent) : Prop := DeletionsOver (fun _ _ => False) events

theorem Settled.awaits {events : List CallEvent} (h : Settled events) (c : Call) :
    AwaitsDeletions c events :=
  h.mono fun _ _ => False.elim

/-- The operation awaits its deletions, and all of them are over where it succeeds. -/
def Op.Awaits (op : Op (σ × List CallEvent) α) : Prop :=
  ∀ r, Settled r.world.2 → Obeys AwaitsDeletions r.world.2 → op.Ends r fun x r' =>
    Obeys AwaitsDeletions r'.world.2 ∧ ∀ a, x = .ok a → Settled r'.world.2

namespace Op.Awaits

variable {op : Op (σ × List CallEvent) α}

/-- What deletes nothing awaits nothing. -/
theorem of_calls (hop : op.Calls Call.Spares) : op.Awaits := by
  intro r hsettled hobeys
  refine (hop r).mono ?_
  intro x r' _ hnotes
  constructor
  · exact hobeys.notes (fun c since _ hsince => Settled.awaits (hsettled.append hsince) c) hnotes
  · intro _ _
    obtain ⟨new, hnew, hcalls⟩ := hnotes
    rw [hnew]
    exact hsettled.append hcalls

theorem of_pure (a : α) : (pure a : Op (σ × List CallEvent) α).Awaits := of_calls (.of_pure a)

theorem bind {f : α → Op (σ × List CallEvent) β} (h : op.Awaits) (hf : ∀ a, (f a).Awaits) :
    (op >>= f).Awaits := by
  intro r hsettled hobeys
  refine (h r hsettled hobeys).bind ?_ fun _ _ _ h => ⟨h.1, nofun⟩
  rintro a r' - ⟨hobeys', hsettled'⟩
  exact hf a r' (hsettled' a rfl) hobeys'

theorem during (name : String) (h : op.Awaits) : (PodSwap.during name op).Awaits := by
  intro r hsettled hobeys
  refine (h r hsettled hobeys).during name ?_
  rintro x r' - ⟨hobeys', hsettled'⟩
  refine ⟨hobeys', fun a hx => ?_⟩
  cases x with
  | ok b => exact hsettled' b rfl
  | error err => cases hx

end Op.Awaits

section

variable {cluster : Cluster σ} {heed : Heed}

/-- Deleting a pod is over when the deletion or a look after it found no pod. -/
theorem deleteAndWait_awaits (ns name : String) (intervalMs timeoutMs : Nat) :
    (Termination.deleteAndWait cluster.traced heed ns name intervalMs timeoutMs).Awaits := by
  intro r hsettled hobeys
  have hbegun : ∀ now, DeletionsOver (fun ns' name' => Call.getPod ns name = .getPod ns' name')
      (.begun now (.deletePod ns name) :: r.world.2) := by
    intro now
    refine (hsettled.awaits _).cons ?_
    rintro now' ns' name' ⟨⟩
    rfl
  refine ((cluster.request_tells heed (.deletePod ns name) r).mono fun x r₁ _ htells =>
    And.intro (hobeys.tells (hsettled.awaits _) htells) htells).bind ?_ fun _ _ _ h => ⟨h.1, nofun⟩
  rintro found r₁ - ⟨hobeys₁, htells⟩
  cases htells with
  | answered events =>
    cases found with
    | false =>
      refine .of_pure ⟨hobeys₁, fun _ _ => ?_⟩
      rw [events]
      have hgone : KnownGone ns name [.answered r₁.now (.deletePod ns name) (.ok false)] :=
        .inl ⟨_, List.mem_cons_self⟩
      exact DeletionsOver.known hsettled hgone fun event h => .inr ⟨_, _, List.mem_singleton.mp h⟩
    | true =>
      -- only looks at the pod come after the deletion, and the last of them found none
      refine (Cluster.wait_noted cluster heed (c := .getPod ns name)
        (f := fun pod => Termination.doneIf pod.isNone) (φ := fun _ => True)
        (fun _ _ _ _ => trivial) r₁).mono ?_
      rintro x r₂ - ⟨hnotes, hvalue⟩
      constructor
      · refine hobeys₁.notes ?_ hnotes
        rintro c since rfl hsince
        rw [events]
        refine DeletionsOver.append ((hbegun r.now).cons ?_) fun event hevent => ?_
        · rintro now' ns' name' ⟨⟩
        · rw [hsince event hevent]
          exact Call.Reads.spares rfl
      · rintro ⟨⟩ rfl
        obtain ⟨pod, now, earlier, hdone, -, hlast, hsuffix⟩ := hvalue () rfl
        obtain ⟨new, hnew, hcalls⟩ := hnotes
        have hgone : pod = none := by
          cases pod with
          | none => rfl
          | some pod => cases hdone
        obtain ⟨between, hbetween⟩ := hsuffix
        have hnews : new = .answered now (.getPod ns name) (.ok pod) :: between := by
          have hsame : new ++ r₁.world.2 =
              (.answered now (.getPod ns name) (.ok pod) :: between) ++ r₁.world.2 := by
            rw [← hnew, hlast, ← hbetween, List.cons_append]
          exact List.append_cancel_right hsame
        have hall : r₂.world.2 = (new ++ [.answered r₁.now (.deletePod ns name) (.ok true)]) ++
            .begun r.now (.deletePod ns name) :: r.world.2 := by
          rw [hnew, events, List.append_assoc]
          rfl
        rw [hall]
        refine DeletionsOver.known hsettled (.inr ⟨now, ?_⟩) fun event hevent => ?_
        · rw [hnews, hgone]
          exact List.mem_cons_self
        · rcases List.mem_append.mp hevent with hevent | hevent
          · refine .inl ?_
            rw [hcalls event hevent]
            exact Call.Reads.spares rfl
          · exact .inr ⟨_, _, List.mem_singleton.mp hevent⟩

end

namespace Engine

variable {e : Engine σ}

theorem takeDown_awaits (s : SelectedPod) (parent : Option Workload) :
    (e.noted.takeDown s parent).Awaits := by
  refine ((deleteAndWait_awaits _ _ _ _).during _).bind fun _ => ?_
  cases parent with
  | none => exact .of_pure ()
  | some parent =>
    have hrestore : (Scale.restore e.cluster.traced .caller parent).Calls Call.Spares :=
      Op.Calls.closed.restore (fun _ _ _ _ _ _ h => nomatch h) parent
    exact ((Op.Awaits.of_calls hrestore).during _).bind fun _ => .of_pure ()

theorem carryOut_awaits (s : SelectedPod) (verdict : Verdict) :
    (e.noted.carryOut s verdict).Awaits := by
  cases verdict with
  | undecided err => exact .of_calls (.of_throw err)
  | takenDown parent => exact (takeDown_awaits s parent).bind fun _ => .of_pure false
  | kept parent =>
    have hquiesce : (Scale.quiesce e.cluster.traced .caller parent).Calls Call.Spares :=
      Op.Calls.closed.quiesce (fun _ _ _ _ _ _ h => nomatch h) parent
    refine (Op.Awaits.of_calls hquiesce.attempt).bind fun x => .of_calls ?_
    cases x with
    | ok _ => exact .of_pure true
    | error err =>
      dsimp only
      split
      · exact .of_throw err
      · exact .of_pure true

/-- A replacement awaits what it deletes. -/
theorem replacePod_awaits (spec : Spec) : (e.noted.replacePod spec).Awaits := by
  have hreads : ∀ c : Call, c.Reads → c.Spares := fun _ => Call.Reads.spares
  have htarget : (e.noted.seekTarget spec).Awaits :=
    .of_calls (Op.Calls.closed.seekTarget hreads spec)
  have hseek : (e.noted.seek spec).Awaits := by
    rw [seek_eq]
    refine (Op.Awaits.of_calls (Op.Calls.closed.lookUp hreads spec _)).bind fun existing => ?_
    cases existing with
    | none => exact htarget
    | some s =>
      refine Op.Awaits.bind ?_ fun kept => ?_
      · rw [keepsReplacement_eq]
        have hasked : (Ownership.parentOfReplacement e.cluster.traced .caller s.pod).Calls
            Call.Spares := Op.Calls.closed.parentOfReplacement hreads s.pod
        exact (Op.Awaits.of_calls hasked.attempt).bind fun x => carryOut_awaits s _
      · cases kept with
        | true => exact .of_pure _
        | false => exact htarget
  rw [replacePod_eq]
  refine hseek.bind fun found => ?_
  cases found with
  | standing s => exact .of_pure _
  | target target parent =>
    exact .of_calls (swap_calls hreads (fun _ _ _ _ _ _ h => nomatch h) (fun _ _ _ h => nomatch h)
      target parent spec)

/-- A revert awaits what it deletes. -/
theorem revertPod_awaits (spec : Spec) : (e.noted.revertPod spec).Awaits := by
  have hreads : ∀ c : Call, c.Reads → c.Spares := fun _ => Call.Reads.spares
  rw [revertPod_eq]
  refine (Op.Awaits.of_calls (Op.Calls.closed.lookUp hreads spec _)).bind fun existing => ?_
  cases existing with
  | none => exact .of_pure none
  | some s =>
    refine (Op.Awaits.of_calls (Op.Calls.closed.parentToRestore hreads s)).bind fun parent => ?_
    exact (takeDown_awaits s parent).bind fun _ => .of_pure (some s)

end Engine

end PodSwap
