import PodSwap.Proofs.Engine.Lookup
import PodSwap.Proofs.Engine.Stages
import PodSwap.Proofs.Run.History

/-!
# The calls of each operation

Looking for pods and for workloads only reads. Besides that scaling patches, a removal deletes the
pod that it is to remove, and a swap creates a replacement. So a property that comes from the calls
and passes through every way to put operations together is one of each operation that makes no other
calls.

Main statements: `Op.Closed.seek`, `Op.Closed.prepare`, `Op.Closed.swapIn` and
`Op.Closed.revertPod`, of any such property, and `swap_calls`, of the calls of a swap with its way
back; that only the swap creates a pod (`not_created_of_prepare`), and not where it fails
(`swapIn_not_created`); and `select_noted`, by which what is selected was picked from an answer.
-/

namespace PodSwap

variable [Schema]

variable {σ : Type} {cluster : Cluster σ} {heed : Heed} {p : Call → Prop}

/-- Whether a call only reads. -/
def Call.Reads (c : Call) : Prop := c.isMutating = false

theorem Call.Reads.createsNone {c : Call} (h : c.Reads) : c.CreatesNone := by
  rintro pod rfl
  cases h

theorem Call.createsNone_patchWorkload (kind : WorkloadKind) (ns name : String) (patch : Json) :
    (Call.patchWorkload kind ns name patch).CreatesNone :=
  fun _ h => by cases h

theorem Call.createsNone_deletePod (ns name : String) : (Call.deletePod ns name).CreatesNone :=
  fun _ h => by cases h

/-! ## Closed properties -/

namespace Op.Closed

section

variable {P : ∀ {α : Type}, Op (σ × List CallEvent) α → Prop} (h : Op.Closed cluster heed p P)

include h

section

variable (hread : ∀ c : Call, c.Reads → p c)

include hread

theorem fetch (kind : WorkloadKind) (ns name : String) :
    P (Ownership.fetch cluster.traced heed kind ns name) := by
  refine h.bind (h.request (hread (.getWorkload kind ns name) rfl)) fun w => ?_
  cases w with
  | none => exact h.of_throw _
  | some w => exact h.of_pure w

theorem resolveParent (pod : Pod) : P (Ownership.resolveParent cluster.traced heed pod) := by
  unfold Ownership.resolveParent
  cases pod.metadata.controller with
  | none => exact h.of_throw _
  | some owner =>
    dsimp only
    split
    · refine h.bind (h.fetch hread _ _ _) fun replicaSet => ?_
      cases replicaSet.metadata.controller with
      | none => exact h.of_pure _
      | some above =>
        dsimp only
        split
        · exact h.fetch hread _ _ _
        · exact h.of_throw _
    · split
      · exact h.fetch hread _ _ _
      · exact h.of_throw _

theorem parentOfReplacement (pod : Pod) :
    P (Ownership.parentOfReplacement cluster.traced heed pod) := by
  unfold Ownership.parentOfReplacement
  cases Ownership.parentMarkers pod with
  | none => exact h.of_throw _
  | some markers => exact h.bind (h.of_purely _) fun kind => h.fetch hread kind _ _

/-- Deleting a pod calls for nothing else but looks at pods. -/
theorem deleteAndWait {ns name : String} (hdelete : p (.deletePod ns name))
    (intervalMs timeoutMs : Nat) :
    P (Termination.deleteAndWait cluster.traced heed ns name intervalMs timeoutMs) := by
  refine h.bind (h.request hdelete) fun found => ?_
  cases found with
  | false => exact h.of_pure ()
  | true => exact h.wait _ _ (hread (.getPod ns name) rfl)

theorem waitForTermination (ns name : String) (kind : WorkloadKind) (intervalMs timeoutMs : Nat) :
    P (Termination.waitForTermination cluster.traced heed ns name kind intervalMs timeoutMs) :=
  h.wait _ _ (hread (.getPod ns name) rfl)

end

variable (hpatch : ∀ kind ns name patch, p (.patchWorkload kind ns name patch))

include hpatch

theorem send (w : Workload) (patch : Option Json) :
    P (Scale.send cluster.traced heed w patch) := by
  cases patch with
  | none => exact h.of_pure false
  | some patch => exact h.bind (h.request (hpatch _ _ _ _)) fun _ => h.of_pure true

theorem quiesce (w : Workload) : P (Scale.quiesce cluster.traced heed w) := h.send hpatch w _

theorem restore (w : Workload) : P (Scale.restore cluster.traced heed w) :=
  h.bind (h.of_purely _) fun patch => h.send hpatch w patch

end

section

variable {P : ∀ {α : Type}, Op (σ × List CallEvent) α → Prop} {e : Engine σ}
  (h : Op.Closed e.cluster .caller p P) (hread : ∀ c : Call, c.Reads → p c)

include h hread

/-- A selection takes a wait that was too long for an absence, and lets an interruption through. -/
theorem select (opts : SelectOptions) : P (e.noted.select opts) := by
  unfold Engine.select
  refine h.tried (h.wait _ _ (hread (.listPods opts.ns opts.selectorText) rfl)) (fun x _ => ?_)
    fun err hcancelled => ?_
  · cases x with
    | ok s => exact h.of_pure _
    | error err =>
      dsimp only
      split
      · exact h.of_pure none
      · exact h.of_throw err
  · dsimp only
    rw [Error.isTimeout_of_isCancelled hcancelled]
    rfl

theorem findReplacement (spec : Spec) (ns : String) (timeoutMs : Nat) :
    P (e.noted.findReplacement spec ns timeoutMs) :=
  h.bind (h.of_purely _) fun _ => h.select hread _

theorem lookUp (spec : Spec) (timeoutMs : Nat) : P (e.noted.lookUp spec timeoutMs) :=
  h.bind (h.of_purely _) fun _ => h.during _ (h.findReplacement hread spec _ _)

theorem findTarget (spec : Spec) (ns : String) : P (e.noted.findTarget spec ns) := by
  refine h.bind (h.of_purely _) fun selection => ?_
  refine h.bind (h.during _ (h.of_purely _)) fun images => ?_
  refine h.bind (h.during _ (h.select hread _)) fun target => ?_
  cases target with
  | none => exact h.of_throw _
  | some target =>
    exact h.bind (h.during _ (h.resolveParent hread target.pod)) fun _ => h.of_pure _

theorem seekTarget (spec : Spec) : P (e.noted.seekTarget spec) :=
  h.bind (h.findTarget hread spec _) fun _ => h.of_pure _

theorem parentToRestore (s : SelectedPod) : P (e.noted.parentToRestore s) := by
  rw [Engine.parentToRestore_eq]
  refine h.tried (h.parentOfReplacement hread s.pod) (fun x _ => ?_) fun err hcancelled =>
    if_pos hcancelled
  cases x with
  | ok parent => exact h.of_pure _
  | error err =>
    dsimp only
    split
    · exact h.of_throw err
    · exact h.of_pure none

variable (hpatch : ∀ kind ns name patch, p (.patchWorkload kind ns name patch))

include hpatch

theorem takeDown {s : SelectedPod} (hdelete : p (.deletePod s.pod.ns s.pod.name))
    (parent : Option Workload) : P (e.noted.takeDown s parent) := by
  refine h.bind (h.during _ (h.deleteAndWait hread hdelete _ _)) fun _ => ?_
  cases parent with
  | none => exact h.of_pure ()
  | some parent => exact h.bind (h.during _ (h.restore hpatch parent)) fun _ => h.of_pure ()

/-- A replacement is kept although its parent could not be scaled down, but not if that was
interrupted. -/
theorem carryOut {s : SelectedPod} (hdelete : p (.deletePod s.pod.ns s.pod.name))
    (verdict : Verdict) : P (e.noted.carryOut s verdict) := by
  cases verdict with
  | undecided err => exact h.of_throw err
  | takenDown parent =>
    exact h.bind (h.takeDown hread hpatch hdelete parent) fun _ => h.of_pure false
  | kept parent =>
    refine h.tried (h.quiesce hpatch parent) (fun x _ => ?_) fun err hcancelled =>
      if_pos hcancelled
    cases x with
    | ok _ => exact h.of_pure true
    | error err =>
      dsimp only
      split
      · exact h.of_throw err
      · exact h.of_pure true

/-- A replacement that is found is at most deleted, and its parent patched. It is taken down if its
parent is not found, but not if the search was interrupted. -/
theorem keepsReplacement {s : SelectedPod} (hdelete : p (.deletePod s.pod.ns s.pod.name))
    (spec : Spec) : P (e.noted.keepsReplacement s spec) := by
  rw [Engine.keepsReplacement_eq]
  refine h.tried (h.parentOfReplacement hread s.pod)
    (fun x _ => h.carryOut hread hpatch hdelete _) fun err hcancelled => ?_
  rw [Engine.judge, if_pos hcancelled]
  rfl

theorem seek (hdelete : ∀ ns name, p (.deletePod ns name)) (spec : Spec) :
    P (e.noted.seek spec) := by
  rw [Engine.seek_eq]
  refine h.bind (h.lookUp hread spec _) fun existing => ?_
  cases existing with
  | none => exact h.seekTarget hread spec
  | some s =>
    refine h.bind (h.keepsReplacement hread hpatch (hdelete _ _) spec) fun kept => ?_
    cases kept with
    | true => exact h.of_pure _
    | false => exact h.seekTarget hread spec

omit hread in
theorem prepare (target : SelectedPod) (parent : Workload) (spec : Spec) :
    P (e.noted.prepare target parent spec) := by
  rw [Engine.prepare_eq]
  refine h.bind (h.of_purely _) fun wanted => ?_
  exact h.bind (h.during _ (h.quiesce hpatch parent)) fun _ => h.of_pure _

omit hpatch in
theorem swapIn {wanted : Pod} (hcreate : p (.createPod wanted)) (target : SelectedPod)
    (parent : Workload) : P (e.noted.swapIn target parent wanted) := by
  refine h.bind ?_ fun _ => h.during _ (h.request hcreate)
  exact h.during _ (h.waitForTermination hread target.pod.ns target.pod.name parent.kind _ _)

theorem revertPod (hdelete : ∀ ns name, p (.deletePod ns name)) (spec : Spec) :
    P (e.noted.revertPod spec) := by
  rw [Engine.revertPod_eq]
  refine h.bind (h.lookUp hread spec _) fun existing => ?_
  cases existing with
  | none => exact h.of_pure none
  | some s =>
    refine h.bind (h.parentToRestore hread s) fun parent => ?_
    exact h.bind (h.takeDown hread hpatch (hdelete _ _) parent) fun _ => h.of_pure (some s)

end

end Op.Closed

namespace Engine

variable {e : Engine σ}

/-! ## What is selected -/

/-- What is selected was picked from an answer that was noted. -/
theorem select_noted (opts : SelectOptions) {φ : List Pod → Prop}
    (hφ : ∀ now w pods, ((e.cluster.call (.listPods opts.ns opts.selectorText)).finish
      now w).result = .ok pods → φ pods) (r : Run (σ × List CallEvent)) :
    (e.noted.select opts).Ends r fun x r' =>
      r.Notes (· = .listPods opts.ns opts.selectorText) r' ∧
        ∀ s, x = .ok (some s) → ∃ pods now, opts.pick pods = some s ∧ φ pods ∧
          CallEvent.answered now (.listPods opts.ns opts.selectorText) (.ok pods) ∈ r'.world.2 := by
  unfold Engine.select
  refine (Cluster.wait_noted e.cluster .caller (c := .listPods opts.ns opts.selectorText)
    (f := opts.pick) hφ r).tried ?_
  rintro x r' - ⟨hnotes, hvalue⟩
  cases x with
  | ok s =>
    refine .of_pure ⟨hnotes, fun s' hs' => ?_⟩
    cases hs'
    obtain ⟨pods, now, earlier, hpick, hpods, hevents, -⟩ := hvalue s rfl
    exact ⟨pods, now, hpick, hpods, by rw [hevents]; exact List.mem_cons_self⟩
  | error err =>
    dsimp only
    split
    · exact .of_pure ⟨hnotes, fun s hs => by cases hs⟩
    · exact .of_throw ⟨hnotes, fun s hs => by cases hs⟩

/-! ## Swaps -/

section

variable (hread : ∀ c : Call, c.Reads → p c)
  (hpatch : ∀ kind ns name patch, p (.patchWorkload kind ns name patch))

include hread hpatch

theorem restoring_calls (parent : Workload) : (e.noted.restoring parent).Calls p := by
  refine (Cluster.request_calls
    (hread (.getWorkload parent.kind parent.ns parent.name) rfl)).bind fun current => ?_
  cases current with
  | none => exact .of_pure ()
  | some current => exact (Op.Calls.closed.restore hpatch current).bind fun _ => .of_pure ()

theorem rollBack_calls (parent : Workload) : (e.noted.rollBack parent).Calls p :=
  (restoring_calls hread hpatch parent).attempt.bind fun _ => .of_pure ()

/-- A swap creates a replacement, and otherwise reads and patches. -/
theorem swap_calls (hcreate : ∀ pod, p (.createPod pod)) (target : SelectedPod) (parent : Workload)
    (spec : Spec) : (e.noted.swap target parent spec).Calls p := by
  rw [swap_eq]
  refine Op.Calls.bind (Op.Calls.closed.prepare hpatch target parent spec) fun ready => ?_
  have hswapIn : (e.noted.swapIn target parent ready.1).Calls p :=
    Op.Calls.closed.swapIn hread (hcreate ready.1) target parent
  refine hswapIn.attempt.bind fun x => ?_
  cases x with
  | ok created => exact .of_pure _
  | error err =>
    dsimp only
    split
    · exact (rollBack_calls hread hpatch parent).bind fun _ => .of_throw err
    · exact .of_throw err

end

/-- Preparing a replacement builds it, and ends as scaling the parent down does. -/
theorem prepare_ends (target : SelectedPod) {parent : Workload} (spec : Spec)
    {r : Run (σ × List CallEvent)} {Q : Except Error Bool → Run (σ × List CallEvent) → Prop}
    (hquiesce : (Scale.quiesce e.noted.cluster .caller parent).Ends r Q) :
    (e.noted.prepare target parent spec).Ends r fun x r' => ∀ wanted quiesced,
      x = .ok (wanted, quiesced) → Q (.ok quiesced) r' ∧
        ∃ prints, e.fingerprints parent spec = .ok prints ∧
          Replacement.build target parent spec e.images prints = .ok wanted := by
  unfold Engine.prepare
  cases hprints : e.noted.fingerprints parent spec with
  | error err => exact .of_throw fun _ _ h => by cases h
  | ok prints =>
    rw [Op.purely_ok_bind]
    refine (Op.Ends.of_purely (Q := fun x r' =>
      Replacement.build target parent spec e.images prints = x ∧ r' = r)
      ⟨rfl, rfl⟩).during_bind _ ?_ fun _ _ _ _ _ _ h => by cases h
    rintro wanted r₁ - ⟨hbuild, rfl⟩
    refine hquiesce.during_bind _ ?_ fun _ _ _ _ _ _ h => by cases h
    intro quiesced r₂ _ hquiesced
    refine .of_pure fun wanted' quiesced' h => ?_
    cases h
    exact ⟨hquiesced, prints, hprints, hbuild⟩

/-! ## What is created -/

theorem seek_createsNone (spec : Spec) : (e.noted.seek spec).Calls Call.CreatesNone :=
  Op.Calls.closed.seek (fun _ => Call.Reads.createsNone) Call.createsNone_patchWorkload
    Call.createsNone_deletePod spec

theorem prepare_createsNone (target : SelectedPod) (parent : Workload) (spec : Spec) :
    (e.noted.prepare target parent spec).Calls Call.CreatesNone :=
  Op.Calls.closed.prepare Call.createsNone_patchWorkload target parent spec

theorem rollBack_createsNone (parent : Workload) :
    (e.noted.rollBack parent).Calls Call.CreatesNone :=
  rollBack_calls (fun _ => Call.Reads.createsNone) Call.createsNone_patchWorkload parent

/-- Nothing is created before a replacement is swapped in. -/
theorem not_created_of_prepare {r : Run σ} {r₁ r₂ : Run (σ × List CallEvent)} {spec : Spec}
    {x : Except Error Found} {y : Except Error (Pod × Bool)} {target : SelectedPod}
    {parent : Workload} (hseek : (e.noted.seek spec).from r.unnoted = (x, r₁))
    (hprepare : (e.noted.prepare target parent spec).from r₁ = (y, r₂)) (pod : Pod) :
    .created pod ∉ mutations r₂.world.2 := by
  intro hpod
  have h₁ := (prepare_createsNone target parent spec).created hprepare hpod
  have h := (seek_createsNone spec).created hseek h₁
  cases h

/-- A swap that fails created nothing. -/
theorem swapIn_not_created (target : SelectedPod) (parent : Workload) (wanted : Pod)
    (r : Run (σ × List CallEvent)) :
    (e.noted.swapIn target parent wanted).Ends r fun x r' => ∀ err, x = .error err → ∀ pod,
      .created pod ∈ mutations r'.world.2 → .created pod ∈ mutations r.world.2 := by
  refine (Op.Calls.closed.waitForTermination (fun _ => Call.Reads.createsNone) target.pod.ns
    target.pod.name parent.kind _ _ r).during_bind _ ?_ fun _ _ _ h _ _ _ => h.created
  intro _ r₁ _ hnotes
  refine (e.cluster.request_tells .caller (.createPod wanted) r₁).during _ ?_
  intro x r₂ _ htells err herr pod hpod
  refine hnotes.created ?_
  cases htells with
  | unbegun events =>
    rw [events] at hpod
    exact hpod
  | cut events =>
    rw [events, mutations_cons] at hpod
    simpa [CallEvent.mutation?] using hpod
  | answered events =>
    cases x with
    | ok created => cases herr
    | error err' =>
      rw [events, mutations_cons, mutations_cons] at hpod
      simpa [CallEvent.mutation?] using hpod

end Engine

end PodSwap
