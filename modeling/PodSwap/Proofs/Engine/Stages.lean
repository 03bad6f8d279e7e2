import PodSwap.Engine
import PodSwap.Proofs.Run.Ends

/-!
# The stages of a replacement

First it is looked whether there is something to do: a replacement stands already, or there is a pod
to replace, with its parent. Then the parent is made ready, up to that it is scaled down; then the
replacement is swapped in, and where that fails the parent is scaled up again.

A replacement and a revert share how the replacement that there is is looked up and how it is taken
down. All of a replacement but its way back is what it undertakes.

Main statements: a replacement is its stages one after the other (`replacePod_eq`, `swap_eq`,
`rollBack_eq`), and all of them succeeded where it was made (`stages_of_replaced`); a replacement is
what it undertakes and then, if need be, its way back (`replacePod_eq_undertake`).
-/

namespace PodSwap

variable [Schema]

/-- What there is for a spec. -/
inductive Found where
  /-- A replacement as the spec wants it. -/
  | standing (s : SelectedPod)
  /-- A pod to replace, and its parent. -/
  | target (selected : SelectedPod) (parent : Workload)

/-- The pod to replace and its parent. -/
def Found.target? : Found → Option (SelectedPod × Workload)
  | .standing _ => none
  | .target selected parent => some (selected, parent)

theorem Found.eq_of_target? {found : Found} {selected : SelectedPod} {parent : Workload}
    (h : found.target? = some (selected, parent)) : found = .target selected parent := by
  cases found with
  | standing s => cases h
  | target selected' parent' =>
    cases h
    rfl

/-- What becomes of a replacement that was found. -/
inductive Verdict where
  /-- It is as the spec wants it, with its parent. -/
  | kept (parent : Workload)
  /-- It is taken down, and its parent restored where that is known. -/
  | takenDown (parent : Option Workload)
  /-- It is left alone, for an error. -/
  | undecided (err : Error)

namespace Engine

variable {σ : Type} (e : Engine σ)

/-- Looks for a pod to replace. -/
def seekTarget (spec : Spec) : Op σ Found := do
  let (target, parent) ← e.findTarget spec (spec.nsOr e.settings.defaultNamespace)
  return .target target parent

/-- Looks for what there is for a spec. A replacement that is not kept is taken down. -/
def seek (spec : Spec) : Op σ Found := do
  purely spec.validate
  match ← during "find replaced pod" (e.findReplacement spec
      (spec.nsOr e.settings.defaultNamespace) e.settings.findReplacedTimeout) with
  | none => e.seekTarget spec
  | some s => if ← e.keepsReplacement s spec then return .standing s else e.seekTarget spec

/-- Builds a replacement and scales the parent down for it; with the replacement comes whether that
took a patch. -/
def prepare (target : SelectedPod) (parent : Workload) (spec : Spec) : Op σ (Pod × Bool) := do
  let prints ← purely (e.fingerprints parent spec)
  let replacement ← during "build replacement pod"
    (purely (Replacement.build target parent spec e.images prints))
  let quiesced ← during "scale down parent" (Scale.quiesce e.cluster .caller parent)
  return (replacement, quiesced)

/-- The replacement for a pod, if it can be built. -/
def wanted (target : SelectedPod) (parent : Workload) (spec : Spec) : Except Error Pod := do
  let prints ← e.fingerprints parent spec
  inStep "build replacement pod" (Replacement.build target parent spec e.images prints)

/-- Looks for the replacement of a spec. -/
def lookUp (spec : Spec) (timeoutMs : Nat) : Op σ (Option SelectedPod) := do
  purely spec.validate
  during "find replaced pod"
    (e.findReplacement spec (spec.nsOr e.settings.defaultNamespace) timeoutMs)

/-- Takes a replacement down, and scales its parent up where that is known. -/
def takeDown (s : SelectedPod) (parent : Option Workload) : Op σ Unit := do
  e.deleteReplacement s
  match parent with
  | some parent =>
    let _ ← during "scale up parent" (Scale.restore e.cluster .caller parent)
    return ()
  | none => return ()

/-- What becomes of a replacement, by what its markers led to. -/
def judge (spec : Spec) (s : SelectedPod) : Except Error Workload → Verdict
  | .error err => if err.isCancelled then .undecided err else .takenDown none
  | .ok parent =>
    match e.fingerprints parent spec with
    | .error err => .undecided err
    | .ok prints => if isCurrent s.pod prints then .kept parent else .takenDown (some parent)

/-- Does with a replacement what becomes of it, and says whether it is kept. -/
def carryOut (s : SelectedPod) : Verdict → Op σ Bool
  | .undecided err => throw err
  | .takenDown parent => do
    e.takeDown s parent
    return false
  | .kept parent => do
    match ← attempt (Scale.quiesce e.cluster .caller parent) with
    | .ok _ => return true
    | .error err => if err.isCancelled then throw err else return true

/-- Puts a replacement in the place of a pod. What goes wrong after the parent was scaled down by a
patch is a value, with the parent. -/
def exchange (target : SelectedPod) (parent : Workload) (spec : Spec) :
    Op σ (Except (Error × Workload) Outcome) := do
  let (replacement, quiesced) ← e.prepare target parent spec
  match ← attempt (e.swapIn target parent replacement) with
  | .ok created =>
    let name := (created.metadata.name.or replacement.metadata.name).getD ""
    return .ok (.replaced target.pod.name name parent.identity)
  | .error err => if quiesced then return .error (err, parent) else throw err

/-- All of a replacement but its way back. -/
def undertake (spec : Spec) : Op σ (Except (Error × Workload) Outcome) := do
  match ← e.seek spec with
  | .standing s => return .ok (.unchanged s.pod.name)
  | .target target parent => e.exchange target parent spec

/-- Scales a parent up again as it is now, with the errors of that. -/
def restoring (parent : Workload) : Op σ Unit := do
  match ← e.cluster.request .nobody (.getWorkload parent.kind parent.ns parent.name) with
  | some current =>
    let _ ← Scale.restore e.cluster .nobody current
    return ()
  | none => return ()

/-! ## One after the other -/

theorem replacePod_eq (spec : Spec) : e.replacePod spec = e.seek spec >>= fun found =>
    match found with
    | .standing s => pure (.unchanged s.pod.name)
    | .target target parent => e.swap target parent spec := by
  unfold Engine.replacePod Engine.seek
  simp only [bind_assoc]
  refine bind_congr fun _ => bind_congr fun existing => ?_
  cases existing with
  | none => simp only [seekTarget, bind_assoc, pure_bind]
  | some s =>
    simp only [bind_assoc]
    refine bind_congr fun kept => ?_
    cases kept <;> simp [seekTarget]

theorem swap_eq (target : SelectedPod) (parent : Workload) (spec : Spec) :
    e.swap target parent spec = e.prepare target parent spec >>= fun ready =>
      attempt (e.swapIn target parent ready.1) >>= fun x =>
        match x with
        | .ok created => pure (.replaced target.pod.name
            ((created.metadata.name.or ready.1.metadata.name).getD "") parent.identity)
        | .error err =>
          if ready.2 then e.rollBack parent >>= fun _ => throw err else throw err := by
  unfold Engine.swap Engine.prepare
  rw [bind_assoc]
  refine bind_congr fun prints => ?_
  rw [bind_assoc]
  refine bind_congr fun replacement => ?_
  rw [bind_assoc]
  refine bind_congr fun quiesced => ?_
  refine Eq.trans ?_ (pure_bind (replacement, quiesced) _).symm
  refine bind_congr fun x => ?_
  cases x with
  | ok created => rfl
  | error err => cases quiesced <;> simp

theorem rollBack_eq (parent : Workload) :
    e.rollBack parent = attempt (e.restoring parent) >>= fun _ => pure () := rfl

theorem prepare_eq (target : SelectedPod) (parent : Workload) (spec : Spec) :
    e.prepare target parent spec = purely (e.wanted target parent spec) >>= fun replacement =>
      during "scale down parent" (Scale.quiesce e.cluster .caller parent) >>= fun quiesced =>
        pure (replacement, quiesced) := by
  unfold prepare wanted
  cases e.fingerprints parent spec <;> rfl

theorem seek_eq (spec : Spec) :
    e.seek spec = e.lookUp spec e.settings.findReplacedTimeout >>= fun existing =>
      match existing with
      | none => e.seekTarget spec
      | some s => e.keepsReplacement s spec >>= fun kept =>
          if kept then pure (.standing s) else e.seekTarget spec := by
  unfold seek lookUp
  rw [bind_assoc]

theorem replacePod_eq_undertake (spec : Spec) :
    e.replacePod spec = e.undertake spec >>= fun x =>
      match x with
      | .ok outcome => pure outcome
      | .error (err, parent) => e.rollBack parent >>= fun _ => throw err := by
  rw [replacePod_eq]
  unfold undertake
  rw [bind_assoc]
  refine bind_congr fun found => ?_
  cases found with
  | standing s => rw [pure_bind]
  | target target parent =>
    dsimp only
    rw [swap_eq]
    unfold exchange
    rw [bind_assoc]
    refine bind_congr fun ready => ?_
    rw [bind_assoc]
    refine bind_congr fun x => ?_
    cases x with
    | ok created => rw [pure_bind]
    | error err =>
      dsimp only
      split
      · rw [pure_bind]
      · rfl

/-- Without both markers the parent of a replacement is not asked for, and is missing all the
same. -/
theorem parentOfReplacement_of_unmarked {cluster : Cluster σ} {heed : Heed} {pod : Pod}
    (h : (Ownership.parentMarkers pod).isNone = true) :
    Ownership.parentOfReplacement cluster heed pod = throw (.missingMarkers pod.ns pod.name) := by
  unfold Ownership.parentOfReplacement
  rw [Option.isNone_iff_eq_none.mp h]

theorem parentToRestore_eq (s : SelectedPod) :
    e.parentToRestore s =
      attempt (Ownership.parentOfReplacement e.cluster .caller s.pod) >>= fun x =>
        match x with
        | .ok parent => pure (some parent)
        | .error err => if err.isCancelled then throw err else pure none := by
  unfold parentToRestore
  split
  · rename_i h
    rw [parentOfReplacement_of_unmarked h]
    rfl
  · rfl

theorem takeDown_none (s : SelectedPod) :
    e.takeDown s none = e.deleteReplacement s >>= fun _ => pure () := rfl

theorem takeDown_some (s : SelectedPod) (parent : Workload) :
    e.takeDown s (some parent) = e.deleteReplacement s >>= fun _ =>
      during "scale up parent" (Scale.restore e.cluster .caller parent) >>= fun _ => pure () := rfl

theorem carryOut_takenDown (s : SelectedPod) (parent : Option Workload) :
    e.carryOut s (.takenDown parent) = e.takeDown s parent >>= fun _ => pure false := rfl

/-- A replacement is judged by what its markers lead to, and then that is done. -/
theorem keepsReplacement_eq (s : SelectedPod) (spec : Spec) :
    e.keepsReplacement s spec =
      attempt (Ownership.parentOfReplacement e.cluster .caller s.pod) >>= fun x =>
        e.carryOut s (e.judge spec s x) := by
  unfold keepsReplacement
  split
  · rename_i h
    rw [parentOfReplacement_of_unmarked h]
    show _ = e.carryOut s (.takenDown none)
    rw [carryOut_takenDown, takeDown_none, bind_assoc]
    rfl
  · refine bind_congr fun x => ?_
    cases x with
    | error err =>
      dsimp only [judge]
      split
      · rfl
      · rw [carryOut_takenDown, takeDown_none, bind_assoc]
        rfl
    | ok parent =>
      dsimp only [judge]
      cases e.fingerprints parent spec with
      | error err => rfl
      | ok prints =>
        rw [Op.purely_ok_bind]
        dsimp only
        by_cases hcurrent : isCurrent s.pod prints = true
        · rw [if_pos hcurrent, if_pos hcurrent]
          rfl
        · rw [if_neg hcurrent, if_neg hcurrent]
          rw [carryOut_takenDown, takeDown_some, bind_assoc]
          refine bind_congr fun _ => ?_
          rw [bind_assoc]
          rfl

theorem revertPod_eq (spec : Spec) :
    e.revertPod spec = e.lookUp spec e.settings.revertFindTimeout >>= fun existing =>
      match existing with
      | none => pure none
      | some s => e.parentToRestore s >>= fun parent =>
          e.takeDown s parent >>= fun _ => pure (some s) := by
  unfold revertPod lookUp
  rw [bind_assoc]
  refine bind_congr fun _ => bind_congr fun existing => ?_
  cases existing with
  | none => rfl
  | some s =>
    refine bind_congr fun parent => ?_
    cases parent with
    | none =>
      rw [takeDown_none, bind_assoc]
      rfl
    | some parent =>
      rw [takeDown_some, bind_assoc]
      refine bind_congr fun _ => ?_
      rw [bind_assoc]
      rfl

/-- The stages of a replacement that was made. -/
theorem stages_of_replaced {spec : Spec} {r r' : Run σ} {selected replacement identity : String}
    (h : (e.replacePod spec).from r = (.ok (.replaced selected replacement identity), r')) :
    ∃ target parent r₁ wanted quiesced r₂ created,
      (e.seek spec).from r = (.ok (.target target parent), r₁) ∧
      (e.prepare target parent spec).from r₁ = (.ok (wanted, quiesced), r₂) ∧
      (e.swapIn target parent wanted).from r₂ = (.ok created, r') ∧
      replacement = (created.metadata.name.or wanted.metadata.name).getD "" ∧
      identity = parent.identity := by
  rw [replacePod_eq] at h
  obtain ⟨found, r₁, hseek, h⟩ := Op.ok_of_bind h
  cases found with
  | standing s => cases h
  | target target parent =>
    dsimp only at h
    rw [swap_eq] at h
    obtain ⟨⟨wanted, quiesced⟩, r₂, hprepare, h⟩ := Op.ok_of_bind h
    rw [Op.from_attempt_bind] at h
    cases hswapIn : (e.swapIn target parent wanted).from r₂ with
    | mk x r₃ =>
      rw [hswapIn] at h
      cases x with
      | ok created =>
        cases h
        exact ⟨target, parent, r₁, wanted, quiesced, r₂, created, hseek, hprepare, hswapIn, rfl,
          rfl⟩
      | error err =>
        -- an error of the swap is the error of the whole
        dsimp only at h
        split at h
        · obtain ⟨_, r₄, -, h⟩ := Op.ok_of_bind h
          cases h
        · cases h

end Engine

end PodSwap
