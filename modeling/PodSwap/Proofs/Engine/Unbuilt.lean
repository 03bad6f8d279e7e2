import PodSwap.Proofs.Engine.Protocol
import PodSwap.Proofs.Engine.Slot

/-!
# A replacement that cannot be built

A replacement that cannot be built ends where it was to be built: neither the target nor its parent
was touched, nor is anything after that. But the replacement that stood, if there was one, has been
taken down by then, since a fresh target is looked for only after that.

Main statement: `unbuilt_changes`. On a small cluster with a pod and an outdated replacement, the
outdated one is gone though no other could be built (`Shelf.taken_down_unbuilt`).
-/

namespace PodSwap

section

variable [Schema]

namespace Engine

variable {σ : Type} {e : Engine σ} {spec : Spec} {r : Run σ}

/-- A replacement whose target was found and that then cannot be built ends with the error of the
building where its search ended. What it changed is what it did with the replacement that stood, so
it changed nothing exactly if there was none. -/
theorem unbuilt_changes {target : SelectedPod} {parent : Workload} {prints : Fingerprints}
    {err : Error} {r₁ : Run (σ × List CallEvent)}
    (hseek : e.seeking spec r = (.ok (.target target parent), r₁))
    (hprints : e.fingerprints parent spec = .ok prints)
    (hbuild : Replacement.build target parent spec e.images prints = .error err) :
    e.replacing spec r = (.error (.step "build replacement pod" err), r₁) ∧
      moves (e.replacing spec r).2.world.2 = e.checkPlan spec r ∧
      (moves (e.replacing spec r).2.world.2 = [] ↔
        ∃ r₀, e.lookingUp spec e.settings.findReplacedTimeout r = (.ok none, r₀)) := by
  have hwanted : e.noted.wanted target parent spec =
      .error (.step "build replacement pod" err) := by
    show e.wanted target parent spec = _
    rw [wanted, hprints]
    show inStep "build replacement pod"
      (Replacement.build target parent spec e.images prints) = _
    rw [hbuild]
    rfl
  have hrun : e.replacing spec r = (.error (.step "build replacement pod" err), r₁) := by
    have hsought : (e.noted.seek spec).from r.unnoted = (.ok (.target target parent), r₁) := hseek
    unfold replacing
    rw [replacePod_eq, Op.from_bind, hsought]
    dsimp only
    rw [swap_eq, prepare_eq, hwanted, Op.purely_error_bind]
    rfl
  have hmoves : moves (e.replacing spec r).2.world.2 = e.checkPlan spec r := by
    obtain ⟨new, hnew, -, hall⟩ := (seek_carries (e := e) spec r).of_from hseek
    have hevents : r₁.world.2 = new := hnew.trans (List.append_nil new)
    rw [hrun, ← hall ⟨_, rfl⟩, ← hevents]
    rfl
  refine ⟨hrun, hmoves, ?_⟩
  rw [hmoves]
  unfold checkPlan
  rcases judge_of_target hseek with ⟨r₀, hnone⟩ | ⟨s, r₀, known, hsome, hjudge⟩
  · rw [hnone]
    exact iff_of_true rfl ⟨r₀, rfl⟩
  · rw [hsome]
    dsimp only
    rw [hjudge]
    -- what is taken down is deleted first
    refine iff_of_false ?_ ?_
    · cases known with
      | none => exact List.cons_ne_nil _ _
      | some parent' => exact List.cons_ne_nil _ _
    · rintro ⟨r', h⟩
      cases h

end Engine

end

/-! ## A cluster with several pods -/

namespace Shelf

/-- Whether a pod has a name. -/
def isNamed (ns name : String) (pod : Pod) : Bool := pod.ns = ns && pod.name = name

/-- What a call comes to on some pods and a stateful set that is up. -/
def answer (pods : List Pod) : (c : Call) → Finish (List Pod) c.Answer
  | .getPod ns name => ⟨.ok (pods.find? (isNamed ns name)), pods, false⟩
  | .listPods ns selector =>
    ⟨.ok (pods.filter fun pod => pod.ns = ns && satisfies pod.metadata.labelTable selector), pods,
      false⟩
  | .createPod wanted => ⟨.ok wanted, wanted :: pods, false⟩
  | .deletePod ns name =>
    ⟨.ok (pods.any (isNamed ns name)), pods.filter fun pod => !isNamed ns name pod, false⟩
  | .getWorkload kind ns name =>
    if (⟨kind, ns, name⟩ : WorkloadKey) = Slot.key then
      ⟨(Workload.ofJson kind (Slot.doc .up)).mapError .cluster |>.map some, pods, false⟩
    else ⟨.ok none, pods, false⟩
  | .patchWorkload _ _ _ _ => ⟨.error (.cluster "no patch of this kind"), pods, false⟩

/-- The engine on the cluster, by which everything is looked at once. -/
def engine : Engine (List Pod) where
  cluster := ⟨fun c => ⟨fun _ pods => pods, fun _ => 1, fun _ pods => answer pods c⟩⟩
  images := ⟨fun name => .ok [name], fun expression => .ok expression⟩
  settings := Slot.impatient

/-- A spec with a patch that applies to no pod. -/
def spec : Spec :=
  { Slot.spec Slot.selector with patches := [{ action := .remove, path := "/spec/missing" }] }

/-- Why no replacement can be built. -/
def misfit : Error :=
  .step "apply pod patches"
    (.patch "operation '/0' failed at path '/spec/missing': path is invalid")

/-- Whether it is for that reason that no replacement can be built for what was found. -/
def misfits (found : SelectedPod × Workload) : Bool :=
  match engine.fingerprints found.2 spec with
  | .error _ => false
  | .ok prints =>
    match Replacement.build found.1 found.2 spec engine.images prints with
    | .error err => err = misfit
    | .ok _ => false

/-- A replacement on the cluster. -/
def replace (pods : List Pod) : Except Error Outcome × Run (List Pod × List CallEvent) :=
  engine.replacing spec ⟨0, none, pods⟩

section

variable {ns : String} {s : Spec} {selection : Selection} {images : List String}

theorem find_timeout : (engine.noted.replacementOptions ns s selection
    engine.noted.settings.findReplacedTimeout).timeoutMs = 0 := Nat.zero_mul _

theorem target_timeout : (engine.noted.targetOptions ns s selection images).timeoutMs = 0 :=
  Nat.zero_mul _

theorem termination_timeout : engine.noted.settings.terminationTimeout = 0 := Nat.zero_mul _

end

/-- Where no replacement stood, one that cannot be built leaves all as it was. -/
theorem untouched_unbuilt :
    (replace [Slot.target]).1 = .error (.step "build replacement pod" misfit) ∧
      moves (replace [Slot.target]).2.world.2 = [] := by
  let start : Run (List Pod) := ⟨0, none, [Slot.target]⟩
  let sought := (engine.noted.seek spec).from start.unnoted
  let found := (engine.noted.lookUp spec engine.noted.settings.findReplacedTimeout).from
    start.unnoted
  have hstages : (sought.1.toOption.bind Found.target?).any misfits = true := by
    simp only [sought, start, Engine.seek, Engine.seekTarget, Engine.findReplacement, Engine.select,
      Engine.keepsReplacement, Engine.deleteReplacement, Termination.deleteAndWait,
      Engine.findTarget, Poll.wait_eq_once, find_timeout, target_timeout, termination_timeout]
    decide +kernel
  have hnone : found.1.toOption.any Option.isNone = true := by
    simp only [found, start, Engine.lookUp, Engine.findReplacement, Engine.select,
      Poll.wait_eq_once, find_timeout]
    decide +kernel
  obtain ⟨⟨target, parent⟩, hfound, hstages⟩ := (Option.any_eq_true _ _).mp hstages
  obtain ⟨what, hsought, htarget⟩ := Option.bind_eq_some_iff.mp hfound
  obtain rfl := Found.eq_of_target? htarget
  obtain ⟨standing, hlookedUp, hstanding⟩ := (Option.any_eq_true _ _).mp hnone
  unfold misfits at hstages
  cases hprints : engine.fingerprints parent spec with
  | error err =>
    rw [hprints] at hstages
    cases hstages
  | ok prints =>
    simp only [hprints] at hstages
    cases hbuild : Replacement.build target parent spec engine.images prints with
    | ok wanted =>
      rw [hbuild] at hstages
      cases hstages
    | error err =>
      simp only [hbuild, decide_eq_true_eq] at hstages
      obtain ⟨hrun, -, hmoves⟩ := Engine.unbuilt_changes
        (r := start) (Op.from_of_toOption hsought) hprints hbuild
      obtain rfl := Option.isNone_iff_eq_none.mp hstanding
      refine ⟨?_, hmoves.mpr ⟨found.2, Op.from_of_toOption hlookedUp⟩⟩
      show (engine.replacing spec start).1 = _
      rw [hrun, hstages]

/-- Where an outdated replacement stands, it is taken down and no other can be built. -/
theorem taken_down_unbuilt :
    (replace [Slot.target, Slot.standIn]).1 = .error (.step "build replacement pod" misfit) ∧
      .deletePod Slot.key.ns "web-0-devspace" ∈
        moves (replace [Slot.target, Slot.standIn]).2.world.2 := by
  have hrun : (replace [Slot.target, Slot.standIn]).1 =
        .error (.step "build replacement pod" misfit) ∧
      (replace [Slot.target, Slot.standIn]).2.world.2.any
        (CallEvent.deletes Slot.key.ns "web-0-devspace") = true := by
    simp only [replace, Engine.replacing, Engine.replacePod, Engine.findReplacement, Engine.select,
      Engine.keepsReplacement, Engine.deleteReplacement, Termination.deleteAndWait,
      Engine.findTarget, Engine.swap, Poll.wait_eq_once, find_timeout, target_timeout,
      termination_timeout]
    decide +kernel
  obtain ⟨hfailed, hdeleted⟩ := hrun
  obtain ⟨now, earlier, hsuffix⟩ := CallEvent.exists_of_deletes hdeleted
  have hbegun : .deletePod Slot.key.ns "web-0-devspace" ∈
      begunCalls (replace [Slot.target, Slot.standIn]).2.world.2 :=
    mem_begunCalls.mpr ⟨now, hsuffix.subset List.mem_cons_self⟩
  exact ⟨hfailed, List.mem_filter.mpr ⟨hbegun, rfl⟩⟩

end Shelf

end PodSwap
