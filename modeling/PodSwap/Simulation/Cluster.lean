import PodSwap.Selection
import PodSwap.Simulation.Edit

/-!
# The simulated cluster

A call takes the time its function takes; at its end the due edits happen, then what is scripted for
it, and if that leaves it alone what the world makes of it.

Main statements: a list of pods holds exactly the pods of the namespace that fit the selector
(`mem_listed`), and a call with a scripted failure leaves the world alone (`world_fail`).
-/

namespace PodSwap.Simulation

variable [Schema]

/-- The pods of a namespace that fit a label selector, by name. -/
def World.listed (w : World) (ns selector : String) : List Pod :=
  ((w.podsOf ns).map (·.2)).filter fun pod => satisfies pod.metadata.labelTable selector

/-- What the world makes of a call, given what it stores for a pod that is to be created. -/
def World.answer (naming : Pod → Pod) (w : World) :
    (c : Call) → Except Error c.Answer × MutationOutcome × World
  | .getPod ns name =>
    let (pod, w) := w.look (World.podKey ns name)
    (.ok pod, .effect, w)
  | .listPods ns selector => (.ok (w.listed ns selector), .effect, w)
  | .createPod pod =>
    let pod := naming pod
    if (w.pod? pod.ns pod.name).isSome then
      (.error (.cluster ("pods \"" ++ pod.name ++ "\" already exists")), .failure, w)
    else (.ok pod, .effect, w.addPod pod)
  | .deletePod ns name =>
    if (w.pod? ns name).isSome then (.ok true, .effect, w.terminate (World.podKey ns name))
    else (.ok false, .noEffect, w)
  | .getWorkload kind ns name => (.ok (w.workload? kind ns name), .effect, w)
  | .patchWorkload kind ns name patch =>
    match w.patchWorkload kind ns name patch with
    | .ok w => (.ok (), .effect, w)
    | .error e => (.error e, .failure, w)

/-- A pod without its name. -/
def unnamed (pod : Pod) : Pod := { pod with metadata := { pod.metadata with name := none } }

/-- A pod under another name. -/
def renamed (pod : Pod) : Pod :=
  { pod with metadata := { pod.metadata with name := some (pod.name ++ "-server") } }

/-- The answer to a call where there is nothing. -/
def voidAnswer : (c : Call) → c.Answer
  | .getPod .. => none
  | .listPods .. => []
  | .createPod pod => unnamed pod
  | .deletePod .. => false
  | .getWorkload .. => none
  | .patchWorkload .. => ()

namespace Log

/-- The log with a call of a function counted. -/
def count (l : Log) (f : Function) : Log :=
  { l with counts := l.counts.insert f.text ((l.counts.get? f.text).getD 0 + 1) }

/-- The log with a call noted, if it was to change something or lists pods. -/
def note (l : Log) (c : Call) (outcome : MutationOutcome) : Log :=
  match c with
  | .listPods ns selector =>
    let listing := ns ++ ": " ++ selector
    if outcome = .failure ∨ l.listings.getLast? = some listing then l
    else { l with listings := l.listings ++ [listing] }
  | c => if c.isMutating then { l with mutations := l.mutations ++ [(c, outcome)] } else l

end Log

/-- The end of a call of which the world makes what it does. -/
def carryOut (naming : Pod → Pod) (s : Simulation) (c : Call) : Finish Simulation c.Answer :=
  let (result, outcome, world) := s.world.answer naming c
  ⟨result, { s with world, log := s.log.note c outcome }, false⟩

/-- The end of a call that fails. -/
def fail (s : Simulation) (c : Call) (e : Error) : Finish Simulation c.Answer :=
  ⟨.error e, { s with log := s.log.note c .failure }, false⟩

/-- The end of a call with an outcome from the script. -/
def perform (s : Simulation) (c : Call) : Scripted → Finish Simulation c.Answer
  | .ordinary => s.carryOut id c
  | .cancelling => { s.carryOut id c with cancels := true }
  | .renaming => s.carryOut renamed c
  | .failing => s.fail c (.cluster ("injected failure in " ++ (functionOf c).text))
  | .void => ⟨.ok (voidAnswer c), { s with log := s.log.note c .noEffect }, false⟩

/-- The end of a call at a time. -/
def finish (c : Call) (now : Nat) (s : Simulation) : Finish Simulation c.Answer :=
  match s.settle now with
  -- an edit that fails is the failure of the call during which it was due
  | (.error e, s) => s.fail c e
  | (.ok (), s) =>
    let (scripted, script) := s.script.next (functionOf c)
    { s with script, log := s.log.count (functionOf c) }.perform c scripted

/-- How long a call takes, which is a sleep. -/
def span (c : Call) (s : Simulation) : Nat :=
  sleepSpan ((s.latency.get? (functionOf c).text).getD 0)

/-- The simulated cluster. -/
def cluster : Cluster Simulation where
  call c := { start := fun _ s => s, span := span c, finish := finish c }

/-! ## Lists and failures -/

/-- A list holds the pods of the namespace that fit the selector, and no others. -/
theorem mem_listed {w : World} {ns selector : String} {pod : Pod} :
    pod ∈ w.listed ns selector ↔
      (∃ key, key.head? = some ns ∧ (key, pod) ∈ w.pods.toList) ∧
        satisfies pod.metadata.labelTable selector = true := by
  simp [World.listed, World.podsOf, and_comm]

/-- A failure from the script has no effect on the world. -/
theorem world_fail (s : Simulation) (c : Call) : (s.perform c .failing).world.world = s.world := rfl

end PodSwap.Simulation
