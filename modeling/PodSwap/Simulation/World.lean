import PodSwap.Object.Workload
import PodSwap.Simulation.Store

/-!
# What a simulated cluster holds

Pods and workloads under their names. A pod that is deleted may stay for a while: it then is on its
way out, with a time of deletion, and outlasts a number of looks at it.

Main statements: a pod that is not waited for is gone once it is deleted (`pod?_terminate_zero`),
and a pod that is not there is never found by a look (`look_eq_none`).
-/

namespace PodSwap.Simulation

variable [Schema]

/-- What a cluster holds. -/
structure World where
  pods : Store Pod := {}
  /-- The pods on their way out, with the number of looks each still outlasts. -/
  leaving : Store Nat := {}
  workloads : Store Workload := {}
  /-- How many pods were made with a number in their names. -/
  numbered : Nat := 0
  /-- How many looks a pod outlasts after it was deleted. -/
  gracefulReads : Nat := 0
  /-- Whether workloads keep as many pods as they ask for. -/
  controllers : Bool := true

namespace World

/-- The key of a pod. -/
def podKey (ns name : String) : List String := [ns, name]

/-- The key of a workload. -/
def workloadKey (kind : WorkloadKind) (ns name : String) : List String := [kind.text, ns, name]

/-- The pod with a name. -/
def pod? (w : World) (ns name : String) : Option Pod := w.pods.get? (podKey ns name)

/-- The workload with a name. -/
def workload? (w : World) (kind : WorkloadKind) (ns name : String) : Option Workload :=
  w.workloads.get? (workloadKey kind ns name)

/-- All pods by namespace and name. -/
def allPods (w : World) : List Pod := w.pods.toList.map (·.2)

/-- All workloads by kind, namespace and name. -/
def allWorkloads (w : World) : List Workload := w.workloads.toList.map (·.2)

/-- The pods of a namespace with their keys, by name. -/
def podsOf (w : World) (ns : String) : List (List String × Pod) :=
  w.pods.toList.filter fun e => e.1.head? = some ns

/-- The world with a pod put under its name. -/
def addPod (w : World) (pod : Pod) : World :=
  { w with pods := w.pods.insert (podKey pod.ns pod.name) pod }

/-- The world without a pod. -/
def removePod (w : World) (key : List String) : World :=
  { w with pods := w.pods.erase key, leaving := w.leaving.erase key }

/-- The time at which every pod is deleted, 2026-10-19T12:00:00Z. -/
def deletionTime : Timestamp := ⟨1792411200, 0⟩

/-- The world once a pod is deleted: without it if it outlasts no look, otherwise with it on its way
out. A pod that is on its way out already stays as it is. -/
def terminate (w : World) (key : List String) : World :=
  if w.leaving.contains key then w
  else if w.gracefulReads = 0 then w.removePod key
  else
    match w.pods.get? key with
    | none => w
    | some pod =>
      let metadata := { pod.metadata with deletionTimestamp := some deletionTime }
      let pod := { pod with metadata }
      { w with
        pods := w.pods.insert key pod
        leaving := w.leaving.insert key w.gracefulReads }

/-- A look at a pod, which one on its way out outlasts only so often. -/
def look (w : World) (key : List String) : Option Pod × World :=
  match w.leaving.get? key with
  | some 0 => (none, w.removePod key)
  | some (n + 1) => (w.pods.get? key, { w with leaving := w.leaving.insert key n })
  | none => (w.pods.get? key, w)

/-! ## Deleted pods -/

/-- Where pods outlast no look, a deleted pod is gone, unless it was on its way out before. -/
theorem pod?_terminate_zero (w : World) (ns name : String) (h : w.gracefulReads = 0)
    (hl : w.leaving.contains (podKey ns name) = false) :
    (w.terminate (podKey ns name)).pod? ns name = none := by
  simp [terminate, h, hl, pod?, removePod, Store.get?_erase]

/-- A pod that is not there is not found by a look. -/
theorem look_eq_none (w : World) (key : List String) (h : w.pods.get? key = none) :
    (w.look key).1 = none := by
  unfold look
  split
  · rfl
  · exact h
  · exact h

end World

end PodSwap.Simulation
