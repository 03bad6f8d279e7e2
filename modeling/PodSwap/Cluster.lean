import PodSwap.Object.Workload
import PodSwap.Run.Basic

/-!
# Clusters

What an operation may ask of a cluster, and what a cluster is: for every call an action on its
state. Objects that are not there are answers and not errors.
-/

namespace PodSwap

variable [Schema]

/-- A call on a cluster. -/
inductive Call where
  | getPod (ns name : String)
  | listPods (ns selector : String)
  | createPod (pod : Pod)
  | deletePod (ns name : String)
  | getWorkload (kind : WorkloadKind) (ns name : String)
  | patchWorkload (kind : WorkloadKind) (ns name : String) (patch : Json)

namespace Call

/-- What a call answers. -/
abbrev Answer : Call → Type
  | .getPod .. => Option Pod
  | .listPods .. => List Pod
  | .createPod .. => Pod
  | .deletePod .. => Bool
  | .getWorkload .. => Option Workload
  | .patchWorkload .. => Unit

/-- Whether a call changes the cluster. -/
def isMutating : Call → Bool
  | .createPod .. => true
  | .deletePod .. => true
  | .patchWorkload .. => true
  | _ => false

end Call

/-- A cluster with a state of type `σ`: for every call the action that answers it. -/
structure Cluster (σ : Type) where
  call : (c : Call) → Timed σ c.Answer

variable {σ : Type}

/-- Makes a call. -/
def Cluster.request (cluster : Cluster σ) (heed : Heed) (c : Call) : Op σ c.Answer :=
  guarded heed (cluster.call c)

/-! ## What a run did -/

/-- A call that was begun or answered at a time. -/
inductive CallEvent where
  | begun (now : Nat) (c : Call)
  | answered (now : Nat) (c : Call) (result : Except Error c.Answer)

/-- A cluster that notes every call when it begins and when it is answered, the last first. -/
def Cluster.traced (cluster : Cluster σ) : Cluster (σ × List CallEvent) where
  call c :=
    let a := cluster.call c
    { start := fun now w => (a.start now w.1, .begun now c :: w.2)
      span := fun w => a.span w.1
      finish := fun now w =>
        let f := a.finish now w.1
        ⟨f.result, (f.world, .answered now c f.result :: w.2), f.cancels⟩ }

end PodSwap
