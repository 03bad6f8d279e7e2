import PodSwap.Cluster
import PodSwap.Run.Poll

/-!
# Waiting for pods to go

A replacement that is deleted has to be gone before its parent gets its pods back. The pod that a
replacement takes the place of has to be gone or, where the next pod has another name, at least to
be on its way.
-/

namespace PodSwap.Termination

variable [Schema]

/-- Whether a pod is gone enough for a workload of a kind to be without it. -/
def hasTerminated (kind : WorkloadKind) (pod : Option Pod) : Bool :=
  match pod with
  | none => true
  | some pod => pod.isTerminating && !kind.needsFullTermination

/-- Nothing more, once a condition holds. -/
def doneIf (b : Bool) : Option Unit := if b then some () else none

section Operations

variable {σ : Type} (cluster : Cluster σ) (heed : Heed)

/-- Deletes a pod and waits until it is gone. -/
def deleteAndWait (ns name : String) (intervalMs timeoutMs : Nat) : Op σ Unit := do
  if ← cluster.request heed (.deletePod ns name) then
    let poll : Poll :=
      { operation := "pod " ++ ns ++ "/" ++ name ++ " to be deleted", intervalMs, timeoutMs }
    poll.wait heed ((cluster.call (.getPod ns name)).map fun pod => doneIf pod.isNone)
  else return ()

/-- Waits until a pod of a workload of a kind has terminated. -/
def waitForTermination (ns name : String) (kind : WorkloadKind) (intervalMs timeoutMs : Nat) :
    Op σ Unit :=
  let poll : Poll :=
    { operation := "pod " ++ ns ++ "/" ++ name ++ " to terminate", intervalMs, timeoutMs }
  poll.wait heed ((cluster.call (.getPod ns name)).map fun pod => doneIf (hasTerminated kind pod))

end Operations

end PodSwap.Termination
