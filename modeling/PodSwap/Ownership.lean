import PodSwap.Cluster
import PodSwap.Marker

/-!
# The parents of pods

The workload that controls a pod is found by its owners: a replica set of a deployment leads on to
the deployment. The parent of a replacement, which has no owners, is found by its markers.
-/

namespace PodSwap.Ownership

variable [Schema]

/-- The kind and the name of the parent that a replacement's markers give, where both are there. -/
def parentMarkers (pod : Pod) : Option (String × String) := do
  let kind ← (pod.metadata.annotationAt Marker.parentKind).filter (· ≠ "")
  let name ← (pod.metadata.annotationAt Marker.parentName).filter (· ≠ "")
  return (kind, name)

section Operations

variable {σ : Type} (cluster : Cluster σ) (heed : Heed)

/-- The workload with a name, which has to be there. -/
def fetch (kind : WorkloadKind) (ns name : String) : Op σ Workload := do
  match ← cluster.request heed (.getWorkload kind ns name) with
  | some w => return w
  | none => throw (.ownerNotFound kind.text ns name)

/-- The workload that controls a pod. -/
def resolveParent (pod : Pod) : Op σ Workload := do
  match pod.metadata.controller with
  | none => throw (.noOwner pod.ns pod.name)
  | some owner =>
    if owner.kind = "ReplicaSet" then do
      let replicaSet ← fetch cluster heed .replicaSet pod.ns owner.name
      match replicaSet.metadata.controller with
      -- a replica set of its own is the parent itself
      | none => return replicaSet
      | some above =>
        if above.kind = "Deployment" then fetch cluster heed .deployment pod.ns above.name
        else
          throw (.unsupportedOwner ("ReplicaSet " ++ replicaSet.name) above.kind above.apiVersion
            above.name)
    else if owner.kind = "StatefulSet" then fetch cluster heed .statefulSet pod.ns owner.name
    else throw (.unsupportedOwner ("Pod " ++ pod.name) owner.kind owner.apiVersion owner.name)

/-- The workload that a replacement's markers lead to. -/
def parentOfReplacement (pod : Pod) : Op σ Workload := do
  match parentMarkers pod with
  | none => throw (.missingMarkers pod.ns pod.name)
  | some (kind, name) => do
    let kind ← purely (WorkloadKind.parse kind)
    fetch cluster heed kind pod.ns name

end Operations

end PodSwap.Ownership
