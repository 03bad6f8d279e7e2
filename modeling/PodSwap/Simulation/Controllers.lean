import PodSwap.Simulation.World

/-!
# Controllers of a simulated cluster

Whenever a workload changes, its controller brings the pods it owns to the number it asks for:
surplus pods are deleted from the end of the alphabet, missing ones are made from the template. The
pods of a deployment belong to its replica set, which follows the deployment.

A pod of a stateful set has the least number that is free in its name, every other pod a number that
no pod had before.
-/

namespace PodSwap.Simulation

variable [Schema]

/-- Who owns the pods of a workload. -/
structure PodOwner where
  kind : WorkloadKind
  name : String

/-- The name of the object that controls an object. -/
def controllerName (m : ObjectMeta) : Option String := m.controller.map (·.name)

namespace PodOwner

/-- Whether a pod is owned. -/
def owns (o : PodOwner) (pod : Pod) : Bool :=
  (pod.metadata.ownerReferences.getD []).any fun r => r.kind = o.kind.text ∧ r.name = o.name

/-- The reference that pods have to their owner. -/
def reference (o : PodOwner) : OwnerReference :=
  { apiVersion := "apps/v1"
    kind := o.kind.text
    name := o.name
    uid := o.name ++ "-uid"
    controller := some true }

/-- The labels of a pod with a name, given those of the template. -/
def podLabels (o : PodOwner) (labels : SortedMap String) (pod : String) : SortedMap String :=
  match o.kind with
  | .statefulSet =>
    (labels.insert "controller-revision-hash" (o.name ++ "-6c5b")).insert
      "statefulset.kubernetes.io/pod-name" pod
  | _ => labels.insert "pod-template-hash" "7d9f5"

/-- A pod with a name, made from a template. -/
def podFrom (o : PodOwner) (template : PodTemplate) (ns name : String) : Pod :=
  let labels := (template.metadata.bind (·.labels)).getD .empty
  { metadata :=
      { name := some name
        ns := some ns
        labels := some (o.podLabels labels name)
        ownerReferences := some [o.reference] }
    spec := template.spec }

end PodOwner

namespace World

/-- The replica set of a deployment: the first that says of itself that it is in the namespace and
that the deployment controls it. -/
def replicaSetOf (w : World) (ns deployment : String) : Option Workload :=
  w.allWorkloads.find? fun r =>
    r.kind = .replicaSet ∧ r.ns = ns ∧ controllerName r.metadata = some deployment

/-- The owner of the pods of a deployment. -/
def ownerBelow (w : World) (ns : String) (deployment : Workload) : Option PodOwner :=
  (w.replicaSetOf ns deployment.name).map fun r => ⟨.replicaSet, r.name⟩

/-- The workload that a workload's pods follow, and their owner, if anything owns them. -/
def podsFollow (w : World) (ns : String) (workload : Workload) : Option (Workload × PodOwner) :=
  match workload.kind with
  | .statefulSet => some (workload, ⟨.statefulSet, workload.name⟩)
  | .deployment => (w.ownerBelow ns workload).map (workload, ·)
  | .replicaSet =>
    match (controllerName workload.metadata).bind (w.workload? .deployment ns) with
    | some deployment => (w.ownerBelow ns deployment).map (deployment, ·)
    | none => some (workload, ⟨.replicaSet, workload.name⟩)

/-- The keys of the pods that are owned and not on their way out, by name. -/
def ownedPods (w : World) (ns : String) (o : PodOwner) : List (List String) :=
  ((w.podsOf ns).filter fun e => !w.leaving.contains e.1 && o.owns e.2).map (·.1)

/-- The least number that is free in the name of a pod. -/
def freeOrdinal (w : World) (ns : String) (o : PodOwner) : Nat :=
  let isFree (n : Nat) := !w.pods.contains (podKey ns (o.name ++ "-" ++ toString n))
  -- the pods there are cannot take one number more than they are
  ((List.range w.pods.entries.length).find? isFree).getD w.pods.entries.length

/-- The world with one more pod for an owner. -/
def makePod (w : World) (ns : String) (o : PodOwner) (template : PodTemplate) : World :=
  match o.kind with
  | .statefulSet =>
    w.addPod (o.podFrom template ns (o.name ++ "-" ++ toString (w.freeOrdinal ns o)))
  | _ =>
    let w := { w with numbered := w.numbered + 1 }
    w.addPod (o.podFrom template ns (o.name ++ "-x" ++ Text.padded 4 w.numbered))

/-- The world with a number of pods more for an owner. -/
def makePods (ns : String) (o : PodOwner) (template : PodTemplate) : Nat → World → World
  | 0, w => w
  | n + 1, w => makePods ns o template n (w.makePod ns o template)

/-- How many pods a workload asks for. -/
def desiredPods (workload : Workload) : Nat := ((workload.replicas.getD 1).toInt).toNat

/-- The world once the controllers have seen a workload of a namespace. -/
def reconcile (w : World) (ns : String) (workload : Workload) : World :=
  if !w.controllers then w
  else
    match w.podsFollow ns workload with
    | none => w
    | some (followed, owner) =>
      let owned := w.ownedPods ns owner
      let desired := desiredPods followed
      -- surplus pods go from the end, so those that stay are the first by name
      let w := (owned.drop desired).reverse.foldl terminate w
      makePods ns owner (followed.podTemplate.getD {}) (desired - owned.length) w

end World

end PodSwap.Simulation
