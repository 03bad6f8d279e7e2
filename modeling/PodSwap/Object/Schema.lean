import PodSwap.Object.Shape

/-!
# The schema of objects

The program looks at few members of an object. All others that the cluster's API knows it reads,
keeps, compares and writes, and what they are is the API's to say. A `Schema` says it: for every
kind of record the members besides those that are looked at. Everything about objects is stated for
any schema.

What the program takes for granted of the API is stated with it. The members of a record have
different names. And of what a workload is asked for nothing has to be there besides its selector
and its template, nor does anything have to be there in a selector, so the ones that are written for
a workload without a specification say nothing.
-/

namespace PodSwap

/-- The names of the members. -/
def Members.names : Members → List String
  | .nil => []
  | .field name _ rest => name :: rest.names
  | .always name _ rest => name :: rest.names
  | .constant name _ rest => name :: rest.names

/-- The names of the members that are always written. -/
def Members.required : Members → List String
  | .nil => []
  | .field _ _ rest => rest.required
  | .always name _ rest => name :: rest.required
  | .constant name _ rest => name :: rest.required

mutual
/-- Whether the members of every record have different names. -/
def Shape.isDistinct : Shape → Bool
  | .list s => s.isDistinct
  | .table s => s.isDistinct
  | .record ms => ms.isDistinct
  | _ => true
termination_by structural s => s

/-- Whether members have different names, those of every record in them too. -/
def Members.isDistinct : Members → Bool
  | .nil => true
  | .field name s rest => name ∉ rest.names && s.isDistinct && rest.isDistinct
  | .always name s rest => name ∉ rest.names && s.isDistinct && rest.isDistinct
  | .constant name _ rest => name ∉ rest.names && rest.isDistinct
termination_by structural ms => ms
end

/-- The members of a record besides those that the program knows. -/
structure Rest (known : List String) where
  members : Members
  distinct : members.isDistinct = true
  unknown : ∀ name ∈ known, name ∉ members.names

/-- The values of the members besides those that the program knows. -/
abbrev Rest.Values {known : List String} (r : Rest known) : Type := r.members.Values

/-- What the cluster's API knows of objects besides what the program looks at. -/
class Schema where
  objectMeta : Rest ["name", "namespace", "uid", "creationTimestamp", "deletionTimestamp", "labels",
    "annotations", "ownerReferences"]
  ownerReference : Rest ["apiVersion", "kind", "name", "uid", "controller"]
  container : Rest ["name", "image"]
  podSpec : Rest ["containers", "initContainers"]
  podStatus : Rest []
  labelSelector : Rest []
  replicaSetSpec : Rest ["replicas", "selector", "template"]
  replicaSetStatus : Rest []
  deploymentSpec : Rest ["replicas", "selector", "template"]
  deploymentStatus : Rest []
  statefulSetSpec : Rest ["replicas", "selector", "template"]
  statefulSetStatus : Rest []
  /-- Nothing has to be there in a selector. -/
  labelSelector_optional : labelSelector.members.required = []
  /-- Nothing else has to be there in the specification of a replica set. -/
  replicaSetSpec_optional : replicaSetSpec.members.required = []
  /-- Nothing else has to be there in the specification of a deployment. -/
  deploymentSpec_optional : deploymentSpec.members.required = []
  /-- Nothing else has to be there in the specification of a stateful set: one without the name of
  its service is written without it, whatever the server asks for. -/
  statefulSetSpec_optional : statefulSetSpec.members.required = []

end PodSwap
