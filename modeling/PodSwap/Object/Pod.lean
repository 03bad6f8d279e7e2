import PodSwap.Object.Metadata

/-!
# Pods

Pods with their containers, the templates that workloads make them from, and what both share with
other objects: metadata, a specification and a status.
-/

namespace PodSwap

section

variable [Schema]

/-- An object of the cluster: what it is called, what is wanted of it and how it fares. -/
structure Resource (Spec Status : Type) where
  metadata : ObjectMeta := {}
  spec : Option Spec := none
  status : Option Status := none
deriving DecidableEq, Repr, Inhabited

namespace Resource

variable {Spec Status : Type}

/-- The name of the object, nothing where it has none. -/
def name (r : Resource Spec Status) : String := r.metadata.name.getD ""

/-- The namespace of the object, nothing where it has none. -/
def ns (r : Resource Spec Status) : String := r.metadata.ns.getD ""

/-- Whether the object is being deleted. -/
def isTerminating (r : Resource Spec Status) : Bool := r.metadata.deletionTimestamp.isSome

/-- The fields of an object of a certain kind, which it may leave out but not contradict. -/
def part [Codec Spec] [Codec Status] (apiVersion kind : String) :
    Part (Unit × Unit × ObjectMeta × Option Spec × Option Status) :=
  (Part.constant "apiVersion" apiVersion).both <| (Part.constant "kind" kind).both <|
    (Part.always "metadata").both <| (Part.field "spec").both (Part.field "status")

/-- Reads an object of a certain kind. -/
def ofWritten [Codec Spec] [Codec Status] (apiVersion kind : String) (w : Json.Written) :
    Reading (Resource Spec Status) :=
  ((part apiVersion kind).codec.ofWritten w).map fun (_, _, metadata, spec, status) =>
    { metadata, spec, status }

/-- Writes an object with its kind. -/
def toJson [Codec Spec] [Codec Status] (apiVersion kind : String) (r : Resource Spec Status) :
    Json :=
  (part apiVersion kind).codec.toJson ((), (), r.metadata, r.spec, r.status)

theorem toJson_eq [Codec Spec] [Codec Status] (apiVersion kind : String)
    (r : Resource Spec Status) : toJson apiVersion kind r = .fields
      [always "apiVersion" apiVersion, always "kind" kind, always "metadata" r.metadata,
        field "spec" r.spec, field "status" r.status] := rfl

end Resource

/-- A container of a pod. -/
structure Container where
  name : String := ""
  image : Option String := none
  others : Schema.container.Values := default
deriving DecidableEq, Repr, Inhabited

instance : Record Container (String × Option String × Schema.container.Values) where
  part := (Part.always "name").both <| (Part.field "image").both Schema.container.members.part
  fields c := (c.name, c.image, c.others)
  ofFields := fun (name, image, others) => { name, image, others }
  ofFields_fields _ := rfl
  fields_ofFields _ := rfl

/-- What is wanted of a pod. -/
structure PodSpec where
  containers : List Container := []
  initContainers : Option (List Container) := none
  others : Schema.podSpec.Values := default
deriving DecidableEq, Repr, Inhabited

instance : Record PodSpec
    (List Container × Option (List Container) × Schema.podSpec.Values) where
  part := (Part.always "containers").both <|
    (Part.field "initContainers").both Schema.podSpec.members.part
  fields s := (s.containers, s.initContainers, s.others)
  ofFields := fun (containers, initContainers, others) => { containers, initContainers, others }
  ofFields_fields _ := rfl
  fields_ofFields _ := rfl

/-- How a pod fares. -/
abbrev PodStatus := Schema.podStatus.Values

/-- A pod. -/
abbrev Pod := Resource PodSpec PodStatus

instance : Codec Pod where
  ofWritten := Resource.ofWritten "v1" "Pod"
  toJson := Resource.toJson "v1" "Pod"

/-- What a workload makes its pods from. -/
structure PodTemplate where
  metadata : Option ObjectMeta := none
  spec : Option PodSpec := none
deriving DecidableEq, Repr, Inhabited

instance : Record PodTemplate (Option ObjectMeta × Option PodSpec) where
  part := (Part.field "metadata").both (Part.field "spec")
  fields t := (t.metadata, t.spec)
  ofFields := fun (metadata, spec) => { metadata, spec }
  ofFields_fields _ := rfl
  fields_ofFields _ := rfl

end

end PodSwap
