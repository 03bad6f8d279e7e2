import PodSwap.Object.Schema

/-!
# Object metadata

Names, labels, annotations and owners of an object.
-/

namespace PodSwap

section

variable [Schema]

/-- A reference from an object to one that owns it. -/
structure OwnerReference where
  apiVersion : String := ""
  kind : String := ""
  name : String := ""
  uid : String := ""
  controller : Option Bool := none
  others : Schema.ownerReference.Values := default
deriving DecidableEq, Repr, Inhabited

instance : Record OwnerReference
    (String × String × String × String × Option Bool × Schema.ownerReference.Values) where
  part := (Part.always "apiVersion").both <| (Part.always "kind").both <|
    (Part.always "name").both <| (Part.always "uid").both <| (Part.field "controller").both <|
    Schema.ownerReference.members.part
  fields r := (r.apiVersion, r.kind, r.name, r.uid, r.controller, r.others)
  ofFields := fun (apiVersion, kind, name, uid, controller, others) =>
    { apiVersion, kind, name, uid, controller, others }
  ofFields_fields _ := rfl
  fields_ofFields _ := rfl

/-- The metadata of an object. -/
structure ObjectMeta where
  name : Option String := none
  ns : Option String := none
  uid : Option String := none
  creationTimestamp : Option Timestamp := none
  deletionTimestamp : Option Timestamp := none
  labels : Option (SortedMap String) := none
  annotations : Option (SortedMap String) := none
  ownerReferences : Option (List OwnerReference) := none
  others : Schema.objectMeta.Values := default
deriving DecidableEq, Repr, Inhabited

instance : Record ObjectMeta
    (Option String × Option String × Option String × Option Timestamp × Option Timestamp ×
      Option (SortedMap String) × Option (SortedMap String) × Option (List OwnerReference) ×
      Schema.objectMeta.Values) where
  part := (Part.field "name").both <| (Part.field "namespace").both <|
    (Part.field "uid").both <| (Part.field "creationTimestamp").both <|
    (Part.field "deletionTimestamp").both <| (Part.field "labels").both <|
    (Part.field "annotations").both <| (Part.field "ownerReferences").both <|
    Schema.objectMeta.members.part
  fields m := (m.name, m.ns, m.uid, m.creationTimestamp, m.deletionTimestamp, m.labels,
    m.annotations, m.ownerReferences, m.others)
  ofFields := fun (name, ns, uid, creationTimestamp, deletionTimestamp, labels, annotations,
      ownerReferences, others) =>
    { name, ns, uid, creationTimestamp, deletionTimestamp, labels, annotations, ownerReferences,
      others }
  ofFields_fields _ := rfl
  fields_ofFields _ := rfl

namespace ObjectMeta

/-- The value of a label. -/
def labelAt (m : ObjectMeta) (key : String) : Option String := m.labels.bind (·.get? key)

/-- The value of an annotation. -/
def annotationAt (m : ObjectMeta) (key : String) : Option String := m.annotations.bind (·.get? key)

/-- The annotations, none counting as an empty table. -/
def annotationTable (m : ObjectMeta) : SortedMap String := m.annotations.getD .empty

/-- The labels, none counting as an empty table. -/
def labelTable (m : ObjectMeta) : SortedMap String := m.labels.getD .empty

/-- The metadata with an annotation set. -/
def annotate (m : ObjectMeta) (key value : String) : ObjectMeta :=
  { m with annotations := some (m.annotationTable.insert key value) }

/-- The metadata without an annotation. -/
def unannotate (m : ObjectMeta) (key : String) : ObjectMeta :=
  { m with annotations := some (m.annotationTable.erase key) }

/-- The owner that controls the object: the first of its owners that says so. -/
def controller (m : ObjectMeta) : Option OwnerReference :=
  (m.ownerReferences.getD []).find? fun r => r.controller = some true

end ObjectMeta

end

end PodSwap
