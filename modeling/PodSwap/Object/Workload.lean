import PodSwap.Error
import PodSwap.Object.Pod

/-!
# Workloads

The three kinds of objects that keep a number of pods running from a template. They differ in what
their specifications require: a replica set may have no template, a deployment and a stateful set
always have one.

Main statements: the replica count and the annotations of a workload after a change
(`replicas_setReplicas`, `annotationAt_annotate`), and that neither change touches the template
(`podTemplate_setReplicas`).
-/

namespace PodSwap

/-- The kinds of workload. -/
inductive WorkloadKind where
  | replicaSet
  | deployment
  | statefulSet
deriving DecidableEq, Repr, Inhabited

namespace WorkloadKind

/-- The kind as objects name it. -/
def text : WorkloadKind → String
  | .replicaSet => "ReplicaSet"
  | .deployment => "Deployment"
  | .statefulSet => "StatefulSet"

/-- The kind that a text names. -/
def ofText? (s : String) : Option WorkloadKind :=
  if s = "ReplicaSet" then some .replicaSet
  else if s = "Deployment" then some .deployment
  else if s = "StatefulSet" then some .statefulSet
  else none

/-- The kind that the markers of a replacement name; no other kind is known. -/
def parse (s : String) : Except Error WorkloadKind :=
  match ofText? s with
  | some k => .ok k
  | none => .error (.unsupportedOwner "replaced pod" s "" "")

/-- Whether a pod of the kind has to be gone before another can take its place. A stateful set gives
the next pod the same name. -/
def needsFullTermination : WorkloadKind → Bool
  | .statefulSet => true
  | _ => false

theorem ofText?_text (k : WorkloadKind) : ofText? k.text = some k := by
  cases k <;> rfl

theorem text_of_ofText? {s : String} {k : WorkloadKind} (h : ofText? s = some k) : k.text = s := by
  unfold ofText? at h
  split at h
  · simp_all [text]
    exact h ▸ rfl
  · split at h
    · simp_all [text]
      exact h ▸ rfl
    · split at h
      · simp_all [text]
        exact h ▸ rfl
      · simp at h

end WorkloadKind

section

variable [Schema]

/-- The labels by which a workload recognises its pods. -/
abbrev LabelSelector := Schema.labelSelector.Values

/-- What is wanted of a workload of some kind: how many pods, which ones are its own and what it
makes them from. -/
structure WorkloadSpec (Template : Type) (rest : Rest ["replicas", "selector", "template"]) where
  replicas : Option Int32
  selector : LabelSelector
  template : Template
  others : rest.Values
deriving DecidableEq, Repr, Inhabited

/-- How the template stands in the specification of a workload. -/
class TemplateField (Template : Type) where
  part : Part Template
  names : part.names = ["template"]

/-- There may be no template. -/
instance : TemplateField (Option PodTemplate) := ⟨.field "template", rfl⟩

/-- There always is a template. -/
instance : TemplateField PodTemplate := ⟨.always "template", rfl⟩

instance {Template : Type} [TemplateField Template] {rest : Rest _} :
    Record (WorkloadSpec Template rest)
      (Option Int32 × LabelSelector × Template × rest.Values) where
  part := (Part.field "replicas").both <| (Part.always "selector").both <|
    TemplateField.part.both rest.members.part
  fields s := (s.replicas, s.selector, s.template, s.others)
  ofFields := fun (replicas, selector, template, others) =>
    { replicas, selector, template, others }
  ofFields_fields _ := rfl
  fields_ofFields _ := rfl

/-- What is wanted of a replica set. -/
abbrev ReplicaSetSpec := WorkloadSpec (Option PodTemplate) Schema.replicaSetSpec

/-- What is wanted of a deployment. -/
abbrev DeploymentSpec := WorkloadSpec PodTemplate Schema.deploymentSpec

/-- What is wanted of a stateful set. -/
abbrev StatefulSetSpec := WorkloadSpec PodTemplate Schema.statefulSetSpec

/-- How a replica set fares. -/
abbrev ReplicaSetStatus := Schema.replicaSetStatus.Values

/-- How a deployment fares. -/
abbrev DeploymentStatus := Schema.deploymentStatus.Values

/-- How a stateful set fares. -/
abbrev StatefulSetStatus := Schema.statefulSetStatus.Values

/-- A workload of one of the three kinds. -/
inductive Workload where
  | replicaSet (r : Resource ReplicaSetSpec ReplicaSetStatus)
  | deployment (d : Resource DeploymentSpec DeploymentStatus)
  | statefulSet (s : Resource StatefulSetSpec StatefulSetStatus)
deriving DecidableEq, Repr, Inhabited

namespace Workload

/-- The kind of a workload. -/
def kind : Workload → WorkloadKind
  | .replicaSet _ => .replicaSet
  | .deployment _ => .deployment
  | .statefulSet _ => .statefulSet

/-- The metadata of a workload. -/
def metadata : Workload → ObjectMeta
  | .replicaSet r => r.metadata
  | .deployment d => d.metadata
  | .statefulSet s => s.metadata

/-- The workload with other metadata. -/
def setMetadata (m : ObjectMeta) : Workload → Workload
  | .replicaSet r => .replicaSet { r with metadata := m }
  | .deployment d => .deployment { d with metadata := m }
  | .statefulSet s => .statefulSet { s with metadata := m }

/-- The name of a workload, nothing where it has none. -/
def name (w : Workload) : String := w.metadata.name.getD ""

/-- The namespace of a workload, nothing where it has none. -/
def ns (w : Workload) : String := w.metadata.ns.getD ""

/-- Kind, namespace and name in one text. -/
def identity (w : Workload) : String :=
  w.kind.text ++ " " ++ w.ns ++ "/" ++ w.name

/-- The number of pods that the workload asks for, where it says. -/
def replicas : Workload → Option Int32
  | .replicaSet r => r.spec.bind (·.replicas)
  | .deployment d => d.spec.bind (·.replicas)
  | .statefulSet s => s.spec.bind (·.replicas)

/-- The workload asking for another number of pods. -/
def setReplicas (n : Int32) : Workload → Workload
  | .replicaSet r =>
    .replicaSet { r with spec := some { r.spec.getD default with replicas := some n } }
  | .deployment d =>
    .deployment { d with spec := some { d.spec.getD default with replicas := some n } }
  | .statefulSet s =>
    .statefulSet { s with spec := some { s.spec.getD default with replicas := some n } }

/-- What the workload makes its pods from. -/
def podTemplate : Workload → Option PodTemplate
  | .replicaSet r => r.spec.bind (·.template)
  | .deployment d => d.spec.map (·.template)
  | .statefulSet s => s.spec.map (·.template)

/-- The value of an annotation. -/
def annotationAt (w : Workload) (key : String) : Option String := w.metadata.annotationAt key

/-- The workload with an annotation set. -/
def annotate (w : Workload) (key value : String) : Workload :=
  w.setMetadata (w.metadata.annotate key value)

/-- The workload without an annotation. -/
def unannotate (w : Workload) (key : String) : Workload :=
  w.setMetadata (w.metadata.unannotate key)

/-- Reads a workload of a kind. -/
def ofWritten (kind : WorkloadKind) (w : Json.Written) : Reading Workload :=
  match kind with
  | .replicaSet => (Resource.ofWritten "apps/v1" "ReplicaSet" w).map .replicaSet
  | .deployment => (Resource.ofWritten "apps/v1" "Deployment" w).map .deployment
  | .statefulSet => (Resource.ofWritten "apps/v1" "StatefulSet" w).map .statefulSet

/-- Reads a workload of a kind from a value. -/
def ofJson (kind : WorkloadKind) (j : Json) : Reading Workload := ofWritten kind j.written

/-- Writes a workload. -/
def toJson : Workload → Json
  | .replicaSet r => Resource.toJson "apps/v1" "ReplicaSet" r
  | .deployment d => Resource.toJson "apps/v1" "Deployment" d
  | .statefulSet s => Resource.toJson "apps/v1" "StatefulSet" s

/-! ## What a change leaves alone -/

@[simp] theorem kind_setMetadata (w : Workload) (m : ObjectMeta) :
    (w.setMetadata m).kind = w.kind := by
  cases w <;> rfl

@[simp] theorem metadata_setMetadata (w : Workload) (m : ObjectMeta) :
    (w.setMetadata m).metadata = m := by
  cases w <;> rfl

@[simp] theorem replicas_setMetadata (w : Workload) (m : ObjectMeta) :
    (w.setMetadata m).replicas = w.replicas := by
  cases w <;> rfl

@[simp] theorem podTemplate_setMetadata (w : Workload) (m : ObjectMeta) :
    (w.setMetadata m).podTemplate = w.podTemplate := by
  cases w <;> rfl

@[simp] theorem kind_setReplicas (w : Workload) (n : Int32) : (w.setReplicas n).kind = w.kind := by
  cases w <;> rfl

@[simp] theorem metadata_setReplicas (w : Workload) (n : Int32) :
    (w.setReplicas n).metadata = w.metadata := by
  cases w <;> rfl

@[simp] theorem replicas_setReplicas (w : Workload) (n : Int32) :
    (w.setReplicas n).replicas = some n := by
  cases w <;> rfl

/-- Changing the replica count leaves the template alone, where no template counts as the empty
one. -/
theorem podTemplate_setReplicas (w : Workload) (n : Int32) :
    (w.setReplicas n).podTemplate.getD {} = w.podTemplate.getD {} := by
  cases w with
  | replicaSet r =>
    simp only [setReplicas, podTemplate]
    cases r.spec <;> rfl
  | deployment d =>
    simp only [setReplicas, podTemplate]
    cases d.spec <;> rfl
  | statefulSet s =>
    simp only [setReplicas, podTemplate]
    cases s.spec <;> rfl

theorem annotationAt_annotate (w : Workload) (key key' value : String) :
    (w.annotate key value).annotationAt key' =
      if key = key' then some value else w.annotationAt key' := by
  unfold annotate annotationAt ObjectMeta.annotationAt ObjectMeta.annotate
    ObjectMeta.annotationTable
  cases w.metadata.annotations <;> simp [SortedMap.get?_insert]

theorem annotationAt_unannotate (w : Workload) (key key' : String) :
    (w.unannotate key).annotationAt key' = if key = key' then none else w.annotationAt key' := by
  unfold unannotate annotationAt ObjectMeta.annotationAt ObjectMeta.unannotate
    ObjectMeta.annotationTable
  cases w.metadata.annotations <;> simp [SortedMap.get?_erase]

end Workload

end

end PodSwap
