/-!
# Markers

The labels and annotations by which replacements and scaled-down workloads are recognised.
-/

namespace PodSwap.Marker

/-- The annotation with the kind of a replacement's parent. -/
def parentKind : String := "devspace.sh/parent-kind"

/-- The annotation with the name of a replacement's parent. -/
def parentName : String := "devspace.sh/parent-name"

/-- The annotation with the fingerprint of the parent's pod template. -/
def parentHash : String := "devspace.sh/parent-hash"

/-- The annotation with the fingerprint of the spec. -/
def configHash : String := "devspace.sh/config-hash"

/-- The annotation with the replica count of a workload scaled to zero. -/
def replicas : String := "devspace.sh/replicas"

/-- The label that every replacement carries. -/
def replaced : String := "devspace.sh/replaced"

/-- The label with the image name that selected the replaced pod. -/
def imageName : String := "devspace.sh/imageName"

/-- The annotation with the name of the container that was selected. -/
def container : String := "devspace.sh/container"

/-- What is appended to the name of a pod for its replacement. -/
def nameSuffix : String := "devspace"

/-- The labels by which controllers recognise their pods. -/
def controllerLabels : List String :=
  ["pod-template-hash", "controller-revision-hash", "statefulset.kubernetes.io/pod-name"]

/-- The greatest length of an object's name, in bytes. -/
def maxNameLength : Nat := 63

end PodSwap.Marker
