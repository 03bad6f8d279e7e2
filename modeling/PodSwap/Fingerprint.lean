import PodSwap.Digest
import PodSwap.Json.Printer
import PodSwap.Object.Workload
import PodSwap.Replacement.Substitute

/-!
# Fingerprints

Two digests tell whether a replacement is still what its spec asks for: one over the template of its
parent with the image substituted, one over the spec. Each is taken of canonical text, so the order
in which members were written does not matter.
-/

namespace PodSwap

variable [Schema]

/-- The two digests that a replacement is marked with. -/
structure Fingerprints where
  /-- The digest of the parent's template. -/
  parent : String
  /-- The digest of the spec. -/
  config : String
deriving DecidableEq, Repr

namespace Fingerprint

/-- The digest of a value. -/
def ofJson (j : Json) : String := Digest.hex j.canonical

/-- The template of a workload with the image of a spec substituted. No template is the empty
one. -/
def substitutedTemplate (w : Workload) (spec : Spec) (images : ImageResolver) :
    Except Error PodTemplate :=
  let template := w.podTemplate.getD {}
  if spec.image.isSome then do
    let podSpec ← Replacement.substituteImage (template.spec.getD {}) spec images
    return { template with spec := some podSpec }
  else .ok template

/-- The digest of a workload's template. -/
def ofWorkload (w : Workload) (spec : Spec) (images : ImageResolver) : Except Error String :=
  (substitutedTemplate w spec images).map fun t => ofJson (toJson t)

/-- The digest of a spec. -/
def ofSpec (spec : Spec) : String := ofJson spec.toJson

end Fingerprint

end PodSwap
