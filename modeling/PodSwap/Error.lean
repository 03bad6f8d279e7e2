import PodSwap.Duration

/-!
# Errors

Everything that can end an operation, by cause, and the wording of each. A step names what was being
done when the cause arose; steps nest, and `root` looks behind them.

Main statements: the root of an error is never a step (`root_root`), and steps leave it alone
(`root_step`).
-/

namespace PodSwap

/-- What the cluster's API answered instead of an object. -/
inductive ApiFault where
  /-- The API reported a failure. -/
  | status (code : Nat) (reason message : String)
  /-- The answer never arrived. -/
  | transport
  /-- The request could not be formed. -/
  | request (detail : String)
  /-- The answer could not be read. -/
  | body (detail : String)
deriving DecidableEq, Repr

/-- The wording of a fault of the API. -/
def ApiFault.message : ApiFault → String
  | .status code reason message => s!"{message} ({reason}, code {code})"
  | .transport => "connection closed before the answer arrived"
  | .request detail => s!"invalid request: {detail}"
  | .body detail => s!"unreadable answer: {detail}"

/-- Why an operation ended without a result. -/
inductive Error where
  | invalidSpec (problem : String)
  | noOwner (ns name : String)
  | unsupportedOwner (owned kind apiVersion name : String)
  | ownerNotFound (kind ns name : String)
  | missingMarkers (ns name : String)
  | ambiguousContainer (count : Nat)
  | noMatchingContainer (criteria : String)
  | noContainers
  | ambiguousImage (imageName : String) (count : Nat)
  | imageResolution (problem : String)
  | targetNotFound (ns : String)
  /-- A wait ended after this many milliseconds. -/
  | timeout (operation : String) (after : Nat)
  | cancelled
  | serialization (problem : String)
  | patch (problem : String)
  | api (fault : ApiFault)
  | cluster (problem : String)
  /-- What was being done when the cause arose. -/
  | step (name : String) (cause : Error)
deriving DecidableEq, Repr

namespace Error

/-- The wording of an error, its steps in front. -/
def message : Error → String
  | .invalidSpec problem => s!"invalid replacement spec: {problem}"
  | .noOwner ns name =>
    s!"pod {ns}/{name} was not created by a ReplicaSet, Deployment or StatefulSet, " ++
      "replacing only works if pod was created by one of those resources"
  | .unsupportedOwner owned kind apiVersion name =>
    s!"unrecognized owner of {owned}: {kind} {apiVersion} {name}"
  | .ownerNotFound kind ns name => s!"owning {kind} {ns}/{name} not found"
  | .missingMarkers ns name => s!"pod {ns}/{name} carries no parent markers"
  | .ambiguousContainer count => s!"pod spec has {count} containers and containerName is empty"
  | .noMatchingContainer criteria => s!"no container in pod spec matches {criteria}"
  | .noContainers => "no containers in pod spec"
  | .ambiguousImage imageName count =>
    s!"unexpected amount of image selectors resolved for {imageName}: {count}"
  | .imageResolution problem => s!"image resolution failed: {problem}"
  | .targetNotFound ns => s!"no pod found to replace in namespace {ns}"
  | .timeout operation after =>
    let span := Duration.text after
    s!"timed out after {span} waiting for {operation}"
  | .cancelled => "operation cancelled"
  | .serialization problem => s!"serialization error: {problem}"
  | .patch problem => s!"patch error: {problem}"
  | .api fault =>
    let text := fault.message
    s!"kubernetes error: {text}"
  | .cluster problem => s!"cluster error: {problem}"
  | .step name cause =>
    let text := cause.message
    s!"{name}: {text}"

/-- The cause behind all steps. -/
def root : Error → Error
  | .step _ cause => cause.root
  | e => e

/-- Whether the cause is a cancellation. -/
def isCancelled (e : Error) : Bool := e.root = .cancelled

/-- Whether the cause is a wait that took too long. -/
def isTimeout (e : Error) : Bool :=
  match e.root with
  | .timeout .. => true
  | _ => false

@[simp] theorem root_step (name : String) (e : Error) : (step name e).root = e.root := rfl

/-- The root of an error is its own root. -/
theorem root_root (e : Error) : e.root.root = e.root := by
  induction e with
  | step name cause ih => simpa using ih
  | _ => rfl

end Error

/-- What was read, where a problem in reading is a serialization error. -/
def fromReading {α : Type} : Except String α → Except Error α
  | .ok a => .ok a
  | .error problem => .error (.serialization problem)

/-- The result with a step noted in its error. -/
def inStep {α : Type} (name : String) : Except Error α → Except Error α
  | .ok a => .ok a
  | .error e => .error (.step name e)

end PodSwap
