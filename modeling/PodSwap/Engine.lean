import PodSwap.Ownership
import PodSwap.Replacement.Build
import PodSwap.Run.Poll
import PodSwap.Scale
import PodSwap.Settings
import PodSwap.Termination

/-!
# Replacing and reverting

`replacePod` makes sure that the pod a spec selects has an up-to-date replacement; `revertPod`
removes the replacement and gives its parent back its pods. Nothing is kept between calls: what was
done is read off the cluster.

A replacement is found again by its labels. It is kept if the fingerprints it is marked with are
those of its parent and the spec now; otherwise it is deleted and its parent restored before a fresh
pod is looked for. A parent that was scaled down for a replacement which then could not be made is
scaled up again, and that even after a cancellation.
-/

namespace PodSwap

variable [Schema]

/-- What a replacement came to. -/
inductive Outcome where
  /-- There already is a replacement as the spec wants it. -/
  | unchanged (pod : String)
  /-- A replacement was made. -/
  | replaced (selected replacement parent : String)
deriving DecidableEq, Repr

/-- The engine: the cluster it works on, where it gets its images, and its limits. -/
structure Engine (σ : Type) where
  cluster : Cluster σ
  images : ImageResolver
  settings : Settings := {}

namespace Engine

variable {σ : Type} (e : Engine σ)

/-- The pod to take for some options, if there is one in time. -/
def select (o : SelectOptions) : Op σ (Option SelectedPod) := do
  let poll : Poll :=
    { operation := o.operation, intervalMs := o.intervalMs, timeoutMs := o.timeoutMs }
  let picking := (e.cluster.call (.listPods o.ns o.selectorText)).map o.pick
  match ← attempt (poll.wait .caller picking) with
  | .ok s => return some s
  | .error err => if err.isTimeout then return none else throw err

/-- The labels by which the replacement of a spec is found. -/
def replacementLookup (selection : Selection) : SortedMap String :=
  let marked := SortedMap.empty.insert Marker.replaced "true"
  match selection with
  | .imageName name => marked.insert Marker.imageName name
  | .labels labels => marked.insertAll labels

/-- The options by which the replacement of a spec is found. -/
def replacementOptions (ns : String) (spec : Spec) (selection : Selection) (timeoutMs : Nat) :
    SelectOptions :=
  { ns
    labels := replacementLookup selection
    containerName := spec.container
    intervalMs := e.settings.selectPollIntervalMs
    timeoutMs }

/-- The options by which a fresh pod is found, given the images that are selected. -/
def targetOptions (ns : String) (spec : Spec) (selection : Selection) (images : List String) :
    SelectOptions :=
  { ns
    labels :=
      match selection with
      | .imageName _ => .empty
      | .labels labels => labels
    images
    containerName := spec.container
    excludeReplaced := true
    intervalMs := e.settings.selectPollIntervalMs
    timeoutMs := e.settings.selectTimeout }

/-- The images that a spec selects; none where it selects by labels. -/
def selectedImages (selection : Selection) : Except Error (List String) :=
  match selection with
  | .imageName name => e.images.selectors name
  | .labels _ => .ok []

/-- The replacement of a spec, if there is one in time. -/
def findReplacement (spec : Spec) (ns : String) (timeoutMs : Nat) : Op σ (Option SelectedPod) := do
  let selection ← purely spec.selection
  e.select (e.replacementOptions ns spec selection timeoutMs)

/-- The fresh pod that a spec selects, and the workload that controls it. -/
def findTarget (spec : Spec) (ns : String) : Op σ (SelectedPod × Workload) := do
  let selection ← purely spec.selection
  let images ← during "resolve image selector" (purely (e.selectedImages selection))
  match ← during "select target pod" (e.select (e.targetOptions ns spec selection images)) with
  | none => throw (.targetNotFound ns)
  | some target => do
    let parent ← during "get pod parent" (Ownership.resolveParent e.cluster .caller target.pod)
    return (target, parent)

/-- The fingerprints of a parent and a spec. -/
def fingerprints (parent : Workload) (spec : Spec) : Except Error Fingerprints := do
  let parentPrint ←
    inStep "hash parent pod spec" (Fingerprint.ofWorkload parent spec e.images)
  return ⟨parentPrint, Fingerprint.ofSpec spec⟩

/-- Whether a replacement is marked with the fingerprints. -/
def isCurrent (pod : Pod) (prints : Fingerprints) : Bool :=
  pod.metadata.annotationAt Marker.parentHash = some prints.parent &&
    pod.metadata.annotationAt Marker.configHash = some prints.config

/-- Deletes a replacement and waits until it is gone. -/
def deleteReplacement (s : SelectedPod) : Op σ Unit :=
  during "delete replaced pod"
    (Termination.deleteAndWait e.cluster .caller s.pod.ns s.pod.name
      e.settings.deletePollIntervalMs e.settings.terminationTimeout)

/-- Makes a replacement that was found ready for a spec: keeps it and says so, or takes it down with
its parent restored. -/
def keepsReplacement (s : SelectedPod) (spec : Spec) : Op σ Bool := do
  if (Ownership.parentMarkers s.pod).isNone then
    e.deleteReplacement s
    return false
  else
    match ← attempt (Ownership.parentOfReplacement e.cluster .caller s.pod) with
    | .error err =>
      if err.isCancelled then throw err
      else
        -- the markers lead nowhere, so there is no parent to restore
        e.deleteReplacement s
        return false
    | .ok parent => do
      -- taken before anything is deleted: a spec without fingerprints leaves the replacement
      let prints ← purely (e.fingerprints parent spec)
      if isCurrent s.pod prints then
        -- the replacement is as the spec wants it, even if its parent could not be scaled down
        match ← attempt (Scale.quiesce e.cluster .caller parent) with
        | .ok _ => return true
        | .error err => if err.isCancelled then throw err else return true
      else
        e.deleteReplacement s
        let _ ← during "scale up parent" (Scale.restore e.cluster .caller parent)
        return false

/-- Waits for the selected pod to go and creates the replacement. -/
def swapIn (target : SelectedPod) (parent : Workload) (replacement : Pod) : Op σ Pod := do
  during "wait for original pod to terminate"
    (Termination.waitForTermination e.cluster .caller target.pod.ns target.pod.name parent.kind
      e.settings.terminationPollIntervalMs e.settings.terminationTimeout)
  during "create replacement pod" (e.cluster.request .caller (.createPod replacement))

/-- Scales a parent up again as it is now. Nothing interrupts this, and nothing comes of its
errors. -/
def rollBack (parent : Workload) : Op σ Unit := do
  let restoring : Op σ Unit := do
    match ← e.cluster.request .nobody (.getWorkload parent.kind parent.ns parent.name) with
    | some current =>
      let _ ← Scale.restore e.cluster .nobody current
      return ()
    | none => return ()
  let _ ← attempt restoring
  return ()

/-- Puts a replacement in the place of a pod. -/
def swap (target : SelectedPod) (parent : Workload) (spec : Spec) : Op σ Outcome := do
  let prints ← purely (e.fingerprints parent spec)
  let replacement ← during "build replacement pod"
    (purely (Replacement.build target parent spec e.images prints))
  -- up to here nothing of the target or its parent was changed
  let quiesced ← during "scale down parent" (Scale.quiesce e.cluster .caller parent)
  match ← attempt (e.swapIn target parent replacement) with
  | .ok created =>
    let name := (created.metadata.name.or replacement.metadata.name).getD ""
    return .replaced target.pod.name name parent.identity
  | .error err => do
    -- a parent that asked for no pods before is left as it was
    if quiesced then e.rollBack parent
    throw err

/-- Makes sure that the pod which a spec selects has an up-to-date replacement. -/
def replacePod (spec : Spec) : Op σ Outcome := do
  purely spec.validate
  let ns := spec.nsOr e.settings.defaultNamespace
  let existing ← during "find replaced pod"
    (e.findReplacement spec ns e.settings.findReplacedTimeout)
  let kept ←
    match existing with
    | none => pure none
    | some s => do
      if ← e.keepsReplacement s spec then pure (some s) else pure none
  match kept with
  | some s => return .unchanged s.pod.name
  | none => do
    let (target, parent) ← e.findTarget spec ns
    e.swap target parent spec

/-- The parent of a replacement, where its markers lead to one. Only a cancellation is an error. -/
def parentToRestore (s : SelectedPod) : Op σ (Option Workload) := do
  if (Ownership.parentMarkers s.pod).isNone then return none
  else
    match ← attempt (Ownership.parentOfReplacement e.cluster .caller s.pod) with
    | .ok parent => return some parent
    | .error err => if err.isCancelled then throw err else return none

/-- Removes the replacement of a spec and restores its parent; the answer is what was removed. -/
def revertPod (spec : Spec) : Op σ (Option SelectedPod) := do
  purely spec.validate
  let ns := spec.nsOr e.settings.defaultNamespace
  match ← during "find replaced pod" (e.findReplacement spec ns e.settings.revertFindTimeout) with
  | none => return none
  | some s => do
    let parent ← e.parentToRestore s
    e.deleteReplacement s
    match parent with
    | some parent =>
      let _ ← during "scale up parent" (Scale.restore e.cluster .caller parent)
    | none => pure ()
    return some s

end Engine

end PodSwap
