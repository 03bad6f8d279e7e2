import PodSwap.Image.Name
import PodSwap.Marker
import PodSwap.Object.Pod

/-!
# Selecting a pod and its container

Pods are listed by labels; of those the newest comes first, and among pods of one age the one whose
name is least. A pod is a candidate if one of its containers has the name and runs one of the images
that are asked for. Candidates that are being deleted are passed over.

The text of a label selector is a list of terms. `satisfies` says which labels fit such a text.
-/

namespace PodSwap

variable [Schema]

/-- What a pod and its container have to be like, and how long to look for them. -/
structure SelectOptions where
  ns : String
  labels : SortedMap String := .empty
  /-- Images of which the container runs one; none means any. -/
  images : List String := []
  containerName : Option String := none
  /-- Whether replacements are passed over. -/
  excludeReplaced : Bool := false
  /-- Whether only the regular containers of a pod count. -/
  skipInit : Bool := true
  intervalMs : Nat
  timeoutMs : Nat
deriving Repr

/-- A pod with the container that was asked for. -/
structure SelectedPod where
  pod : Pod
  container : Container
deriving DecidableEq, Repr

namespace SelectOptions

/-- The text of the label selector: the labels with their values, and that the pod is no
replacement. -/
def selectorText (o : SelectOptions) : String :=
  let terms := o.labels.toList.map fun e => e.1 ++ "=" ++ e.2
  -- a replacement is recognised by its label alone, whatever its value
  let terms := if o.excludeReplaced then terms ++ ["!" ++ Marker.replaced] else terms
  ",".intercalate terms

/-- What is waited for, as errors name it. -/
def operation (o : SelectOptions) : String :=
  "pod matching [" ++ o.selectorText ++ "] in namespace " ++ o.ns

/-- Whether a container is one that is asked for. -/
def wants (o : SelectOptions) (c : Container) : Bool :=
  let named :=
    match o.containerName with
    | none => true
    | some name => c.name = name
  let runs :=
    o.images.isEmpty ||
      o.images.any fun selector =>
        match c.image with
        | some image => Image.matches? selector image
        | none => false
  named && runs

/-- The containers of a pod in the order they are considered. -/
def containersOf (o : SelectOptions) (spec : PodSpec) : List Container :=
  spec.containers ++ (if o.skipInit then [] else spec.initContainers.getD [])

/-- The container of a pod that is asked for, if it has one. -/
def matchingContainer (o : SelectOptions) (pod : Pod) : Option Container :=
  pod.spec.bind fun spec => (o.containersOf spec).find? o.wants

/-- The pod with its container, if it has one that is asked for. -/
def candidate (o : SelectOptions) (pod : Pod) : Option SelectedPod :=
  (o.matchingContainer pod).map fun c => ⟨pod, c⟩

end SelectOptions

/-! ## The order of pods -/

/-- Whether a name is not behind another; no name comes first. -/
def nameLe : Option String → Option String → Bool
  | none, _ => true
  | some _, none => false
  | some a, some b => !decide (Before b a)

/-- Whether a pod was created after another; one without a time of creation is the oldest. -/
def newer (a b : Option Timestamp) : Bool :=
  match a, b with
  | some s, some t => t.before s
  | some _, none => true
  | none, _ => false

/-- Whether a pod is considered no later than another. -/
def podLe (a b : Pod) : Bool :=
  let s := a.metadata.creationTimestamp
  let t := b.metadata.creationTimestamp
  newer s t || (!newer t s && nameLe a.metadata.name b.metadata.name)

namespace SelectOptions

/-- The pod to take from a list: the first candidate that is not being deleted. -/
def pick (o : SelectOptions) (pods : List Pod) : Option SelectedPod :=
  ((pods.mergeSort podLe).filterMap o.candidate).find? fun s => !s.pod.isTerminating

end SelectOptions

/-! ## Label selectors -/

/-- A term of a label selector. -/
inductive LabelTerm where
  /-- The label has the value. -/
  | has (key value : String)
  /-- There is no such label. -/
  | lacks (key : String)
  /-- Nothing to ask. -/
  | blank
  /-- A term that no labels fit. -/
  | malformed
deriving DecidableEq, Repr

namespace LabelTerm

/-- The term that a text stands for. -/
def ofChars (cs : List Char) : LabelTerm :=
  match cs with
  | [] => .blank
  | '!' :: key => .lacks (String.ofList key)
  | _ =>
    match Text.splitFirst? '=' cs with
    | some (key, value) => .has (String.ofList key) (String.ofList value)
    | none => .malformed

/-- Whether labels fit a term. -/
def fits (labels : SortedMap String) : LabelTerm → Bool
  | .has key value => labels.get? key = some value
  | .lacks key => !labels.contains key
  | .blank => true
  | .malformed => false

end LabelTerm

/-- The terms of a label selector. -/
def labelTerms (selector : String) : List LabelTerm :=
  (Text.splitOn ',' selector.toList).map LabelTerm.ofChars

/-- Whether labels fit every term of a label selector. -/
def satisfies (labels : SortedMap String) (selector : String) : Bool :=
  (labelTerms selector).all (LabelTerm.fits labels)

end PodSwap
