import PodSwap.Image.Expression
import PodSwap.Object.Pod
import PodSwap.Image.Name
import PodSwap.Spec

/-!
# Substituting the image

A spec with an image expression has one container run that image instead of its own: the only
container, or the one that the spec names, or, for a spec that selects by image, the first that runs
the selected image.
-/

namespace PodSwap.Replacement

variable [Schema]

/-- The container whose image is substituted, by its place among several. -/
def substitutedIndex (containers : List Container) (spec : Spec) (images : ImageResolver) :
    Except Error Nat := do
  let count := containers.length
  match ← spec.selection with
  | .labels _ =>
    if count = 1 then return 0
    else
      match spec.container with
      | none => .error (.ambiguousContainer count)
      | some name =>
        match containers.findIdx? fun c => c.name = name with
        | some i => return i
        | none => .error (.noMatchingContainer ("containerName " ++ name))
  | .imageName name =>
    match ← images.selectors name with
    | [selector] =>
      if count = 1 then return 0
      else
        let runs (c : Container) : Bool :=
          match c.image with
          | some image => Image.matches? selector image
          | none => false
        match containers.findIdx? runs with
        | some i => return i
        | none => .error (.noMatchingContainer ("image " ++ selector))
    | selectors => .error (.ambiguousImage name selectors.length)

/-- The specification of a pod with the image of a spec substituted into it. -/
def substituteImage (pod : PodSpec) (spec : Spec) (images : ImageResolver) :
    Except Error PodSpec :=
  match spec.image with
  | none => .ok pod
  | some expression => do
    let image ← images.replacement expression
    if pod.containers.isEmpty then .error .noContainers
    else
      let i ← substitutedIndex pod.containers spec images
      let containers := pod.containers.modify i fun c => { c with image := some image }
      return { pod with containers }

end PodSwap.Replacement
