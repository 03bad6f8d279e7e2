import PodSwap.Image.Catalog
import PodSwap.Spec
import PodSwap.Yaml.Value

/-!
# Loading from YAML

Specs and catalogs as users write them. A spec that is loaded is also checked, so the engine can
count on it to select a pod in one way.

Main statement: what `Spec.ofYaml` yields is valid (`validate_of_ofYaml`).
-/

namespace PodSwap

/-- The tree of a YAML text. -/
def Yaml.load (text : String) : Except Error Yaml.Branch :=
  match Yaml.Tree.ofText? text with
  | some tree => .ok (.ofTree tree)
  | none => .error (.serialization "not one YAML document")

/-- Loads a spec and checks it. -/
def Spec.ofYaml (text : String) : Except Error Spec := do
  let tree ← Yaml.load text
  let spec ← Spec.ofDocument tree
  spec.validate
  return spec

/-- Loads a catalog of images. -/
def Catalog.ofYaml (text : String) : Except Error Catalog := do
  let tree ← Yaml.load text
  Catalog.ofDocument tree

/-- A spec that was loaded is valid. -/
theorem Spec.validate_of_ofYaml {text : String} {spec : Spec} (h : Spec.ofYaml text = .ok spec) :
    spec.validate = .ok () := by
  unfold Spec.ofYaml at h
  cases ht : Yaml.load text with
  | error e => simp [ht, bind, Except.bind] at h
  | ok tree =>
    cases hd : (Spec.ofDocument tree : Except Error Spec) with
    | error e => simp [ht, hd, bind, Except.bind] at h
    | ok s =>
      cases hv : s.validate with
      | error e => simp [ht, hd, hv, bind, Except.bind] at h
      | ok u =>
        simp only [ht, hd, hv, bind, Except.bind, pure, Except.pure, Except.ok.injEq] at h
        subst h
        exact hv

end PodSwap
