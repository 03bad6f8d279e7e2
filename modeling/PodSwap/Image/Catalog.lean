import PodSwap.Document
import PodSwap.Error
import PodSwap.Text.Split

/-!
# Image catalogs

A catalog says which image stands behind a name: the configured one with its first tag, or what the
last build made of it. A dotted name that a catalog does not have is looked for in the catalog of
the dependency before the first dot, under the rest of the name.
-/

namespace PodSwap

/-- An image of the project and the tags it is built with. -/
structure ImageEntry where
  image : String
  tags : List String := []
deriving DecidableEq, Repr, Inhabited

/-- The image and the tag that the last build made. -/
structure GeneratedImage where
  imageName : String
  tag : String
deriving DecidableEq, Repr, Inhabited

/-- The images of a project and the catalogs of its dependencies. -/
inductive Catalog where
  | mk (images : SortedMap ImageEntry) (generated : SortedMap GeneratedImage)
    (dependencies : List (String × Catalog))
deriving Inhabited

/-- An image with its tag, where it has one. -/
structure TaggedImage where
  image : String
  tag : Option String
deriving DecidableEq, Repr

namespace Catalog

/-- The catalog without images. -/
def empty : Catalog := .mk .empty .empty []

/-- The configured images. -/
def images : Catalog → SortedMap ImageEntry
  | .mk images _ _ => images

/-- The images of the last build. -/
def generated : Catalog → SortedMap GeneratedImage
  | .mk _ generated _ => generated

/-- The catalogs of the dependencies by their names. -/
def dependencies : Catalog → List (String × Catalog)
  | .mk _ _ dependencies => dependencies

/-- What a catalog itself has under a name. A build counts only for a configured image and only with
both its texts. -/
def own? (c : Catalog) (name : String) : Option TaggedImage :=
  (c.images.get? name).map fun entry =>
    match c.generated.get? name with
    | some g =>
      if g.imageName ≠ "" ∧ g.tag ≠ "" then ⟨g.imageName, some g.tag⟩
      else ⟨entry.image, entry.tags.head?⟩
    | none => ⟨entry.image, entry.tags.head?⟩

/-- The name that the remaining segments make. -/
def joined (segments : List (List Char)) : String := String.ofList (Text.join ['.'] segments)

/-- The image under the segments of a dotted name: the catalog's own, else that of the dependency
that the first segment names. -/
def lookupSegments (c : Catalog) : List (List Char) → Option TaggedImage
  | [] => none
  | [segment] => c.own? (joined [segment])
  | segment :: next :: rest =>
    -- an image of the catalog's own may have dots in its name
    match c.own? (joined (segment :: next :: rest)) with
    | some found => some found
    | none =>
      match Entries.get? (String.ofList segment) c.dependencies with
      | some dependency => dependency.lookupSegments (next :: rest)
      | none => none

/-- The image under a name. -/
def lookup (c : Catalog) (name : String) : Option TaggedImage :=
  c.lookupSegments (Text.splitOn '.' name.toList)

/-- The image under a name that has to be there. -/
def find (c : Catalog) (name : String) : Except Error TaggedImage :=
  match c.lookup name with
  | some found => .ok found
  | none => .error (.imageResolution s!"couldn't find imageName {name}")

/-! ## Reading -/

/-- Reads an image of a catalog. -/
def readEntry {δ : Type} [Document δ] (d : δ) : Following ImageEntry := do
  let fs ← Document.record ["image", "tags"] d
  return {
    image := ← Document.required fs "image" Document.text
    tags := ← Document.defaulted fs "tags" [] (Document.list Document.text) }

/-- Reads what a build made. -/
def readGenerated {δ : Type} [Document δ] (d : δ) : Following GeneratedImage := do
  let fs ← Document.record ["imageName", "tag"] d
  return {
    imageName := ← Document.required fs "imageName" Document.text
    tag := ← Document.required fs "tag" Document.text }

/-- Reads a catalog whose dependencies nest at most `depth` deep. -/
def readNested {δ : Type} [Document δ] : Nat → δ → Following Catalog
  | 0, _ => throw "dependencies nest too deep"
  | depth + 1, d => do
    let fs ← Document.record ["images", "generated", "dependencies"] d
    let images ← Document.defaulted fs "images" .empty (Document.table readEntry)
    let generated ← Document.defaulted fs "generated" .empty (Document.table readGenerated)
    let dependencies ←
      Document.defaulted fs "dependencies" .empty (Document.table (readNested depth))
    return .mk images generated dependencies.toList

/-- The deepest nesting of dependencies that is read; a document cannot nest deeper. -/
def maxDepth : Nat := 130

/-- Reads a catalog. -/
def ofDocument {δ : Type} [Document δ] (d : δ) : Except Error Catalog :=
  fromReading (Document.run (readNested maxDepth) d)

end Catalog

end PodSwap
