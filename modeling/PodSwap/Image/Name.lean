import PodSwap.Text.Blank
import PodSwap.Text.Split

/-!
# Image names

An image name is a repository, perhaps behind a registry, with a tag or a digest behind it. `strip`
leaves the repository alone, in one spelling for all names of the default registry, and `matches?`
decides whether the image of a container is one that a selector asks for.

Names are recognised by small automata over their characters: between runs of lower-case letters and
digits a registry host allows one separator, and a path component allows a point, one or two
underscores, or any number of dashes.
-/

namespace PodSwap.Image

/-- Lower-case letters and digits. -/
def isAlnum (c : Char) : Bool := c.isLower || c.isDigit

/-! ## The grammar -/

/-- Where a reader stands in a component of a name. -/
inductive Place where
  /-- A letter or digit has to come. -/
  | gap
  /-- In a run of letters and digits, where the component may end. -/
  | run
  /-- Behind one underscore. -/
  | underscore
  /-- Behind dashes. -/
  | dashes
deriving DecidableEq, Repr

/-- One character further in a host. -/
def hostStep (p : Place) (c : Char) : Option Place :=
  if isAlnum c then some .run
  else
    match p with
    | .run => if c = '.' ∨ c = '_' ∨ c = '-' then some .gap else none
    | _ => none

/-- One character further in a component of a path. -/
def componentStep (p : Place) (c : Char) : Option Place :=
  if isAlnum c then some .run
  else
    match p with
    | .run =>
      if c = '.' then some .gap
      else if c = '_' then some .underscore
      else if c = '-' then some .dashes
      else none
    | .underscore => if c = '_' then some .gap else none
    | .dashes => if c = '-' then some .dashes else none
    | .gap => none

/-- Whether steps lead from the start to a place where the text may end. -/
def accepts (step : Place → Char → Option Place) (cs : List Char) : Bool :=
  cs.foldlM step .gap = some .run

/-- Whether the text is a component of a path. -/
def isComponent (cs : List Char) : Bool := accepts componentStep cs

/-- Whether the text is a host, with a port or without. -/
def isHost (cs : List Char) : Bool :=
  match Text.splitFirst? ':' cs with
  | none => accepts hostStep cs
  | some (host, port) => accepts hostStep host && !port.isEmpty && port.all Char.isDigit

/-- Whether the text is a name without tag and digest: a host or a component, and components. -/
def isName (cs : List Char) : Bool :=
  match Text.splitOn '/' cs with
  | [] => false
  | first :: rest => isHost first && rest.all isComponent

/-! ## The repository of a name -/

/-- The text before the first occurrence of a character, all of it where there is none. -/
def beforeFirst (c : Char) (cs : List Char) : List Char := cs.takeWhile (· ≠ c)

/-- The name without its digest and its tag. A tag is looked for behind the last slash, as a colon
before it belongs to a port. -/
def withoutSuffix (cs : List Char) : List Char :=
  let name := beforeFirst '@' cs
  let (dir, last) := Text.splitLast '/' name
  dir ++ beforeFirst ':' last

/-- Whether the first part of a name is a registry and not a component of its path. -/
def isRegistry (first : List Char) : Bool :=
  first.contains '.' || first.contains ':' || first = "localhost".toList

/-- The registry and the path of a name; without a registry the default one is meant. -/
def registryAndPath (name : List Char) : List Char × List Char :=
  match Text.splitFirst? '/' name with
  | some (first, rest) =>
    if isRegistry first then (first, rest) else ("docker.io".toList, name)
  | none => ("docker.io".toList, name)

/-- Whether the registry is the default one. -/
def isDefaultRegistry (registry : List Char) : Bool :=
  registry = "docker.io".toList || registry = "index.docker.io".toList

/-- The path without the part that stands for images of the default registry itself. -/
def withoutLibrary (path : List Char) : List Char :=
  let library := "library/".toList
  if library.isPrefixOf path then path.drop library.length else path

/-- The repository of a name, in the one spelling it has here. -/
def repository (name : List Char) : List Char :=
  let (registry, path) := registryAndPath name
  if isDefaultRegistry registry then withoutLibrary path else registry ++ '/' :: path

/-- The repository that a name refers to; absent where the name is malformed. -/
def stripChars (cs : List Char) : Option (List Char) :=
  let name := withoutSuffix (Text.trim cs)
  if isName name then some (repository name) else none

/-- The repository that a name refers to; absent where the name is malformed. -/
def strip (image : String) : Option String := (stripChars image.toList).map String.ofList

/-! ## Selecting images -/

/-- The character that stands for any one letter in a selector. -/
def placeholder : Char := '#'

/-- Whether an image is the selector character by character, with letters for the placeholders. -/
def fitsPattern : List Char → List Char → Bool
  | [], [] => true
  | s :: ss, c :: cs => (if s = placeholder then c.isAlpha else s = c) && fitsPattern ss cs
  | _, _ => false

/-- The repository of a name, or the name itself where it is malformed. -/
def stripOrSelf (cs : List Char) : List Char := (stripChars cs).getD cs

/-- The repository of a selector, which is read with letters for its placeholders. -/
def selectorRepository (selector : List Char) : List Char :=
  (stripChars (selector.map fun c => if c = placeholder then 'a' else c)).getD selector

/-- Whether a container's image is one that a selector asks for. A selector that is a bare
repository asks for every tag of it; one with the default tag also for the bare repository; one with
placeholders for what fits them; any other for itself only. -/
def matchesChars (selector image : List Char) : Bool :=
  let wanted := selectorRepository selector
  let found := stripOrSelf image
  -- a bare repository, in the spelling it has here
  if wanted = selector then wanted = found
  else if wanted ++ ":latest".toList = selector ∧ found = image then true
  else if selector.contains placeholder then fitsPattern selector image
  else selector = image

/-- Whether a container's image is one that a selector asks for. -/
def matches? (selector image : String) : Bool := matchesChars selector.toList image.toList

end PodSwap.Image
