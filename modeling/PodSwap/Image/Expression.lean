import PodSwap.Image.Catalog
import PodSwap.Text.Blank

/-!
# Image expressions

The image that a replacement is to run is given by an expression: a name of the catalog, or text in
which `image(name)` and `tag(name)` stand for the parts of an image of the catalog. Placeholders are
found from left to right without overlap, and what takes their place is not looked at again.

Main statement: the pieces of an expression, written out, are the expression (`text_pieces`).
-/

namespace PodSwap

namespace Image

/-- Which part of an image a placeholder asks for. -/
inductive Part where
  | image
  | tag
deriving DecidableEq, Repr

/-- A piece of an expression. -/
inductive Piece where
  /-- A character that stands for itself. -/
  | literal (c : Char)
  /-- A placeholder, with all its characters. -/
  | placeholder (part : Part) (name : List Char) (source : List Char)
deriving DecidableEq, Repr

/-- Whether a character may occur in the name of a placeholder. -/
def isNameChar (c : Char) : Bool :=
  c.isAlphanum || c = '_' || c = '.' || c = '-'

/-- The word that begins a placeholder, with its bracket. -/
def Part.opening : Part → List Char
  | .image => "image(".toList
  | .tag => "tag(".toList

/-- The name between the brackets, with blanks around it, and how many characters they take. -/
def argument? (cs : List Char) : Option (List Char × Nat) :=
  let blanks := cs.takeWhile Text.isBlank
  let cs := cs.drop blanks.length
  let name := cs.takeWhile isNameChar
  let cs := cs.drop name.length
  let more := cs.takeWhile Text.isBlank
  if name.isEmpty then none
  else if (cs.drop more.length).head? = some ')' then
    some (name, blanks.length + name.length + more.length + 1)
  else none

/-- A placeholder for a part at the beginning of a text, with its length. -/
def placeholderOf? (part : Part) (cs : List Char) : Option (List Char × Nat) :=
  if part.opening.isPrefixOf cs then
    (argument? (cs.drop part.opening.length)).map fun (name, n) => (name, part.opening.length + n)
  else none

/-- A placeholder at the beginning of a text, with its length. -/
def placeholder? (cs : List Char) : Option (Part × List Char × Nat) :=
  match placeholderOf? .image cs with
  | some (name, n) => some (.image, name, n)
  | none => (placeholderOf? .tag cs).map fun (name, n) => (.tag, name, n)

/-- The pieces of an expression. `skip` characters at its beginning belong to a placeholder already
found. -/
def piecesFrom : Nat → List Char → List Piece
  | _, [] => []
  | 0, c :: cs =>
    match placeholder? (c :: cs) with
    | some (part, name, n) =>
      .placeholder part name ((c :: cs).take n) :: piecesFrom (n - 1) cs
    | none => .literal c :: piecesFrom 0 cs
  | skip + 1, _ :: cs => piecesFrom skip cs

/-- The pieces of an expression. -/
def pieces (cs : List Char) : List Piece := piecesFrom 0 cs

/-- The characters of a piece. -/
def Piece.text : Piece → List Char
  | .literal c => [c]
  | .placeholder _ _ source => source

/-- A placeholder takes at least one character. -/
theorem pos_of_placeholder? {cs : List Char} {part : Part} {name : List Char} {n : Nat}
    (h : placeholder? cs = some (part, name, n)) : 0 < n := by
  have of (part : Part) {name : List Char} {n : Nat}
      (h : placeholderOf? part cs = some (name, n)) : 0 < n := by
    unfold placeholderOf? at h
    split at h
    · simp only [Option.map_eq_some_iff, Prod.mk.injEq] at h
      obtain ⟨m, -, -, rfl⟩ := h
      have : 0 < part.opening.length := by cases part <;> decide
      omega
    · simp at h
  unfold placeholder? at h
  split at h
  · rename_i hi
    simp only [Option.some.injEq, Prod.mk.injEq] at h
    exact h.2.2 ▸ of .image hi
  · simp only [Option.map_eq_some_iff, Prod.mk.injEq] at h
    obtain ⟨m, hm, -, -, rfl⟩ := h
    exact of .tag hm

theorem text_piecesFrom (skip : Nat) (cs : List Char) :
    (piecesFrom skip cs).flatMap Piece.text = cs.drop skip := by
  induction cs generalizing skip with
  | nil => simp [piecesFrom]
  | cons c cs ih =>
    cases skip with
    | succ skip => simpa [piecesFrom] using ih skip
    | zero =>
      simp only [piecesFrom]
      split
      · rename_i part name n h
        have hn := pos_of_placeholder? h
        obtain ⟨m, rfl⟩ : ∃ m, n = m + 1 := ⟨n - 1, by omega⟩
        simp [Piece.text, ih]
      · simp [Piece.text, ih]

/-- The pieces of an expression, written out, are the expression. -/
theorem text_pieces (cs : List Char) : (pieces cs).flatMap Piece.text = cs := by
  simpa [pieces] using text_piecesFrom 0 cs

/-- The tag of an image that has none. -/
def defaultTag : String := "latest"

/-- What takes the place of a piece. -/
def expandPiece (c : Catalog) : Piece → Except Error (List Char)
  | .literal ch => .ok [ch]
  | .placeholder part name _ => do
    let found ← c.find (String.ofList name)
    match part with
    | .image => return found.image.toList
    | .tag => return (found.tag.getD defaultTag).toList

/-- What takes the places of all pieces; the first that has no image is the error. -/
def expandPieces (c : Catalog) : List Piece → Except Error (List Char)
  | [] => .ok []
  | p :: ps => do
    let text ← expandPiece c p
    let rest ← expandPieces c ps
    return text ++ rest

end Image

namespace Catalog

/-- The images that a name selects: none for the empty name, otherwise the one under it. -/
def resolveSelector (c : Catalog) (name : String) : Except Error (List String) :=
  if name = "" then .ok []
  else do
    let found ← c.find name
    match found.tag with
    | some tag => return [found.image ++ ":" ++ tag]
    | none => return [found.image]

/-- The image that an expression stands for. -/
def resolveExpression (c : Catalog) (expression : String) : Except Error String :=
  let cs := Text.trim expression.toList
  match c.lookup (String.ofList cs) with
  | some found => .ok (found.image ++ ":" ++ found.tag.getD Image.defaultTag)
  | none => (Image.expandPieces c (Image.pieces cs)).map String.ofList

end Catalog

/-- What turns names and expressions into images. -/
structure ImageResolver where
  /-- The images that a name selects. -/
  selectors : String → Except Error (List String)
  /-- The image that an expression stands for. -/
  replacement : String → Except Error String

/-- The resolver that a catalog makes. -/
def Catalog.resolver (c : Catalog) : ImageResolver := ⟨c.resolveSelector, c.resolveExpression⟩

end PodSwap
