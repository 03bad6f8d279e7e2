import PodSwap.Digest
import PodSwap.Marker
import PodSwap.Text.Bytes
import PodSwap.Text.Split

/-!
# Names of replacements

Names are joined with dashes. One that is too long for an object is cut between two characters and
has a piece of its digest behind it, so that different long names stay different.

Main statements: there is always a place to cut, so names are made of any parts (`safeJoin?_eq`),
and a name fits its limit (`utf8Length_safeJoin_le`).
-/

namespace PodSwap.Replacement

open Text

/-- How many bytes of a name that is too long are kept. -/
def keptBytes : Nat := 52

/-- How many digits of the digest stand behind a name that was cut. -/
def digestDigits : Nat := 10

/-- The parts joined with dashes, cut and marked where they are too long for a name. Absent if no
place to cut were found, or a text were sliced where it cannot be cut. -/
def safeJoin? (parts : List (List Char)) : Option (List Char) :=
  let whole := Text.join ['-'] parts
  if utf8Length whole ≤ Marker.maxNameLength then some whole
  else do
    let place ← boundary? whole keptBytes
    let front ← slice? whole place
    let mark ← slice? (Digest.hexDigest (String.ofList whole)) digestDigits
    return front ++ '-' :: mark

theorem utf8Size_of_mem_hexAlphabet {c : Char} (h : c ∈ Text.hexAlphabet) : c.utf8Size = 1 := by
  have all : Text.hexAlphabet.all (fun c => c.utf8Size == 1) = true := by decide
  simpa using List.all_eq_true.1 all c h

/-- A piece of a digest takes as many bytes as it has digits. -/
theorem utf8Length_take_hexDigest (s : String) :
    utf8Length ((Digest.hexDigest s).take digestDigits) = digestDigits := by
  rw [utf8Length_of_ascii fun c hc =>
    utf8Size_of_mem_hexAlphabet (Digest.digits_hexDigest s c (List.mem_of_mem_take hc)),
    List.length_take, Digest.length_hexDigest]
  rfl

/-- A name is always made. What is kept of parts that are too long is their longest beginning within
the bytes that are kept. -/
theorem safeJoin?_eq (parts : List (List Char)) : safeJoin? parts = some (
    if utf8Length (Text.join ['-'] parts) ≤ Marker.maxNameLength then Text.join ['-'] parts
    else takeBytes keptBytes (Text.join ['-'] parts) ++
      '-' :: (Digest.hexDigest (String.ofList (Text.join ['-'] parts))).take digestDigits) := by
  unfold safeJoin?
  dsimp only
  generalize Text.join ['-'] parts = whole
  split
  · rfl
  · have hfront := slice?_of_isPrefix (takeBytes_isPrefix keptBytes whole)
    have hmark := slice?_of_isPrefix
      (List.take_prefix digestDigits (Digest.hexDigest (String.ofList whole)))
    rw [utf8Length_take_hexDigest] at hmark
    simp only [boundary?_eq, Option.bind_eq_bind, Option.bind_some, hfront, hmark]
    rfl

/-- The parts joined with dashes, cut and marked where they are too long for a name. -/
def safeJoin (parts : List (List Char)) : List Char :=
  (safeJoin? parts).get (by rw [safeJoin?_eq]; rfl)

/-- The name that parts make. -/
def safeName (parts : List String) : String :=
  String.ofList (safeJoin (parts.map String.toList))

theorem safeJoin_eq (parts : List (List Char)) : safeJoin parts =
    if utf8Length (Text.join ['-'] parts) ≤ Marker.maxNameLength then Text.join ['-'] parts
    else takeBytes keptBytes (Text.join ['-'] parts) ++
      '-' :: (Digest.hexDigest (String.ofList (Text.join ['-'] parts))).take digestDigits :=
  (Option.get_of_eq_some _ (safeJoin?_eq parts)).trans rfl

/-- A name is never too long for an object. -/
theorem utf8Length_safeJoin_le (parts : List (List Char)) :
    utf8Length (safeJoin parts) ≤ Marker.maxNameLength := by
  rw [safeJoin_eq]
  split
  · assumption
  · have hcut := utf8Length_takeBytes_le keptBytes (Text.join ['-'] parts)
    have hdash : ('-').utf8Size = 1 := by decide
    rw [utf8Length_append, utf8Length_cons, hdash, utf8Length_take_hexDigest]
    simp only [keptBytes, digestDigits, Marker.maxNameLength] at *
    omega

end PodSwap.Replacement
