/-!
# Request targets

The place that a request goes to, cut out of one text: a path up to the first question mark, a query
behind it, and nothing from a number sign on. Blanks, controls and a few marks have no place in a
target; there is no escaping here, so a name that holds a separator moves what is behind it.

Main statement: the path of a target holds neither separator (`not_mem_path`).
-/

namespace PodSwap.Api

/-- Where a request goes. -/
structure Target where
  path : String
  /-- The part behind the question mark, without separators of fields in front of it. -/
  query : String := ""
deriving DecidableEq, Repr

namespace Target

/-- The greatest length of a target in bytes. -/
def maxLength : Nat := 65534

/-- Whether a character may stand in a path. -/
def isPathChar (c : Char) : Bool :=
  c = '!' || c = '"' || ('$' ≤ c && c ≤ ';') || c = '=' || ('@' ≤ c && c ≤ '_') ||
    ('a' ≤ c && c ≤ '~') || 0x80 ≤ c.toNat

/-- Whether a character may stand in a query. -/
def isQueryChar (c : Char) : Bool :=
  c = '!' || ('$' ≤ c && c ≤ ';') || c = '=' || ('?' ≤ c && c ≤ '~') || 0x80 ≤ c.toNat

/-- Whether a character may be passed over in search of the end of the path. -/
def staysInPath (c : Char) : Bool := c ≠ '?' && c ≠ '#'

/-- The query of a target, given what is behind its path. -/
def queryBehind : List Char → List Char
  | '?' :: cs => cs.takeWhile (· ≠ '#')
  | _ => []

/-- The target that a text names. -/
def ofText? (s : String) : Option Target :=
  let path := s.toList.takeWhile staysInPath
  let query := queryBehind (s.toList.dropWhile staysInPath)
  if s.utf8ByteSize ≤ maxLength ∧ path.all isPathChar ∧ query.all isQueryChar then
    some ⟨String.ofList path, String.ofList (query.dropWhile (· = '&'))⟩
  else none

/-- A path ends before the first separator. -/
theorem not_mem_path {s : String} {t : Target} (h : ofText? s = some t) :
    '?' ∉ t.path.toList ∧ '#' ∉ t.path.toList := by
  simp only [ofText?] at h
  split at h
  · simp only [Option.some.injEq] at h
    subst h
    constructor <;> intro hm <;>
      · have := List.all_takeWhile (p := staysInPath) (l := s.toList)
        rw [List.all_eq_true] at this
        have := this _ (by simpa using hm)
        simp [staysInPath] at this
  · simp at h

end Target

end PodSwap.Api
