import PodSwap.Replacement.Name

/-!
# Names that are cut to fit

A name is made of any texts, also of such with characters of several bytes. Where they fit, joined
with dashes, they are the name. Otherwise a place to cut is looked for from a fixed number of bytes
backwards. It is found between two characters and before the beginning of the text is passed, and
what stands before it is the longest beginning within that number of bytes.

Main statement: `safeName_whole_or_cut`.
-/

namespace PodSwap

namespace Text

theorem join_eq_intercalate (sep : List Char) (parts : List (List Char)) :
    join sep parts = sep.intercalate parts := by
  induction parts using join.induct with
  | case1 => rfl
  | case2 p => rw [join, List.intercalate_singleton]
  | case3 p q ps ih => rw [join, ih, List.intercalate_cons_cons]

end Text

namespace Replacement

open Text

/-- Whether a text is the longest beginning of another within a number of bytes. -/
structure LongestWithin (n : Nat) (front whole : String) : Prop where
  fits : front.utf8ByteSize ≤ n
  begins : ∃ rest, whole = front ++ rest
  longest : ∀ front' rest', whole = front' ++ rest' → front'.utf8ByteSize ≤ n →
    front'.utf8ByteSize ≤ front.utf8ByteSize

theorem longestWithin_takeBytes (n : Nat) (whole : String) :
    LongestWithin n (String.ofList (takeBytes n whole.toList)) whole := by
  refine ⟨?_, ?_, ?_⟩
  · rw [← utf8Length_ofList]
    exact utf8Length_takeBytes_le n whole.toList
  · obtain ⟨rest, hrest⟩ := takeBytes_isPrefix n whole.toList
    refine ⟨String.ofList rest, ?_⟩
    rw [← String.ofList_append, hrest, String.ofList_toList]
  · intro front' rest' hwhole hfits
    have hprefix : front'.toList <+: whole.toList := by
      rw [hwhole, String.toList_append]
      exact List.prefix_append _ _
    rw [← utf8Length_toList] at hfits
    rw [← utf8Length_toList, ← utf8Length_ofList]
    exact utf8Length_le_of_isPrefix (isPrefix_takeBytes hprefix hfits)

/-- The parts of a name with dashes between them. -/
def dashed (parts : List String) : String := "-".intercalate parts

theorem join_map_toList (parts : List String) :
    Text.join ['-'] (parts.map String.toList) = (dashed parts).toList := by
  rw [join_eq_intercalate, dashed, String.toList_intercalate]
  rfl

theorem safeName_eq (parts : List String) : safeName parts =
    if (dashed parts).utf8ByteSize ≤ Marker.maxNameLength then dashed parts
    else
      String.ofList (takeBytes keptBytes (dashed parts).toList) ++ "-" ++
        String.ofList ((Digest.hexDigest (dashed parts)).take digestDigits) := by
  unfold safeName
  rw [safeJoin_eq, join_map_toList, utf8Length_toList, String.ofList_toList]
  split
  · exact String.ofList_toList
  · rw [← String.toList_inj]
    simp

/-- A name is made of any parts, with no character torn apart and no cut before the beginning, and
it is never longer than 63 bytes. Where the parts fit, it is all of them. Otherwise it is their
longest beginning within 52 bytes, to which the search for a place to cut leads, with a dash and 10
digits of their digest behind it. -/
theorem safeName_whole_or_cut (parts : List String) :
    safeJoin? (parts.map String.toList) = some (safeName parts).toList ∧
    (safeName parts).utf8ByteSize ≤ 63 ∧
    ((dashed parts).utf8ByteSize ≤ 63 → safeName parts = dashed parts) ∧
    (63 < (dashed parts).utf8ByteSize →
      ∃ front, LongestWithin 52 front (dashed parts) ∧
        boundary? (dashed parts).toList 52 = some front.utf8ByteSize ∧
        slice? (dashed parts).toList front.utf8ByteSize = some front.toList ∧
        safeName parts = front ++ "-" ++
          String.ofList ((Digest.hexDigest (dashed parts)).take 10)) := by
  refine ⟨?_, ?_, ?_, ?_⟩
  · rw [safeName, String.toList_ofList, safeJoin, Option.some_get]
  · rw [safeName, ← utf8Length_ofList]
    exact utf8Length_safeJoin_le _
  · intro hfits
    exact (safeName_eq parts).trans (if_pos hfits)
  · intro hlong
    refine ⟨_, longestWithin_takeBytes keptBytes (dashed parts), ?_, ?_, ?_⟩
    · rw [← utf8Length_ofList]
      exact boundary?_eq _ _
    · rw [← utf8Length_ofList, String.toList_ofList]
      exact slice?_of_isPrefix (takeBytes_isPrefix _ _)
    · exact (safeName_eq parts).trans (if_neg (Nat.not_le.mpr hlong))

/-- The 18th character takes the 52nd byte and the two behind it, so 17 characters are kept. -/
theorem cut_between_wide_characters : ∃ parts : List String, 63 < (dashed parts).utf8ByteSize ∧
    safeName parts = "€€€€€€€€€€€€€€€€€" ++ "-" ++
      String.ofList ((Digest.hexDigest (dashed parts)).take 10) := by
  have hlong : 63 < (dashed ["€€€€€€€€€€€€€€€€€€€€€", Marker.nameSuffix]).utf8ByteSize := by
    decide +kernel
  have hkept : takeBytes 52 (dashed ["€€€€€€€€€€€€€€€€€€€€€", Marker.nameSuffix]).toList =
      "€€€€€€€€€€€€€€€€€".toList := by
    decide +kernel
  obtain ⟨front, -, hplace, hslice, hname⟩ := (safeName_whole_or_cut _).2.2.2 hlong
  rw [boundary?_eq, Option.some.injEq] at hplace
  rw [← hplace, slice?_of_isPrefix (takeBytes_isPrefix _ _), hkept, Option.some.injEq,
    String.toList_inj] at hslice
  subst hslice
  exact ⟨_, hlong, hname⟩

end Replacement

end PodSwap
