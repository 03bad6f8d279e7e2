import Mathlib.Data.List.Basic
import PodSwap.Image.Name
import PodSwap.Replacement.Name

/-!
# Which names of replacements are names of objects

The name of an object is labels with points between them. A label has lower-case letters, digits and
dashes, and no dash at either end.

The name of a pod is one, so the name of its replacement is one as well as long as it is not too
long. One that is too long is cut behind its 52nd character, with a dash and digits behind the cut.
They belong to the label that was cut, unless the cut is behind a point: then they are a label by
themselves, which begins with a dash.

Main statement: `isSubdomain_safeName_iff`.
-/

namespace PodSwap.Replacement

open Text Image

/-- Whether a text is a label of a name. -/
structure IsLabel (cs : List Char) : Prop where
  chars : ∀ c ∈ cs, isAlnum c = true ∨ c = '-'
  head : ∃ c ∈ cs.head?, isAlnum c = true
  last : ∃ c ∈ cs.getLast?, isAlnum c = true

/-- Whether a text is the name of an object: labels with points between them. -/
def IsSubdomain (cs : List Char) : Prop := ∀ label ∈ splitOn '.' cs, IsLabel label

/-- The check whether a text is a label. -/
def isLabel (cs : List Char) : Bool :=
  cs.all (fun c => isAlnum c || c = '-') && cs.head?.any isAlnum && cs.getLast?.any isAlnum

theorem isLabel_iff {cs : List Char} : isLabel cs = true ↔ IsLabel cs := by
  simp only [isLabel, Bool.and_eq_true, List.all_eq_true, Option.any_eq_true, Bool.or_eq_true,
    decide_eq_true_eq]
  exact ⟨fun h => ⟨h.1.1, h.1.2, h.2⟩, fun h => ⟨⟨h.chars, h.head⟩, h.last⟩⟩

instance (cs : List Char) : Decidable (IsLabel cs) := decidable_of_iff _ isLabel_iff

instance (cs : List Char) : Decidable (IsSubdomain cs) := List.decidableBAll _ _

/-! ## Labels -/

theorem isSubdomain_append {xs ys : List Char} :
    IsSubdomain (xs ++ '.' :: ys) ↔ IsSubdomain xs ∧ IsSubdomain ys := by
  unfold IsSubdomain
  rw [splitOn_append_sep]
  exact List.forall_mem_append

theorem isAlnum_dash : isAlnum '-' = false := by
  decide

theorem isAlnum_point : isAlnum '.' = false := by
  decide

theorem IsLabel.no_point {cs : List Char} (h : IsLabel cs) : '.' ∉ cs := fun hpoint =>
  (h.chars '.' hpoint).elim (fun halnum => Bool.false_ne_true (isAlnum_point.symm.trans halnum))
    (by decide)

/-- A label is a name by itself. -/
theorem IsLabel.isSubdomain {cs : List Char} (h : IsLabel cs) : IsSubdomain cs := by
  unfold IsSubdomain
  rw [splitOn_of_not_mem h.no_point]
  exact List.forall_mem_singleton.mpr h

theorem exists_last_point {cs : List Char} (h : '.' ∈ cs) :
    ∃ front back, cs = front ++ '.' :: back ∧ '.' ∉ back := by
  induction cs with
  | nil => cases h
  | cons c cs ih =>
    by_cases hrest : '.' ∈ cs
    · obtain ⟨front, back, rfl, hback⟩ := ih hrest
      exact ⟨c :: front, back, rfl, hback⟩
    · obtain rfl := (List.mem_cons.mp h).resolve_right hrest
      exact ⟨[], cs, rfl, hrest⟩

/-- A name begins with a letter or digit. -/
theorem IsSubdomain.head {c : Char} {cs : List Char} (h : IsSubdomain (c :: cs)) :
    isAlnum c = true := by
  unfold IsSubdomain at h
  rw [splitOn] at h
  split at h
  · obtain ⟨d, hd, _⟩ := (h [] List.mem_cons_self).head
    cases hd
  · split at h
    all_goals
      obtain ⟨d, hd, halnum⟩ := (h _ List.mem_cons_self).head
      cases hd
      exact halnum

/-- A name has only letters, digits, dashes and points. -/
theorem IsSubdomain.chars {cs : List Char} (h : IsSubdomain cs) :
    ∀ c ∈ cs, isAlnum c = true ∨ c = '-' ∨ c = '.' := by
  intro c hc
  rcases mem_of_mem_splitOn '.' hc with rfl | ⟨label, hlabel, hmem⟩
  · exact .inr (.inr rfl)
  · exact ((h label hlabel).chars c hmem).imp_right .inl

theorem IsSubdomain.ne_nil {cs : List Char} (h : IsSubdomain cs) : cs ≠ [] := by
  rintro rfl
  obtain ⟨c, hc, _⟩ := (h [] List.mem_cons_self).head
  cases hc

theorem IsSubdomain.last_ne_point {cs : List Char} (h : IsSubdomain cs) :
    cs.getLast? ≠ some '.' := by
  intro hlast
  obtain ⟨init, rfl⟩ := List.getLast?_eq_some_iff.mp hlast
  exact (isSubdomain_append.mp h).2.ne_nil rfl

/-! ## A dash and a label behind a beginning -/

/-- A label behind a dash continues the last label of a beginning that has no point at its end. -/
theorem isLabel_dashed {front rest back : List Char} (h : IsSubdomain (front ++ rest))
    (hpoint : '.' ∉ front) (hfront : front ≠ []) (hback : IsLabel back) :
    IsLabel (front ++ '-' :: back) := by
  obtain ⟨c, front, rfl⟩ := List.exists_cons_of_ne_nil hfront
  refine ⟨fun d hd => ?_, ⟨c, rfl, h.head⟩, ?_⟩
  · rcases List.mem_append.mp hd with hd | hd
    · rcases h.chars d (List.mem_append_left _ hd) with halnum | rfl | rfl
      · exact .inl halnum
      · exact .inr rfl
      · exact absurd hd hpoint
    · rcases List.mem_cons.mp hd with rfl | hd
      · exact .inr rfl
      · exact hback.chars d hd
  · obtain ⟨d, hd, halnum⟩ := hback.last
    refine ⟨d, ?_, halnum⟩
    rw [List.getLast?_append, List.getLast?_cons, Option.mem_def.mp hd]
    rfl

/-- A beginning of a name with a dash and a label behind it is a name, unless it is empty or ends
behind a point. -/
theorem isSubdomain_dashed_iff {front rest back : List Char} (h : IsSubdomain (front ++ rest))
    (hback : IsLabel back) :
    IsSubdomain (front ++ '-' :: back) ↔ front ≠ [] ∧ front.getLast? ≠ some '.' := by
  have hdash : ¬ IsSubdomain ('-' :: back) := fun hname =>
    Bool.false_ne_true (isAlnum_dash.symm.trans hname.head)
  constructor
  · refine fun hname => ⟨?_, fun hlast => ?_⟩
    · rintro rfl
      exact hdash hname
    · obtain ⟨init, rfl⟩ := List.getLast?_eq_some_iff.mp hlast
      rw [List.append_assoc, List.singleton_append] at hname
      exact hdash (isSubdomain_append.mp hname).2
  · rintro ⟨hne, hlast⟩
    by_cases hpoint : '.' ∈ front
    · obtain ⟨init, label, rfl, hlabel⟩ := exists_last_point hpoint
      rw [List.append_assoc, List.cons_append, isSubdomain_append] at h ⊢
      have hlabelne : label ≠ [] := by
        rintro rfl
        exact hlast List.getLast?_concat
      exact ⟨h.1, (isLabel_dashed h.2 hlabel hlabelne hback).isSubdomain⟩
    · exact (isLabel_dashed h hpoint hne hback).isSubdomain

/-! ## Names of replacements -/

theorem utf8Size_of_isAlnum {c : Char} (h : isAlnum c = true) : c.utf8Size = 1 := by
  rw [Char.utf8Size_eq_one_iff]
  show c ≤ '\x7f'
  rcases Bool.or_eq_true_iff.mp h with h | h
  · exact Char.le_trans (of_decide_eq_true (Bool.and_eq_true_iff.mp h).2) (by decide)
  · exact Char.le_trans (of_decide_eq_true (Bool.and_eq_true_iff.mp h).2) (by decide)

theorem IsSubdomain.utf8Size {cs : List Char} (h : IsSubdomain cs) {c : Char} (hc : c ∈ cs) :
    c.utf8Size = 1 := by
  rcases h.chars c hc with halnum | rfl | rfl
  · exact utf8Size_of_isAlnum halnum
  all_goals decide

theorem isAlnum_of_mem_hexAlphabet {c : Char} (h : c ∈ hexAlphabet) : isAlnum c = true := by
  have all : hexAlphabet.all isAlnum = true := by decide
  exact List.all_eq_true.mp all c h

/-- The digits behind a name that was cut. -/
def cutMark (whole : String) : List Char := (Digest.hexDigest whole).take digestDigits

theorem isLabel_cutMark (whole : String) : IsLabel (cutMark whole) := by
  have halnum : ∀ c ∈ cutMark whole, isAlnum c = true := fun c hc =>
    isAlnum_of_mem_hexAlphabet (Digest.digits_hexDigest whole c (List.mem_of_mem_take hc))
  have hne : cutMark whole ≠ [] := by
    rw [← List.length_pos_iff, cutMark, List.length_take, Digest.length_hexDigest]
    decide
  exact ⟨fun c hc => .inl (halnum c hc),
    ⟨_, List.head?_eq_some_head hne, halnum _ (List.head_mem hne)⟩,
    ⟨_, List.getLast?_eq_some_getLast hne, halnum _ (List.getLast_mem hne)⟩⟩

/-- What is appended to the name of a pod is a label. -/
theorem isLabel_nameSuffix : IsLabel Marker.nameSuffix.toList := by
  decide

/-- The name of a pod with what is appended to it, before anything is cut. -/
def joinedName (name : String) : List Char := name.toList ++ '-' :: Marker.nameSuffix.toList

theorem safeName_toList (name : String) : (safeName [name, Marker.nameSuffix]).toList =
    if utf8Length (joinedName name) ≤ Marker.maxNameLength then joinedName name
    else takeBytes keptBytes (joinedName name) ++
      '-' :: cutMark (String.ofList (joinedName name)) := by
  have hjoin : Text.join ['-'] [name.toList, Marker.nameSuffix.toList] = joinedName name :=
    List.append_assoc _ _ _
  rw [safeName, String.toList_ofList, safeJoin_eq, List.map, List.map, List.map, hjoin]
  rfl

theorem utf8Size_joinedName {name : String} (h : IsSubdomain name.toList) :
    ∀ c ∈ joinedName name, c.utf8Size = 1 := by
  intro c hc
  rcases List.mem_append.mp hc with hc | hc
  · exact h.utf8Size hc
  rcases List.mem_cons.mp hc with rfl | hc
  · decide
  · exact isLabel_nameSuffix.isSubdomain.utf8Size hc

theorem utf8Length_joinedName {name : String} (h : IsSubdomain name.toList) :
    utf8Length (joinedName name) = name.length + 9 := by
  rw [utf8Length_of_ascii (utf8Size_joinedName h), joinedName, List.length_append,
    String.length_toList]
  rfl

theorem safeName_of_short {name : String} (h : IsSubdomain name.toList)
    (hshort : name.length ≤ 54) : (safeName [name, Marker.nameSuffix]).toList =
      name.toList ++ '-' :: Marker.nameSuffix.toList := by
  rw [safeName_toList, if_pos]
  · rfl
  · rw [utf8Length_joinedName h]
    exact Nat.add_le_add_right hshort 9

theorem safeName_of_long {name : String} (h : IsSubdomain name.toList) (hlong : 54 < name.length) :
    (safeName [name, Marker.nameSuffix]).toList =
      name.toList.take 52 ++ '-' :: cutMark (String.ofList (joinedName name)) := by
  rw [safeName_toList, if_neg]
  · have hfront : 52 ≤ name.toList.length := by
      rw [String.length_toList]
      omega
    rw [takeBytes_of_ascii (utf8Size_joinedName h), joinedName, keptBytes,
      List.take_append_of_le_length hfront]
  · rw [utf8Length_joinedName h, Marker.maxNameLength]
    omega

/-- A name that was cut is a name unless the cut is behind a point. -/
theorem isSubdomain_safeName_of_long {name : String} (h : IsSubdomain name.toList)
    (hlong : 54 < name.length) :
    IsSubdomain (safeName [name, Marker.nameSuffix]).toList ↔ name.toList[51]? ≠ some '.' := by
  have hlength : 54 < name.toList.length := String.length_toList ▸ hlong
  have hlast : (name.toList.take 52).getLast? = name.toList[51]? := by
    rw [List.getLast?_eq_getElem?, List.length_take_of_le (by omega),
      List.getElem?_take_of_lt (by decide)]
  have hfront : name.toList.take 52 ≠ [] := by
    rw [← List.length_pos_iff, List.length_take_of_le (by omega)]
    decide
  have hname : IsSubdomain (name.toList.take 52 ++ name.toList.drop 52) := by
    rwa [List.take_append_drop]
  rw [safeName_of_long h hlong, isSubdomain_dashed_iff hname (isLabel_cutMark _), hlast]
  exact and_iff_right hfront

/-- The name of a replacement is never too long. It is the name of an object exactly if nothing is
cut from the name of the pod, or the cut is not behind a point. -/
theorem isSubdomain_safeName_iff {name : String} (h : IsSubdomain name.toList) :
    (safeName [name, Marker.nameSuffix]).utf8ByteSize ≤ Marker.maxNameLength ∧
      (IsSubdomain (safeName [name, Marker.nameSuffix]).toList ↔
        name.length ≤ 54 ∨ name.toList[51]? ≠ some '.') := by
  constructor
  · rw [safeName, ← utf8Length_ofList]
    exact utf8Length_safeJoin_le _
  · rcases Nat.lt_or_ge 54 name.length with hlong | hshort
    · rw [isSubdomain_safeName_of_long h hlong, or_iff_right (Nat.not_le.mpr hlong)]
    · have hname : IsSubdomain (name.toList ++ []) := by
        rwa [List.append_nil]
      rw [safeName_of_short h hshort, isSubdomain_dashed_iff hname isLabel_nameSuffix]
      exact iff_of_true ⟨h.ne_nil, h.last_ne_point⟩ (.inl hshort)

theorem dashed_name_cut : ∃ name : String, 54 < name.length ∧ IsSubdomain name.toList ∧
    (safeName [name, Marker.nameSuffix]).utf8ByteSize ≤ Marker.maxNameLength ∧
    IsSubdomain (safeName [name, Marker.nameSuffix]).toList := by
  have hname : IsSubdomain
      "ledgers-reconciliation-worker-eu-central-production-shard.0".toList := by
    decide +kernel
  obtain ⟨hfits, hvalid⟩ := isSubdomain_safeName_iff hname
  exact ⟨_, by decide +kernel, hname, hfits, hvalid.mpr (.inr (by decide +kernel))⟩

theorem pointed_name_lost : ∃ name : String, IsSubdomain name.toList ∧
    ¬ IsSubdomain (safeName [name, Marker.nameSuffix]).toList := by
  have hname : IsSubdomain
      "ledgers-reconciliation-worker-eu-central-production.shard-0".toList := by
    decide +kernel
  refine ⟨_, hname, fun hvalid => ?_⟩
  rw [isSubdomain_safeName_of_long hname (by decide +kernel)] at hvalid
  exact hvalid (by decide +kernel)

end PodSwap.Replacement
