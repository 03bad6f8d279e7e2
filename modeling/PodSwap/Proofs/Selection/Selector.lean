import PodSwap.Engine

/-!
# What a label selector asks for

The text of a label selector is cut at its commas. Whatever a value holds, the term of a plain key
begins with the key, so that labels which fit the text have the key.

Main statements: labels that fit the text of a selection have every plain key it asks for
(`get?_of_satisfies`), and a pod that fits the lookup of a replacement is marked as one
(`replaced_of_satisfies`).
-/

namespace PodSwap

namespace Text

/-- The parts of a text are among the parts of a longer one in which it stands between
separators. -/
theorem mem_splitOn_intercalate {sep : Char} {t : List Char} {ts : List (List Char)} (ht : t ∈ ts)
    {p : List Char} (hp : p ∈ splitOn sep t) : p ∈ splitOn sep ([sep].intercalate ts) := by
  induction ts with
  | nil => cases ht
  | cons t' ts ih =>
    cases ts with
    | nil =>
      rw [List.intercalate_singleton]
      exact List.mem_singleton.mp ht ▸ hp
    | cons t'' ts =>
      rw [List.intercalate_cons_cons, List.append_assoc]
      show p ∈ splitOn sep (t' ++ sep :: [sep].intercalate (t'' :: ts))
      rw [splitOn_append_sep]
      rcases List.mem_cons.mp ht with rfl | ht
      · exact List.mem_append_left _ hp
      · exact List.mem_append_right _ (ih ht)

/-- The first part of a text is what stands before the first separator. -/
theorem splitOn_eq_cons (sep : Char) (cs : List Char) :
    ∃ rest, splitOn sep cs = cs.takeWhile (· ≠ sep) :: rest := by
  induction cs with
  | nil => exact ⟨[], rfl⟩
  | cons c cs ih =>
    obtain ⟨rest, h⟩ := ih
    rw [splitOn]
    by_cases hc : c = sep
    · rw [if_pos hc, List.takeWhile_cons_of_neg (by simpa using hc)]
      exact ⟨_, rfl⟩
    · rw [if_neg hc, List.takeWhile_cons_of_pos (by simpa using hc), h]
      exact ⟨rest, rfl⟩

end Text

/-- Whether a key of a label can stand in the text of a selector: it has none of the characters
that mean something there. -/
def PlainKey (key : String) : Prop :=
  key ≠ "" ∧ ',' ∉ key.toList ∧ '=' ∉ key.toList ∧ '!' ∉ key.toList

instance (key : String) : Decidable (PlainKey key) := by
  unfold PlainKey
  infer_instance

theorem LabelTerm.ofChars_of_plainKey {key : String} (h : PlainKey key) (cs : List Char) :
    LabelTerm.ofChars (key.toList ++ '=' :: cs) = .has key (String.ofList cs) := by
  obtain ⟨hne, -, heq, hbang⟩ := h
  have hsplit := Text.splitFirst?_append heq cs
  cases hk : key.toList with
  | nil => exact absurd (String.toList_eq_nil_iff.mp hk) hne
  | cons c rest =>
    rw [hk] at hsplit hbang
    unfold LabelTerm.ofChars
    rw [List.cons_append] at hsplit ⊢
    split
    · rename_i hnil
      cases hnil
    · rename_i hcons
      cases hcons
      exact absurd List.mem_cons_self hbang
    · rw [hsplit]
      show LabelTerm.has (String.ofList (c :: rest)) _ = _
      rw [← hk, String.ofList_toList]

/-- What a selector asks for where a value holds a comma: what stands before it. -/
def beforeComma (value : String) : String := String.ofList (value.toList.takeWhile (· ≠ ','))

section

variable {o : SelectOptions} {labels : SortedMap String}

/-- Labels that fit the text of a selection fit what stands before the first comma of its terms. -/
theorem fits_of_satisfies (h : satisfies labels o.selectorText = true) (term : String)
    (hterm : term ∈ (if o.excludeReplaced = true
      then (o.labels.toList.map fun e => e.1 ++ "=" ++ e.2) ++ ["!" ++ Marker.replaced]
      else o.labels.toList.map fun e => e.1 ++ "=" ++ e.2)) :
    (LabelTerm.ofChars (term.toList.takeWhile (· ≠ ','))).fits labels = true := by
  obtain ⟨rest, hparts⟩ := Text.splitOn_eq_cons ',' term.toList
  have hpart : term.toList.takeWhile (· ≠ ',') ∈ Text.splitOn ',' o.selectorText.toList := by
    unfold SelectOptions.selectorText
    rw [String.toList_intercalate]
    apply Text.mem_splitOn_intercalate (List.mem_map_of_mem (f := String.toList) hterm)
    rw [hparts]
    exact List.mem_cons_self
  exact List.all_eq_true.mp h _ (List.mem_map_of_mem (f := LabelTerm.ofChars) hpart)

/-- Labels that fit the text of a selection have every plain key that it asks for, with the value
that it asks for. -/
theorem get?_of_satisfies [Schema] {key value : String} (h : satisfies labels o.selectorText = true)
    (hkey : PlainKey key) (hmem : (key, value) ∈ o.labels.toList) :
    labels.get? key = some (beforeComma value) := by
  have hlisted := List.mem_map_of_mem (f := fun e : String × String => e.1 ++ "=" ++ e.2) hmem
  have hfits := fits_of_satisfies h (key ++ "=" ++ value) (by
    split
    · exact List.mem_append_left _ hlisted
    · exact hlisted)
  -- the key and the sign behind it hold no comma, so the part goes on into the value
  have hcut : (key ++ "=" ++ value).toList.takeWhile (· ≠ ',') =
      key.toList ++ '=' :: value.toList.takeWhile (· ≠ ',') := by
    have hplain : ∀ c ∈ key.toList ++ ['='], decide (c ≠ ',') = true := by
      intro c hc
      rw [decide_eq_true_eq]
      rintro rfl
      rcases List.mem_append.mp hc with hc | hc
      · exact hkey.2.1 hc
      · exact absurd (List.mem_singleton.mp hc) (by decide)
    rw [String.toList_append, String.toList_append, show "=".toList = ['='] from rfl,
      List.takeWhile_append_of_pos hplain, List.append_assoc]
    rfl
  rw [hcut, LabelTerm.ofChars_of_plainKey hkey] at hfits
  simpa [LabelTerm.fits, beforeComma] using hfits

/-- Labels that fit the text of a selection that passes over replacements are not those of one. -/
theorem not_contains_of_satisfies [Schema] (h : satisfies labels o.selectorText = true)
    (hexclude : o.excludeReplaced = true) : labels.contains Marker.replaced = false := by
  have hfits := fits_of_satisfies h ("!" ++ Marker.replaced) (by
    rw [if_pos hexclude]
    exact List.mem_append_right _ (List.mem_singleton.mpr rfl))
  have hterm : LabelTerm.ofChars (("!" ++ Marker.replaced).toList.takeWhile (· ≠ ',')) =
      .lacks Marker.replaced := by decide +kernel
  rw [hterm] at hfits
  simpa [LabelTerm.fits] using hfits

end

namespace Engine

theorem get?_insertAll (m n : SortedMap String) (k : String) :
    (m.insertAll n).get? k = (n.get? k).or (m.get? k) := by
  have hfold : ∀ (es : List (String × String)) (acc : SortedMap String),
      (es.foldl (fun acc e => acc.insert e.1 e.2) acc).get? k =
        (Entries.get? k es.reverse).or (acc.get? k) := by
    intro es
    induction es with
    | nil => intro acc; rfl
    | cons e es ih =>
      intro acc
      rw [List.foldl_cons, ih, SortedMap.get?_insert, List.reverse_cons, Entries.get?_append,
        Entries.get?_cons]
      by_cases he : e.1 = k <;> cases Entries.get? k es.reverse <;> simp [he]
  rw [SortedMap.insertAll, hfold, Entries.get?_reverse n.rising]
  rfl

/-- The value with which the lookup of a replacement asks for the mark of one. -/
def markAskedFor : Selection → String
  | .imageName _ => "true"
  | .labels labels => (labels.get? Marker.replaced).getD "true"

/-- The lookup of a replacement always asks for the mark of a replacement. -/
theorem replaced_mem_replacementLookup [Schema] (selection : Selection) :
    (Marker.replaced, markAskedFor selection) ∈ (replacementLookup selection).toList := by
  have hget : (replacementLookup selection).get? Marker.replaced =
      some (markAskedFor selection) := by
    cases selection with
    | imageName name =>
      rw [replacementLookup, SortedMap.get?_insert, if_neg (by decide), SortedMap.get?_insert,
        if_pos rfl]
      rfl
    | labels labels =>
      rw [replacementLookup, get?_insertAll, SortedMap.get?_insert, if_pos rfl, markAskedFor]
      cases labels.get? Marker.replaced <;> rfl
  exact Entries.mem_of_get? hget

/-- A pod that fits the lookup of a replacement is marked as that asks for it. -/
theorem replaced_of_satisfies [Schema] {σ : Type} {e : Engine σ} {ns : String} {spec : Spec}
    {selection : Selection} {timeoutMs : Nat} {labels : SortedMap String}
    (h : satisfies labels (e.replacementOptions ns spec selection timeoutMs).selectorText = true) :
    labels.get? Marker.replaced = some (beforeComma (markAskedFor selection)) :=
  get?_of_satisfies h (by decide) (replaced_mem_replacementLookup selection)

end Engine

end PodSwap
