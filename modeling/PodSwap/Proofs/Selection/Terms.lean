import PodSwap.Proofs.Json.Path
import PodSwap.Proofs.Selection.Selector

/-!
# The terms of a label selector

A selection asks for labels with their values, and it may pass over replacements. Its text is read
as exactly these terms, as long as no key has a character that means something in the text and no
value has a comma. A selection that asks for nothing has the empty text, which is one blank term.

Main statement: `selectorText_asks`, of which labels fit the text, and that selections which ask for
different things have different texts.
-/

namespace PodSwap

/-- A text that was put together from parts without the separator is cut into these parts. -/
theorem Text.splitOn_intercalate {sep : Char} {parts : List (List Char)} (hne : parts ≠ [])
    (h : ∀ part ∈ parts, sep ∉ part) : splitOn sep ([sep].intercalate parts) = parts := by
  induction parts with
  | nil => exact absurd rfl hne
  | cons part parts ih =>
    have hpart := splitOn_of_not_mem (h part List.mem_cons_self)
    cases parts with
    | nil =>
      rw [List.intercalate_singleton]
      exact hpart
    | cons next parts =>
      have hrest := ih (List.cons_ne_nil next parts) fun p hp => h p (List.mem_cons_of_mem part hp)
      rw [List.intercalate_cons_cons, List.append_assoc]
      show splitOn sep (part ++ sep :: [sep].intercalate (next :: parts)) = _
      rw [splitOn_append_sep, hpart, hrest]
      rfl

/-- Whether labels can be asked for in the text of a selector. -/
def PlainLabels (labels : SortedMap String) : Prop :=
  ∀ e ∈ labels.toList, PlainKey e.1 ∧ ',' ∉ e.2.toList

instance (labels : SortedMap String) : Decidable (PlainLabels labels) := by
  unfold PlainLabels
  infer_instance

/-- The label that a term asks for, with its value. -/
def LabelTerm.entry? : LabelTerm → Option (String × String)
  | .has key value => some (key, value)
  | _ => none

namespace SelectOptions

/-- What a selection asks of labels. -/
def terms (o : SelectOptions) : List LabelTerm :=
  o.labels.toList.map (fun e => .has e.1 e.2) ++
    if o.excludeReplaced then [.lacks Marker.replaced] else []

/-- The texts of the terms of a selection. -/
def termTexts (o : SelectOptions) : List String :=
  o.labels.toList.map (fun e => e.1 ++ "=" ++ e.2) ++
    if o.excludeReplaced then ["!" ++ Marker.replaced] else []

variable {o : SelectOptions}

theorem selectorText_eq (o : SelectOptions) : o.selectorText = ",".intercalate o.termTexts := by
  unfold selectorText termTexts
  dsimp only
  split
  · rfl
  · rw [List.append_nil]

/-- Labels fit what a selection asks for if they have its labels and, where it passes over
replacements, no mark of one. -/
theorem fits_terms_iff {labels : SortedMap String} :
    (∀ t ∈ o.terms, t.fits labels = true) ↔
      (∀ key value, o.labels.get? key = some value → labels.get? key = some value) ∧
        (o.excludeReplaced = true → labels.contains Marker.replaced = false) := by
  rw [terms, List.forall_mem_append, List.forall_mem_map]
  refine and_congr ⟨?_, ?_⟩ ?_
  · intro h key value hget
    exact of_decide_eq_true (h (key, value) (Entries.mem_of_get? hget))
  · intro h e he
    exact decide_eq_true (h e.1 e.2 (Entries.get?_of_mem o.labels.rising he))
  · cases o.excludeReplaced <;> simp [LabelTerm.fits]

/-- The text of each term is read as the term. -/
theorem map_ofChars_termTexts (h : PlainLabels o.labels) :
    o.termTexts.map (fun t => LabelTerm.ofChars t.toList) = o.terms := by
  have hlabels : (o.labels.toList.map fun e => e.1 ++ "=" ++ e.2).map
      (fun t => LabelTerm.ofChars t.toList) = o.labels.toList.map fun e => .has e.1 e.2 := by
    rw [List.map_map]
    refine List.map_congr_left fun e he => ?_
    have hterm := LabelTerm.ofChars_of_plainKey (h e he).1 e.2.toList
    rw [String.ofList_toList] at hterm
    rw [Function.comp_apply, String.toList_append, String.toList_append, List.append_assoc]
    exact hterm
  have hmark : LabelTerm.ofChars ("!" ++ Marker.replaced).toList = .lacks Marker.replaced := by
    decide +kernel
  rw [termTexts, terms, List.map_append, hlabels]
  split
  · rw [List.map_singleton, hmark]
  · rfl

theorem no_comma_of_mem_termTexts (h : PlainLabels o.labels) :
    ∀ t ∈ o.termTexts, ',' ∉ t.toList := by
  intro t ht
  rcases List.mem_append.mp ht with ht | ht
  · obtain ⟨e, he, rfl⟩ := List.mem_map.mp ht
    obtain ⟨hkey, hvalue⟩ := h e he
    have hsign : ',' ∉ "=".toList := by decide
    simp only [String.toList_append, List.mem_append, not_or]
    exact ⟨⟨hkey.2.1, hsign⟩, hvalue⟩
  · split at ht
    · obtain rfl := List.mem_singleton.mp ht
      decide +kernel
    · cases ht

theorem terms_eq_nil_iff : o.terms = [] ↔ o.termTexts = [] := by
  simp [terms, termTexts]

/-- The text of a selection is read as what it asks for. -/
theorem labelTerms_selectorText (h : PlainLabels o.labels) :
    labelTerms o.selectorText = if o.terms = [] then [.blank] else o.terms := by
  rw [labelTerms, selectorText_eq, String.toList_intercalate]
  split
  · rename_i hnone
    rw [terms_eq_nil_iff.mp hnone]
    rfl
  · rename_i hsome
    have hne : o.termTexts.map String.toList ≠ [] := by
      intro hnil
      exact hsome (terms_eq_nil_iff.mpr (List.map_eq_nil_iff.mp hnil))
    have hparts : ∀ part ∈ o.termTexts.map String.toList, ',' ∉ part := by
      intro part hpart
      obtain ⟨t, ht, rfl⟩ := List.mem_map.mp hpart
      exact no_comma_of_mem_termTexts h t ht
    show List.map LabelTerm.ofChars (Text.splitOn ',' ([','].intercalate _)) = _
    rw [Text.splitOn_intercalate hne hparts, List.map_map]
    exact map_ofChars_termTexts h

/-- Labels fit the text of a selection if they fit each of its terms. -/
theorem satisfies_selectorText_iff (h : PlainLabels o.labels) {labels : SortedMap String} :
    satisfies labels o.selectorText = true ↔ ∀ t ∈ o.terms, t.fits labels = true := by
  rw [satisfies, labelTerms_selectorText h, List.all_eq_true]
  split
  · rename_i hnone
    rw [hnone]
    simp [LabelTerm.fits]
  · exact Iff.rfl

/-- The labels that are asked for can be read off the terms. -/
theorem filterMap_entry?_labelTerms (h : PlainLabels o.labels) :
    (labelTerms o.selectorText).filterMap LabelTerm.entry? = o.labels.toList := by
  have hterms : o.terms.filterMap LabelTerm.entry? = o.labels.toList := by
    have hentry : LabelTerm.entry? ∘ (fun e : String × String => .has e.1 e.2) = some := rfl
    rw [terms, List.filterMap_append, List.filterMap_map, hentry, List.filterMap_some]
    split
    · exact List.append_nil _
    · exact List.append_nil _
  rw [labelTerms_selectorText h]
  split
  · rename_i hnone
    rw [← hterms, hnone]
    rfl
  · exact hterms

/-- So can whether replacements are passed over. -/
theorem lacks_mem_labelTerms_iff (h : PlainLabels o.labels) :
    .lacks Marker.replaced ∈ labelTerms o.selectorText ↔ o.excludeReplaced = true := by
  have hterms : .lacks Marker.replaced ∈ o.terms ↔ o.excludeReplaced = true := by
    simp [terms]
  rw [labelTerms_selectorText h, ← hterms]
  split
  · rename_i hnone
    simp [hnone]
  · exact Iff.rfl

/-- Selections with one text ask for the same. -/
theorem eq_of_selectorText {o' : SelectOptions} (h : PlainLabels o.labels)
    (h' : PlainLabels o'.labels) (htext : o.selectorText = o'.selectorText) :
    o.labels = o'.labels ∧ o.excludeReplaced = o'.excludeReplaced := by
  constructor
  · have hentries : o.labels.toList = o'.labels.toList := by
      rw [← filterMap_entry?_labelTerms h, ← filterMap_entry?_labelTerms h', htext]
    rw [← o.labels.ofList_toList, ← o'.labels.ofList_toList, hentries]
  · rw [Bool.eq_iff_iff, ← lacks_mem_labelTerms_iff h, ← lacks_mem_labelTerms_iff h', htext]

/-- What the text of a selection asks for. Labels fit it if they have every label of the selection
with its value and, where replacements are passed over, are not marked as those of one. And it tells
the selection's labels, and whether replacements are passed over. -/
theorem selectorText_asks (h : PlainLabels o.labels) :
    (∀ labels : SortedMap String, satisfies labels o.selectorText = true ↔
      (∀ key value, o.labels.get? key = some value → labels.get? key = some value) ∧
        (o.excludeReplaced = true → labels.contains Marker.replaced = false)) ∧
    ∀ o' : SelectOptions, PlainLabels o'.labels → (o.selectorText = o'.selectorText ↔
      o.labels = o'.labels ∧ o.excludeReplaced = o'.excludeReplaced) := by
  constructor
  · intro labels
    rw [satisfies_selectorText_iff h]
    exact fits_terms_iff
  · intro o' h'
    refine ⟨eq_of_selectorText h h', ?_⟩
    rintro ⟨hlabels, hexclude⟩
    rw [selectorText, selectorText, hlabels, hexclude]

/-- A selection by a label without a value that passes over replacements. -/
def unvalued : SelectOptions where
  ns := "default"
  labels := .ofList [("tier", "web"), ("app", "")]
  excludeReplaced := true
  intervalMs := 1
  timeoutMs := 1

/-- The empty value is asked for as well, and the text tells the selection from the one that does
not pass over replacements. -/
theorem unvalued_asks : PlainLabels unvalued.labels ∧
    satisfies (.ofList [("app", ""), ("team", "a"), ("tier", "web")]) unvalued.selectorText = true ∧
    satisfies (.ofList [("app", "x"), ("tier", "web")]) unvalued.selectorText = false ∧
    unvalued.selectorText ≠ { unvalued with excludeReplaced := false }.selectorText := by
  have hplain : PlainLabels unvalued.labels := by decide +kernel
  obtain ⟨hfits, htells⟩ := selectorText_asks hplain
  refine ⟨hplain, (hfits _).mpr ⟨?_, fun _ => by decide +kernel⟩, ?_, fun htext => ?_⟩
  · intro key value hget
    have hmem : (key, value) ∈ [("app", ""), ("tier", "web")] := Entries.mem_of_get? hget
    simp only [List.mem_cons, Prod.mk.injEq, List.not_mem_nil, or_false] at hmem
    rcases hmem with ⟨rfl, rfl⟩ | ⟨rfl, rfl⟩ <;> decide +kernel
  · refine Bool.eq_false_iff.mpr fun hsatisfies => ?_
    have happ := ((hfits _).mp hsatisfies).1 "app" "" (by decide +kernel)
    exact absurd happ (by decide +kernel)
  · have hexclude := ((htells { unvalued with excludeReplaced := false } hplain).mp htext).2
    cases hexclude

end SelectOptions

end PodSwap
