import Mathlib.Data.List.Forall2
import PodSwap.Proofs.Image.NormalForm

/-!
# Which images a selector with placeholders matches

A selector with placeholders is none of the bare repositories, and none with the default tag: those
have no placeholders. So it matches the images that it is like, character by character, where a
letter stands for each placeholder (`matches_iff_of_placeholders`). A placeholder does not stand for
itself, so that such a selector does not match the text that it is.
-/

namespace PodSwap.Image

/-- An ASCII letter, of either case. -/
def IsLetter (c : Char) : Prop := ('a' ≤ c ∧ c ≤ 'z') ∨ ('A' ≤ c ∧ c ≤ 'Z')

/-- Whether a character of an image may stand where one of a selector does. -/
def Fits (s c : Char) : Prop := s = placeholder ∧ IsLetter c ∨ s ≠ placeholder ∧ s = c

instance (c : Char) : Decidable (IsLetter c) := by
  unfold IsLetter
  infer_instance

instance (s c : Char) : Decidable (Fits s c) := by
  unfold Fits
  infer_instance

/-- The selector with letters for its placeholders. -/
def filled (selector : String) : String :=
  selector.map fun c => if c = placeholder then 'a' else c

theorem isAlpha_iff {c : Char} : c.isAlpha = true ↔ IsLetter c := by
  have hupper : c.isUpper = true ↔ 'A' ≤ c ∧ c ≤ 'Z' := decide_eq_true_iff
  have hletter : c.isAlpha = true ↔ c.isUpper = true ∨ c.isLower = true := Bool.or_eq_true_iff
  rw [hletter, hupper, isLower_iff]
  exact Or.comm

/-- An image fits a pattern if its characters fit those of the pattern one by one. -/
theorem fitsPattern_iff {ss cs : List Char} :
    fitsPattern ss cs = true ↔ List.Forall₂ Fits ss cs := by
  induction ss generalizing cs with
  | nil =>
    cases cs with
    | nil => exact iff_of_true rfl .nil
    | cons c cs => exact iff_of_false Bool.false_ne_true fun h => by cases h
  | cons s ss ih =>
    cases cs with
    | nil => exact iff_of_false Bool.false_ne_true fun h => by cases h
    | cons c cs =>
      rw [fitsPattern, Bool.and_eq_true, ih, List.forall₂_cons]
      refine and_congr_left fun _ => ?_
      unfold Fits
      by_cases hs : s = placeholder
      · rw [if_pos hs, isAlpha_iff]
        simp [hs]
      · rw [if_neg hs, decide_eq_true_eq]
        simp [hs]

/-- A repository has no placeholders. -/
theorem placeholder_not_mem_of_stripChars {cs repo : List Char} (h : stripChars cs = some repo) :
    placeholder ∉ repo := by
  have hchar : isImageChar placeholder = false := by decide
  obtain ⟨name, hname, -, rfl⟩ := exists_name_of_stripChars h
  intro hmem
  rcases hname.repository_cases with heq | hpath
  · rw [heq] at hmem
    rw [hname.isImageChar _ hmem] at hchar
    cases hchar
  · rw [(hpath.isImageChar _ hmem).1] at hchar
    cases hchar

/-- A selector with placeholders that can be read matches just the images that fit it. -/
theorem matchesChars_of_placeholders {selector image repo : List Char}
    (hplaceholder : placeholder ∈ selector) (hread : selectorRepository selector = repo)
    (hrepo : placeholder ∉ repo) : matchesChars selector image = fitsPattern selector image := by
  -- the selector is none of the texts that are told by their repository
  have hbare : repo ≠ selector := by
    rintro rfl
    exact hrepo hplaceholder
  have hlatest : repo ++ ":latest".toList ≠ selector := by
    rintro rfl
    rcases List.mem_append.mp hplaceholder with hmem | hmem
    · exact hrepo hmem
    · exact absurd hmem (by decide)
  unfold matchesChars
  dsimp only
  rw [hread, if_neg hbare, if_neg fun h => hlatest h.1,
    if_pos (List.contains_iff_mem.mpr hplaceholder)]

/-- A selector with placeholders, which can be read with letters for them, matches an image exactly
if the image has as many characters and each fits the one of the selector in its position. -/
theorem matches_iff_of_placeholders {selector image : String}
    (hplaceholder : placeholder ∈ selector.toList) (hread : strip (filled selector) ≠ none) :
    matches? selector image = true ↔ selector.length = image.length ∧
      ∀ i (hs : i < selector.toList.length) (hi : i < image.toList.length),
        Fits selector.toList[i] image.toList[i] := by
  cases hrepo : stripChars (filled selector).toList with
  | none =>
    rw [strip, hrepo] at hread
    exact absurd rfl hread
  | some repo =>
    have hselector : selectorRepository selector.toList = repo := by
      rw [filled, String.toList_map] at hrepo
      rw [selectorRepository, hrepo, Option.getD_some]
    rw [matches?, matchesChars_of_placeholders hplaceholder hselector
      (placeholder_not_mem_of_stripChars hrepo), fitsPattern_iff, List.forall₂_iff_get,
      ← String.length_toList, ← String.length_toList]
    rfl

/-- Letters of either case stand for the placeholders of a tag. -/
theorem placeholders_match_letters :
    placeholder ∈ "team/app:dev-##".toList ∧ strip (filled "team/app:dev-##") ≠ none ∧
      matches? "team/app:dev-##" "team/app:dev-aB" = true := by
  have hplaceholder : placeholder ∈ "team/app:dev-##".toList := by decide
  have hread : strip (filled "team/app:dev-##") ≠ none := by decide +kernel
  refine ⟨hplaceholder, hread, ?_⟩
  refine (matches_iff_of_placeholders hplaceholder hread).mpr ⟨by decide, ?_⟩
  decide

/-- It is not enough that the characters that do not fit a placeholder are the same: a placeholder
does not stand for itself. -/
theorem placeholder_misses_itself :
    ¬ ∀ selector image : String, placeholder ∈ selector.toList → strip (filled selector) ≠ none →
      (matches? selector image = true ↔ selector.length = image.length ∧
        ∀ i (hs : i < selector.toList.length) (hi : i < image.toList.length),
          selector.toList[i] = placeholder ∧ IsLetter image.toList[i] ∨
            selector.toList[i] = image.toList[i]) := by
  intro h
  have hmatches : matches? "nginx:#" "nginx:#" = true :=
    (h "nginx:#" "nginx:#" (by decide) (by decide +kernel)).mpr ⟨rfl, fun _ _ _ => .inr rfl⟩
  exact absurd hmatches (by decide +kernel)

end PodSwap.Image
