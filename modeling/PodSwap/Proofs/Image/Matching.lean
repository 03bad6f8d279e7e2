import Mathlib.Data.List.TakeWhile
import PodSwap.Image.Name

/-!
# Which images a selector without placeholders matches

A selector without placeholders matches in three ways (`matches_iff_of_plain`): as a bare
repository it matches every name of the repository, with the default tag it matches bare
repositories, and any selector matches itself.

The second way does not ask whether the two repositories are one. So a match of two repositories is
possible, and comes from that way alone (`matches_other_iff`). The first way asks for the one
spelling that `strip` gives: a selector without a tag in another spelling matches itself only
(`matches_iff_of_untagged`).
-/

namespace PodSwap.Image

/-- The repository that a name refers to, or the name itself where it is malformed. -/
def repositoryOf (image : String) : String := (strip image).getD image

/-- Whether a name has neither a digest nor a tag behind its last slash. -/
def Untagged (cs : List Char) : Prop := '@' ∉ cs ∧ ':' ∉ (Text.splitLast '/' cs).2

instance (cs : List Char) : Decidable (Untagged cs) := by
  unfold Untagged
  infer_instance

theorem toList_repositoryOf (image : String) :
    (repositoryOf image).toList = stripOrSelf image.toList := by
  unfold repositoryOf strip stripOrSelf
  cases stripChars image.toList with
  | none => rfl
  | some name => exact String.toList_ofList

theorem repositoryOf_of_strip {image name : String} (h : strip image = some name) :
    repositoryOf image = name := by
  rw [repositoryOf, h, Option.getD_some]

/-- A selector without placeholders is read as it is. -/
theorem selectorRepository_of_plain {selector : List Char} (h : placeholder ∉ selector) :
    selectorRepository selector = stripOrSelf selector := by
  have hmap : (selector.map fun c => if c = placeholder then 'a' else c) = selector.map id := by
    refine List.map_congr_left fun c hc => if_neg ?_
    rintro rfl
    exact h hc
  rw [selectorRepository, hmap, List.map_id, stripOrSelf]

/-! ## The three ways to match -/

theorem matchesChars_iff_of_plain {selector image : List Char} (h : placeholder ∉ selector) :
    matchesChars selector image = true ↔
      (stripOrSelf selector = selector ∧ stripOrSelf image = selector) ∨
        (stripOrSelf selector ++ ":latest".toList = selector ∧ stripOrSelf image = image) ∨
        image = selector := by
  have hplain : ¬ selector.contains placeholder = true := by simpa using h
  simp only [matchesChars, selectorRepository_of_plain h, if_neg hplain]
  split
  · rename_i hbare
    rw [decide_eq_true_eq, hbare]
    constructor
    · intro heq
      exact .inl ⟨rfl, heq.symm⟩
    · rintro (⟨-, heq⟩ | ⟨htag, -⟩ | rfl)
      · exact heq.symm
      · exact absurd (congrArg List.length htag) (by simp)
      · exact hbare.symm
  · rename_i hbare
    split
    · rename_i hlatest
      exact iff_of_true rfl (.inr (.inl hlatest))
    · rename_i hlatest
      rw [decide_eq_true_eq]
      exact ⟨fun heq => .inr (.inr heq.symm), fun hways =>
        (hways.resolve_left fun hw => hbare hw.1).resolve_left hlatest |>.symm⟩

/-- A selector without placeholders matches the names of the repository that it is, or bare
repositories where it is one with the default tag, or itself. -/
theorem matches_iff_of_plain {selector image : String} (h : placeholder ∉ selector.toList) :
    matches? selector image = true ↔
      (repositoryOf selector = selector ∧ repositoryOf image = selector) ∨
        (repositoryOf selector ++ ":latest" = selector ∧ repositoryOf image = image) ∨
        image = selector := by
  simp only [matches?, matchesChars_iff_of_plain h, ← String.toList_inj, String.toList_append,
    toList_repositoryOf]

/-! ## Matches between repositories -/

/-- A selector without placeholders matches an image of another repository exactly if the selector
is its repository with the default tag and the image a bare one. -/
theorem matches_other_iff {selector image : String} (h : placeholder ∉ selector.toList) :
    matches? selector image = true ∧ repositoryOf selector ≠ repositoryOf image ↔
      repositoryOf selector ++ ":latest" = selector ∧ repositoryOf image = image ∧
        repositoryOf selector ≠ image := by
  rw [matches_iff_of_plain h]
  constructor
  · rintro ⟨⟨hsel, himg⟩ | ⟨htag, himg⟩ | rfl, hne⟩
    · exact absurd (hsel.trans himg.symm) hne
    · rw [himg] at hne
      exact ⟨htag, himg, hne⟩
    · exact absurd rfl hne
  · rintro ⟨htag, himg, hne⟩
    rw [himg]
    exact ⟨.inr (.inl ⟨htag, rfl⟩), hne⟩

/-- With the default tag a selector also matches its own bare repository. -/
theorem latest_matches_own : matches? "team/app:latest" "team/app" = true ∧
    repositoryOf "team/app:latest" = repositoryOf "team/app" := by
  have hmatches : matches? "team/app:latest" "team/app" = true := by decide +kernel
  refine ⟨hmatches, ?_⟩
  by_contra hne
  exact ((matches_other_iff (by decide)).mp ⟨hmatches, hne⟩).2.2 (by decide +kernel)

/-- The selector of one repository with the default tag matches another one. -/
theorem latest_matches_other :
    placeholder ∉ "nginx:latest".toList ∧ matches? "nginx:latest" "redis" = true ∧
      repositoryOf "nginx:latest" ≠ repositoryOf "redis" := by
  decide +kernel

/-! ## Selectors without a tag -/

theorem splitLast_append (sep : Char) (cs : List Char) :
    (Text.splitLast sep cs).1 ++ (Text.splitLast sep cs).2 = cs := by
  obtain ⟨rest, hrest⟩ := List.takeWhile_prefix (l := cs.reverse) (· ≠ sep)
  have hcs : cs = rest.reverse ++ (Text.splitLast sep cs).2 := by
    rw [Text.splitLast, ← List.reverse_append, hrest, List.reverse_reverse]
  have htake : (Text.splitLast sep cs).1 = cs.take (cs.length - (Text.splitLast sep cs).2.length) :=
    rfl
  have hlength := congrArg List.length hcs
  rw [List.length_append] at hlength
  have hcount : cs.length - (Text.splitLast sep cs).2.length = rest.reverse.length := by omega
  rw [htake, hcount]
  generalize (Text.splitLast sep cs).2 = last at hcs
  rw [hcs, List.take_left]

theorem beforeFirst_isPrefix (c : Char) (cs : List Char) : beforeFirst c cs <+: cs :=
  List.takeWhile_prefix _

theorem beforeFirst_eq_self_iff {c : Char} {cs : List Char} : beforeFirst c cs = cs ↔ c ∉ cs := by
  rw [beforeFirst, List.takeWhile_eq_self_iff]
  constructor
  · intro h hmem
    simpa using h c hmem
  · rintro h d hd
    rw [decide_eq_true_eq]
    rintro rfl
    exact h hd

/-- A text with a tag behind it has one. -/
theorem not_untagged_of_tag {cs tag : List Char} (h : '/' ∉ tag) :
    ¬ Untagged (cs ++ ':' :: tag) := by
  rintro ⟨-, hlast⟩
  apply hlast
  have hall : ∀ c ∈ (':' :: tag).reverse, decide (c ≠ '/') = true := by
    intro c hc
    rw [decide_eq_true_eq]
    rintro rfl
    rcases List.mem_cons.mp (List.mem_reverse.mp hc) with hc | hc
    · exact absurd hc (by decide)
    · exact h hc
  show ':' ∈ ((cs ++ ':' :: tag).reverse.takeWhile (· ≠ '/')).reverse
  rw [List.reverse_append, List.takeWhile_append_of_pos hall]
  simp

/-- A selector without tag, digest and placeholders matches the images of its repository if it is
the repository in the spelling of `strip`, and else itself only. -/
theorem matches_iff_of_untagged {selector image wanted found : String}
    (hplain : placeholder ∉ selector.toList) (htag : Untagged selector.toList)
    (hselector : strip selector = some wanted) (himage : strip image = some found) :
    matches? selector image = true ↔ wanted = found ∧ (wanted = selector ∨ image = selector) := by
  rw [matches_iff_of_plain hplain, repositoryOf_of_strip hselector, repositoryOf_of_strip himage]
  have hlatest : wanted ++ ":latest" ≠ selector := by
    rintro rfl
    rw [String.toList_append] at htag
    exact not_untagged_of_tag (by decide) htag
  constructor
  · rintro (⟨hbare, hfound⟩ | ⟨hno, -⟩ | rfl)
    · exact ⟨hbare.trans hfound.symm, .inl hbare⟩
    · exact absurd hno hlatest
    · rw [hselector, Option.some.injEq] at himage
      exact ⟨himage, .inr rfl⟩
  · rintro ⟨rfl, rfl | himg⟩
    · exact .inl ⟨rfl, rfl⟩
    · exact .inr (.inr himg)

/-- A selector in the spelling of `strip` matches every tag, in whatever spelling. -/
theorem bare_matches_tag : matches? "nginx" "docker.io/library/nginx:1.25" = true := by
  have hselector : strip "nginx" = some "nginx" := by decide +kernel
  have himage : strip "docker.io/library/nginx:1.25" = some "nginx" := by decide +kernel
  exact (matches_iff_of_untagged (by decide) (by decide) hselector himage).mpr ⟨rfl, .inl rfl⟩

/-- A selector that names the default registry matches no tag of its repository. -/
theorem spelled_out_misses_tag :
    placeholder ∉ "docker.io/library/nginx".toList ∧ Untagged "docker.io/library/nginx".toList ∧
      strip "docker.io/library/nginx" = some "nginx" ∧ strip "nginx:1.25" = some "nginx" ∧
      matches? "docker.io/library/nginx" "nginx:1.25" = false := by
  decide +kernel

end PodSwap.Image
