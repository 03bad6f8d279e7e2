import PodSwap.Proofs.Image.Grammar
import PodSwap.Proofs.Image.Matching

/-!
# The one spelling of a repository

`strip` gives a repository in one spelling. That spelling is a name again, and its own repository,
unless its first part is one that a name could go without, or a component that doubles a separator
(`strip_again_iff`): behind a registry such a component is part of a path, but a name that begins
with it is malformed.

So all spellings of a path of the default registry come to the same with any tag and any digest, but
for the path by itself, which is malformed if its first component doubles a separator
(`strip_spellings`).
-/

namespace PodSwap.Image

/-! ## Tags and digests -/

/-- What may stand behind a name: a tag, a digest, both, or nothing. -/
inductive Suffix : List Char → Prop where
  | none : Suffix []
  | tag {tag : List Char} (hslash : '/' ∉ tag) (hat : '@' ∉ tag) : Suffix (':' :: tag)
  | digest (digest : List Char) : Suffix ('@' :: digest)
  | both {tag : List Char} (hslash : '/' ∉ tag) (hat : '@' ∉ tag) (digest : List Char) :
    Suffix (':' :: tag ++ '@' :: digest)

/-- Whether a text is nothing, or a colon and a tag. -/
def TagPart (cs : List Char) : Prop := cs = [] ∨ ∃ tag, cs = ':' :: tag ∧ '/' ∉ tag

theorem TagPart.of_isPrefix {xs ys : List Char} (h : TagPart ys) (hfront : xs <+: ys) :
    TagPart xs := by
  rcases h with rfl | ⟨tag, rfl, htag⟩
  · exact .inl (List.prefix_nil.mp hfront)
  · rcases List.prefix_cons_iff.mp hfront with rfl | ⟨tag', rfl, hrest⟩
    · exact .inl rfl
    · exact .inr ⟨tag', rfl, fun hmem => htag (hrest.subset hmem)⟩

theorem TagPart.slash_not_mem {cs : List Char} (h : TagPart cs) : '/' ∉ cs := by
  rcases h with rfl | ⟨tag, rfl, htag⟩
  · exact List.not_mem_nil
  · rw [List.mem_cons, not_or]
    exact ⟨by decide, htag⟩

theorem not_mem_beforeFirst (c : Char) (cs : List Char) : c ∉ beforeFirst c cs := by
  intro h
  simpa using List.mem_takeWhile_imp h

theorem beforeFirst_append {c : Char} {xs : List Char} (h : c ∉ xs) (ys : List Char) :
    beforeFirst c (xs ++ ys) = xs ++ beforeFirst c ys := by
  refine List.takeWhile_append_of_pos fun d hd => ?_
  rw [decide_eq_true_eq]
  rintro rfl
  exact h hd

theorem beforeFirst_cons_self (c : Char) (cs : List Char) : beforeFirst c (c :: cs) = [] := by
  simp [beforeFirst]

theorem beforeFirst_append_cons {c : Char} {xs : List Char} (h : c ∉ xs) (ys : List Char) :
    beforeFirst c (xs ++ c :: ys) = xs := by
  rw [beforeFirst_append h, beforeFirst_cons_self, List.append_nil]

theorem beforeFirst_mono {c : Char} {xs ys : List Char} (h : xs <+: ys) :
    beforeFirst c xs <+: beforeFirst c ys := by
  obtain ⟨rest, rfl⟩ := h
  by_cases hc : c ∈ xs
  · obtain ⟨front, back, rfl, hfront⟩ := List.eq_append_cons_of_mem hc
    have hsame : beforeFirst c (front ++ c :: back ++ rest) =
        beforeFirst c (front ++ c :: back) := by
      rw [List.append_assoc, List.cons_append, beforeFirst_append_cons hfront,
        beforeFirst_append_cons hfront]
    exact hsame ▸ List.prefix_rfl
  · rw [beforeFirst_append hc, beforeFirst_eq_self_iff.mpr hc]
    exact List.prefix_append _ _

/-- What stands before the digest is a tag or nothing. -/
theorem Suffix.tagPart {cs : List Char} (h : Suffix cs) : TagPart (beforeFirst '@' cs) := by
  have hcons : ∀ {tag : List Char}, '@' ∉ tag → '@' ∉ ':' :: tag := by
    intro tag hat
    rw [List.mem_cons, not_or]
    exact ⟨by decide, hat⟩
  cases h with
  | none => exact .inl rfl
  | tag hslash hat =>
    rw [beforeFirst_eq_self_iff.mpr (hcons hat)]
    exact .inr ⟨_, rfl, hslash⟩
  | digest digest =>
    rw [beforeFirst_cons_self]
    exact .inl rfl
  | both hslash hat digest =>
    rw [beforeFirst_append_cons (hcons hat)]
    exact .inr ⟨_, rfl, hslash⟩

/-! ## Cutting a name behind its last slash -/

theorem splitLast_append_of_not_mem {sep : Char} {ys : List Char} (h : sep ∉ ys) (xs : List Char) :
    Text.splitLast sep (xs ++ ys) =
      ((Text.splitLast sep xs).1, (Text.splitLast sep xs).2 ++ ys) := by
  have hall : ∀ c ∈ ys.reverse, decide (c ≠ sep) = true := by
    intro c hc
    rw [decide_eq_true_eq]
    rintro rfl
    exact h (List.mem_reverse.mp hc)
  have hlast : (Text.splitLast sep (xs ++ ys)).2 = (Text.splitLast sep xs).2 ++ ys := by
    show ((xs ++ ys).reverse.takeWhile (· ≠ sep)).reverse = _
    rw [List.reverse_append, List.takeWhile_append_of_pos hall, List.reverse_append,
      List.reverse_reverse]
    rfl
  have hwhole := splitLast_append sep (xs ++ ys)
  rw [hlast, ← List.append_assoc] at hwhole
  refine Prod.ext ?_ hlast
  exact List.append_cancel_right
    (List.append_cancel_right hwhole |>.trans (splitLast_append sep xs).symm)

theorem not_mem_splitLast (sep : Char) (cs : List Char) : sep ∉ (Text.splitLast sep cs).2 := by
  intro h
  simpa using List.mem_takeWhile_imp (List.mem_reverse.mp h)

/-- What is left of a name without tag and digest is such a name. -/
theorem untagged_withoutSuffix (cs : List Char) : Untagged (withoutSuffix cs) := by
  let name := beforeFirst '@' cs
  let dir := (Text.splitLast '/' name).1
  let last := (Text.splitLast '/' name).2
  have hjoin : dir ++ last = name := splitLast_append '/' name
  have hlast : '/' ∉ last := not_mem_splitLast '/' name
  have hfront : beforeFirst ':' last <+: last := beforeFirst_isPrefix ':' last
  -- the part up to the last slash has nothing behind it
  have hdir : (Text.splitLast '/' dir).2 = [] := by
    have hsplit := congrArg Prod.snd (splitLast_append_of_not_mem hlast dir)
    rw [hjoin] at hsplit
    exact List.append_left_eq_self.mp hsplit.symm
  show Untagged (dir ++ beforeFirst ':' last)
  constructor
  · intro hat
    refine not_mem_beforeFirst '@' cs ?_
    show '@' ∈ name
    rw [← hjoin]
    exact ((List.prefix_append_right_inj dir).mpr hfront).subset hat
  · rw [splitLast_append_of_not_mem fun hmem => hlast (hfront.subset hmem)]
    dsimp only
    rw [hdir]
    exact not_mem_beforeFirst ':' last

/-- A name is what is left when a suffix is dropped that stands behind it. -/
theorem withoutSuffix_append {name suffix : List Char} (hname : Untagged name)
    (hsuffix : TagPart (beforeFirst '@' suffix)) : withoutSuffix (name ++ suffix) = name := by
  obtain ⟨hat, hcolon⟩ := hname
  have hjoin := splitLast_append '/' name
  rw [withoutSuffix, beforeFirst_append hat, splitLast_append_of_not_mem hsuffix.slash_not_mem]
  dsimp only
  rw [beforeFirst_append hcolon]
  rcases hsuffix with htag | ⟨tag, htag, -⟩
  · rw [htag]
    show _ ++ (_ ++ []) = _
    rw [List.append_nil, hjoin]
  · rw [htag, beforeFirst_cons_self, List.append_nil, hjoin]

/-! ## What `strip` makes of a name with a suffix -/

/-- Whether a text has the characters of a name, and neither tag nor digest. -/
structure Bare (cs : List Char) : Prop where
  ne_nil : cs ≠ []
  isImageChar : ∀ c ∈ cs, isImageChar c = true
  untagged : Untagged cs

theorem untagged_of_no_colon {cs : List Char} (hchars : ∀ c ∈ cs, isImageChar c = true)
    (h : ':' ∉ cs) : Untagged cs := by
  constructor
  · intro hat
    exact absurd (hchars '@' hat) (by decide)
  · intro hcolon
    rw [← splitLast_append '/' cs] at h
    exact h (List.mem_append_right _ hcolon)

theorem Name.ne_nil {cs : List Char} (h : Name cs) : cs ≠ [] := by
  rintro rfl
  exact absurd (isName_iff.mpr h) (by decide)

theorem Name.bare {cs : List Char} (h : Name cs) (huntagged : Untagged cs) : Bare cs :=
  ⟨h.ne_nil, h.isImageChar, huntagged⟩

theorem Path.ne_nil {cs : List Char} (h : Path cs) : cs ≠ [] := by
  rintro rfl
  exact absurd (path_iff.mpr h) (by decide)

theorem Path.bare {cs : List Char} (h : Path cs) : Bare cs := by
  have hchars : ∀ c ∈ cs, Image.isImageChar c = true := fun c hc => (h.isImageChar c hc).1
  exact ⟨h.ne_nil, hchars, untagged_of_no_colon hchars fun hc => (h.isImageChar ':' hc).2 rfl⟩

/-- Whatever tag and digest stand behind a name, its repository is that of the name. -/
theorem stripChars_append {name suffix : List Char} (hname : Bare name) (hsuffix : Suffix suffix) :
    stripChars (name ++ suffix) = if isName name then some (repository name) else none := by
  have hblank : ∀ c ∈ name, Text.isBlank c = false :=
    fun c hc => isBlank_of_isImageChar (hname.isImageChar c hc)
  have htrim : Text.trim (name ++ suffix) = name ++ Text.trimEnd suffix :=
    Text.trim_append hname.ne_nil hblank suffix
  have htag : TagPart (beforeFirst '@' (Text.trimEnd suffix)) :=
    hsuffix.tagPart.of_isPrefix (beforeFirst_mono (Text.trimEnd_isPrefix suffix))
  rw [stripChars, htrim, withoutSuffix_append hname.untagged htag]

theorem stripChars_of_bare {name : List Char} (hname : Bare name) :
    stripChars name = if isName name then some (repository name) else none := by
  have h := stripChars_append hname .none
  rwa [List.append_nil] at h

/-- What `strip` gives is the repository of a name without tag and digest. -/
theorem exists_name_of_stripChars {cs repo : List Char} (h : stripChars cs = some repo) :
    ∃ name, Name name ∧ Untagged name ∧ repository name = repo := by
  refine ⟨withoutSuffix (Text.trim cs), ?_⟩
  rw [stripChars] at h
  split at h
  · rename_i hname
    exact ⟨isName_iff.mp hname, untagged_withoutSuffix _, Option.some.inj h⟩
  · cases h

/-! ## The first part of a name -/

/-- Whether a name could go without a first part: the default registry, or what stands for images of
that registry itself. -/
def Redundant (first : List Char) : Prop :=
  first = "library".toList ∨ isDefaultRegistry first = true

instance (first : List Char) : Decidable (Redundant first) := by
  unfold Redundant
  infer_instance

theorem isRegistry_of_isDefaultRegistry {first : List Char} (h : isDefaultRegistry first = true) :
    isRegistry first = true := by
  rw [isDefaultRegistry, Bool.or_eq_true, decide_eq_true_eq, decide_eq_true_eq] at h
  rcases h with rfl | rfl <;> decide

theorem withoutLibrary_of_single {path : List Char} (h : '/' ∉ path) :
    withoutLibrary path = path := by
  refine if_neg fun hfront => h ?_
  exact (List.isPrefixOf_iff_prefix.mp hfront).subset (by decide)

theorem withoutLibrary_append {first : List Char} (h : '/' ∉ first) (rest : List Char) :
    withoutLibrary (first ++ '/' :: rest) =
      if first = "library".toList then rest else first ++ '/' :: rest := by
  by_cases hfirst : first = "library".toList
  · rw [if_pos hfirst, hfirst]
    rfl
  · rw [if_neg hfirst]
    refine if_neg fun hfront => hfirst ?_
    obtain ⟨rest', hrest'⟩ := List.isPrefixOf_iff_prefix.mp hfront
    have hlibrary : '/' ∉ "library".toList := by decide
    have hsplit : Text.splitFirst? '/' (first ++ '/' :: rest) = some ("library".toList, rest') := by
      rw [← hrest']
      exact Text.splitFirst?_append hlibrary rest'
    rw [Text.splitFirst?_append h] at hsplit
    cases hsplit
    rfl

theorem length_withoutLibrary_le (path : List Char) :
    (withoutLibrary path).length ≤ path.length := by
  show (if "library/".toList.isPrefixOf path then path.drop "library/".toList.length
    else path).length ≤ _
  split
  · rw [List.length_drop]
    exact Nat.sub_le _ _
  · exact Nat.le_refl _

theorem repository_of_single {name : List Char} (h : '/' ∉ name) : repository name = name := by
  rw [repository, registryAndPath, Text.splitFirst?_of_not_mem h]
  show withoutLibrary name = name
  exact withoutLibrary_of_single h

theorem repository_append {first : List Char} (h : '/' ∉ first) (rest : List Char) :
    repository (first ++ '/' :: rest) =
      if isRegistry first then
        if isDefaultRegistry first then withoutLibrary rest else first ++ '/' :: rest
      else withoutLibrary (first ++ '/' :: rest) := by
  rw [repository, registryAndPath, Text.splitFirst?_append h]
  by_cases hregistry : isRegistry first = true
  · simp only [if_pos hregistry]
  · simp only [if_neg hregistry]
    rfl

/-- A name is its own repository unless it could go without its first part. -/
theorem repository_eq_self_iff {name : List Char} :
    repository name = name ↔ ('/' ∈ name → ¬ Redundant (beforeFirst '/' name)) := by
  by_cases hslash : '/' ∈ name
  · obtain ⟨first, rest, rfl, hfirst⟩ := List.eq_append_cons_of_mem hslash
    rw [beforeFirst_append_cons hfirst, repository_append hfirst]
    refine Iff.trans ?_ (forall_prop_of_true hslash).symm
    -- what is left without the first part is shorter, so it is not the name
    have hshorter : ∀ cs : List Char, cs.length ≤ rest.length → cs ≠ first ++ '/' :: rest := by
      rintro _ hle rfl
      rw [List.length_append, List.length_cons] at hle
      omega
    by_cases hregistry : isRegistry first = true
    · have hlibrary : first ≠ "library".toList := by
        rintro rfl
        exact absurd hregistry (by decide)
      rw [if_pos hregistry]
      by_cases hdefault : isDefaultRegistry first = true
      · rw [if_pos hdefault]
        exact iff_of_false (hshorter _ (length_withoutLibrary_le rest)) fun h => h (.inr hdefault)
      · rw [if_neg hdefault]
        exact iff_of_true rfl (not_or.mpr ⟨hlibrary, hdefault⟩)
    · have hdefault : ¬ isDefaultRegistry first = true :=
        fun h => hregistry (isRegistry_of_isDefaultRegistry h)
      rw [if_neg hregistry, withoutLibrary_append hfirst]
      by_cases hlibrary : first = "library".toList
      · rw [if_pos hlibrary]
        exact iff_of_false (hshorter rest (Nat.le_refl _)) fun h => h (.inl hlibrary)
      · rw [if_neg hlibrary]
        exact iff_of_true rfl (not_or.mpr ⟨hlibrary, hdefault⟩)
  · rw [repository_of_single hslash]
    exact iff_of_true rfl fun h => absurd h hslash

/-- A path is a name unless its first component doubles a separator. -/
theorem Path.isName_iff {cs : List Char} (h : Path cs) :
    isName cs = true ↔ Undoubled (beforeFirst '/' cs) := by
  cases h with
  | component h =>
    have hslash : '/' ∉ cs := h.not_mem (by decide)
    rw [isName_of_single hslash, beforeFirst_eq_self_iff.mpr hslash, isHost_iff_undoubled h]
  | cons h hrest =>
    have hslash := h.not_mem (c := '/') (by decide)
    rw [isName_append hslash, beforeFirst_append_cons hslash, path_iff.mpr hrest, Bool.and_true,
      isHost_iff_undoubled h]

theorem Name.undoubled {cs : List Char} (h : Name cs) : Undoubled (beforeFirst '/' cs) := by
  cases h with
  | host h =>
    rw [beforeFirst_eq_self_iff.mpr (slash_not_mem_of_isHost h)]
    exact undoubled_of_isHost h
  | path h _ =>
    rw [beforeFirst_append_cons (slash_not_mem_of_isHost h)]
    exact undoubled_of_isHost h

theorem Path.withoutLibrary {cs : List Char} (h : Path cs) : Path (withoutLibrary cs) := by
  cases h with
  | component h =>
    rw [withoutLibrary_of_single (h.not_mem (by decide))]
    exact .component h
  | cons h hrest =>
    rw [withoutLibrary_append (h.not_mem (by decide))]
    split
    · exact hrest
    · exact .cons h hrest

/-- The repository of a name is the name itself, or what is left of it is a path. -/
theorem Name.repository_cases {name : List Char} (h : Name name) :
    repository name = name ∨ Path (repository name) := by
  cases h with
  | host h => exact .inl (repository_of_single (slash_not_mem_of_isHost h))
  | path h hrest =>
    have hslash := slash_not_mem_of_isHost h
    rw [repository_append hslash, withoutLibrary_append hslash]
    split
    · split
      · exact .inr hrest.withoutLibrary
      · exact .inl rfl
    · split
      · exact .inr hrest
      · exact .inl rfl

/-! ## The spelling that `strip` gives -/

theorem strip_eq_some_iff {image name : String} :
    strip image = some name ↔ stripChars image.toList = some name.toList := by
  rw [strip, Option.map_eq_some_iff]
  constructor
  · rintro ⟨cs, hcs, rfl⟩
    rw [hcs, String.toList_ofList]
  · intro h
    exact ⟨name.toList, h, String.ofList_toList⟩

theorem stripChars_again_iff {cs name : List Char} (h : stripChars cs = some name) :
    stripChars name = some name ↔
      Undoubled (beforeFirst '/' name) ∧ ('/' ∈ name → ¬ Redundant (beforeFirst '/' name)) := by
  obtain ⟨full, hfull, huntagged, rfl⟩ := exists_name_of_stripChars h
  have hagain : stripChars (repository full) = some (repository full) ↔
      isName (repository full) = true ∧ repository (repository full) = repository full := by
    have hbare : Bare (repository full) := by
      rcases hfull.repository_cases with heq | hpath
      · rw [heq]
        exact hfull.bare huntagged
      · exact hpath.bare
    rw [stripChars_of_bare hbare]
    by_cases hname : isName (repository full) = true
    · rw [if_pos hname, Option.some.injEq, and_iff_right hname]
    · rw [if_neg hname]
      exact iff_of_false (by simp) fun hboth => hname hboth.1
  have hname : isName (repository full) = true ↔
      Undoubled (beforeFirst '/' (repository full)) := by
    rcases hfull.repository_cases with heq | hpath
    · rw [heq]
      exact iff_of_true (isName_iff.mpr hfull) hfull.undoubled
    · exact hpath.isName_iff
  rw [hagain, hname, repository_eq_self_iff]

/-- The repository of a name is its own repository exactly if its first part doubles no separator
and it could not go without that part. -/
theorem strip_again_iff {image name : String} (h : strip image = some name) :
    strip name = some name ↔ Undoubled (beforeFirst '/' name.toList) ∧
      ('/' ∈ name.toList → ¬ Redundant (beforeFirst '/' name.toList)) := by
  rw [strip_eq_some_iff] at h ⊢
  exact stripChars_again_iff h

/-- A registry with a port stays where it is. -/
theorem registry_kept_again :
    strip "localhost:5000/app:dev" = some "localhost:5000/app" ∧
      strip "localhost:5000/app" = some "localhost:5000/app" := by
  have h : strip "localhost:5000/app:dev" = some "localhost:5000/app" := by decide +kernel
  exact ⟨h, (strip_again_iff h).mpr (by decide)⟩

/-- A component that doubles a separator is malformed once the registry is dropped, and of two parts
that a name could go without the second is dropped the second time. -/
theorem doubled_lost_again :
    strip "docker.io/my__app" = some "my__app" ∧ strip "my__app" = none ∧
      strip "library/library/nginx" = some "library/nginx" ∧
      strip "library/nginx" = some "nginx" := by
  decide +kernel

/-! ## The spellings of a path of the default registry -/

/-- What may stand before a path of the default registry: the registry, or before a single component
what stands for images of that registry itself, with the registry or without. -/
def defaultFronts (path : String) : List String :=
  ["docker.io/", "index.docker.io/"] ++
    if '/' ∈ path.toList then [] else ["library/", "docker.io/library/"]

section

variable {path suffix : List Char} (hpath : Path path) (hsuffix : Suffix suffix)

include hpath hsuffix

/-- Behind the default registry every path is well-formed. -/
theorem stripChars_default {registry : List Char} (hregistry : isDefaultRegistry registry = true) :
    stripChars (registry ++ '/' :: path ++ suffix) = some (withoutLibrary path) := by
  have hhost : isHost registry = true ∧ '/' ∉ registry ∧ ':' ∉ registry := by
    rw [isDefaultRegistry, Bool.or_eq_true, decide_eq_true_eq, decide_eq_true_eq] at hregistry
    rcases hregistry with rfl | rfl <;> decide
  have hname : Name (registry ++ '/' :: path) := .path hhost.1 hpath
  have hcolon : ':' ∉ registry ++ '/' :: path := by
    rw [List.mem_append, List.mem_cons, not_or, not_or]
    exact ⟨hhost.2.2, by decide, fun hmem => (hpath.isImageChar ':' hmem).2 rfl⟩
  rw [stripChars_append (hname.bare (untagged_of_no_colon hname.isImageChar hcolon)) hsuffix,
    if_pos (isName_iff.mpr hname), repository_append hhost.2.1,
    if_pos (isRegistry_of_isDefaultRegistry hregistry), if_pos hregistry]

/-- Without a registry a path is well-formed unless its first component doubles a separator. -/
theorem stripChars_path (hfirst : '/' ∈ path → ¬ isRegistry (beforeFirst '/' path) = true) :
    stripChars (path ++ suffix) =
      if Undoubled (beforeFirst '/' path) then some (withoutLibrary path) else none := by
  have hrepository : repository path = withoutLibrary path := by
    by_cases hslash : '/' ∈ path
    · have hregistry := hfirst hslash
      obtain ⟨first, rest, rfl, hnot⟩ := List.eq_append_cons_of_mem hslash
      rw [beforeFirst_append_cons hnot] at hregistry
      rw [repository_append hnot, if_neg hregistry]
    · rw [repository_of_single hslash, withoutLibrary_of_single hslash]
  rw [stripChars_append hpath.bare hsuffix, hrepository]
  by_cases hundoubled : Undoubled (beforeFirst '/' path)
  · rw [if_pos hundoubled, if_pos (hpath.isName_iff.mpr hundoubled)]
  · rw [if_neg hundoubled, if_neg fun hname => hundoubled (hpath.isName_iff.mp hname)]

end

theorem Path.behind_library {path : List Char} (h : Path path) :
    Path ("library".toList ++ '/' :: path) :=
  .cons (isComponent_iff.mp (by decide)) h

/-- What stands for images of the default registry itself may stand before a component. -/
theorem stripChars_library {path suffix : List Char} (hpath : Path path)
    (hsuffix : Suffix suffix) :
    stripChars ("library".toList ++ '/' :: path ++ suffix) = some path := by
  have hslash : '/' ∉ "library".toList := by decide
  have hfirst : beforeFirst '/' ("library".toList ++ '/' :: path) = "library".toList :=
    beforeFirst_append_cons hslash path
  have hregistry : ¬ isRegistry "library".toList = true := by decide
  rw [stripChars_path hpath.behind_library hsuffix fun _ => hfirst ▸ hregistry, hfirst,
    if_pos (by decide), withoutLibrary_append hslash, if_pos rfl]

theorem strip_behind {front path suffix : String} {first repo : List Char}
    (hfront : front.toList = first ++ ['/'])
    (h : stripChars (first ++ '/' :: path.toList ++ suffix.toList) = some repo) :
    strip (front ++ path ++ suffix) = some (String.ofList repo) := by
  rw [strip, String.toList_append, String.toList_append, hfront, List.append_assoc first,
    List.singleton_append, h]
  rfl

/-- Whatever may stand before a path, it comes to the path. -/
theorem strip_of_front {path suffix : String} (hpath : Path path.toList)
    (hsuffix : Suffix suffix.toList) :
    ∀ front ∈ defaultFronts path,
      strip (front ++ path ++ suffix) = some (String.ofList (withoutLibrary path.toList)) := by
  have hdocker : isDefaultRegistry "docker.io".toList = true := by decide
  have hindex : isDefaultRegistry "index.docker.io".toList = true := by decide
  have hlibrary : stripChars ("docker.io".toList ++ '/' :: "library".toList ++
      '/' :: path.toList ++ suffix.toList) = some path.toList := by
    have h := stripChars_default hpath.behind_library hsuffix hdocker
    rwa [withoutLibrary_append (by decide), if_pos rfl, ← List.cons_append, ← List.append_assoc]
      at h
  intro front hfront
  rcases List.mem_append.mp hfront with hfront | hfront
  · rcases List.mem_cons.mp hfront with rfl | hfront
    · exact strip_behind (by decide) (stripChars_default hpath hsuffix hdocker)
    · rw [List.mem_singleton.mp hfront]
      exact strip_behind (by decide) (stripChars_default hpath hsuffix hindex)
  · split at hfront
    · cases hfront
    · rename_i hslash
      rw [withoutLibrary_of_single hslash]
      rcases List.mem_cons.mp hfront with rfl | hfront
      · exact strip_behind (by decide) (stripChars_library hpath hsuffix)
      · rw [List.mem_singleton.mp hfront]
        exact strip_behind (by decide) hlibrary

/-- All spellings of a path of the default registry come to the same repository, with any tag and
any digest. Only the path by itself is malformed if its first component doubles a separator. -/
theorem strip_spellings {path : String} (hpath : Path path.toList)
    (hfirst : '/' ∈ path.toList → '.' ∉ beforeFirst '/' path.toList ∧
      beforeFirst '/' path.toList ≠ "localhost".toList) :
    ∃ repo, ∀ suffix : String, Suffix suffix.toList →
      (∀ front ∈ defaultFronts path, strip (front ++ path ++ suffix) = some repo) ∧
      strip (path ++ suffix) =
        if Undoubled (beforeFirst '/' path.toList) then some repo else none := by
  refine ⟨String.ofList (withoutLibrary path.toList), fun suffix hsuffix =>
    ⟨strip_of_front hpath hsuffix, ?_⟩⟩
  have hregistry : '/' ∈ path.toList → ¬ isRegistry (beforeFirst '/' path.toList) = true := by
    intro hslash
    obtain ⟨hpoint, hlocal⟩ := hfirst hslash
    have hcolon : ':' ∉ beforeFirst '/' path.toList := fun hmem =>
      (hpath.isImageChar ':' ((beforeFirst_isPrefix '/' path.toList).subset hmem)).2 rfl
    rw [isRegistry, Bool.or_eq_true, Bool.or_eq_true, decide_eq_true_eq, List.contains_iff_mem,
      List.contains_iff_mem]
    exact not_or.mpr ⟨not_or.mpr ⟨hpoint, hcolon⟩, hlocal⟩
  rw [strip, String.toList_append, stripChars_path hpath hsuffix hregistry]
  split
  · rfl
  · rfl

/-- A path of two components, with a tag and a digest behind it. -/
theorem redis_spellings :
    Path "bitnami/redis".toList ∧
      ('.' ∉ beforeFirst '/' "bitnami/redis".toList ∧
        beforeFirst '/' "bitnami/redis".toList ≠ "localhost".toList) ∧
      Suffix ":7@sha256:ab".toList ∧
      ∃ repo, (∀ front ∈ ["docker.io/", "index.docker.io/"],
          strip (front ++ "bitnami/redis" ++ ":7@sha256:ab") = some repo) ∧
        strip ("bitnami/redis" ++ ":7@sha256:ab") = some repo := by
  have hpath : Path "bitnami/redis".toList := path_iff.mp (by decide)
  have hfirst : '.' ∉ beforeFirst '/' "bitnami/redis".toList ∧
      beforeFirst '/' "bitnami/redis".toList ≠ "localhost".toList := by decide
  have hsuffix : Suffix ":7@sha256:ab".toList := by
    have h : Suffix (':' :: "7".toList ++ '@' :: "sha256:ab".toList) :=
      .both (by decide) (by decide) _
    have heq : ":7@sha256:ab".toList = ':' :: "7".toList ++ '@' :: "sha256:ab".toList := by decide
    rw [heq]
    exact h
  obtain ⟨repo, hrepo⟩ := strip_spellings hpath fun _ => hfirst
  obtain ⟨hfronts, halone⟩ := hrepo _ hsuffix
  rw [if_pos (by decide)] at halone
  have hdefault : defaultFronts "bitnami/redis" = ["docker.io/", "index.docker.io/"] := by decide
  rw [hdefault] at hfronts
  exact ⟨hpath, hfirst, hsuffix, repo, hfronts, halone⟩

/-- A component that doubles a separator is malformed by itself, and well-formed behind whatever may
stand before it. -/
theorem doubled_malformed_alone :
    Path "my--app".toList ∧ (∀ front ∈ defaultFronts "my--app",
      strip (front ++ "my--app") = some "my--app") ∧ strip "my--app" = none := by
  refine ⟨path_iff.mp (by decide), ?_⟩
  decide +kernel

end PodSwap.Image
