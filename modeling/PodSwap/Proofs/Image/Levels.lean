import Mathlib.Data.Nat.Find
import PodSwap.Image.Catalog

/-!
# At which level a dotted name is found

A dotted name can be read at several levels. At the first it is a name of the catalog itself; at
each further one the next segment has to name a dependency, and what is left is a name of its
catalog. So a name of `m` segments has up to `m` levels, of which the last is that of its last
segment.

A level has a name if it has a configured image under it; what the last build made under that name
then takes the place of the image, if it is complete (`Taken`).

Main statement: `lookup_shallowest`, by which the first level that has the name decides, and nothing
else is looked at.
-/

namespace PodSwap.Catalog

/-! ## Levels -/

/-- The catalog that is reached through dependencies, one below the other. -/
def below? : List String → Catalog → Option Catalog
  | [], c => some c
  | name :: names, c => (Entries.get? name c.dependencies).bind (below? names)

/-- The image that a catalog has under a name, with what was built under the same name. -/
def configured? (c : Catalog) (name : String) : Option (ImageEntry × Option GeneratedImage) :=
  (c.images.get? name).map fun entry => (entry, c.generated.get? name)

/-- What the segments of a name lead to at a level: the first so many of them through dependencies,
and the others together to an image. -/
def level? (c : Catalog) (segments : List (List Char)) (k : Nat) :
    Option (ImageEntry × Option GeneratedImage) :=
  (below? ((segments.take k).map String.ofList) c).bind (·.configured? (joined (segments.drop k)))

/-- The segments of a dotted name. -/
def segments (name : String) : List (List Char) := Text.splitOn '.' name.toList

/-- Which image is taken of a configured one and what was built: what was built, if both its texts
are there, and else the configured image with its first tag. -/
inductive Taken (entry : ImageEntry) (built : Option GeneratedImage) : TaggedImage → Prop where
  | built {g : GeneratedImage} (h : built = some g) (himage : g.imageName ≠ "")
    (htag : g.tag ≠ "") : Taken entry built ⟨g.imageName, some g.tag⟩
  | configured (h : ∀ g, built = some g → g.imageName = "" ∨ g.tag = "") :
    Taken entry built ⟨entry.image, entry.tags.head?⟩

theorem Taken.unique {entry : ImageEntry} {built : Option GeneratedImage}
    {found found' : TaggedImage} (h : Taken entry built found) (h' : Taken entry built found') :
    found = found' := by
  cases h with
  | built hbuilt himage htag =>
    cases h' with
    | built hbuilt' _ _ => rw [Option.some.inj (hbuilt.symm.trans hbuilt')]
    | configured hno => exact absurd (hno _ hbuilt) (not_or.mpr ⟨himage, htag⟩)
  | configured hno =>
    cases h' with
    | built hbuilt himage htag => exact absurd (hno _ hbuilt) (not_or.mpr ⟨himage, htag⟩)
    | configured _ => rfl

theorem exists_taken (entry : ImageEntry) (built : Option GeneratedImage) :
    ∃ found, Taken entry built found := by
  by_cases h : ∀ g, built = some g → g.imageName = "" ∨ g.tag = ""
  · exact ⟨_, .configured h⟩
  · push Not at h
    obtain ⟨g, hbuilt, himage, htag⟩ := h
    exact ⟨_, .built hbuilt himage htag⟩

/-- What a catalog itself has under a name is taken of what it has configured and built. -/
theorem taken_of_own? {c : Catalog} {name : String} {entry : ImageEntry}
    {built : Option GeneratedImage} (h : c.configured? name = some (entry, built)) :
    ∃ found, c.own? name = some found ∧ Taken entry built found := by
  obtain ⟨entry', hentry, heq⟩ := Option.map_eq_some_iff.mp h
  cases heq
  rw [own?, hentry]
  cases hbuilt : c.generated.get? name with
  | none => exact ⟨_, rfl, .configured fun g hg => by cases hg⟩
  | some g =>
    by_cases hcomplete : g.imageName ≠ "" ∧ g.tag ≠ ""
    · exact ⟨_, by simp only [Option.map_some, if_pos hcomplete],
        .built rfl hcomplete.1 hcomplete.2⟩
    · refine ⟨_, by simp only [Option.map_some, if_neg hcomplete], .configured fun g' hg => ?_⟩
      cases hg
      rwa [ne_eq, ne_eq, ← not_or, not_not] at hcomplete

theorem own?_of_no_entry {c : Catalog} {name : String} (h : c.configured? name = none) :
    c.own? name = none := by
  rw [own?, Option.map_eq_none_iff.mp h]
  rfl

/-! ## The first level that has the name -/

theorem level?_zero (c : Catalog) (segments : List (List Char)) :
    c.level? segments 0 = c.configured? (joined segments) := rfl

theorem level?_succ (c : Catalog) (segment : List Char) (rest : List (List Char)) (k : Nat) :
    c.level? (segment :: rest) (k + 1) =
      (Entries.get? (String.ofList segment) c.dependencies).bind (·.level? rest k) := by
  show (Option.bind _ _).bind _ = _
  rw [Option.bind_assoc]
  rfl

theorem lookupSegments_cons (c : Catalog) (segment : List Char) (rest : List (List Char)) :
    c.lookupSegments (segment :: rest) = (c.own? (joined (segment :: rest))).or
      ((Entries.get? (String.ofList segment) c.dependencies).bind (·.lookupSegments rest)) := by
  cases rest with
  | nil =>
    rw [lookupSegments]
    cases Entries.get? (String.ofList segment) c.dependencies <;> simp [lookupSegments]
  | cons next rest =>
    rw [lookupSegments]
    cases c.own? (joined (segment :: next :: rest)) with
    | some found => rfl
    | none => cases Entries.get? (String.ofList segment) c.dependencies <;> rfl

/-- Whether a level is the first that has a name. -/
def IsFirst (c : Catalog) (segments : List (List Char)) (k : Nat) (entry : ImageEntry)
    (built : Option GeneratedImage) : Prop :=
  k < segments.length ∧ c.level? segments k = some (entry, built) ∧
    ∀ j < k, c.level? segments j = none

section

variable {c : Catalog} {segment : List Char} {rest : List (List Char)} {k : Nat}
  {entry : ImageEntry} {built : Option GeneratedImage}

/-- A catalog that has the name itself is the first level. -/
theorem isFirst_cons_iff_of_some {own : ImageEntry × Option GeneratedImage}
    (h : c.configured? (joined (segment :: rest)) = some own) :
    c.IsFirst (segment :: rest) k entry built ↔ k = 0 ∧ own = (entry, built) := by
  constructor
  · rintro ⟨-, hlevel, hno⟩
    cases k with
    | zero =>
      rw [level?_zero, h] at hlevel
      exact ⟨rfl, Option.some.inj hlevel⟩
    | succ k =>
      have hnone := hno 0 (Nat.zero_lt_succ k)
      rw [level?_zero, h] at hnone
      cases hnone
  · rintro ⟨rfl, rfl⟩
    exact ⟨Nat.zero_lt_succ _, h, fun j hj => absurd hj (Nat.not_lt_zero j)⟩

/-- A catalog that does not have the name itself leaves it to the dependency. -/
theorem isFirst_cons_iff_of_none (h : c.configured? (joined (segment :: rest)) = none) :
    c.IsFirst (segment :: rest) k entry built ↔ ∃ j dependency, k = j + 1 ∧
      Entries.get? (String.ofList segment) c.dependencies = some dependency ∧
        dependency.IsFirst rest j entry built := by
  constructor
  · rintro ⟨hk, hlevel, hno⟩
    cases k with
    | zero =>
      rw [level?_zero, h] at hlevel
      cases hlevel
    | succ k =>
      rw [level?_succ] at hlevel
      obtain ⟨dependency, hbelow, hlevel⟩ := Option.bind_eq_some_iff.mp hlevel
      refine ⟨k, dependency, rfl, hbelow, Nat.lt_of_succ_lt_succ hk, hlevel, fun j hj => ?_⟩
      have hnone := hno (j + 1) (Nat.succ_lt_succ hj)
      rwa [level?_succ, hbelow] at hnone
  · rintro ⟨j, dependency, rfl, hbelow, hj, hlevel, hno⟩
    refine ⟨Nat.succ_lt_succ hj, by rw [level?_succ, hbelow]; exact hlevel, fun i hi => ?_⟩
    cases i with
    | zero => exact h
    | succ i =>
      rw [level?_succ, hbelow]
      exact hno i (Nat.lt_of_succ_lt_succ hi)

end

/-- What is found under a name is taken of the first level that has it. -/
theorem lookupSegments_eq_some_iff {c : Catalog} {segments : List (List Char)}
    {found : TaggedImage} : c.lookupSegments segments = some found ↔
      ∃ k entry built, c.IsFirst segments k entry built ∧ Taken entry built found := by
  induction segments generalizing c with
  | nil =>
    refine iff_of_false (fun h => by cases h) ?_
    rintro ⟨k, _, _, ⟨hk, -⟩, -⟩
    exact absurd hk (Nat.not_lt_zero k)
  | cons segment rest ih =>
    rw [lookupSegments_cons]
    cases hown : c.configured? (joined (segment :: rest)) with
    | some own =>
      obtain ⟨entry, built⟩ := own
      obtain ⟨found', hfound', htaken'⟩ := taken_of_own? hown
      simp only [isFirst_cons_iff_of_some hown]
      rw [hfound', Option.some_or]
      constructor
      · rintro ⟨⟩
        exact ⟨0, entry, built, ⟨rfl, rfl⟩, htaken'⟩
      · rintro ⟨_, _, _, ⟨-, ⟨⟩⟩, htaken⟩
        rw [htaken'.unique htaken]
    | none =>
      simp only [isFirst_cons_iff_of_none hown]
      rw [own?_of_no_entry hown, Option.none_or, Option.bind_eq_some_iff]
      simp only [ih]
      constructor
      · rintro ⟨dependency, hbelow, j, entry, built, hfirst, htaken⟩
        exact ⟨j + 1, entry, built, ⟨j, dependency, rfl, hbelow, hfirst⟩, htaken⟩
      · rintro ⟨_, entry, built, ⟨j, dependency, -, hbelow, hfirst⟩, htaken⟩
        exact ⟨dependency, hbelow, j, entry, built, hfirst, htaken⟩

/-- Of the levels that have a name one is the first. -/
theorem exists_isFirst {c : Catalog} {segments : List (List Char)}
    (h : ∃ k < segments.length, c.level? segments k ≠ none) :
    ∃ k entry built, c.IsFirst segments k entry built := by
  classical
  obtain ⟨hk, hlevel⟩ := Nat.find_spec h
  obtain ⟨⟨entry, built⟩, hentry⟩ := Option.ne_none_iff_exists'.mp hlevel
  refine ⟨Nat.find h, entry, built, hk, hentry, fun j hj => ?_⟩
  by_contra hne
  exact Nat.find_min h hj ⟨Nat.lt_trans hj hk, hne⟩

/-- A dotted name is found exactly if some level has it. Then the first of these decides: what was
built there is taken, if it is complete, and else what is configured. Catalogs that have the same at
each level of the name find the same under it, whatever else they hold. -/
theorem lookup_shallowest (c : Catalog) (name : String) :
    ((c.lookup name).isSome = true ↔
      ∃ k < (segments name).length, ∃ level,
        below? (((segments name).take k).map String.ofList) c = some level ∧
          level.images.get? (joined ((segments name).drop k)) ≠ none) ∧
    (∀ found, c.lookup name = some found ↔
      ∃ k entry built, c.IsFirst (segments name) k entry built ∧ Taken entry built found) ∧
    ∀ c' : Catalog,
      (∀ k < (segments name).length, c'.level? (segments name) k = c.level? (segments name) k) →
        c'.lookup name = c.lookup name := by
  have hfound : ∀ (c : Catalog) (found : TaggedImage), c.lookup name = some found ↔
      ∃ k entry built, c.IsFirst (segments name) k entry built ∧ Taken entry built found :=
    fun c found => lookupSegments_eq_some_iff
  refine ⟨?_, hfound c, fun c' hsame => ?_⟩
  · have hlevel : ∀ k, c.level? (segments name) k ≠ none ↔ ∃ level,
        below? (((segments name).take k).map String.ofList) c = some level ∧
          level.images.get? (joined ((segments name).drop k)) ≠ none := by
      intro k
      unfold level? configured?
      cases below? (((segments name).take k).map String.ofList) c <;> simp
    simp only [← hlevel]
    constructor
    · intro h
      obtain ⟨found, hlookup⟩ := Option.isSome_iff_exists.mp h
      obtain ⟨k, entry, built, ⟨hk, hlevel, -⟩, -⟩ := (hfound c found).mp hlookup
      exact ⟨k, hk, by rw [hlevel]; exact Option.some_ne_none _⟩
    · intro h
      obtain ⟨k, entry, built, hfirst⟩ := exists_isFirst h
      obtain ⟨found, htaken⟩ := exists_taken entry built
      rw [(hfound c found).mpr ⟨k, entry, built, hfirst, htaken⟩]
      rfl
  · have hfirst : ∀ k entry built, c'.IsFirst (segments name) k entry built ↔
        c.IsFirst (segments name) k entry built := by
      intro k entry built
      refine and_congr_right fun hk => ?_
      rw [hsame k hk]
      refine and_congr_right fun _ => forall₂_congr fun j hj => ?_
      rw [hsame j (Nat.lt_trans hj hk)]
    refine Option.ext fun found => ?_
    rw [hfound c', hfound c]
    simp only [hfirst]

/-- A catalog in which `auth.deep.x` has three levels. Of these the first has no such image, though
it has others; the second has only something built; and the third has it, with nothing built that
would be complete. -/
def layered : Catalog :=
  let deep : Catalog := .mk (.ofList [("x", ⟨"deep/x", ["d1", "d2"]⟩)])
    (.ofList [("x", ⟨"deep/x", ""⟩)]) []
  let auth : Catalog := .mk .empty (.ofList [("deep.x", ⟨"built/x", "b1"⟩)]) [("deep", deep)]
  .mk (.ofList [("auth.deep", ⟨"team/auth", []⟩), ("x", ⟨"team/x", []⟩)]) .empty [("auth", auth)]

/-- The third level is found, also from a catalog that has nothing else. -/
theorem found_at_third_level :
    layered.lookup "auth.deep.x" = some ⟨"deep/x", some "d1"⟩ ∧
      let deep : Catalog := .mk (.ofList [("x", ⟨"deep/x", ["d1", "d2"]⟩)])
        (.ofList [("x", ⟨"deep/x", ""⟩)]) []
      let auth : Catalog := .mk .empty .empty [("deep", deep)]
      (Catalog.mk .empty .empty [("auth", auth)]).lookup "auth.deep.x" =
        some ⟨"deep/x", some "d1"⟩ := by
  obtain ⟨-, hfound, hsame⟩ := lookup_shallowest layered "auth.deep.x"
  have hlookup : layered.lookup "auth.deep.x" = some ⟨"deep/x", some "d1"⟩ := by
    refine (hfound _).mpr ⟨2, ⟨"deep/x", ["d1", "d2"]⟩, some ⟨"deep/x", ""⟩, ?_, .configured ?_⟩
    · exact ⟨by decide, by decide +kernel, by decide +kernel⟩
    · rintro _ ⟨⟩
      exact .inr rfl
  refine ⟨hlookup, ?_⟩
  dsimp only
  rw [hsame _ (by decide +kernel), hlookup]

end PodSwap.Catalog
