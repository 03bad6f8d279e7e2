import PodSwap.Json.Merge
import PodSwap.Proofs.Object.Fields

/-!
# Values at the end of a path

What a merge patch does is said path by path: a member that the patch does not name stays, a member
that it names `null` goes, and any other becomes the member with the patch below it merged.

Main statements: the members of a merged object (`get?_merge`), and that a patch leaves alone every
path it spares (`at?_merge`).
-/

namespace PodSwap

namespace Entries

theorem get?_of_mem_of_nodup {α : Type} {es : List (String × α)} (h : (es.map (·.1)).Nodup)
    {e : String × α} (he : e ∈ es) : get? e.1 es = some e.2 := by
  induction es with
  | nil => cases he
  | cons x xs ih =>
    simp only [List.map_cons, List.nodup_cons] at h
    rw [get?_cons]
    rcases List.mem_cons.mp he with rfl | he
    · rw [if_pos rfl]
    · have hne : x.1 ≠ e.1 := fun heq => h.1 (heq ▸ List.mem_map_of_mem (f := (·.1)) he)
      rw [if_neg hne]
      exact ih h.2 he

theorem get?_of_mem {α : Type} {es : List (String × α)} (h : Rising es) {e : String × α}
    (he : e ∈ es) : get? e.1 es = some e.2 :=
  get?_of_mem_of_nodup (nodup_of_rising h) he

end Entries

namespace Json

/-- The value at the end of a path of keys. -/
def at? : List String → Json → Option Json
  | [], j => some j
  | k :: ks, j => (j.get? k).bind (at? ks)

theorem at?_cons (k : String) (ks : List String) (j : Json) :
    at? (k :: ks) j = (j.get? k).bind (at? ks) := rfl

@[simp] theorem at?_singleton (k : String) (j : Json) : at? [k] j = j.get? k := by
  rw [at?_cons]
  cases j.get? k <;> rfl

@[simp] theorem get?_obj (ms : List (String × Json)) (k : String) :
    (obj ms).get? k = Entries.get? k ms := rfl

theorem exists_of_isObject {j : Json} (h : j.isObject = true) : ∃ ms, j = .obj ms := by
  cases j <;> first | exact ⟨_, rfl⟩ | cases h

/-- The members of what is put together from fields are those fields that have a value. -/
theorem get?_fields {l : List (String × Option Json)} (h : (l.map (·.1)).Nodup) (k : String) :
    (fields l).get? k = (Entries.get? k l).join := by
  show Entries.get? k (Entries.ofList _) = _
  rw [Entries.get?_ofList,
    Entries.get?_reverse_of_nodup ((Entries.map_filterMap_sublist l).nodup h),
    Entries.get?_filterMap h]

/-! ## Well-formed values -/

theorem wellFormed_of_get?_members {k : String} {j : Json} {ms : List (String × Json)}
    (h : WellFormedMembers ms) (hk : Entries.get? k ms = some j) : j.WellFormed := by
  induction ms with
  | nil => simp at hk
  | cons m ms ih =>
    obtain ⟨k', j'⟩ := m
    rw [Entries.get?_cons] at hk
    split at hk
    · cases hk
      exact h.1
    · exact ih h.2 hk

/-- The members of a well-formed value are well formed. -/
theorem WellFormed.get? {k : String} {j d : Json} (h : d.WellFormed) (hk : d.get? k = some j) :
    j.WellFormed := by
  cases d with
  | obj ms => exact wellFormed_of_get?_members h.2 hk
  | _ => simp [Json.get?, members?] at hk

/-! ## Merging -/

theorem get?_mergeMember (k k' : String) (p : Json) (ts : List (String × Json)) :
    Entries.get? k' (mergeMember ts (k, p)) =
      if k = k' then
        match p with
        | .null => none
        | p => some (merge ((Entries.get? k ts).getD .null) p)
      else Entries.get? k' ts := by
  cases p with
  | null =>
    rw [mergeMember, Entries.get?_erase]
  | _ =>
    rw [mergeMember, Entries.get?_insert]
    intro h
    cases h

/-- A member of what a patch makes of members: the patch decides where it names the key. -/
theorem get?_mergeMembers {k : String} {ps : List (String × Json)} (h : (ps.map (·.1)).Nodup)
    (ts : List (String × Json)) :
    Entries.get? k (mergeMembers ts ps) =
      match Entries.get? k ps with
      | none => Entries.get? k ts
      | some .null => none
      | some p => some (merge ((Entries.get? k ts).getD .null) p) := by
  induction ps generalizing ts with
  | nil => rfl
  | cons m ps ih =>
    obtain ⟨k', p⟩ := m
    simp only [List.map_cons, List.nodup_cons] at h
    rw [mergeMembers, ih h.2, get?_mergeMember, Entries.get?_cons]
    by_cases hk : k' = k
    · subst hk
      -- the key does not come again, so the rest of the patch says nothing about it
      rw [Entries.get?_eq_none_of_not_mem h.1]
      cases p <;> simp
    · simp only [if_neg hk]

/-- A member of a merged value. -/
theorem get?_merge {k : String} {ps : List (String × Json)} (h : (ps.map (·.1)).Nodup)
    (d : Json) :
    (merge d (.obj ps)).get? k =
      match Entries.get? k ps with
      | none => d.get? k
      | some .null => none
      | some p => some (merge ((d.get? k).getD .null) p) := by
  have hd : Entries.get? k (d.members?.getD []) = d.get? k := by
    cases d <;> rfl
  rw [merge, get?_obj, get?_mergeMembers h, hd]

/-- A merge with one member of the patch shown. -/
theorem get?_merge_obj {k : String} {ps qs : List (String × Json)} (h : (ps.map (·.1)).Nodup)
    (hk : Entries.get? k ps = some (.obj qs)) (d : Json) :
    (merge d (.obj ps)).get? k = some (merge ((d.get? k).getD .null) (.obj qs)) := by
  rw [get?_merge h, hk]

/-! ## What a patch spares -/

/-- Whether a patch says nothing about a path, about what lies on the way to it or beyond it. -/
def Spares : List String → Json → Prop
  | k :: ks, .obj ps =>
    (ps.map (·.1)).Nodup ∧
      match Entries.get? k ps with
      | none => True
      | some p => Spares ks p
  | _, _ => False

/-- A merge leaves alone every path that the patch spares. -/
theorem at?_merge {path : List String} {patch : Json} (h : Spares path patch) (d : Json) :
    at? path (merge d patch) = at? path d := by
  induction path generalizing patch d with
  | nil => exact absurd h (by simp [Spares])
  | cons k ks ih =>
    cases patch with
    | obj ps =>
      obtain ⟨hnodup, hspares⟩ := h
      rw [at?_cons, at?_cons, get?_merge hnodup]
      cases hk : Entries.get? k ps with
      | none => rfl
      | some p =>
        rw [hk] at hspares
        have hd := ih hspares ((d.get? k).getD .null)
        cases p with
        | obj qs =>
          show at? ks (merge ((d.get? k).getD .null) (.obj qs)) = _
          rw [hd]
          -- an object that is not there has no path below it that could be spared
          cases hdk : d.get? k with
          | some j => rfl
          | none =>
            cases ks with
            | nil => exact absurd hspares (by simp [Spares])
            | cons k' ks => rfl
        | _ => cases ks <;> exact absurd hspares (by simp [Spares])
    | _ => exact absurd h (by simp [Spares])

end Json

end PodSwap
