import Mathlib.Data.List.Perm.Subperm
import PodSwap.Proofs.Json.Path

/-!
# Merge patches between values

The patch between two objects has a member for every key under which they differ, and no other.

Main statements: a well-formed value agrees with itself (`WellFormed.same_self`), and the members of
a patch (`get?_mergeDiff`).
-/

namespace PodSwap

namespace Entries

theorem get?_filter_key {α : Type} (keep : String → Bool) (k : String)
    (es : List (String × α)) :
    get? k (es.filter fun e => keep e.1) = if keep k then get? k es else none := by
  induction es with
  | nil => simp
  | cons e es ih =>
    by_cases he : e.1 = k
    · subst he
      by_cases hkeep : keep e.1 = true <;> simp [get?_cons, hkeep, ih]
    · by_cases hkeep : keep e.1 = true <;> simp [get?_cons, hkeep, he, ih]

end Entries

namespace Json

/-! ## A value agrees with itself -/

theorem double_same_self (d : Double) : d.same d = true := by
  unfold Double.same
  simp

theorem number_same_self (n : Number) : n.same n = true := by
  cases n with
  | int a => simp [Number.same]
  | double d => exact double_same_self d

mutual
theorem WellFormed.same_self : ∀ j : Json, j.WellFormed → j.same j = true
  | .null, _ => rfl
  | .bool b, _ => by simp [same]
  | .num n, _ => number_same_self n
  | .str s, _ => by simp [same]
  | .arr items, h => sameItems_self items h
  | .obj ms, h => by
    have hms := sameMembers_self ms ms h.2 fun e he => Entries.get?_of_mem h.1 he
    simp [same, hms]

theorem sameItems_self : ∀ js : List Json, WellFormedItems js → sameItems js js = true
  | [], _ => rfl
  | j :: js, h => by
    have hj := WellFormed.same_self j h.1
    have hjs := sameItems_self js h.2
    simp [sameItems, hj, hjs]

/-- Members that are found again under their keys agree with what is found. -/
theorem sameMembers_self : ∀ ms all : List (String × Json), WellFormedMembers ms →
    (∀ e ∈ ms, Entries.get? e.1 all = some e.2) → sameMembers ms all = true
  | [], _, _, _ => rfl
  | (k, j) :: ms, all, h, hall => by
    have hj := WellFormed.same_self j h.1
    have hms := sameMembers_self ms all h.2 fun e he => hall e (List.mem_cons_of_mem _ he)
    have hk := hall (k, j) List.mem_cons_self
    simp only at hk
    simp [sameMembers, sameMember, hk, hj, hms]
end

/-! ## The members of a patch -/

/-- What the patch says of one key. -/
def diffAt : Option Json → Option Json → Option Json
  | none, after => after
  | some _, none => some .null
  | some o, some m => if o.same m then none else some (mergeDiff o m)

theorem get?_diffMember_cons (k k' : String) (o : Json) (ms rest : List (String × Json)) :
    Entries.get? k ((diffMember (k', o) ms).toList ++ rest) =
      if k' = k then (diffAt (some o) (Entries.get? k ms)).or (Entries.get? k rest)
      else Entries.get? k rest := by
  rw [Entries.get?_append]
  unfold diffMember
  by_cases hk : k' = k
  · subst hk
    cases Entries.get? k' ms with
    | none => simp [diffAt, Entries.get?_cons]
    | some m =>
      by_cases hs : o.same m = true
      · simp [diffAt, hs]
      · simp [diffAt, hs, Entries.get?_cons]
  · rw [if_neg hk]
    cases Entries.get? k' ms with
    | none => simp [Entries.get?_cons, hk]
    | some m =>
      by_cases hs : o.same m = true
      · simp [hs]
      · simp [hs, Entries.get?_cons, hk]

theorem get?_diffMembers {k : String} {os : List (String × Json)} (h : (os.map (·.1)).Nodup)
    (ms : List (String × Json)) :
    Entries.get? k (diffMembers os ms) =
      (Entries.get? k os).bind fun o => diffAt (some o) (Entries.get? k ms) := by
  induction os with
  | nil => rfl
  | cons o os ih =>
    obtain ⟨k', o⟩ := o
    simp only [List.map_cons, List.nodup_cons] at h
    rw [diffMembers, get?_diffMember_cons, ih h.2, Entries.get?_cons]
    by_cases hk : k' = k
    · subst hk
      rw [Entries.get?_eq_none_of_not_mem h.1]
      simp
    · simp [hk]

theorem keys_diffMembers (os ms : List (String × Json)) :
    ((diffMembers os ms).map (·.1)).Sublist (os.map (·.1)) := by
  induction os with
  | nil => exact .slnil
  | cons o os ih =>
    obtain ⟨k, o⟩ := o
    have hd : diffMember (k, o) ms = none ∨ ∃ j, diffMember (k, o) ms = some (k, j) := by
      unfold diffMember
      cases Entries.get? k ms with
      | none => exact .inr ⟨_, rfl⟩
      | some m => by_cases hs : o.same m = true <;> simp [hs]
    rw [diffMembers]
    rcases hd with hd | ⟨j, hd⟩
    · rw [hd]
      exact ih.cons _
    · rw [hd]
      exact ih.cons_cons _

/-- A member of the patch between two objects. -/
theorem get?_mergeDiff {os ms : List (String × Json)} (ho : Rising os) (hm : Rising ms)
    (k : String) :
    (mergeDiff (.obj os) (.obj ms)).get? k = diffAt (Entries.get? k os) (Entries.get? k ms) := by
  have hnew : (ms.filter fun m => (Entries.get? m.1 os).isNone).map (·.1) |>.Nodup :=
    ((List.filter_sublist).map _).nodup (Entries.nodup_of_rising hm)
  have hold : ((diffMembers os ms).map (·.1)).Nodup :=
    (keys_diffMembers os ms).nodup (Entries.nodup_of_rising ho)
  have hnodup : ((diffMembers os ms ++
      ms.filter fun m => (Entries.get? m.1 os).isNone).map (·.1)).Nodup := by
    rw [List.map_append, List.nodup_append]
    refine ⟨hold, hnew, fun x hx y hy heq => ?_⟩
    -- a key of the old members is not among the keys that are new
    subst heq
    obtain ⟨e, he, rfl⟩ := List.mem_map.mp ((keys_diffMembers os ms).subset hx)
    obtain ⟨m, hmem, hkey⟩ := List.mem_map.mp hy
    have hnone := (List.mem_filter.mp hmem).2
    rw [hkey, Entries.get?_of_mem ho he] at hnone
    cases hnone
  have hfilter := Entries.get?_filter_key (fun key => (Entries.get? key os).isNone) k ms
  show Entries.get? k (Entries.ofList _) = _
  rw [Entries.get?_ofList, Entries.get?_reverse_of_nodup hnodup, Entries.get?_append,
    get?_diffMembers (Entries.nodup_of_rising ho), hfilter]
  cases Entries.get? k os with
  | none => rfl
  | some o => simp

theorem mergeDiff_obj (os ms : List (String × Json)) :
    ∃ ds, mergeDiff (.obj os) (.obj ms) = .obj ds ∧ Rising ds :=
  ⟨_, rfl, Entries.rising_ofList _⟩

/-- A patch between two objects is known by its members. -/
theorem mergeDiff_eq_obj {os ms ds : List (String × Json)} (ho : Rising os) (hm : Rising ms)
    (hd : Rising ds)
    (h : ∀ k, diffAt (Entries.get? k os) (Entries.get? k ms) = Entries.get? k ds) :
    mergeDiff (.obj os) (.obj ms) = .obj ds := by
  obtain ⟨ds', hds', hrising⟩ := mergeDiff_obj os ms
  rw [hds']
  congr 1
  apply Entries.eq_of_get? hrising hd
  intro k
  rw [← h k, ← get?_mergeDiff ho hm, hds', get?_obj]

/-- What a member becomes by what a patch says of it. -/
def patchedAt (x : Option Json) : Option Json → Option Json
  | none => x
  | some .null => none
  | some p => some (merge (x.getD .null) p)

/-- A member of a value to which the difference of two others was applied. -/
theorem get?_merge_mergeDiff {os ms : List (String × Json)} (ho : Rising os) (hm : Rising ms)
    (d : Json) (k : String) :
    (merge d (mergeDiff (.obj os) (.obj ms))).get? k =
      patchedAt (d.get? k) (diffAt (Entries.get? k os) (Entries.get? k ms)) := by
  obtain ⟨ds, hds, hrising⟩ := mergeDiff_obj os ms
  have hk := get?_mergeDiff ho hm k
  rw [hds, get?_obj] at hk
  rw [hds, get?_merge (Entries.nodup_of_rising hrising), hk]
  cases diffAt (Entries.get? k os) (Entries.get? k ms) with
  | none => rfl
  | some p => cases p <;> rfl

/-! ## Agreement -/

theorem sameMembers_get? {k : String} {j : Json} {as bs : List (String × Json)}
    (h : sameMembers as bs = true) (hk : Entries.get? k as = some j) :
    ∃ b, Entries.get? k bs = some b ∧ j.same b = true := by
  induction as with
  | nil => simp at hk
  | cons a as ih =>
    obtain ⟨k', j'⟩ := a
    simp only [sameMembers, Bool.and_eq_true] at h
    rw [Entries.get?_cons] at hk
    split at hk
    · rename_i heq
      simp only at heq hk
      subst heq
      cases hk
      have hmember := h.1
      unfold sameMember at hmember
      cases hb : Entries.get? k' bs with
      | none => simp [hb] at hmember
      | some b => exact ⟨b, rfl, by simpa [hb] using hmember⟩
    · exact ih h.2 hk

theorem mem_keys_iff {k : String} {es : List (String × Json)} :
    k ∈ es.map (·.1) ↔ ∃ j, Entries.get? k es = some j := by
  induction es with
  | nil => simp
  | cons e es ih =>
    rw [List.map_cons, List.mem_cons, Entries.get?_cons, ih]
    by_cases he : e.1 = k
    · simp [he]
    · simp [he, Ne.symm he]

/-- Objects that agree have the same keys, since they have as many and one has no others. -/
theorem mem_keys_of_same {k : String} {as bs : List (String × Json)} (ha : Rising as)
    (h : (obj as).same (obj bs) = true) (hk : k ∈ bs.map (·.1)) : k ∈ as.map (·.1) := by
  simp only [same, Bool.and_eq_true, beq_iff_eq] at h
  have hsub : as.map (·.1) ⊆ bs.map (·.1) := by
    intro k' hk'
    obtain ⟨j, hj⟩ := mem_keys_iff.mp hk'
    obtain ⟨b, hb, -⟩ := sameMembers_get? h.2 hj
    exact mem_keys_iff.mpr ⟨b, hb⟩
  have hperm := (List.subperm_of_subset (Entries.nodup_of_rising ha) hsub).perm_of_length_le
    (by simp [h.1])
  exact hperm.symm.subset hk

/-- Objects that agree differ under no key. -/
theorem diffAt_of_same {as bs : List (String × Json)} (ha : Rising as)
    (h : (obj as).same (obj bs) = true) (k : String) :
    diffAt (Entries.get? k as) (Entries.get? k bs) = none := by
  have hmembers : sameMembers as bs = true := by
    simp only [same, Bool.and_eq_true] at h
    exact h.2
  cases hk : Entries.get? k as with
  | some j =>
    obtain ⟨b, hb, hj⟩ := sameMembers_get? hmembers hk
    rw [hb, diffAt, if_pos hj]
  | none =>
    cases hb : Entries.get? k bs with
    | none => rfl
    | some b =>
      obtain ⟨j, hj⟩ := mem_keys_iff.mp (mem_keys_of_same ha h (mem_keys_iff.mpr ⟨b, hb⟩))
      rw [hk] at hj
      cases hj

/-- Objects that differ under a key have a patch between them. -/
theorem diffAt_obj {k : String} {v : Json} {os ms ds : List (String × Json)} (ho : Rising os)
    (hk : diffAt (Entries.get? k os) (Entries.get? k ms) = some v)
    (hd : mergeDiff (.obj os) (.obj ms) = .obj ds) :
    diffAt (some (.obj os)) (some (.obj ms)) = some (.obj ds) := by
  have hs : (obj os).same (obj ms) = false := by
    by_contra hs
    rw [diffAt_of_same ho (by simpa using hs) k] at hk
    cases hk
  rw [diffAt, hs, hd]
  rfl

theorem diffAt_self {x : Option Json} (h : ∀ j ∈ x, j.WellFormed) : diffAt x x = none := by
  cases x with
  | none => rfl
  | some j => rw [diffAt, if_pos (WellFormed.same_self j (h j rfl))]

end Json

end PodSwap
