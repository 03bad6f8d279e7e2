import PodSwap.Proofs.Json.Canonical
import PodSwap.Proofs.Json.Diff
import PodSwap.Proofs.Json.WellFormed

/-!
# The patch between two values leads from one to the other

A merge patch cannot set a member to `null`, since that removes it. For a value that asks for no
such member, the patch from any other value makes it of that one. The patch names what is different
and nothing else, and it is empty where nothing is.

Values are compared by `Json.same`, so the two floating-point zeros count as one number; without
floating-point numbers the patch makes the very value (`Plain.eq_of_same`).

Main statement: `mergeDiff_leads_minimally`.
-/

namespace PodSwap

namespace Json

/-- Whether two members, either of which may be missing, agree. -/
def sameAt : Option Json → Option Json → Bool
  | none, none => true
  | some a, some b => a.same b
  | _, _ => false

/-- Whether no member is `null`, of the value or of what its members hold. Items of lists may be. -/
inductive NullFree : Json → Prop where
  | leaf {j : Json} (h : j.isObject = false) : NullFree j
  | obj {ms : List (String × Json)} (hnull : ∀ e ∈ ms, e.2 ≠ .null) (h : ∀ e ∈ ms, NullFree e.2) :
    NullFree (.obj ms)

/-! ## Objects member by member -/

theorem diffAt_eq_none_iff {x y : Option Json} : diffAt x y = none ↔ sameAt x y = true := by
  cases x with
  | none => cases y <;> simp [diffAt, sameAt]
  | some a => cases y <;> simp [diffAt, sameAt]

theorem sameMembers_of_get? {as bs : List (String × Json)}
    (h : ∀ e ∈ as, sameAt (some e.2) (Entries.get? e.1 bs) = true) : sameMembers as bs = true := by
  induction as with
  | nil => rfl
  | cons a as ih =>
    obtain ⟨k, j⟩ := a
    have hhead := h (k, j) List.mem_cons_self
    have htail := ih fun e he => h e (List.mem_cons_of_mem _ he)
    rw [sameMembers, htail, Bool.and_true, sameMember]
    cases hb : Entries.get? k bs with
    | none =>
      rw [hb] at hhead
      cases hhead
    | some b =>
      rw [hb] at hhead
      exact hhead

/-- Objects agree exactly if they agree under every key. -/
theorem same_obj_iff {as bs : List (String × Json)} (ha : Rising as) (hb : Rising bs) :
    (obj as).same (obj bs) = true ↔
      ∀ k, sameAt (Entries.get? k as) (Entries.get? k bs) = true := by
  refine ⟨fun h k => diffAt_eq_none_iff.mp (diffAt_of_same ha h k), fun h => ?_⟩
  have hkeys : ∀ k, k ∈ as.map (·.1) ↔ k ∈ bs.map (·.1) := by
    intro k
    have hk := h k
    rw [mem_keys_iff, mem_keys_iff]
    cases hka : Entries.get? k as <;> cases hkb : Entries.get? k bs <;> simp_all [sameAt]
  have hperm : (as.map (·.1)).Perm (bs.map (·.1)) :=
    (List.perm_ext_iff_of_nodup (Entries.nodup_of_rising ha) (Entries.nodup_of_rising hb)).mpr hkeys
  have hlength : as.length = bs.length := by simpa using hperm.length_eq
  have hmembers : sameMembers as bs = true := by
    refine sameMembers_of_get? fun e he => ?_
    have hk := h e.1
    rwa [Entries.get?_of_mem ha he] at hk
  simp [same, hlength, hmembers]

/-! ## The patch leads to the value -/

theorem mergeDiff_of_not_object {o m : Json} (h : o.isObject = false ∨ m.isObject = false) :
    mergeDiff o m = m := by
  cases o <;> cases m <;> first | rfl | simp [isObject, members?] at h

theorem merge_of_not_object {d p : Json} (h : p.isObject = false) : merge d p = p := by
  cases p <;> first | rfl | cases h

/-- A patch is `null` only where the value is to be. -/
theorem mergeDiff_ne_null {o m : Json} (h : m ≠ .null) : mergeDiff o m ≠ .null := by
  cases o <;> cases m <;> first | exact h | (intro heq; cases heq)

theorem patchedAt_of_ne_null {x : Option Json} {p : Json} (h : p ≠ .null) :
    patchedAt x (some p) = some (merge (x.getD .null) p) := by
  cases p <;> first | rfl | exact absurd rfl h

/-- What asks for no `null` is its own patch, for whatever is no object. -/
theorem NullFree.merge_eq {m : Json} (h : m.NullFree) :
    ∀ {d : Json}, m.WellFormed → d.isObject = false → merge d m = m := by
  induction h with
  | leaf hm => exact fun _ _ => merge_of_not_object hm
  | @obj ms hnull _ ih =>
    intro d hwf hd
    have hmembers : d.members?.getD [] = [] := by
      cases d <;> first | rfl | cases hd
    have hmerged : (Json.obj (mergeMembers [] ms)).WellFormed :=
      wellFormed_mergeMembers ⟨.nil, trivial⟩ ms hwf.2
    rw [merge, hmembers]
    congr 1
    refine Entries.eq_of_get? hmerged.1 hwf.1 fun k => ?_
    rw [get?_mergeMembers (Entries.nodup_of_rising hwf.1)]
    cases hk : Entries.get? k ms with
    | none => rfl
    | some p =>
      have hmem := Entries.mem_of_get? hk
      have hp : merge .null p = p := ih _ hmem (wellFormed_of_get?_members hwf.2 hk) rfl
      have hne : p ≠ .null := hnull _ hmem
      cases p <;> first | exact absurd rfl hne | exact congrArg some hp

/-- Under each key the patch between two objects makes what it is to make. -/
theorem sameAt_patchedAt_diffAt {x y : Option Json}
    (hnull : ∀ m ∈ y, m ≠ .null) (hnew : ∀ m ∈ y, merge .null m = m)
    (hself : ∀ m ∈ y, m.same m = true)
    (hrest : ∀ o ∈ x, ∀ m ∈ y, (merge o (mergeDiff o m)).same m = true) :
    sameAt (patchedAt x (diffAt x y)) y = true := by
  cases y with
  | none => cases x <;> rfl
  | some m =>
    have hne := hnull m rfl
    cases x with
    | none =>
      rw [diffAt, patchedAt_of_ne_null hne, Option.getD_none, hnew m rfl]
      exact hself m rfl
    | some o =>
      by_cases hs : o.same m = true
      · rw [diffAt, if_pos hs]
        exact hs
      · rw [diffAt, if_neg hs, patchedAt_of_ne_null (mergeDiff_ne_null hne)]
        exact hrest o rfl m rfl

/-- The patch from any value to one that asks for no `null` makes the latter of the former. -/
theorem NullFree.same_merge_mergeDiff {m : Json} (h : m.NullFree) :
    ∀ {o : Json}, o.WellFormed → m.WellFormed → (merge o (mergeDiff o m)).same m = true := by
  induction h with
  | leaf hm =>
    intro o _ hwf
    rw [mergeDiff_of_not_object (.inr hm), merge_of_not_object hm]
    exact WellFormed.same_self _ hwf
  | @obj ms hnull hfree ih =>
    intro o ho hwf
    cases o with
    | obj os =>
      obtain ⟨ds, hds, -⟩ := mergeDiff_obj os ms
      have hpatch := WellFormed.mergeDiff _ ho hwf
      rw [hds] at hpatch
      have hmerged : (Json.obj (mergeMembers os ds)).WellFormed := ho.merge _ hpatch
      have hget := get?_merge_mergeDiff ho.1 hwf.1 (.obj os)
      rw [hds, merge] at hget ⊢
      refine (same_obj_iff hmerged.1 hwf.1).mpr fun k => ?_
      have hk := hget k
      rw [get?_obj, get?_obj] at hk
      rw [show Entries.get? k (mergeMembers os ds) = _ from hk]
      have hmem : ∀ m ∈ Entries.get? k ms, (k, m) ∈ ms := fun m hm => Entries.mem_of_get? hm
      have hwfm : ∀ m ∈ Entries.get? k ms, m.WellFormed := fun m hm =>
        wellFormed_of_get?_members hwf.2 hm
      refine sameAt_patchedAt_diffAt (fun m hm => hnull _ (hmem m hm)) (fun m hm => ?_)
        (fun m hm => WellFormed.same_self m (hwfm m hm)) (fun o ho' m hm => ?_)
      · exact (hfree _ (hmem m hm)).merge_eq (hwfm m hm) rfl
      · exact ih _ (hmem m hm) (wellFormed_of_get?_members ho.2 ho') (hwfm m hm)
    | _ =>
      rw [mergeDiff_of_not_object (.inl rfl), (NullFree.obj hnull hfree).merge_eq hwf rfl]
      exact WellFormed.same_self _ hwf

/-! ## The patch says no more than it has to -/

/-- The patch between two objects is empty exactly if they agree. -/
theorem isEmptyPatch_mergeDiff_iff {os ms : List (String × Json)} (ho : Rising os)
    (hm : Rising ms) :
    (mergeDiff (.obj os) (.obj ms)).isEmptyPatch = true ↔ (obj os).same (obj ms) = true := by
  obtain ⟨ds, hds, hrising⟩ := mergeDiff_obj os ms
  have hget : ∀ k, Entries.get? k ds = diffAt (Entries.get? k os) (Entries.get? k ms) := by
    intro k
    rw [← get?_mergeDiff ho hm, hds, get?_obj]
  have hempty : ds = [] ↔ ∀ k, Entries.get? k ds = none :=
    ⟨fun h _ => by rw [h]; rfl, fun h => Entries.eq_of_get? hrising .nil h⟩
  rw [hds, isEmptyPatch, List.isEmpty_iff, hempty, same_obj_iff ho hm]
  exact forall_congr' fun k => by rw [hget, diffAt_eq_none_iff]

theorem at?_cons_of_not_object {j : Json} (h : j.isObject = false) (k : String)
    (ks : List String) : at? (k :: ks) j = none := by
  cases j <;> first | rfl | cases h

/-- A patch names only paths at which the two values are different. -/
theorem not_sameAt_of_at?_mergeDiff {path : List String} (hpath : path ≠ []) :
    ∀ {o m : Json}, o.WellFormed → m.WellFormed → (at? path (mergeDiff o m)).isSome = true →
      sameAt (at? path o) (at? path m) = false := by
  induction path with
  | nil => exact absurd rfl hpath
  | cons k ks ih =>
    intro o m ho hm hnamed
    by_cases hobjects : o.isObject = true ∧ m.isObject = true
    · obtain ⟨hobject, hobject'⟩ := hobjects
      obtain ⟨os, rfl⟩ := exists_of_isObject hobject
      obtain ⟨ms, rfl⟩ := exists_of_isObject hobject'
      rw [at?_cons, get?_mergeDiff ho.1 hm.1] at hnamed
      rw [at?_cons, at?_cons, get?_obj, get?_obj]
      have hwfo : ∀ j ∈ Entries.get? k os, j.WellFormed := fun j hj =>
        wellFormed_of_get?_members ho.2 hj
      have hwfm : ∀ j ∈ Entries.get? k ms, j.WellFormed := fun j hj =>
        wellFormed_of_get?_members hm.2 hj
      cases hko : Entries.get? k os with
      | none =>
        rw [hko] at hnamed
        -- the member is new, and so is all that it holds
        obtain ⟨j, hj⟩ := Option.isSome_iff_exists.mp hnamed
        rw [diffAt] at hj
        rw [hj]
        rfl
      | some o' =>
        rw [hko] at hnamed
        cases hkm : Entries.get? k ms with
        | none =>
          rw [hkm] at hnamed
          -- a member that goes is named itself, and nothing that it held
          cases ks with
          | nil => rfl
          | cons k' ks => cases hnamed
        | some m' =>
          rw [hkm, diffAt] at hnamed
          split at hnamed
          · cases hnamed
          · rename_i hs
            cases ks with
            | nil => simpa [at?, sameAt] using hs
            | cons k' ks =>
              exact ih (List.cons_ne_nil _ _) (hwfo o' hko) (hwfm m' hkm) hnamed
    · have hobjects' : o.isObject = false ∨ m.isObject = false := by
        rcases Bool.eq_false_or_eq_true o.isObject with ho' | ho'
        · exact .inr (by simpa [ho'] using hobjects)
        · exact .inl ho'
      rw [mergeDiff_of_not_object hobjects'] at hnamed
      obtain ⟨j, hj⟩ := Option.isSome_iff_exists.mp hnamed
      rcases hobjects' with ho' | hm'
      · rw [at?_cons_of_not_object ho', hj]
        rfl
      · rw [at?_cons_of_not_object hm'] at hj
        cases hj

/-! ## Values without floating-point numbers -/

theorem eq_of_sameItems {js : List Json} (ih : ∀ j ∈ js, ∀ {i : Json}, i.WellFormed →
    i.same j = true → i = j) :
    ∀ {is : List Json}, WellFormedItems is → sameItems is js = true → is = js := by
  induction js with
  | nil =>
    intro is _ hs
    cases is with
    | nil => rfl
    | cons i is => cases hs
  | cons j js ihs =>
    intro is hwf hs
    cases is with
    | nil => cases hs
    | cons i is =>
      obtain ⟨hhead, htail⟩ := Bool.and_eq_true_iff.mp hs
      rw [ih j List.mem_cons_self hwf.1 hhead,
        ihs (fun j' hj' => ih j' (List.mem_cons_of_mem _ hj')) hwf.2 htail]

/-- Nothing but itself agrees with a value without floating-point numbers. -/
theorem Plain.eq_of_same {m : Json} (h : m.Plain) :
    ∀ {j : Json}, j.WellFormed → j.same m = true → j = m := by
  induction h with
  | null =>
    intro j _ hs
    cases j <;> first | rfl | cases hs
  | bool b =>
    intro j _ hs
    cases j with
    | bool b' => simpa [same] using hs
    | _ => cases hs
  | int n =>
    intro j _ hs
    cases j with
    | num n' =>
      cases n' with
      | int n' => simpa [same, Number.same] using hs
      | double d => cases hs
    | _ => cases hs
  | str s =>
    intro j _ hs
    cases j with
    | str s' => simpa [same] using hs
    | _ => cases hs
  | @arr items _ ih =>
    intro j hwf hs
    cases j with
    | arr is => rw [eq_of_sameItems (fun j hj => ih j hj) hwf hs]
    | _ => cases hs
  | @obj ms hrising _ ih =>
    intro j hwf hs
    cases j with
    | obj js =>
      have hat := (same_obj_iff hwf.1 hrising).mp hs
      rw [Entries.eq_of_get? hwf.1 hrising fun k => ?_]
      have hk := hat k
      cases hjs : Entries.get? k js with
      | none =>
        cases hms : Entries.get? k ms with
        | none => rfl
        | some m =>
          rw [hjs, hms] at hk
          cases hk
      | some j =>
        cases hms : Entries.get? k ms with
        | none =>
          rw [hjs, hms] at hk
          cases hk
        | some m =>
          rw [hjs, hms] at hk
          rw [ih _ (Entries.mem_of_get? hms) (wellFormed_of_get?_members hwf.2 hjs) hk]
    | _ => cases hs

/-- The patch from one value to another, which asks for no member that is `null`, makes the other of
the one. It is empty exactly if they agree, where they are objects, and it names no path at which
they do. -/
theorem mergeDiff_leads_minimally {o m : Json} (ho : o.WellFormed) (hm : m.WellFormed) :
    (m.NullFree → (merge o (mergeDiff o m)).same m = true ∧
      (m.Plain → merge o (mergeDiff o m) = m)) ∧
    (o.isObject = true → m.isObject = true →
      ((mergeDiff o m).isEmptyPatch = true ↔ o.same m = true)) ∧
    ∀ path ≠ [], (at? path (mergeDiff o m)).isSome = true →
      sameAt (at? path o) (at? path m) = false := by
  refine ⟨fun hfree => ?_, fun hobject hobject' => ?_, fun path hpath hnamed =>
    not_sameAt_of_at?_mergeDiff hpath ho hm hnamed⟩
  · have hsame := hfree.same_merge_mergeDiff ho hm
    exact ⟨hsame, fun hplain =>
      hplain.eq_of_same (ho.merge _ (WellFormed.mergeDiff _ ho hm)) hsame⟩
  · obtain ⟨os, rfl⟩ := exists_of_isObject hobject
    obtain ⟨ms, rfl⟩ := exists_of_isObject hobject'
    exact isEmptyPatch_mergeDiff_iff ho.1 hm.1

/-- A value of which one member is to go, and parts of another. -/
def unpatched : Json :=
  .obj [("kept", .int 1), ("lost", .obj []), ("nested", .obj [("a", .null), ("b", .bool true)])]

/-- The value without them, and with a new list that has `null` in it. -/
def patched : Json :=
  .obj [("kept", .int 1), ("list", .arr [.null, .obj [("x", .null)]]),
    ("nested", .obj [("b", .bool true), ("c", .str "new")])]

theorem unpatched_leads_to_patched :
    merge unpatched (mergeDiff unpatched patched) = patched ∧
      (mergeDiff unpatched patched).isEmptyPatch = false ∧
      (at? ["nested", "c"] (mergeDiff unpatched patched)).isSome = true ∧
      sameAt (at? ["nested", "c"] unpatched) (at? ["nested", "c"] patched) = false := by
  have hbefore : unpatched.WellFormed := by
    simp only [unpatched, int, WellFormed, WellFormedMembers, WellFormedMember]
    decide
  have hafter : patched.WellFormed := by
    simp only [patched, int, WellFormed, WellFormedItems, WellFormedMembers, WellFormedMember]
    decide
  have hplain : patched.Plain := by
    refine .obj (by decide) ?_
    simp only [List.forall_mem_cons]
    refine ⟨.int 1, .arr ?_, .obj (by decide) ?_, by simp⟩
    · simp only [List.forall_mem_cons]
      exact ⟨.null, .obj (by decide) (by simpa using Plain.null), by simp⟩
    · simp only [List.forall_mem_cons]
      exact ⟨.bool true, .str "new", by simp⟩
  have hfree : patched.NullFree := by
    refine .obj (by simp [int]) ?_
    simp only [List.forall_mem_cons]
    refine ⟨.leaf rfl, .leaf rfl, .obj (by simp) ?_, by simp⟩
    simp only [List.forall_mem_cons]
    exact ⟨.leaf rfl, .leaf rfl, by simp⟩
  obtain ⟨hleads, hempty, hnamed⟩ := mergeDiff_leads_minimally hbefore hafter
  refine ⟨(hleads hfree).2 hplain, ?_, by decide, hnamed _ (by simp) (by decide)⟩
  rw [← Bool.not_eq_true, hempty rfl rfl]
  decide

end Json

end PodSwap
