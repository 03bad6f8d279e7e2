import PodSwap.Proofs.Json.Path

/-!
# Patches keep values well formed

The operations on values put members where the order of the keys wants them, so what they make of
well-formed values is well formed.

Main statements: `WellFormed.merge` and `WellFormed.mergeDiff`.
-/

namespace PodSwap.Json

theorem wellFormedMembers_iff {ms : List (String × Json)} :
    WellFormedMembers ms ↔ ∀ e ∈ ms, e.2.WellFormed := by
  induction ms with
  | nil => simp [WellFormedMembers]
  | cons m ms ih =>
    obtain ⟨k, j⟩ := m
    rw [WellFormedMembers, ih, List.forall_mem_cons]
    rfl

theorem wellFormedItems_iff {js : List Json} : WellFormedItems js ↔ ∀ j ∈ js, j.WellFormed := by
  induction js with
  | nil => simp [WellFormedItems]
  | cons j js ih => rw [WellFormedItems, ih, List.forall_mem_cons]

theorem mem_ofList {α : Type} {es : List (String × α)} {e : String × α}
    (h : e ∈ Entries.ofList es) : e ∈ es := by
  have hget := Entries.get?_of_mem (Entries.rising_ofList es) h
  rw [Entries.get?_ofList] at hget
  exact List.mem_reverse.mp (Entries.mem_of_get? hget)

/-- An object put together from well-formed members is well formed. -/
theorem wellFormed_object {es : List (String × Json)} (h : ∀ e ∈ es, e.2.WellFormed) :
    (object es).WellFormed :=
  ⟨Entries.rising_ofList es, wellFormedMembers_iff.mpr fun e he => h e (mem_ofList he)⟩

/-! ## Merging -/

section

variable {k : String} {j d : Json} {ms : List (String × Json)}

theorem wellFormed_insert (hj : j.WellFormed) (h : (obj ms).WellFormed) :
    (obj (Entries.insert k j ms)).WellFormed := by
  refine ⟨Entries.rising_insert h.1, wellFormedMembers_iff.mpr fun e he => ?_⟩
  rcases Entries.mem_insert he with rfl | he
  · exact hj
  · exact wellFormedMembers_iff.mp h.2 e he

theorem wellFormed_erase (h : (obj ms).WellFormed) : (obj (Entries.erase k ms)).WellFormed :=
  ⟨Entries.rising_erase h.1, wellFormedMembers_iff.mpr fun e he =>
    wellFormedMembers_iff.mp h.2 e (List.mem_filter.mp he).1⟩

theorem WellFormed.members (h : d.WellFormed) : (obj (d.members?.getD [])).WellFormed := by
  cases d with
  | obj ms => exact h
  | _ => exact ⟨.nil, trivial⟩

theorem WellFormed.getD_get? (h : d.WellFormed) : ((d.get? k).getD .null).WellFormed := by
  cases hk : d.get? k with
  | none => trivial
  | some j => exact h.get? hk

end

mutual
/-- What a patch makes of a value is well formed. -/
theorem WellFormed.merge {d : Json} (hd : d.WellFormed) :
    ∀ p : Json, p.WellFormed → (d.merge p).WellFormed
  | .null, h => h
  | .bool _, h => h
  | .num _, h => h
  | .str _, h => h
  | .arr _, h => h
  | .obj ps, h => wellFormed_mergeMembers hd.members ps h.2

theorem wellFormed_mergeMembers {ts : List (String × Json)} (ht : (obj ts).WellFormed) :
    ∀ ps : List (String × Json), WellFormedMembers ps → (obj (mergeMembers ts ps)).WellFormed
  | [], _ => ht
  | p :: ps, h => wellFormed_mergeMembers (wellFormed_mergeMember ht p h.1) ps h.2

theorem wellFormed_mergeMember {ts : List (String × Json)} (ht : (obj ts).WellFormed) :
    ∀ p : String × Json, WellFormedMember p → (obj (mergeMember ts p)).WellFormed
  | (_, .null), _ => wellFormed_erase ht
  | (_, .bool _), h => wellFormed_insert h ht
  | (_, .num _), h => wellFormed_insert h ht
  | (_, .str _), h => wellFormed_insert h ht
  | (_, .arr _), h => wellFormed_insert h ht
  | (k, .obj qs), h =>
    have hold : ((Entries.get? k ts).getD .null).WellFormed := WellFormed.getD_get? ht
    wellFormed_insert (WellFormed.merge hold (.obj qs) h) ht
end

/-! ## The patch between two values -/

mutual
/-- The patch between two well-formed values is well formed. -/
theorem WellFormed.mergeDiff : ∀ o : Json, o.WellFormed → ∀ {m : Json}, m.WellFormed →
    (o.mergeDiff m).WellFormed
  | .obj os, ho, .obj ms, hm => by
    refine wellFormed_object fun e he => ?_
    rcases List.mem_append.mp he with he | he
    · exact wellFormed_diffMembers os ho.2 hm e he
    · exact wellFormedMembers_iff.mp hm.2 e (List.mem_filter.mp he).1
  | .null, _, _, hm => hm
  | .bool _, _, _, hm => hm
  | .num _, _, _, hm => hm
  | .str _, _, _, hm => hm
  | .arr _, _, _, hm => hm
  | .obj _, _, .null, hm => hm
  | .obj _, _, .bool _, hm => hm
  | .obj _, _, .num _, hm => hm
  | .obj _, _, .str _, hm => hm
  | .obj _, _, .arr _, hm => hm

theorem wellFormed_diffMembers : ∀ os : List (String × Json), WellFormedMembers os →
    ∀ {ms : List (String × Json)}, (obj ms).WellFormed → ∀ e ∈ diffMembers os ms, e.2.WellFormed
  | [], _, _, _, _, he => nomatch he
  | o :: os, ho, _, hm, e, he => by
    rcases List.mem_append.mp he with he | he
    · exact wellFormed_diffMember o ho.1 hm e (Option.mem_toList.mp he)
    · exact wellFormed_diffMembers os ho.2 hm e he

theorem wellFormed_diffMember : ∀ o : String × Json, WellFormedMember o →
    ∀ {ms : List (String × Json)}, (obj ms).WellFormed → ∀ e ∈ diffMember o ms, e.2.WellFormed
  | (k, o), ho, ms, hm, e, he => by
    unfold diffMember at he
    split at he
    · cases he
      trivial
    · rename_i m hk
      split at he
      · cases he
      · cases he
        exact WellFormed.mergeDiff o ho (wellFormed_of_get?_members hm.2 hk)
end

end PodSwap.Json
