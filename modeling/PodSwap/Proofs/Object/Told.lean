import Mathlib.Data.List.Basic
import PodSwap.Proofs.Object.ReadBack
import PodSwap.Proofs.Object.Reading
import PodSwap.Spec

/-!
# Objects are told by what is written of them

A field is left out where it is not set, and no value is written as another, so records that are
written alike are the same. Only times are written without their fractions, wherever they stand.

Main statements: `Spec.toJson_inj`, and `toJson_eq_iff` for any values with the times that reading
yields, as the template of a workload is (`Workload.dated_of_read`).
-/

namespace PodSwap

open Json

/-- Records with fields of the same names, each once, are the same if they have the same object. -/
theorem fields_inj {l l' : List (String × Option Json)} (hkeys : l.map (·.1) = l'.map (·.1))
    (hnodup : (l.map (·.1)).Nodup) (h : fields l = fields l') : l = l' := by
  have hget : ∀ k, (Entries.get? k l).join = (Entries.get? k l').join := fun k => by
    rw [← get?_fields hnodup, ← get?_fields (hkeys ▸ hnodup), h]
  clear h
  induction l generalizing l' with
  | nil =>
    cases l' with
    | nil => rfl
    | cons m' l' => cases hkeys
  | cons m l ih =>
    cases l' with
    | nil => cases hkeys
    | cons m' l' =>
      obtain ⟨k, x⟩ := m
      obtain ⟨k', x'⟩ := m'
      simp only [List.map_cons, List.cons.injEq] at hkeys
      obtain ⟨rfl, hkeys⟩ := hkeys
      rw [List.map_cons, List.nodup_cons] at hnodup
      have hfirst := hget k
      rw [Entries.get?_cons, Entries.get?_cons, if_pos rfl, if_pos rfl] at hfirst
      have hrest : l = l' := by
        refine ih hkeys hnodup.2 fun k'' => ?_
        have hk := hget k''
        rw [Entries.get?_cons, Entries.get?_cons] at hk
        by_cases heq : k = k''
        · subst heq
          rw [Entries.get?_eq_none_of_not_mem hnodup.1,
            Entries.get?_eq_none_of_not_mem (hkeys ▸ hnodup.1)]
        · rwa [if_neg heq, if_neg heq] at hk
      rw [hrest, show x = x' from hfirst]

section

variable {α : Type} [Codec α] [HasTimes α] [Inhabited α] [LawfulCodec α]

/-- Values are told by what is written of them, up to fractions of seconds. -/
theorem toJson_eq_iff {a b : α} (ha : Dated a) (hb : Dated b) :
    toJson a = toJson b ↔ wholeSeconds a = wholeSeconds b := by
  constructor
  · intro h
    have hread := LawfulCodec.ofJson_toJson ha
    rw [h, LawfulCodec.ofJson_toJson hb] at hread
    exact (Except.ok.inj hread).symm
  · intro h
    rw [← toJson_wholeSeconds a, h, toJson_wholeSeconds b]

variable [Timeless α]

/-- A value without times is told by what is written of it. -/
theorem toJson_inj {a b : α} (h : toJson a = toJson b) : a = b := by
  have hsame := (toJson_eq_iff (Timeless.dated a) (Timeless.dated b)).mp h
  rwa [wholeSeconds_eq, wholeSeconds_eq] at hsame

theorem map_toJson_inj {a b : Option α} (h : a.map toJson = b.map toJson) : a = b :=
  Option.map_injective (fun _ _ => toJson_inj) h

end

/-! ## Specs -/

theorem PatchAction.text_inj {a b : PatchAction} (h : a.text = b.text) : a = b := by
  cases a <;> cases b <;> first | rfl | exact absurd h (by decide)

theorem SpecPatch.toJson_inj {p q : SpecPatch} (h : p.toJson = q.toJson) : p = q := by
  have hfields := fields_inj (by rfl) (by simp) h
  simp only [List.cons.injEq, Prod.mk.injEq, Option.some.injEq, Json.str.injEq, true_and,
    and_true] at hfields
  obtain ⟨haction, hpath, hvalue⟩ := hfields
  cases p
  cases q
  simp only [SpecPatch.mk.injEq]
  exact ⟨PatchAction.text_inj haction, hpath, hvalue⟩

/-- A spec is told by what is written of it. -/
theorem Spec.toJson_inj {s t : Spec} (h : s.toJson = t.toJson) : s = t := by
  have hfields := fields_inj (by rfl) (by simp) h
  simp only [List.cons.injEq, Prod.mk.injEq, true_and, and_true] at hfields
  obtain ⟨hcontainer, himage, hlabels, hns, hpatches, hreplace⟩ := hfields
  have hlist : s.patches = t.patches := by
    cases hs : s.patches with
    | nil =>
      cases ht : t.patches with
      | nil => rfl
      | cons q qs =>
        rw [hs, ht] at hpatches
        cases hpatches
    | cons p ps =>
      cases ht : t.patches with
      | nil =>
        rw [hs, ht] at hpatches
        cases hpatches
      | cons q qs =>
        rw [hs, ht] at hpatches
        exact List.map_injective_iff.mpr (fun _ _ => SpecPatch.toJson_inj)
          (Json.arr.inj (Option.some.inj hpatches))
  cases s
  cases t
  simp only [Spec.mk.injEq]
  exact ⟨map_toJson_inj himage, map_toJson_inj hlabels, map_toJson_inj hns,
    map_toJson_inj hcontainer, map_toJson_inj hreplace, hlist⟩

/-! ## What was read -/

/-- The times in the template of a workload that was read are times of the calendar. -/
theorem Workload.dated_of_read [Schema] {kind : WorkloadKind} {d : Json} {w : Workload}
    (hd : d.WellFormed) (h : ofJson kind d = .ok w) : Dated (w.podTemplate.getD {}) := by
  obtain ⟨t, ht, heq⟩ := map_eq_ok.mp (podTemplate_of_read hd h).1
  rw [← heq]
  cases t with
  | none => exact LawfulCodec.dated_default
  | some t =>
    obtain ⟨j, -, hread⟩ := readField_some_ok ht
    exact LawfulCodec.dated_of_read hread

end PodSwap
