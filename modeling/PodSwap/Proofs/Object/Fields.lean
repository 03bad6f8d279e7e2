import PodSwap.Object.Codec

/-!
# Fields of records that were written

Records are written as objects with one member for every field that is set, so every field is found
again under its name.

Main statement: the members of a record that was written (`members_fields`).
-/

namespace PodSwap

namespace Entries

theorem get?_eq_none_of_not_mem {α : Type} {l : List (String × α)} {k : String}
    (h : k ∉ l.map (·.1)) : get? k l = none := by
  cases hg : get? k l with
  | none => rfl
  | some v => exact absurd (List.mem_map_of_mem (f := (·.1)) (mem_of_get? hg)) h

theorem get?_filterMap {l : List (String × Option Json)} (h : (l.map (·.1)).Nodup) (k : String) :
    get? k (l.filterMap fun m => m.2.map (m.1, ·)) = (get? k l).join := by
  induction l with
  | nil => rfl
  | cons m l ih =>
    obtain ⟨k', v⟩ := m
    simp only [List.map_cons, List.nodup_cons] at h
    have ih := ih h.2
    cases v with
    | some j => by_cases hk : k' = k <;> simp [get?, hk, ih]
    | none =>
      by_cases hk : k' = k
      · subst hk
        simp [get?, ih, get?_eq_none_of_not_mem h.1]
      · simp [get?, hk, ih]

theorem get?_reverse_of_nodup {α : Type} {l : List (String × α)} (h : (l.map (·.1)).Nodup)
    (k : String) : get? k l.reverse = get? k l := by
  induction l with
  | nil => rfl
  | cons m l ih =>
    simp only [List.map_cons, List.nodup_cons] at h
    rw [List.reverse_cons, get?_append, ih h.2, get?_cons, get?_cons]
    by_cases hk : m.1 = k
    · subst hk
      simp [get?_eq_none_of_not_mem h.1]
    · simp [hk]

theorem map_filterMap_sublist (l : List (String × Option Json)) :
    ((l.filterMap fun m => m.2.map (m.1, ·)).map (·.1)).Sublist (l.map (·.1)) := by
  induction l with
  | nil => exact .slnil
  | cons m l ih =>
    obtain ⟨k', v⟩ := m
    cases v with
    | none => simpa using ih.cons _
    | some j => simpa using ih

theorem filter_eq_toList_get? {α : Type} {l : List (String × α)} (h : (l.map (·.1)).Nodup)
    (k : String) : (l.filter (·.1 = k)).map (·.2) = (get? k l).toList := by
  induction l with
  | nil => rfl
  | cons m l ih =>
    simp only [List.map_cons, List.nodup_cons] at h
    have ih := ih h.2
    by_cases hk : m.1 = k
    · subst hk
      rw [get?_eq_none_of_not_mem h.1] at ih
      simpa [get?] using ih
    · simpa [get?, hk] using ih

theorem nodup_of_rising {α : Type} {l : List (String × α)} (h : Rising l) :
    (l.map (·.1)).Nodup := by
  rw [List.nodup_iff_pairwise_ne, List.pairwise_map]
  refine List.Pairwise.imp ?_ h
  intro a b hlt heq
  rw [heq] at hlt
  exact not_before_self _ hlt

end Entries

/-! ## Steps of reading -/

theorem bind_eq_ok {ε α β : Type} {x : Except ε α} {f : α → Except ε β} {b : β} :
    (x >>= f) = .ok b ↔ ∃ a, x = .ok a ∧ f a = .ok b := by
  cases x <;> simp [bind, Except.bind]

theorem map_eq_ok {ε α β : Type} {x : Except ε α} {f : α → β} {b : β} :
    x.map f = .ok b ↔ ∃ a, x = .ok a ∧ f a = b := by
  cases x <;> simp [Except.map]

/-! ## Fields -/

theorem keyed_map (ms : List (String × Json.Written)) :
    keyed (ms.map fun m => (some m.1, m.2)) = .ok ms := by
  induction ms with
  | nil => rfl
  | cons m ms ih => simp [keyed, ih, Except.map]

/-- The members of an object that was written are those of the object. -/
theorem members_written (ms : List (String × Json)) :
    members (Json.obj ms).written = .ok (ms.map fun m => (m.1, m.2.written)) := by
  have h := keyed_map (ms.map fun m => (m.1, m.2.written))
  rw [List.map_map] at h
  rw [Json.written, members, Json.writtenMembers_eq_map]
  exact h

/-- A record that is written is an object in which every field is found once under its name. -/
theorem members_fields (l : List (String × Option Json)) (h : (l.map (·.1)).Nodup) :
    ∃ ms, members (Json.fields l).written = .ok ms ∧
      ∀ k, valuesUnder k ms = ((Entries.get? k l).join.map Json.written).toList := by
  refine ⟨_, members_written _, fun k => ?_⟩
  have hget : Entries.get? k (Entries.ofList (l.filterMap fun m => m.2.map (m.1, ·))) =
      (Entries.get? k l).join := by
    rw [Entries.get?_ofList,
      Entries.get?_reverse_of_nodup ((Entries.map_filterMap_sublist l).nodup h),
      Entries.get?_filterMap h]
  have hmap := Entries.filter_eq_toList_get?
    (Entries.nodup_of_rising (Entries.rising_ofList (l.filterMap fun m => m.2.map (m.1, ·)))) k
  rw [hget] at hmap
  rw [valuesUnder, List.filter_map, List.map_map, Option.toList_map, ← hmap, List.map_map]
  rfl

section

variable {α : Type} [Codec α] {ms : List (String × Json.Written)} {name : String}

theorem readNullable_eq {a b : α} (hnull : toJson a ≠ .null) (hread : ofJson (toJson a) = .ok b) :
    readNullable (toJson a).written = .ok (some b) := by
  have hr : ofWritten (toJson a).written = .ok b := hread
  unfold readNullable
  split
  · rename_i h
    exact absurd (Json.written_eq_null_iff.1 h) hnull
  · rw [hr]
    rfl

/-- An optional field is read as what is read of its value. -/
theorem optional_map_eq {a : Option α} {f : α → α} (hnull : ∀ x : α, toJson x ≠ .null)
    (hread : ∀ x ∈ a, ofJson (toJson x) = .ok (f x))
    (h : valuesUnder name ms = ((a.map toJson).map Json.written).toList) :
    optional ms name = .ok (a.map f) := by
  unfold optional
  rw [h]
  cases a with
  | none => rfl
  | some x => simp [readLast, readNullable_eq (hnull x) (hread x rfl), bind, Except.bind]

end

theorem fields_ne_null (l : List (String × Option Json)) : Json.fields l ≠ .null := by
  simp [Json.fields, Json.object]

/-! ## Parts and records -/

namespace Part

variable {α β : Type} {ms : List (String × Json.Written)}

@[simp] theorem read_field [Codec α] (name : String) :
    (Part.field name : Part (Option α)).read ms = optional ms name := rfl

@[simp] theorem read_always [Codec α] [Inhabited α] (name : String) :
    (Part.always name : Part α).read ms = required ms name := rfl

@[simp] theorem read_constant (name text : String) :
    (Part.constant name text).read ms = PodSwap.constant ms name text := rfl

/-- The fields of two parts are read one part after the other. -/
@[simp] theorem read_both_eq_ok {p : Part α} {q : Part β} {x : α × β} :
    (p.both q).read ms = .ok x ↔ p.read ms = .ok x.1 ∧ q.read ms = .ok x.2 := by
  show (p.read ms >>= fun a => q.read ms >>= fun b => .ok (a, b)) = .ok x ↔ _
  constructor
  · intro h
    obtain ⟨a, ha, h⟩ := bind_eq_ok.mp h
    obtain ⟨b, hb, h⟩ := bind_eq_ok.mp h
    cases h
    exact ⟨ha, hb⟩
  · rintro ⟨ha, hb⟩
    rw [ha, hb]
    rfl

end Part

/-- What is read of a record are its fields. -/
theorem Record.ofWritten_eq_ok {α Fields : Type} [Record α Fields] {w : Json.Written}
    {a : α} :
    ofWritten w = .ok a ↔
      ∃ ms, members w = .ok ms ∧ (Record.part α).read ms = .ok (Record.fields a) := by
  show (members w >>= (Record.part α).read).map (Record.ofFields (α := α)) = .ok a ↔ _
  rw [map_eq_ok]
  constructor
  · rintro ⟨x, hx, rfl⟩
    rw [Record.fields_ofFields (α := α)]
    exact bind_eq_ok.mp hx
  · rintro h
    exact ⟨_, bind_eq_ok.mpr h, Record.ofFields_fields a⟩

end PodSwap
