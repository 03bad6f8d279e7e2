import PodSwap.Text.Order

/-!
# Tables keyed by text

A table is an association list whose keys rise strictly, so two tables with the same lookups are
the same list. `Entries` holds the operations on bare lists, which JSON objects use as well;
`SortedMap` carries the order as an invariant.

Main statements: a lookup after `insert`, `erase` and `ofList` (`get?_insert`, `get?_erase`,
`get?_ofList`), and extensionality of sorted tables (`SortedMap.ext_get?`).
-/

namespace PodSwap

universe u v

/-- The keys of a table rise strictly. -/
def Rising {α : Type u} (es : List (String × α)) : Prop :=
  es.Pairwise fun a b => Before a.1 b.1

instance {α : Type u} (es : List (String × α)) : Decidable (Rising es) :=
  inferInstanceAs (Decidable (es.Pairwise _))

namespace Entries

variable {α : Type u} {β : Type v}

/-- The first value stored under a key. -/
def get? (k : String) : List (String × α) → Option α
  | [] => none
  | e :: es => if e.1 = k then some e.2 else get? k es

/-- The table with `v` under `k`, put where the order of the keys wants it. -/
def insert (k : String) (v : α) : List (String × α) → List (String × α)
  | [] => [(k, v)]
  | e :: es =>
    if e.1 = k then (k, v) :: es
    else if Before k e.1 then (k, v) :: e :: es
    else e :: insert k v es

/-- The table without the entries under `k`. -/
def erase (k : String) (es : List (String × α)) : List (String × α) :=
  es.filter fun e => e.1 ≠ k

/-- The entries put into an empty table one after another: of several under one key the last
stays. -/
def ofList (es : List (String × α)) : List (String × α) :=
  es.foldl (fun acc e => insert e.1 e.2 acc) []

/-! ## Lookups -/

@[simp] theorem get?_nil (k : String) : get? k ([] : List (String × α)) = none := rfl

theorem get?_cons (k : String) (e : String × α) (es : List (String × α)) :
    get? k (e :: es) = if e.1 = k then some e.2 else get? k es := rfl

theorem get?_insert (k k' : String) (v : α) (es : List (String × α)) :
    get? k' (insert k v es) = if k = k' then some v else get? k' es := by
  induction es with
  | nil => rfl
  | cons e es ih =>
    by_cases he : e.1 = k
    · subst he
      by_cases hk : e.1 = k' <;> simp [insert, get?, hk]
    · by_cases hlt : Before k e.1
      · by_cases hk : k = k'
        · subst hk
          simp [insert, get?, he, hlt]
        · simp [insert, get?, he, hlt, hk]
      · by_cases hk : e.1 = k'
        · subst hk
          simp [insert, get?, he, hlt, Ne.symm he]
        · simp [insert, get?, he, hlt, hk, ih]

theorem get?_erase (k k' : String) (es : List (String × α)) :
    get? k' (erase k es) = if k = k' then none else get? k' es := by
  induction es with
  | nil => simp [erase]
  | cons e es ih =>
    unfold erase at ih ⊢
    by_cases he : e.1 = k
    · subst he
      by_cases hk : e.1 = k' <;> simp_all [get?]
    · by_cases hk : e.1 = k'
      · subst hk
        simp [get?, he, Ne.symm he]
      · simp_all [get?]

theorem get?_append (k : String) (xs ys : List (String × α)) :
    get? k (xs ++ ys) = (get? k xs).or (get? k ys) := by
  induction xs with
  | nil => simp
  | cons x xs ih => by_cases hx : x.1 = k <;> simp [get?, hx, ih]

theorem mem_of_get? {k : String} {v : α} {es : List (String × α)} (h : get? k es = some v) :
    (k, v) ∈ es := by
  induction es with
  | nil => simp at h
  | cons e es ih =>
    rw [get?_cons] at h
    split at h
    · rename_i he
      cases h
      exact he ▸ List.mem_cons_self
    · exact List.mem_cons_of_mem _ (ih h)

/-! ## Order -/

theorem mem_insert {k : String} {v : α} {es : List (String × α)} {x : String × α}
    (h : x ∈ insert k v es) : x = (k, v) ∨ x ∈ es := by
  induction es with
  | nil => simpa [insert] using h
  | cons e es ih =>
    unfold insert at h
    split at h
    · rcases List.mem_cons.mp h with h | h
      · exact .inl h
      · exact .inr (List.mem_cons_of_mem _ h)
    · split at h
      · rcases List.mem_cons.mp h with h | h
        · exact .inl h
        · exact .inr h
      · rcases List.mem_cons.mp h with h | h
        · exact .inr (h ▸ List.mem_cons_self)
        · exact (ih h).imp id (List.mem_cons_of_mem _)

theorem rising_insert {k : String} {v : α} {es : List (String × α)} (h : Rising es) :
    Rising (insert k v es) := by
  induction es with
  | nil => simp [insert, Rising]
  | cons e es ih =>
    have h' := List.pairwise_cons.mp h
    unfold insert
    split
    · rename_i he
      exact List.pairwise_cons.mpr ⟨fun x hx => he ▸ h'.1 x hx, h'.2⟩
    · rename_i he
      split
      · rename_i hlt
        refine List.pairwise_cons.mpr ⟨fun x hx => ?_, h⟩
        rcases List.mem_cons.mp hx with rfl | hx
        · exact hlt
        · exact before_trans hlt (h'.1 x hx)
      · rename_i hlt
        refine List.pairwise_cons.mpr ⟨fun x hx => ?_, ih h'.2⟩
        rcases mem_insert hx with rfl | hx
        · rcases Classical.em (Before e.1 k) with hek | hek
          · exact hek
          · exact absurd (eq_of_not_before hek hlt) he
        · exact h'.1 x hx

theorem rising_erase {k : String} {es : List (String × α)} (h : Rising es) :
    Rising (erase k es) :=
  List.Pairwise.filter _ h

theorem rising_foldl_insert (es acc : List (String × α)) (h : Rising acc) :
    Rising (es.foldl (fun acc e => insert e.1 e.2 acc) acc) := by
  induction es generalizing acc with
  | nil => exact h
  | cons e es ih => exact ih _ (rising_insert h)

theorem rising_ofList (es : List (String × α)) : Rising (ofList es) :=
  rising_foldl_insert es [] .nil

theorem get?_foldl_insert (k : String) (es acc : List (String × α)) :
    get? k (es.foldl (fun acc e => insert e.1 e.2 acc) acc) =
      (get? k es.reverse).or (get? k acc) := by
  induction es generalizing acc with
  | nil => simp
  | cons e es ih =>
    rw [List.foldl_cons, ih, get?_insert, List.reverse_cons, get?_append, get?_cons]
    by_cases he : e.1 = k <;> cases get? k es.reverse <;> simp [he]

/-- A lookup in a table built from a list finds the last entry under the key. -/
theorem get?_ofList (k : String) (es : List (String × α)) :
    get? k (ofList es) = get? k es.reverse := by
  simp [ofList, get?_foldl_insert]

theorem get?_eq_none_of_before {k : String} {es : List (String × α)} (h : ∀ x ∈ es, Before k x.1) :
    get? k es = none := by
  induction es with
  | nil => rfl
  | cons e es ih =>
    have he : e.1 ≠ k := fun heq =>
      not_before_self k (heq ▸ h e List.mem_cons_self)
    rw [get?_cons, if_neg he]
    exact ih fun x hx => h x (List.mem_cons_of_mem _ hx)

theorem get?_of_before_head {k : String} {e : String × α} {es : List (String × α)}
    (h : Rising (e :: es)) (hlt : Before k e.1) : get? k (e :: es) = none := by
  apply get?_eq_none_of_before
  intro x hx
  rcases List.mem_cons.mp hx with rfl | hx
  · exact hlt
  · exact before_trans hlt ((List.pairwise_cons.mp h).1 x hx)

theorem get?_reverse {k : String} {es : List (String × α)} (h : Rising es) :
    get? k es.reverse = get? k es := by
  induction es with
  | nil => rfl
  | cons e es ih =>
    have h' := List.pairwise_cons.mp h
    rw [List.reverse_cons, get?_append, ih h'.2, get?_cons, get?_cons]
    by_cases he : e.1 = k
    · subst he
      rw [get?_eq_none_of_before h'.1]
      simp
    · simp [he]

/-- Two tables with rising keys and the same lookups are equal. -/
theorem eq_of_get? {xs ys : List (String × α)} (hx : Rising xs) (hy : Rising ys)
    (h : ∀ k, get? k xs = get? k ys) : xs = ys := by
  induction xs generalizing ys with
  | nil =>
    cases ys with
    | nil => rfl
    | cons y ys => simpa [get?] using h y.1
  | cons x xs ih =>
    cases ys with
    | nil => simpa [get?] using h x.1
    | cons y ys =>
      have hx' := List.pairwise_cons.mp hx
      have hy' := List.pairwise_cons.mp hy
      have hkey : x.1 = y.1 := by
        refine eq_of_not_before (fun hlt => ?_) (fun hlt => ?_)
        · have := h x.1
          rw [get?_of_before_head hy hlt] at this
          simp [get?] at this
        · have := h y.1
          rw [get?_of_before_head hx hlt] at this
          simp [get?] at this
      have hval : x.2 = y.2 := by
        have := h x.1
        simpa [get?, hkey] using this
      have hhead : x = y := Prod.ext hkey hval
      subst hhead
      rw [ih hx'.2 hy'.2 fun k => ?_]
      by_cases hk : x.1 = k
      · subst hk
        rw [get?_eq_none_of_before hx'.1, get?_eq_none_of_before hy'.1]
      · simpa [get?, hk] using h k

end Entries

/-- A table from text to `α` with its keys in rising order. -/
structure SortedMap (α : Type u) where
  entries : List (String × α)
  rising : Rising entries
deriving DecidableEq

namespace SortedMap

variable {α : Type u}

instance [Repr α] : Repr (SortedMap α) := ⟨fun m n => reprPrec m.entries n⟩

/-- The table without entries. -/
def empty : SortedMap α := ⟨[], .nil⟩

instance : Inhabited (SortedMap α) := ⟨empty⟩
instance : EmptyCollection (SortedMap α) := ⟨empty⟩

/-- The value under a key. -/
def get? (m : SortedMap α) (k : String) : Option α := Entries.get? k m.entries

/-- Whether a key is present. -/
def contains (m : SortedMap α) (k : String) : Bool := (m.get? k).isSome

/-- The table with `v` under `k`. -/
def insert (m : SortedMap α) (k : String) (v : α) : SortedMap α :=
  ⟨Entries.insert k v m.entries, Entries.rising_insert m.rising⟩

/-- The table without `k`. -/
def erase (m : SortedMap α) (k : String) : SortedMap α :=
  ⟨Entries.erase k m.entries, Entries.rising_erase m.rising⟩

/-- The table of a list of entries, where a later entry replaces an earlier one. -/
def ofList (es : List (String × α)) : SortedMap α :=
  ⟨Entries.ofList es, Entries.rising_ofList es⟩

/-- The entries by rising key. -/
def toList (m : SortedMap α) : List (String × α) := m.entries

/-- Whether the table has no entry. -/
def isEmpty (m : SortedMap α) : Bool := m.entries.isEmpty

/-- The first table with every entry of the second put into it. -/
def insertAll (m : SortedMap α) (n : SortedMap α) : SortedMap α :=
  n.entries.foldl (fun acc e => acc.insert e.1 e.2) m

@[simp] theorem get?_empty (k : String) : (empty : SortedMap α).get? k = none := rfl

theorem get?_insert (m : SortedMap α) (k k' : String) (v : α) :
    (m.insert k v).get? k' = if k = k' then some v else m.get? k' :=
  Entries.get?_insert k k' v m.entries

theorem get?_erase (m : SortedMap α) (k k' : String) :
    (m.erase k).get? k' = if k = k' then none else m.get? k' :=
  Entries.get?_erase k k' m.entries

theorem get?_insert_self (m : SortedMap α) (k : String) (v : α) :
    (m.insert k v).get? k = some v := by
  rw [get?_insert, if_pos rfl]

theorem get?_insert_of_ne (m : SortedMap α) {k k' : String} (h : k' ≠ k) (v : α) :
    (m.insert k v).get? k' = m.get? k' := by
  rw [get?_insert, if_neg h.symm]

theorem get?_erase_self (m : SortedMap α) (k : String) : (m.erase k).get? k = none := by
  rw [get?_erase, if_pos rfl]

theorem get?_erase_of_ne (m : SortedMap α) {k k' : String} (h : k' ≠ k) :
    (m.erase k).get? k' = m.get? k' := by
  rw [get?_erase, if_neg h.symm]

/-- Tables with the same lookups are equal. -/
theorem ext_get? {m n : SortedMap α} (h : ∀ k, m.get? k = n.get? k) : m = n := by
  obtain ⟨xs, hx⟩ := m
  obtain ⟨ys, hy⟩ := n
  have : xs = ys := Entries.eq_of_get? hx hy h
  subst this
  rfl

/-- Building a table from its own entries gives it back. -/
theorem ofList_toList (m : SortedMap α) : ofList m.toList = m := by
  refine ext_get? fun k => ?_
  show Entries.get? k (Entries.ofList m.entries) = Entries.get? k m.entries
  rw [Entries.get?_ofList, Entries.get?_reverse m.rising]

end SortedMap

end PodSwap
