import Mathlib.Data.List.Nodup
import PodSwap.Proofs.Json.Canonical
import PodSwap.Proofs.Json.WellFormed

/-!
# Canonical text does not depend on the order of members

Members may be written in any order, and at every level of a value in another. Two values are
reordered if one comes from the other by putting the members of objects in another order, wherever
they stand in it. The canonical text is the same for both, and it is the same for no other values:
by rising keys each value is reordered to one that its text tells.

Main statement: `canonical_eq_iff_reordered`.
-/

namespace PodSwap

namespace Entries

variable {α : Type} {es fs : List (String × α)}

/-- A table without a key that stands in it twice is known by what is found under its keys. -/
theorem mem_iff_get? (h : (es.map (·.1)).Nodup) {e : String × α} :
    e ∈ es ↔ get? e.1 es = some e.2 :=
  ⟨get?_of_mem_of_nodup h, mem_of_get?⟩

theorem get?_eq_of_perm (h : (es.map (·.1)).Nodup) (hperm : es.Perm fs) (k : String) :
    get? k es = get? k fs := by
  have hfs : (fs.map (·.1)).Nodup := (hperm.map _).nodup h
  refine Option.ext fun v => ?_
  rw [← mem_iff_get? (e := (k, v)) h, ← mem_iff_get? (e := (k, v)) hfs, hperm.mem_iff]

/-- In the order of their keys two tables with the same entries are the same list. -/
theorem ofList_eq_of_perm (h : (es.map (·.1)).Nodup) (hperm : es.Perm fs) :
    ofList es = ofList fs := by
  refine eq_of_get? (rising_ofList es) (rising_ofList fs) fun k => ?_
  rw [get?_ofList, get?_ofList, get?_reverse_of_nodup h,
    get?_reverse_of_nodup ((hperm.map _).nodup h), get?_eq_of_perm h hperm]

/-- Putting entries in the order of their keys loses none and adds none. -/
theorem perm_ofList (h : (es.map (·.1)).Nodup) : es.Perm (ofList es) := by
  have hofList := nodup_of_rising (rising_ofList es)
  refine (List.perm_ext_iff_of_nodup h.of_map hofList.of_map).mpr fun e => ?_
  rw [mem_iff_get? h, mem_iff_get? hofList, get?_ofList, get?_reverse_of_nodup h]

end Entries

namespace Json

/-- Whether no object has a key twice and no number is a floating-point one. -/
inductive Unambiguous : Json → Prop where
  | null : Unambiguous .null
  | bool (b : Bool) : Unambiguous (.bool b)
  | int (n : Int) : Unambiguous (.num (.int n))
  | str (s : String) : Unambiguous (.str s)
  | arr {items : List Json} (h : ∀ j ∈ items, Unambiguous j) : Unambiguous (.arr items)
  | obj {ms : List (String × Json)} (hkeys : (ms.map (·.1)).Nodup)
    (h : ∀ e ∈ ms, Unambiguous e.2) : Unambiguous (.obj ms)

/-- Whether two values are equal up to the order of members, at every level. -/
inductive Reordered : Json → Json → Prop where
  | refl (j : Json) : Reordered j j
  | trans {a b c : Json} (h : Reordered a b) (h' : Reordered b c) : Reordered a c
  /-- The members of an object in another order. -/
  | members {ms ms' : List (String × Json)} (h : ms.Perm ms') : Reordered (.obj ms) (.obj ms')
  /-- A member with its value reordered. -/
  | member {j j' : Json} (before : List (String × Json)) (k : String)
    (after : List (String × Json)) (h : Reordered j j') :
    Reordered (.obj (before ++ (k, j) :: after)) (.obj (before ++ (k, j') :: after))
  /-- An item of an array reordered. -/
  | item {j j' : Json} (before after : List Json) (h : Reordered j j') :
    Reordered (.arr (before ++ j :: after)) (.arr (before ++ j' :: after))

variable {a b : Json}

namespace Reordered

theorem symm (h : Reordered a b) : Reordered b a := by
  induction h with
  | refl j => exact .refl j
  | trans _ _ ih ih' => exact .trans ih' ih
  | members h => exact .members h.symm
  | member before k after _ ih => exact .member before k after ih
  | item before after _ ih => exact .item before after ih

/-- No key comes to stand twice in an object by reordering. -/
theorem unambiguous (h : Reordered a b) (ha : a.Unambiguous) : b.Unambiguous := by
  induction h with
  | refl => exact ha
  | trans _ _ ih ih' => exact ih' (ih ha)
  | members hperm =>
    cases ha with
    | obj hkeys hms =>
      exact .obj ((hperm.map _).nodup hkeys) fun e he => hms e (hperm.mem_iff.mpr he)
  | member before k after _ ih =>
    cases ha with
    | obj hkeys hms =>
      refine .obj (by simpa using hkeys) fun e he => ?_
      simp only [List.mem_append, List.mem_cons] at he hms
      rcases he with he | rfl | he
      · exact hms e (.inl he)
      · exact ih (hms _ (.inr (.inl rfl)))
      · exact hms e (.inr (.inr he))
  | item before after _ ih =>
    cases ha with
    | arr hitems =>
      refine .arr fun j hj => ?_
      simp only [List.mem_append, List.mem_cons] at hj hitems
      rcases hj with hj | rfl | hj
      · exact hitems j (.inl hj)
      · exact ih (hitems _ (.inr (.inl rfl)))
      · exact hitems j (.inr (.inr hj))

end Reordered

/-! ## The text of a reordered value -/

/-- The members of an object are written in the order of their keys, whatever order they have. -/
theorem chars_obj_eq_of_perm {ms ms' : List (String × Json)} (hkeys : (ms.map (·.1)).Nodup)
    (hperm : (charsMembers ms).Perm (charsMembers ms')) : chars (.obj ms) = chars (.obj ms') := by
  have hkeys' : ((charsMembers ms).map (·.1)).Nodup := by
    rw [charsMembers_eq_map, List.map_map]
    exact hkeys
  rw [chars, chars, Entries.ofList_eq_of_perm hkeys' hperm]

/-- Reordered values have the same text. -/
theorem Reordered.chars_eq (h : Reordered a b) (ha : a.Unambiguous) : chars a = chars b := by
  induction h with
  | refl => rfl
  | trans h _ ih ih' => exact (ih ha).trans (ih' (h.unambiguous ha))
  | members hperm =>
    cases ha with
    | obj hkeys _ =>
      refine chars_obj_eq_of_perm hkeys ?_
      rw [charsMembers_eq_map, charsMembers_eq_map]
      exact hperm.map _
  | member before k after _ ih =>
    cases ha with
    | obj hkeys hms =>
      have hvalue := ih (hms _ (List.mem_append_right _ List.mem_cons_self))
      refine chars_obj_eq_of_perm hkeys ?_
      simp only [charsMembers_eq_map, List.map_append, List.map_cons, hvalue]
      exact .refl _
  | item before after _ ih =>
    cases ha with
    | arr hitems =>
      have hitem := ih (hitems _ (List.mem_append_right _ List.mem_cons_self))
      simp only [chars_arr, List.map_append, List.map_cons, hitem]

/-! ## Values by rising keys -/

/-- Items that can be reordered to values by rising keys can be so in their places. -/
theorem exists_plain_items {items : List Json} (h : ∀ j ∈ items, ∃ p, Plain p ∧ Reordered j p) :
    ∃ ps, (∀ p ∈ ps, Plain p) ∧
      ∀ before, Reordered (.arr (before ++ items)) (.arr (before ++ ps)) := by
  induction items with
  | nil => exact ⟨[], by simp, fun _ => .refl _⟩
  | cons j js ih =>
    obtain ⟨p, hp, hj⟩ := h j List.mem_cons_self
    obtain ⟨ps, hps, hjs⟩ := ih fun j hj => h j (List.mem_cons_of_mem _ hj)
    refine ⟨p :: ps, List.forall_mem_cons.mpr ⟨hp, hps⟩, fun before => ?_⟩
    have hrest := hjs (before ++ [p])
    simp only [List.append_assoc, List.singleton_append] at hrest
    exact .trans (.item before js hj) hrest

/-- The same of the members of an object, whose keys stay where they are. -/
theorem exists_plain_members {ms : List (String × Json)}
    (h : ∀ e ∈ ms, ∃ p, Plain p ∧ Reordered e.2 p) :
    ∃ ps, ps.map (·.1) = ms.map (·.1) ∧ (∀ e ∈ ps, Plain e.2) ∧
      ∀ before, Reordered (.obj (before ++ ms)) (.obj (before ++ ps)) := by
  induction ms with
  | nil => exact ⟨[], rfl, by simp, fun _ => .refl _⟩
  | cons e es ih =>
    obtain ⟨k, j⟩ := e
    obtain ⟨p, hp, hj⟩ := h (k, j) List.mem_cons_self
    obtain ⟨ps, hkeys, hps, hes⟩ := ih fun e he => h e (List.mem_cons_of_mem _ he)
    refine ⟨(k, p) :: ps, by rw [List.map_cons, List.map_cons, hkeys],
      List.forall_mem_cons.mpr ⟨hp, hps⟩, fun before => ?_⟩
    have hrest := hes (before ++ [(k, p)])
    simp only [List.append_assoc, List.singleton_append] at hrest
    exact .trans (.member before k es hj) hrest

/-- Every value without a key twice can be reordered so that the keys rise. -/
theorem Unambiguous.exists_plain (h : a.Unambiguous) : ∃ p, Plain p ∧ Reordered a p := by
  induction h with
  | null => exact ⟨_, .null, .refl _⟩
  | bool b => exact ⟨_, .bool b, .refl _⟩
  | int n => exact ⟨_, .int n, .refl _⟩
  | str s => exact ⟨_, .str s, .refl _⟩
  | arr _ ih =>
    obtain ⟨ps, hps, hitems⟩ := exists_plain_items ih
    exact ⟨.arr ps, .arr hps, hitems []⟩
  | obj hkeys _ ih =>
    obtain ⟨ps, hsame, hps, hms⟩ := exists_plain_members ih
    rw [← hsame] at hkeys
    exact ⟨.obj (Entries.ofList ps),
      .obj (Entries.rising_ofList ps) fun e he => hps e (mem_ofList he),
      .trans (hms []) (.members (Entries.perm_ofList hkeys))⟩

/-! ## Telling values by their text -/

/-- Two values have the same canonical text exactly if they are equal up to the order of members. -/
theorem canonical_eq_iff_reordered (ha : a.Unambiguous) (hb : b.Unambiguous) :
    a.canonical = b.canonical ↔ Reordered a b := by
  refine ⟨fun h => ?_, fun h => congrArg String.ofList (h.chars_eq ha)⟩
  obtain ⟨p, hp, hap⟩ := ha.exists_plain
  obtain ⟨q, hq, hbq⟩ := hb.exists_plain
  have hpq : p.canonical = q.canonical := by
    rw [canonical, canonical, ← hap.chars_eq ha, ← hbq.chars_eq hb]
    exact h
  rw [hp.eq_of_canonical hq hpq] at hap
  exact hap.trans hbq.symm

/-- A value with its members out of order, at two levels. -/
def shuffled : Json :=
  .obj [("b", .int (-1)), ("a", .obj [("y", .arr [.int 1, .str "1"]), ("x", .null)])]

/-- The value with its members in order. -/
def ordered : Json :=
  .obj [("a", .obj [("x", .null), ("y", .arr [.int 1, .str "1"])]), ("b", .int (-1))]

/-- Another value, with the items of the array in another order. -/
def turned : Json :=
  .obj [("a", .obj [("x", .null), ("y", .arr [.str "1", .int 1])]), ("b", .int (-1))]

theorem shuffled_reads_as_ordered_alone : shuffled.Unambiguous ∧ ordered.Unambiguous ∧
    turned.Unambiguous ∧ shuffled.canonical = ordered.canonical ∧ ¬ Reordered shuffled turned := by
  have hshuffled : shuffled.Unambiguous := by
    refine .obj (by decide) ?_
    simp only [List.forall_mem_cons]
    refine ⟨.int _, .obj (by decide) ?_, by simp⟩
    simp only [List.forall_mem_cons]
    refine ⟨.arr ?_, .null, by simp⟩
    simp only [List.forall_mem_cons]
    exact ⟨.int 1, .str "1", by simp⟩
  have hreordered : Reordered shuffled ordered :=
    .trans (.members (List.Perm.swap _ _ [])) (.member [] "a" _ (.members (List.Perm.swap _ _ [])))
  have hturned : turned.Unambiguous := by
    refine .obj (by decide) ?_
    simp only [List.forall_mem_cons]
    refine ⟨.obj (by decide) ?_, .int _, by simp⟩
    simp only [List.forall_mem_cons]
    refine ⟨.null, .arr ?_, by simp⟩
    simp only [List.forall_mem_cons]
    exact ⟨.str "1", .int 1, by simp⟩
  have hordered := hreordered.unambiguous hshuffled
  refine ⟨hshuffled, hordered, hturned, (canonical_eq_iff_reordered hshuffled hordered).mpr
    hreordered, fun h => ?_⟩
  exact absurd ((canonical_eq_iff_reordered hshuffled hturned).mpr h) (by decide)

end Json

end PodSwap
