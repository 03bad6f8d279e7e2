import PodSwap.Proofs.Json.Diff
import PodSwap.Proofs.Object.ReadBack
import PodSwap.Proofs.Object.Reading

/-!
# Patches between objects

Two records that differ in some fields have a patch of exactly these fields between them.

Main statements: the patch between two tables of texts that differ under one key
(`mergeDiff_table`), and between two workloads that differ in one annotation and in their counts
(`Workload.mergeDiff_toJson`).
-/

namespace PodSwap

open Json

theorem Entries.get?_cons_ne {α : Type} {k : String} {e : String × α} {es : List (String × α)}
    (h : e.1 ≠ k) : get? k (e :: es) = get? k es := by
  rw [get?_cons, if_neg h]

/-! ## Records -/

theorem wellFormed_get?_of_fields {l : List (String × Option Json)}
    (h : ∀ m ∈ l, FieldPlain m) (k : String) :
    ∀ j ∈ (Entries.get? k l).join, j.WellFormed := by
  intro j hj
  cases hk : Entries.get? k l with
  | none =>
    rw [hk] at hj
    cases hj
  | some v =>
    rw [hk] at hj
    exact (h (k, v) (Entries.mem_of_get? hk) j hj).wellFormed

/-- The patch between two records, known key by key: fields that are the same have no part in
it. -/
theorem mergeDiff_fields {l l' : List (String × Option Json)} {ds : List (String × Json)}
    (hl : (l.map (·.1)).Nodup) (hl' : (l'.map (·.1)).Nodup) (hds : Rising ds)
    (hplain : ∀ m ∈ l, FieldPlain m)
    (h : ∀ k, (Entries.get? k ds = none ∧ Entries.get? k l = Entries.get? k l') ∨
      diffAt (Entries.get? k l).join (Entries.get? k l').join = Entries.get? k ds) :
    mergeDiff (fields l) (fields l') = .obj ds := by
  apply mergeDiff_eq_obj (Entries.rising_ofList _) (Entries.rising_ofList _) hds
  intro k
  have hget := get?_fields hl k
  have hget' := get?_fields hl' k
  rw [fields, object, get?_obj] at hget hget'
  rw [hget, hget']
  rcases h k with ⟨hk, heq⟩ | hk
  · rw [hk, ← heq]
    exact diffAt_self (wellFormed_get?_of_fields hplain k)
  · exact hk

section

variable {α Fields : Type} [Record α Fields] [HasTimes Fields] [Inhabited Fields] [Inhabited α]
  [hrecord : LawfulRecord α] {a b : α} {name : String} {d : Json}

/-- What a patch says of a record of which one field was changed. -/
theorem Record.diffAt_one
    (hrest : ∀ k, k ≠ name → Entries.get? k ((part α).write (fields a)) =
      Entries.get? k ((part α).write (fields b)))
    (h : diffAt (Entries.get? name ((part α).write (fields a))).join
      (Entries.get? name ((part α).write (fields b))).join = some d) :
    diffAt (some (toJson a)) (some (toJson b)) = some (.obj [(name, d)]) := by
  have hpatch : mergeDiff (toJson a) (toJson b) = .obj [(name, d)] := by
    refine mergeDiff_fields (nodup_write a) (nodup_write b) (by simp [Rising])
      (LawfulPart.plain_write (fields a)) fun k => ?_
    by_cases hk : name = k
    · subst hk
      exact .inr (by simpa [Entries.get?_cons] using h)
    · exact .inl ⟨Entries.get?_cons_ne hk, hrest k (Ne.symm hk)⟩
  have hget : ∀ c : α, (toJson c).get? name =
      (Entries.get? name ((part α).write (fields c))).join := fun c =>
    get?_fields (nodup_write c) name
  rw [← hget a, ← hget b] at h
  exact diffAt_obj (Entries.rising_ofList _) h hpatch

end

/-! ## Texts and counts -/

theorem get?_table (t : SortedMap String) (k : String) :
    Entries.get? k (t.toList.map fun e => (e.1, toJson e.2)) = (t.get? k).map .str :=
  Entries.get?_map_values _ k t.toList

theorem same_str_iff {a b : String} : (Json.str a).same (.str b) = true ↔ a = b := by
  simp [same]

/-- What a patch says of a text that was changed. -/
theorem diffAt_text {a b : Option String} (h : a ≠ b) :
    diffAt (a.map .str) (b.map .str) = some ((b.map .str).getD .null) := by
  cases a with
  | none =>
    cases b with
    | none => exact absurd rfl h
    | some b => rfl
  | some a =>
    cases b with
    | none => rfl
    | some b =>
      have hne : ¬ (Json.str a).same (.str b) = true := fun hs => h (by rw [same_str_iff.mp hs])
      show (if (Json.str a).same (.str b) = true then none else some (mergeDiff _ _)) = _
      rw [if_neg hne]
      rfl

section

variable {t t' : SortedMap String} {key : String}
  (hrest : ∀ k, k ≠ key → t'.get? k = t.get? k) (hkey : t.get? key ≠ t'.get? key)

include hrest hkey

/-- The patch between two tables that differ under one key. -/
theorem mergeDiff_table :
    mergeDiff (toJson t) (toJson t') = .obj [(key, ((t'.get? key).map .str).getD .null)] := by
  refine mergeDiff_eq_obj (rising_map_values _ t.rising) (rising_map_values _ t'.rising)
    (by simp [Rising]) ?_
  intro k
  rw [get?_table, get?_table]
  by_cases hk : key = k
  · subst hk
    rw [diffAt_text hkey]
    simp [Entries.get?_cons]
  · rw [hrest k (Ne.symm hk), diffAt_self]
    · simp [Entries.get?_cons, hk]
    · intro j hj
      obtain ⟨s, -, rfl⟩ := Option.map_eq_some_iff.mp hj
      trivial

theorem diffAt_table :
    diffAt (some (toJson t)) (some (toJson t')) =
      some (.obj [(key, ((t'.get? key).map .str).getD .null)]) := by
  have hd : diffAt ((t.get? key).map .str) ((t'.get? key).map .str) = _ := diffAt_text hkey
  rw [← get?_table, ← get?_table] at hd
  exact diffAt_obj (rising_map_values _ t.rising) hd (mergeDiff_table hrest hkey)

end

/-- What a patch says of a count that was changed. -/
theorem diffAt_count {c : Option Int32} {n : Int32} (h : c ≠ some n) :
    diffAt (c.map toJson) ((some n).map toJson) = some (.int n.toInt) := by
  cases c with
  | none => rfl
  | some c =>
    have hne : ¬ (toJson c).same (toJson n) = true := by
      intro hs
      have hint : c.toInt = n.toInt := by simpa [toJson, Json.int, same, Number.same] using hs
      exact h (by rw [Int32.toInt_inj.mp hint])
    show (if (toJson c).same (toJson n) = true then none else some _) = _
    rw [if_neg hne]
    rfl

/-- A table of one text, as it is written. -/
theorem toJson_of_one {t : SortedMap String} {key v : String}
    (h : ∀ k, t.get? k = if key = k then some v else none) :
    toJson t = .obj [(key, .str v)] := by
  show Json.obj _ = _
  congr 1
  refine Entries.eq_of_get? (rising_map_values _ t.rising) (by simp [Rising]) ?_
  intro k
  rw [get?_table, h, Entries.get?_cons]
  by_cases hk : key = k <;> simp [hk]

/-! ## Metadata -/

section

variable [Schema]

/-- The fields of metadata in front of the annotations. -/
def ObjectMeta.leading (m : ObjectMeta) : List (String × Option Json) :=
  [field "name" m.name, field "namespace" m.ns, field "uid" m.uid,
    field "creationTimestamp" m.creationTimestamp, field "deletionTimestamp" m.deletionTimestamp,
    field "labels" m.labels]

/-- The fields of metadata behind the annotations. -/
def ObjectMeta.trailing (m : ObjectMeta) : List (String × Option Json) :=
  field "ownerReferences" m.ownerReferences :: Schema.objectMeta.members.part.write m.others

theorem ObjectMeta.write_eq (m : ObjectMeta) :
    (Record.part ObjectMeta).write (Record.fields m) =
      m.leading ++ field "annotations" m.annotations :: m.trailing := rfl

/-- The annotations are found among the fields, and changing them leaves all others alone. -/
theorem ObjectMeta.get?_write (m : ObjectMeta) (annotations : Option (SortedMap String))
    (k : String) :
    Entries.get? k ((Record.part ObjectMeta).write (Record.fields { m with annotations })) =
      if k = "annotations" then some (annotations.map toJson)
      else Entries.get? k ((Record.part ObjectMeta).write (Record.fields m)) := by
  rw [write_eq, write_eq, Entries.get?_append, Entries.get?_append]
  show (Entries.get? k m.leading).or (Entries.get? k (_ :: m.trailing)) = _
  split
  · rename_i hk
    subst hk
    rfl
  · rename_i hk
    rw [field, field, Entries.get?_cons_ne (Ne.symm hk), Entries.get?_cons_ne (Ne.symm hk)]

theorem annotationTable_get? (m : ObjectMeta) (k : String) :
    m.annotationTable.get? k = m.annotationAt k := by
  unfold ObjectMeta.annotationTable ObjectMeta.annotationAt
  cases m.annotations <;> rfl

section

variable {m : ObjectMeta} {t : SortedMap String} {key : String}
  (hrest : ∀ k, k ≠ key → t.get? k = m.annotationTable.get? k)
  (hkey : m.annotationAt key ≠ t.get? key)

include hrest hkey

/-- What a patch says of annotations of which one was changed. -/
theorem diffAt_annotations :
    diffAt (m.annotations.map toJson) (some (toJson t)) =
      some (.obj [(key, ((t.get? key).map .str).getD .null)]) := by
  cases hm : m.annotations with
  | some old =>
    have htable : m.annotationTable = old := by simp [ObjectMeta.annotationTable, hm]
    rw [← annotationTable_get?, htable] at hkey
    rw [htable] at hrest
    exact diffAt_table hrest hkey
  | none =>
    -- without annotations before, the new one is the only one
    have hnone : ∀ k, m.annotationTable.get? k = none := by
      intro k
      simp [ObjectMeta.annotationTable, hm]
    rw [← annotationTable_get?, hnone] at hkey
    cases hv : t.get? key with
    | none => exact absurd hv.symm hkey
    | some v =>
      have hone : toJson t = .obj [(key, .str v)] := by
        apply toJson_of_one
        intro k
        by_cases hk : key = k
        · rw [if_pos hk, ← hk, hv]
        · rw [if_neg hk, hrest k (Ne.symm hk), hnone]
      show some (toJson t) = _
      rw [hone]
      rfl

end

/-- A patch says nothing of metadata in which an annotation was set that was there already. -/
theorem diffAt_metadata_of_annotationAt {m : ObjectMeta} {t : SortedMap String} {key : String}
    (hrest : ∀ k, k ≠ key → t.get? k = m.annotationTable.get? k) (hset : t.get? key ≠ none)
    (hkey : m.annotationAt key = t.get? key) :
    diffAt (some (toJson m)) (some (toJson { m with annotations := some t })) = none := by
  have htable : t = m.annotationTable := by
    refine SortedMap.ext_get? fun k => ?_
    by_cases hk : k = key
    · rw [hk, ← hkey, annotationTable_get?]
    · exact hrest k hk
  have hannotations : m.annotations = some t := by
    cases hm : m.annotations with
    | none =>
      rw [← hkey, ObjectMeta.annotationAt, hm] at hset
      exact absurd rfl hset
    | some old => rw [htable, ObjectMeta.annotationTable, hm, Option.getD_some]
  rw [← hannotations]
  refine diffAt_self fun j hj => ?_
  cases hj
  exact wellFormed_toJson m

section

variable {m : ObjectMeta} {t : SortedMap String} {key : String}
  (hrest : ∀ k, k ≠ key → t.get? k = m.annotationTable.get? k)
  (hkey : m.annotationAt key ≠ t.get? key)

include hrest hkey

/-- What a patch says of metadata in which one annotation was changed. -/
theorem diffAt_metadata :
    diffAt (some (toJson m)) (some (toJson { m with annotations := some t })) =
      some (.obj [("annotations", .obj [(key, ((t.get? key).map .str).getD .null)])]) := by
  have hfound := m.get?_write m.annotations "annotations"
  refine Record.diffAt_one (fun k hk => ?_) ?_
  · rw [m.get?_write (some t), if_neg hk]
  · rw [hfound, m.get?_write (some t), if_pos rfl, if_pos rfl]
    exact diffAt_annotations hrest hkey

end

/-! ## Workloads -/

theorem WorkloadSpec.write_eq {Template : Type} [TemplateField Template] {rest : Rest _}
    (s : WorkloadSpec Template rest) :
    (Record.part (WorkloadSpec Template rest)).write (Record.fields s) =
      field "replicas" s.replicas :: always "selector" s.selector ::
        (TemplateField.part.write s.template ++ rest.members.part.write s.others) := rfl

/-- What a patch says of a specification whose count was changed. -/
theorem diffAt_workloadSpec {Template : Type} [TemplateField Template] [HasTimes Template]
    [Inhabited Template] [LawfulPart (TemplateField.part : Part Template)] {rest : Rest _}
    {s : WorkloadSpec Template rest} {n : Int32} (h : s.replicas ≠ some n) :
    diffAt (some (toJson s)) (some (toJson { s with replicas := some n })) =
      some (.obj [("replicas", .int n.toInt)]) := by
  refine Record.diffAt_one (fun k hk => ?_) ?_ <;>
    rw [WorkloadSpec.write_eq, WorkloadSpec.write_eq]
  · exact (Entries.get?_cons_ne hk.symm).trans (Entries.get?_cons_ne hk.symm).symm
  · exact diffAt_count h

/-- The patch between two objects that differ in one annotation and in what is wanted of them. -/
theorem mergeDiff_resource {Spec Status : Type} [Codec Spec] [HasTimes Spec] [Inhabited Spec]
    [LawfulCodec Spec] [Codec Status] [HasTimes Status] [Inhabited Status] [LawfulCodec Status]
    (apiVersion kind : String) {key : String}
    {r : Resource Spec Status} {s s' : Spec} {t : SortedMap String} {d : Json}
    (hs : r.spec = some s) (hrest : ∀ k, k ≠ key → t.get? k = r.metadata.annotationTable.get? k)
    (hkey : r.metadata.annotationAt key ≠ t.get? key)
    (hd : diffAt (some (toJson s)) (some (toJson s')) = some d) :
    mergeDiff (Resource.toJson apiVersion kind r)
        (Resource.toJson apiVersion kind
          { r with metadata := { r.metadata with annotations := some t }, spec := some s' }) =
      .obj [("metadata", .obj [("annotations", .obj [(key, ((t.get? key).map .str).getD .null)])]),
        ("spec", d)] := by
  have hmetadata := diffAt_metadata hrest hkey
  rw [Resource.toJson_eq, Resource.toJson_eq]
  refine mergeDiff_fields (by simp [always, field]) (by simp [always, field])
    (by simp [Rising]; decide) (by simp) ?_
  intro k
  simp only [always, field, hs, Option.map_some, Entries.get?_cons, Entries.get?_nil]
  by_cases hk : "metadata" = k
  · subst hk
    exact .inr (by simpa using hmetadata)
  · by_cases hk' : "spec" = k
    · subst hk'
      exact .inr (by simpa using hd)
    · exact .inl (by simp [hk, hk'])

namespace Workload

/-- The patch between two workloads that differ in one annotation and in their counts. -/
theorem mergeDiff_toJson {w : Workload} {key : String} {t : SortedMap String} {n : Int32}
    (hspec : w.hasSpec = true) (hrest : ∀ k, k ≠ key → t.get? k = w.metadata.annotationTable.get? k)
    (hkey : w.annotationAt key ≠ t.get? key) (hn : w.replicas ≠ some n) :
    mergeDiff w.toJson
        (((w.setMetadata { w.metadata with annotations := some t }).setReplicas n).toJson) =
      .obj [("metadata", .obj [("annotations", .obj [(key, ((t.get? key).map .str).getD .null)])]),
        ("spec", .obj [("replicas", .int n.toInt)])] := by
  cases w with
  | replicaSet r =>
    obtain ⟨s, hs⟩ := Option.isSome_iff_exists.mp hspec
    have hn : s.replicas ≠ some n := by simpa [replicas, hs] using hn
    have h := mergeDiff_resource "apps/v1" "ReplicaSet" hs hrest hkey
      (diffAt_workloadSpec hn)
    simpa [toJson, setMetadata, setReplicas, metadata, hs] using h
  | deployment r =>
    obtain ⟨s, hs⟩ := Option.isSome_iff_exists.mp hspec
    have hn : s.replicas ≠ some n := by simpa [replicas, hs] using hn
    have h := mergeDiff_resource "apps/v1" "Deployment" hs hrest hkey
      (diffAt_workloadSpec hn)
    simpa [toJson, setMetadata, setReplicas, metadata, hs] using h
  | statefulSet r =>
    obtain ⟨s, hs⟩ := Option.isSome_iff_exists.mp hspec
    have hn : s.replicas ≠ some n := by simpa [replicas, hs] using hn
    have h := mergeDiff_resource "apps/v1" "StatefulSet" hs hrest hkey
      (diffAt_workloadSpec hn)
    simpa [toJson, setMetadata, setReplicas, metadata, hs] using h

end Workload

end

end PodSwap
