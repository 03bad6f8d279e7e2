import PodSwap.Object.Workload
import PodSwap.Proofs.Json.Path

/-!
# What is read of a well-formed value

A field of a record is read from the member of its name, so what is read of an object can be said by
the paths of its value.

Main statements: a field is read from its member (`optional_eq_readField`), and what is read of a
workload: its names (`Workload.name_of_read`), its count (`Workload.replicas_of_read`), its
annotations (`Workload.annotationAt_of_read`) and its template (`Workload.podTemplate_of_read`).
-/

namespace PodSwap

open Json

theorem Entries.get?_map_values {α β : Type} (f : α → β) (k : String) (es : List (String × α)) :
    get? k (es.map fun e => (e.1, f e.2)) = (get? k es).map f := by
  induction es with
  | nil => rfl
  | cons e es ih => by_cases he : e.1 = k <;> simp [get?_cons, he, ih]

/-- What an optional field says, given the member of its name. -/
def readField {α : Type} [Codec α] : Option Json → Reading (Option α)
  | none => .ok none
  | some j => readNullable j.written

/-- The values under a key of a well-formed object: its member, if it has it. -/
theorem valuesUnder_of_members {d : Json} {ms : List (String × Json.Written)} (hd : d.WellFormed)
    (h : members d.written = .ok ms) (k : String) :
    valuesUnder k ms = ((d.get? k).map Json.written).toList := by
  cases d with
  | obj es =>
    rw [members_written] at h
    cases h
    rw [get?_obj, Option.toList_map, ← Entries.filter_eq_toList_get? (Entries.nodup_of_rising hd.1),
      valuesUnder, List.filter_map, List.map_map, List.map_map]
    rfl
  | _ => cases h

theorem isObject_of_members {j : Json} {ms : List (String × Json.Written)}
    (h : members j.written = .ok ms) : j.isObject = true := by
  cases j <;> first | rfl | cases h

section

variable {α : Type} [Codec α]

theorem readNullable_ok {j : Json} {a : Option α} (h : readNullable j.written = .ok a) :
    (j = .null ∧ a = none) ∨ ∃ b, a = some b ∧ ofWritten j.written = .ok b := by
  unfold readNullable at h
  split at h
  · rename_i hn
    cases h
    exact .inl ⟨written_eq_null_iff.mp hn, rfl⟩
  · obtain ⟨b, hb, rfl⟩ := map_eq_ok.mp h
    exact .inr ⟨b, rfl, hb⟩

theorem readField_none_ok {x : Option Json} (h : readField (α := α) x = .ok none) :
    x = none ∨ x = some .null := by
  cases x with
  | none => exact .inl rfl
  | some j =>
    rcases readNullable_ok h with ⟨rfl, -⟩ | ⟨b, hb, -⟩
    · exact .inr rfl
    · cases hb

theorem readField_some_ok {x : Option Json} {a : α} (h : readField x = .ok (some a)) :
    ∃ j, x = some j ∧ ofWritten j.written = .ok a := by
  cases x with
  | none => cases h
  | some j =>
    rcases readNullable_ok h with ⟨-, hn⟩ | ⟨b, hb, hj⟩
    · cases hn
    · cases hb
      exact ⟨j, rfl, hj⟩

/-- An optional field is read from the member of its name. -/
theorem optional_eq_readField {d : Json} {ms : List (String × Json.Written)} (hd : d.WellFormed)
    (h : members d.written = .ok ms) (name : String) :
    optional (α := α) ms name = readField (d.get? name) := by
  unfold optional
  rw [valuesUnder_of_members hd h]
  cases d.get? name with
  | none => rfl
  | some j =>
    show (readNullable j.written >>= fun a => readLast a []) = readNullable j.written
    cases readNullable (α := α) j.written <;> rfl

end

/-! ## Simple values -/

theorem str_of_read {j : Json} {s : String} (h : ofWritten j.written = .ok s) : j = .str s := by
  cases j <;> cases h
  rfl

/-- Entries that were read are texts under their keys. -/
theorem entries_of_read {ms : List (String × Json)} {es : List (String × String)}
    (h : readEntries (ms.map fun m => (m.1, m.2.written)) = .ok es) :
    ms = es.map fun e => (e.1, .str e.2) := by
  induction ms generalizing es with
  | nil =>
    cases h
    rfl
  | cons m ms ih =>
    obtain ⟨k, j⟩ := m
    simp only [List.map_cons, readEntries] at h
    obtain ⟨s, hs, h⟩ := bind_eq_ok.mp h
    obtain ⟨rest, hrest, h⟩ := bind_eq_ok.mp h
    cases h
    rw [str_of_read hs, ih hrest]
    rfl

/-- A table of texts has exactly the members of the object it was read from. -/
theorem get?_of_read {j : Json} {t : SortedMap String} (hj : j.WellFormed)
    (h : ofWritten j.written = .ok t) (k : String) : j.get? k = (t.get? k).map .str := by
  obtain ⟨ms, hms, h⟩ := bind_eq_ok.mp h
  obtain ⟨es, hes, h⟩ := bind_eq_ok.mp h
  cases h
  cases j with
  | obj js =>
    rw [members_written] at hms
    cases hms
    have hjs := entries_of_read hes
    subst hjs
    have hkeys := Entries.nodup_of_rising hj.1
    rw [List.map_map] at hkeys
    show _ = (Entries.get? k (Entries.ofList es)).map Json.str
    rw [Entries.get?_ofList, Entries.get?_reverse_of_nodup hkeys, get?_obj,
      Entries.get?_map_values]
  | _ => cases hms

/-! ## Metadata -/

section

variable [Schema]

section

variable {j : Json} {m : ObjectMeta} (hj : j.WellFormed) (h : ofWritten j.written = .ok m)

include hj h

theorem metadata_fields :
    readField (j.get? "name") = .ok m.name ∧ readField (j.get? "namespace") = .ok m.ns ∧
      readField (j.get? "annotations") = .ok m.annotations := by
  obtain ⟨ms, hms, hread⟩ := Record.ofWritten_eq_ok.mp h
  simp only [Record.part, Record.fields, Part.read_both_eq_ok, Part.read_field,
    optional_eq_readField hj hms] at hread
  obtain ⟨hname, hns, -, -, -, -, hannotations, -⟩ := hread
  exact ⟨hname, hns, hannotations⟩

/-- An annotation is the text at its path. -/
theorem annotationAt_of_metadata (key : String) :
    at? ["annotations", key] j = (m.annotationAt key).map .str := by
  have hread := (metadata_fields hj h).2.2
  rw [at?_cons]
  unfold ObjectMeta.annotationAt
  cases hm : m.annotations with
  | none =>
    rw [hm] at hread
    rcases readField_none_ok hread with hx | hx <;> rw [hx] <;> rfl
  | some t =>
    rw [hm] at hread
    obtain ⟨a, ha, hat⟩ := readField_some_ok hread
    rw [ha]
    show at? [key] a = (t.get? key).map .str
    rw [at?_singleton, get?_of_read (hj.get? ha) hat]

end

/-! ## Workloads -/

/-- Whether something is said of what is wanted of the workload. -/
def Workload.hasSpec : Workload → Bool
  | .replicaSet r => r.spec.isSome
  | .deployment d => d.spec.isSome
  | .statefulSet s => s.spec.isSome

/-- Whether a template is read as the specification of a workload has it, where none counts as the
empty one. -/
def TemplateRead {Template : Type} [TemplateField Template] (asTemplate : Template → PodTemplate) :
    Prop :=
  ∀ ms, ((TemplateField.part : Part Template).read ms).map asTemplate = required ms "template"

theorem templateRead_optional : TemplateRead fun t : Option PodTemplate => t.getD {} :=
  fun _ => rfl

theorem templateRead_required : TemplateRead fun t : PodTemplate => t := by
  intro ms
  show (required ms "template").map id = _
  cases (required ms "template" : Reading PodTemplate) <;> rfl

section

variable {Template : Type} [TemplateField Template] {rest : Rest _} {j : Json}
  {s : WorkloadSpec Template rest} (hj : j.WellFormed) (h : ofWritten j.written = .ok s)

include hj h

/-- What is read of a specification's count. -/
theorem WorkloadSpec.count_of_read :
    readField (j.get? "replicas") = .ok s.replicas ∧ j.isObject = true := by
  obtain ⟨ms, hms, hread⟩ := Record.ofWritten_eq_ok.mp h
  simp only [Record.part, Record.fields, Part.read_both_eq_ok, Part.read_field,
    optional_eq_readField hj hms] at hread
  exact ⟨hread.1, isObject_of_members hms⟩

/-- What is read of a specification's template. -/
theorem WorkloadSpec.template_of_read {asTemplate : Template → PodTemplate}
    (hread : TemplateRead asTemplate) :
    (readField (j.get? "template")).map (·.getD {}) = .ok (asTemplate s.template) := by
  obtain ⟨ms, hms, hfields⟩ := Record.ofWritten_eq_ok.mp h
  simp only [Record.part, Record.fields, Part.read_both_eq_ok] at hfields
  rw [← optional_eq_readField hj hms]
  exact (hread ms).symm.trans (map_eq_ok.mpr ⟨_, hfields.2.2.1, rfl⟩)

end

/-- What is read of an object of a kind are its fields. -/
theorem Resource.ofWritten_eq_ok {Spec Status : Type} [Codec Spec] [Codec Status]
    {apiVersion kind : String} {w : Json.Written} {r : Resource Spec Status} :
    Resource.ofWritten apiVersion kind w = .ok r ↔
      ∃ ms, members w = .ok ms ∧ (Resource.part apiVersion kind).read ms =
        .ok ((), (), r.metadata, r.spec, r.status) := by
  refine map_eq_ok.trans ⟨?_, fun h => ⟨_, bind_eq_ok.mpr h, rfl⟩⟩
  rintro ⟨x, hx, rfl⟩
  exact bind_eq_ok.mp hx

section

variable {Spec Status : Type} [Codec Spec] [Codec Status] {apiVersion kind : String} {d : Json}
  {r : Resource Spec Status} (hd : d.WellFormed)
  (h : Resource.ofWritten apiVersion kind d.written = .ok r)

include hd h

theorem resource_fields :
    (readField (d.get? "metadata")).map (·.getD default) = .ok r.metadata ∧
      readField (d.get? "spec") = .ok r.spec := by
  obtain ⟨ms, hms, hread⟩ := Resource.ofWritten_eq_ok.mp h
  simp only [Resource.part, Part.read_both_eq_ok, Part.read_always, Part.read_field, required,
    optional_eq_readField hd hms] at hread
  exact ⟨hread.2.2.1, hread.2.2.2.1⟩

/-- The metadata of an object that has any in its value. -/
theorem metadata_of_read {key : String} {v : Json} (hv : at? ["metadata", key] d = some v) :
    ∃ j, d.get? "metadata" = some j ∧ ofWritten j.written = .ok r.metadata ∧
      j.get? key = some v := by
  obtain ⟨m, hm, hget⟩ := map_eq_ok.mp (resource_fields hd h).1
  rw [at?_cons] at hv
  obtain ⟨j, hj, hkey⟩ := Option.bind_eq_some_iff.mp hv
  rw [at?_singleton] at hkey
  rw [hj] at hm
  rcases readNullable_ok hm with ⟨rfl, -⟩ | ⟨b, rfl, hb⟩
  · cases hkey
  · cases hget
    exact ⟨j, hj, hb, hkey⟩

theorem text_of_metadata {key : String} {v : String}
    (hv : at? ["metadata", key] d = some (.str v)) :
    (key = "name" → r.metadata.name = some v) ∧ (key = "namespace" → r.metadata.ns = some v) := by
  obtain ⟨j, hj, hread, hkey⟩ := metadata_of_read hd h hv
  obtain ⟨hname, hns, -⟩ := metadata_fields (hd.get? hj) hread
  constructor <;> rintro rfl
  · rw [hkey] at hname
    exact (Except.ok.inj hname).symm
  · rw [hkey] at hns
    exact (Except.ok.inj hns).symm

theorem annotationAt_of_resource (key : String) :
    at? ["metadata", "annotations", key] d = (r.metadata.annotationAt key).map .str := by
  obtain ⟨m, hm, hget⟩ := map_eq_ok.mp (resource_fields hd h).1
  rw [at?_cons]
  cases hj : d.get? "metadata" with
  | none =>
    rw [hj] at hm
    cases hm
    rw [← hget]
    rfl
  | some j =>
    rw [hj] at hm
    rcases readNullable_ok hm with ⟨rfl, rfl⟩ | ⟨b, rfl, hb⟩
    · rw [← hget]
      rfl
    · cases hget
      exact annotationAt_of_metadata (hd.get? hj) hb key

end

section

variable {Template Status : Type} [TemplateField Template] {rest : Rest _} [Codec Status]
  {apiVersion kind : String} {d : Json} {r : Resource (WorkloadSpec Template rest) Status}
  (hd : d.WellFormed) (h : Resource.ofWritten apiVersion kind d.written = .ok r)

include hd h

theorem count_of_resource :
    readField (at? ["spec", "replicas"] d) = .ok (r.spec.bind (·.replicas)) ∧
      (r.spec.isSome = true ↔ ∃ j, d.get? "spec" = some j ∧ j.isObject = true) := by
  have hspec := (resource_fields hd h).2
  rw [at?_cons]
  cases hs : r.spec with
  | none =>
    rw [hs] at hspec
    rcases readField_none_ok hspec with hx | hx <;> rw [hx] <;>
      exact ⟨rfl, by simp [isObject, members?]⟩
  | some s =>
    rw [hs] at hspec
    obtain ⟨j, hj, hread⟩ := readField_some_ok hspec
    obtain ⟨hn, hobject⟩ := WorkloadSpec.count_of_read (hd.get? hj) hread
    rw [hj]
    refine ⟨?_, by simpa using hobject⟩
    show readField (at? ["replicas"] j) = .ok s.replicas
    rw [at?_singleton]
    exact hn

theorem template_of_resource {asTemplate : Template → PodTemplate}
    (htemplate : TemplateRead asTemplate) :
    (readField (at? ["spec", "template"] d)).map (·.getD {}) =
        .ok ((r.spec.map fun s => asTemplate s.template).getD {}) ∧
      (r.spec.isSome = false → at? ["spec", "template"] d = none) := by
  have hspec := (resource_fields hd h).2
  rw [at?_cons]
  cases hs : r.spec with
  | none =>
    rw [hs] at hspec
    rcases readField_none_ok hspec with hx | hx <;> rw [hx] <;> exact ⟨rfl, fun _ => rfl⟩
  | some s =>
    rw [hs] at hspec
    obtain ⟨j, hj, hread⟩ := readField_some_ok hspec
    rw [hj]
    refine ⟨?_, fun hnone => by cases hnone⟩
    show (readField (at? ["template"] j)).map (·.getD {}) = .ok (asTemplate s.template)
    rw [at?_singleton]
    exact WorkloadSpec.template_of_read (hd.get? hj) hread htemplate

end

namespace Workload

variable {kind : WorkloadKind} {d : Json} {w : Workload}

theorem kind_of_read (h : ofJson kind d = .ok w) : w.kind = kind := by
  cases kind <;> obtain ⟨r, -, rfl⟩ := map_eq_ok.mp h <;> rfl

section

variable (hd : d.WellFormed) (h : ofJson kind d = .ok w)

include hd h

theorem name_of_read {name : String} (hname : at? ["metadata", "name"] d = some (.str name)) :
    w.name = name := by
  cases kind <;> obtain ⟨r, hr, rfl⟩ := map_eq_ok.mp h <;>
    simp [Workload.name, metadata, (text_of_metadata hd hr hname).1]

theorem ns_of_read {ns : String} (hns : at? ["metadata", "namespace"] d = some (.str ns)) :
    w.ns = ns := by
  cases kind <;> obtain ⟨r, hr, rfl⟩ := map_eq_ok.mp h <;>
    simp [Workload.ns, metadata, (text_of_metadata hd hr hns).2]

/-- An annotation is the text at its path. -/
theorem annotationAt_of_read (key : String) :
    at? ["metadata", "annotations", key] d = (w.annotationAt key).map .str := by
  cases kind <;> obtain ⟨r, hr, rfl⟩ := map_eq_ok.mp h <;>
    exact annotationAt_of_resource hd hr key

/-- The count is what is read at its path. -/
theorem replicas_of_read : readField (at? ["spec", "replicas"] d) = .ok w.replicas := by
  cases kind <;> obtain ⟨r, hr, rfl⟩ := map_eq_ok.mp h
  · exact (count_of_resource hd hr).1
  · exact (count_of_resource hd hr).1
  · exact (count_of_resource hd hr).1

theorem hasSpec_of_read :
    w.hasSpec = true ↔ ∃ j, d.get? "spec" = some j ∧ j.isObject = true := by
  cases kind <;> obtain ⟨r, hr, rfl⟩ := map_eq_ok.mp h
  · exact (count_of_resource hd hr).2
  · exact (count_of_resource hd hr).2
  · exact (count_of_resource hd hr).2

/-- The template is what is read at its path; without a specification there is nothing there. -/
theorem podTemplate_of_read :
    (readField (at? ["spec", "template"] d)).map (·.getD {}) = .ok (w.podTemplate.getD {}) ∧
      (w.hasSpec = false → at? ["spec", "template"] d = none) := by
  cases kind <;> obtain ⟨r, hr, rfl⟩ := map_eq_ok.mp h
  · have hread := template_of_resource hd hr templateRead_optional
    refine ⟨hread.1.trans ?_, hread.2⟩
    simp only [podTemplate]
    cases r.spec <;> rfl
  · exact template_of_resource hd hr templateRead_required
  · exact template_of_resource hd hr templateRead_required

end

end Workload

end

end PodSwap
