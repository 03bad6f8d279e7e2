import PodSwap.Proofs.Object.Lawful

/-!
# Objects are read back

An object that is written and read again has every field that it had, set or not set, empty or not,
whatever fields the schema has. Only its times lose their fractions of a second, wherever in the
object they stand.

Main statements: values of any shape are read back (`Shape.lawful`, `Members.lawful`), and so are
objects (`Resource.ofWritten_toJson`), which have the times that reading yields
(`Resource.dated_of_read`).
-/

namespace PodSwap

open Json

/-! ## Shapes -/

theorem Members.names_part : ∀ ms : Members, ms.part.names = ms.names
  | .nil => rfl
  | .field name _ rest => congrArg (name :: ·) rest.names_part
  | .always name _ rest => congrArg (name :: ·) rest.names_part
  | .constant name _ rest => congrArg (name :: ·) rest.names_part

theorem Members.nodup_names {ms : Members} (h : ms.isDistinct = true) : ms.names.Nodup := by
  match ms with
  | .nil => exact List.nodup_nil
  | .field name s rest =>
    simp only [isDistinct, Bool.and_eq_true, decide_eq_true_eq] at h
    exact List.nodup_cons.mpr ⟨h.1.1, nodup_names h.2⟩
  | .always name s rest =>
    simp only [isDistinct, Bool.and_eq_true, decide_eq_true_eq] at h
    exact List.nodup_cons.mpr ⟨h.1.1, nodup_names h.2⟩
  | .constant name _ rest =>
    simp only [isDistinct, Bool.and_eq_true, decide_eq_true_eq] at h
    exact List.nodup_cons.mpr ⟨h.1, nodup_names h.2⟩

mutual
/-- The values of a shape are read back. -/
theorem Shape.lawful : (s : Shape) → s.isDistinct = true → LawfulCodec s.Value
  | .text, _ => inferInstanceAs (LawfulCodec String)
  | .flag, _ => inferInstanceAs (LawfulCodec Bool)
  | .int32, _ => inferInstanceAs (LawfulCodec Int32)
  | .int64, _ => inferInstanceAs (LawfulCodec Int64)
  | .intOrText, _ => inferInstanceAs (LawfulCodec IntOrText)
  | .instant, _ => inferInstanceAs (LawfulCodec Timestamp)
  | .list s, h =>
    have := s.lawful h
    inferInstanceAs (LawfulCodec (List s.Value))
  | .table s, h =>
    have := s.lawful h
    inferInstanceAs (LawfulCodec (SortedMap s.Value))
  | .record ms, h =>
    have := ms.lawful h
    show LawfulCodec ms.Values from Part.lawful_codec (ms.names_part ▸ Members.nodup_names h)
termination_by structural s => s

/-- The members of a record are read back. -/
theorem Members.lawful : (ms : Members) → ms.isDistinct = true → LawfulPart ms.part
  | .nil, _ => inferInstanceAs (LawfulPart Part.none)
  | .field name s rest, h => by
    simp only [Members.isDistinct, Bool.and_eq_true] at h
    have := s.lawful h.1.2
    have := rest.lawful h.2
    exact inferInstanceAs (LawfulPart ((Part.field name).both rest.part))
  | .always name s rest, h => by
    simp only [Members.isDistinct, Bool.and_eq_true] at h
    have := s.lawful h.1.2
    have := rest.lawful h.2
    exact inferInstanceAs (LawfulPart ((Part.always name).both rest.part))
  | .constant name text rest, h => by
    simp only [Members.isDistinct, Bool.and_eq_true] at h
    have := rest.lawful h.2
    exact inferInstanceAs (LawfulPart ((Part.constant name text).both rest.part))
termination_by structural ms => ms
end

section

variable {known : List String} (r : Rest known)

instance : LawfulPart r.members.part := r.members.lawful r.distinct

instance : LawfulCodec r.Values :=
  Part.lawful_codec (r.members.names_part ▸ Members.nodup_names r.distinct)

theorem Rest.not_mem_names {name : String} (h : name ∈ known) :
    name ∉ r.members.part.names :=
  r.members.names_part ▸ r.unknown name h

/-- The fields that the program knows have names of their own. -/
theorem Rest.nodup_append (h : known.Nodup) : (known ++ r.members.part.names).Nodup := by
  refine List.nodup_append.mpr ⟨h, r.members.names_part ▸ Members.nodup_names r.distinct, ?_⟩
  rintro name hname _ hmember rfl
  exact r.not_mem_names hname hmember

end

/-! ## Records -/

section

variable [Schema]

instance : LawfulRecord OwnerReference where
  part := by dsimp only [Record.part]; infer_instance
  names := Schema.ownerReference.nodup_append (by decide)
  fields_default := rfl

instance : LawfulRecord ObjectMeta where
  part := by dsimp only [Record.part]; infer_instance
  names := Schema.objectMeta.nodup_append (by decide)
  fields_default := rfl

instance : LawfulRecord Container where
  part := by dsimp only [Record.part]; infer_instance
  names := Schema.container.nodup_append (by decide)
  fields_default := rfl

instance : LawfulRecord PodSpec where
  part := by dsimp only [Record.part]; infer_instance
  names := Schema.podSpec.nodup_append (by decide)
  fields_default := rfl

instance : LawfulRecord PodTemplate where
  part := by dsimp only [Record.part]; infer_instance
  names := by simp [Record.part, Part.both, Part.field]
  fields_default := rfl

instance : LawfulPart (TemplateField.part : Part (Option PodTemplate)) :=
  inferInstanceAs (LawfulPart (Part.field "template"))

instance : LawfulPart (TemplateField.part : Part PodTemplate) :=
  inferInstanceAs (LawfulPart (Part.always "template"))

instance {Template : Type} [TemplateField Template] [HasTimes Template] [Inhabited Template]
    [LawfulPart (TemplateField.part : Part Template)] {rest : Rest _} :
    LawfulRecord (WorkloadSpec Template rest) where
  part := by dsimp only [Record.part]; infer_instance
  names := by
    show ("replicas" :: "selector" :: ((TemplateField.part : Part Template).names ++ _)).Nodup
    rw [TemplateField.names]
    exact rest.nodup_append (by decide)
  fields_default := rfl

/-! ## Objects -/

section

variable {Spec Status : Type} [Codec Spec] [HasTimes Spec] [Inhabited Spec] [LawfulCodec Spec]
  [Codec Status] [HasTimes Status] [Inhabited Status] [LawfulCodec Status]
  {apiVersion kind : String} {r : Resource Spec Status}

namespace Resource

instance : LawfulPart (part apiVersion kind :
    Part (Unit × Unit × ObjectMeta × Option Spec × Option Status)) := by
  unfold part
  infer_instance

/-- An object is read back and written like any record. -/
theorem lawful_codec (apiVersion kind : String) :
    @LawfulCodec _ (part apiVersion kind :
      Part (Unit × Unit × ObjectMeta × Option Spec × Option Status)).codec _ _ :=
  Part.lawful_codec (by simp [part, Part.both, Part.constant, Part.always, Part.field])

/-- An object is read back as one of its kind but for the fractions of seconds. -/
theorem ofWritten_toJson (h : Dated r) :
    Resource.ofWritten apiVersion kind (Resource.toJson apiVersion kind r).written =
      .ok (wholeSeconds r) := by
  have hread := (lawful_codec apiVersion kind).ofJson_toJson
    (a := ((), (), r.metadata, r.spec, r.status)) ⟨trivial, trivial, h⟩
  exact map_eq_ok.mpr ⟨_, hread, rfl⟩

/-- Fractions of seconds are not written. -/
theorem toJson_wholeSeconds (r : Resource Spec Status) :
    Resource.toJson apiVersion kind (wholeSeconds r) = Resource.toJson apiVersion kind r :=
  (lawful_codec apiVersion kind).toJson_wholeSeconds ((), (), r.metadata, r.spec, r.status)

/-- The times of an object that was read are times of the calendar. -/
theorem dated_of_read {w : Written} (h : Resource.ofWritten apiVersion kind w = .ok r) :
    Dated r := by
  obtain ⟨x, hx, rfl⟩ := map_eq_ok.mp h
  exact ((lawful_codec apiVersion kind).dated_of_read hx).2.2

theorem plain_toJson (r : Resource Spec Status) : (Resource.toJson apiVersion kind r).Plain :=
  (lawful_codec apiVersion kind).plain_toJson ((), (), r.metadata, r.spec, r.status)

end Resource

end

instance : LawfulCodec Pod where
  toJson_ne_null _ := fields_ne_null _
  plain_toJson := Resource.plain_toJson
  toJson_wholeSeconds := Resource.toJson_wholeSeconds
  ofJson_toJson := Resource.ofWritten_toJson
  dated_of_read := Resource.dated_of_read
  dated_default := ⟨LawfulCodec.dated_default, fun _ h => (nomatch h), fun _ h => (nomatch h)⟩

end

end PodSwap
