import PodSwap.Proofs.Object.Diff

/-!
# What is read after a change

A record is read field by field. So of a value that was changed in some members the same is read as
before, but for the fields of these members.

Main statements: `ObjectMeta.reread`, `Resource.reread`, and what is read of a specification whose
count was changed (`WorkloadSpec.reread`).
-/

namespace PodSwap

open Json

theorem exists_members {j : Json} (h : j.isObject = true) : ∃ ms, members j.written = .ok ms := by
  cases j with
  | obj es => exact ⟨_, members_written es⟩
  | _ => cases h

/-! ## Required fields -/

/-- What a required field says, given the member of its name. -/
def readRequired {α : Type} [Codec α] [Inhabited α] (x : Option Json) : Reading α :=
  (readField x).map (·.getD default)

theorem required_eq_readRequired {α : Type} [Codec α] [Inhabited α] {d : Json}
    {ms : List (String × Json.Written)} (hd : d.WellFormed) (h : members d.written = .ok ms)
    (name : String) : required (α := α) ms name = readRequired (d.get? name) := by
  rw [required, optional_eq_readField hd h, readRequired]

/-- What a required field says is read of an object, which is empty where there is no member. For a
patch that is an object it is all the same. -/
theorem exists_of_readRequired {α : Type} [Codec α] [Inhabited α]
    (hempty : ofWritten (Json.obj []).written = .ok (default : α)) {x : Option Json} {a : α}
    (hx : ∀ j ∈ x, j.WellFormed) (h : readRequired x = .ok a) :
    ∃ j : Json, j.WellFormed ∧ ofWritten j.written = .ok a ∧
      ∀ ps, merge (x.getD .null) (.obj ps) = merge j (.obj ps) := by
  obtain ⟨b, hb, hget⟩ := map_eq_ok.mp h
  cases b with
  | none =>
    cases hget
    refine ⟨.obj [], ⟨.nil, trivial⟩, hempty, fun ps => ?_⟩
    rcases readField_none_ok hb with rfl | rfl <;> rfl
  | some b =>
    cases hget
    obtain ⟨j, rfl, hj⟩ := readField_some_ok hb
    exact ⟨j, hx j rfl, hj, fun ps => rfl⟩

/-- What is read of an object as a field is what is read of it. -/
theorem readField_of_read {α : Type} [Codec α] {j : Json} {a : α} (hobject : j.isObject = true)
    (h : ofWritten j.written = .ok a) : readField (some j) = .ok (some a) := by
  obtain ⟨es, rfl⟩ := exists_of_isObject hobject
  show (ofWritten (Json.obj es).written).map some = _
  rw [h]
  rfl

theorem readRequired_of_read {α : Type} [Codec α] [Inhabited α] {j : Json} {a : α}
    (hobject : j.isObject = true) (h : ofWritten j.written = .ok a) :
    readRequired (some j) = .ok a := by
  rw [readRequired, readField_of_read hobject h]
  rfl

/-- An empty object read as a default takes the place of a member that is missing, and changes
nothing of one that is there. -/
theorem readRequired_merge_empty {α : Type} [Codec α] [Inhabited α]
    (hempty : ofWritten (Json.obj []).written = .ok (default : α))
    (hobject : ∀ (j : Json) (a : α), ofWritten j.written = .ok a → j.isObject = true)
    {x : Option Json} {a : α} (hx : ∀ j ∈ x, j.WellFormed) (h : readRequired x = .ok a) :
    readRequired (some (merge (x.getD .null) (.obj []))) = .ok a := by
  obtain ⟨j, -, hread, hmerge⟩ := exists_of_readRequired hempty hx h
  obtain ⟨es, rfl⟩ := exists_of_isObject (hobject j a hread)
  rw [hmerge]
  exact readRequired_of_read rfl hread

/-! ## Changed counts -/

/-- Whether the value of a specification was changed in its count only. What is required may have
been filled in where it was missing. -/
structure Recounted (required : List String) (n : Int32) (s s' : Json) : Prop where
  wellFormed : s'.WellFormed
  isObject : s'.isObject = true
  count : s'.get? "replicas" = some (.int n.toInt)
  rest : ∀ k, k ≠ "replicas" → s'.get? k = s.get? k ∨
    (k ∈ required ∧ s'.get? k = some (merge ((s.get? k).getD .null) (.obj [])))

namespace Recounted

variable {required : List String} {n : Int32} {s s' : Json} (h : Recounted required n s s')

include h

theorem readField_count : readField (s'.get? "replicas") = .ok (some n) := by
  rw [h.count]
  exact readNullable_toJson n

/-- A field that is an object, if anything, is read as before, filled in or not. -/
theorem readRequired_eq {α : Type} [Codec α] [Inhabited α]
    (hempty : ofWritten (Json.obj []).written = .ok (default : α))
    (hobject : ∀ (j : Json) (a : α), ofWritten j.written = .ok a → j.isObject = true)
    (hs : s.WellFormed) {k : String} (hk : k ≠ "replicas") {a : α}
    (ha : readRequired (s.get? k) = .ok a) : readRequired (s'.get? k) = .ok a := by
  rcases h.rest k hk with heq | ⟨-, heq⟩
  · rwa [heq]
  · rw [heq]
    exact readRequired_merge_empty hempty hobject (fun _ => hs.get?) ha

end Recounted

/-! ## Tables of texts -/

/-- A table of texts is written as it was read. -/
theorem eq_toJson_of_read {j : Json} {t : SortedMap String} (hj : j.WellFormed)
    (h : ofWritten j.written = .ok t) : j = toJson t := by
  cases j with
  | obj es =>
    show _ = Json.obj _
    congr 1
    refine Entries.eq_of_get? hj.1 (rising_map_values _ t.rising) fun k => ?_
    rw [get?_table, ← get?_of_read hj h, get?_obj]
  | _ => cases h

/-- A patch of one entry makes of a table the one that differs in it. -/
theorem merge_table {t t' : SortedMap String} {key : String}
    (hrest : ∀ k, k ≠ key → t'.get? k = t.get? k) :
    merge (toJson t) (.obj [(key, ((t'.get? key).map .str).getD .null)]) = toJson t' := by
  have hmerged :
      (merge (toJson t) (.obj [(key, ((t'.get? key).map .str).getD .null)])).WellFormed := by
    refine WellFormed.merge (wellFormed_toJson t) _ ⟨by simp [Rising], ?_, trivial⟩
    cases t'.get? key <;> trivial
  show Json.obj _ = Json.obj _
  congr 1
  refine Entries.eq_of_get? hmerged.1 (rising_map_values _ t'.rising) fun k => ?_
  rw [get?_mergeMembers (by simp), get?_table]
  by_cases hk : key = k
  · subst hk
    rw [Entries.get?_cons, if_pos rfl]
    cases t'.get? key <;> rfl
  · rw [Entries.get?_cons, if_neg hk, hrest k (Ne.symm hk)]
    exact get?_table t k

/-! ## Parts -/

/-- What is read of some fields is the same where their members are. -/
theorem LawfulPart.read_of_get? {α : Type} {p : Part α} [HasTimes α] [Inhabited α] [LawfulPart p]
    {d d' : Json} {ms ms' : List (String × Json.Written)} (hd : d.WellFormed)
    (hms : members d.written = .ok ms) (hd' : d'.WellFormed) (hms' : members d'.written = .ok ms')
    (h : ∀ k ∈ p.names, d'.get? k = d.get? k) : p.read ms' = p.read ms :=
  read_congr fun k hk => by
    rw [valuesUnder_of_members hd' hms', h k hk, ← valuesUnder_of_members hd hms]

/-! ## Metadata -/

section

variable [Schema]

/-- Metadata in whose value other annotations were written. -/
theorem ObjectMeta.reread {j j' : Json} {m : ObjectMeta} {annotations : Option (SortedMap String)}
    (hj : j.WellFormed) (h : ofWritten j.written = .ok m) (hj' : j'.WellFormed)
    (hobject : j'.isObject = true) (hrest : ∀ k, k ≠ "annotations" → j'.get? k = j.get? k)
    (hread : readField (j'.get? "annotations") = .ok annotations) :
    ofWritten j'.written = .ok { m with annotations } := by
  obtain ⟨ms', hms'⟩ := exists_members hobject
  obtain ⟨ms, hms, hfields⟩ := Record.ofWritten_eq_ok.mp h
  have hkept : ∀ {α : Type} {p : Part α} [HasTimes α] [Inhabited α] [LawfulPart p],
      "annotations" ∉ p.names → p.read ms' = p.read ms := fun hnot =>
    LawfulPart.read_of_get? hj hms hj' hms' fun k hk => hrest k fun heq => hnot (heq ▸ hk)
  rw [← optional_eq_readField hj' hms'] at hread
  refine Record.ofWritten_eq_ok.mpr ⟨ms', hms', ?_⟩
  simp only [Record.part, Record.fields, Part.read_both_eq_ok] at hfields ⊢
  obtain ⟨hname, hns, huid, hcreation, hdeletion, hlabels, -, howners, hothers⟩ := hfields
  exact ⟨(hkept (by decide)).trans hname, (hkept (by decide)).trans hns,
    (hkept (by decide)).trans huid, (hkept (by decide)).trans hcreation,
    (hkept (by decide)).trans hdeletion, (hkept (by decide)).trans hlabels, hread,
    (hkept (by simp [Part.field])).trans howners,
    (hkept (Schema.objectMeta.not_mem_names (by decide))).trans hothers⟩

/-- An annotation that is patched is read as it was set, or not at all where it was removed. -/
theorem ObjectMeta.read_merge {j : Json} {m : ObjectMeta} (hj : j.WellFormed)
    (h : ofWritten j.written = .ok m) {t : SortedMap String} {key : String}
    (hrest : ∀ k, k ≠ key → t.get? k = m.annotationTable.get? k) :
    ofWritten (merge j (.obj [("annotations",
      .obj [(key, ((t.get? key).map .str).getD .null)])])).written =
        .ok { m with annotations := some t } := by
  have hpatch : (Json.obj [("annotations",
      .obj [(key, ((t.get? key).map .str).getD .null)])]).WellFormed := by
    refine ⟨by simp [Rising], ⟨by simp [Rising], ?_, trivial⟩, trivial⟩
    cases t.get? key <;> trivial
  refine ObjectMeta.reread hj h (hj.merge _ hpatch) rfl (fun k hk => ?_) ?_
  · rw [get?_merge (by simp), Entries.get?_cons, if_neg (Ne.symm hk)]
    rfl
  · have htable : readRequired (j.get? "annotations") = .ok m.annotationTable := by
      rw [readRequired, (metadata_fields hj h).2.2]
      rfl
    obtain ⟨old, hold, hread, hmerge⟩ := exists_of_readRequired rfl (fun _ => hj.get?) htable
    have hnamed : Entries.get? "annotations" [("annotations",
        Json.obj [(key, ((t.get? key).map .str).getD .null)])] =
          some (.obj [(key, ((t.get? key).map .str).getD .null)]) := rfl
    rw [get?_merge_obj (by simp) hnamed, hmerge, eq_toJson_of_read hold hread, merge_table hrest]
    exact readNullable_toJson t

/-! ## Specifications -/

/-- The fields of a specification that its kind of workload requires. -/
def WorkloadKind.required : WorkloadKind → List String
  | .replicaSet => ["selector"]
  | .deployment => ["selector", "template"]
  | .statefulSet => ["selector", "template"]

/-- Whether a template is read as before where it was filled in, if its kind of workload requires
it. -/
def TemplateKept (Template : Type) [TemplateField Template] (required : List String) : Prop :=
  ∀ {n : Int32} {s s' : Json} {ms ms' : List (String × Json.Written)} {t : Template},
    Recounted required n s s' → s.WellFormed → members s.written = .ok ms →
    members s'.written = .ok ms' → TemplateField.part.read ms = .ok t →
    TemplateField.part.read ms' = .ok t

namespace Recounted

variable {required : List String} {n : Int32} {s s' : Json} (h : Recounted required n s s')

include h

theorem readRequired_selector {l : LabelSelector} (hs : s.WellFormed)
    (hl : readRequired (s.get? "selector") = .ok l) :
    readRequired (s'.get? "selector") = .ok l := by
  refine h.readRequired_eq (Part.ofWritten_empty (p := Schema.labelSelector.members.part))
    (fun j a hj => ?_) hs (by decide) hl
  obtain ⟨ms, hms, -⟩ := bind_eq_ok.mp hj
  exact isObject_of_members hms

theorem readRequired_template {t : PodTemplate} (hs : s.WellFormed)
    (ht : readRequired (s.get? "template") = .ok t) :
    readRequired (s'.get? "template") = .ok t := by
  refine h.readRequired_eq Record.ofWritten_empty (fun j a hj => ?_) hs (by decide) ht
  obtain ⟨ms, hms, -⟩ := Record.ofWritten_eq_ok.mp hj
  exact isObject_of_members hms

end Recounted

/-- A template that may be missing is not filled in. -/
theorem templateKept_optional :
    TemplateKept (Option PodTemplate) WorkloadKind.replicaSet.required := by
  intro n s s' ms ms' t h hs hms hms' ht
  have hsame : s'.get? "template" = s.get? "template" :=
    (h.rest "template" (by decide)).resolve_right fun hmem => absurd hmem.1 (by decide)
  show optional ms' "template" = .ok t
  rw [optional_eq_readField h.wellFormed hms', hsame, ← optional_eq_readField hs hms]
  exact ht

theorem templateKept_required (required : List String) : TemplateKept PodTemplate required := by
  intro n s s' ms ms' t h hs hms hms' ht
  have ht : PodSwap.required ms "template" = .ok t := ht
  rw [required_eq_readRequired hs hms] at ht
  show PodSwap.required ms' "template" = .ok t
  rw [required_eq_readRequired h.wellFormed hms']
  exact h.readRequired_template hs ht

/-- A specification whose count was changed is read as before but for the count. -/
theorem WorkloadSpec.reread {Template : Type} [TemplateField Template] {rest : Rest _}
    {required : List String} {n : Int32} {j j' : Json} {s : WorkloadSpec Template rest}
    (htemplate : TemplateKept Template required)
    (hrequired : ∀ k ∈ required, k ∈ ["replicas", "selector", "template"]) (hj : j.WellFormed)
    (h : ofWritten j.written = .ok s) (hj' : Recounted required n j j') :
    ofWritten j'.written = .ok { s with replicas := some n } := by
  obtain ⟨ms', hms'⟩ := exists_members hj'.isObject
  obtain ⟨ms, hms, hfields⟩ := Record.ofWritten_eq_ok.mp h
  have hothers : rest.members.part.read ms' = rest.members.part.read ms := by
    refine LawfulPart.read_of_get? hj hms hj'.wellFormed hms' fun k hk => ?_
    have hunknown : k ∉ ["replicas", "selector", "template"] := fun hmem =>
      rest.not_mem_names hmem hk
    refine (hj'.rest k fun heq => hunknown ?_).resolve_right fun hmem => hunknown ?_
    · rw [heq]
      decide
    · exact hrequired k hmem.1
  refine Record.ofWritten_eq_ok.mpr ⟨ms', hms', ?_⟩
  simp only [Record.part, Record.fields, Part.read_both_eq_ok, Part.read_field, Part.read_always,
    optional_eq_readField hj'.wellFormed hms', required_eq_readRequired hj'.wellFormed hms',
    required_eq_readRequired hj hms] at hfields ⊢
  obtain ⟨-, hselector, ht, hrest⟩ := hfields
  exact ⟨hj'.readField_count, hj'.readRequired_selector hj hselector,
    htemplate hj' hj hms hms' ht, hothers.trans hrest⟩

/-! ## Objects -/

/-- An object whose value was changed in its metadata and its specification. -/
theorem Resource.reread {Spec Status : Type} [Codec Spec] [Codec Status]
    {apiVersion kind : String} {d d' : Json} {r : Resource Spec Status} (hd : d.WellFormed)
    (h : Resource.ofWritten apiVersion kind d.written = .ok r) (hd' : d'.WellFormed)
    (hobject : d'.isObject = true)
    (hrest : ∀ k, k ≠ "metadata" → k ≠ "spec" → d'.get? k = d.get? k)
    {metadata : ObjectMeta} (hmetadata : readRequired (d'.get? "metadata") = .ok metadata)
    {spec : Option Spec} (hspec : readField (d'.get? "spec") = .ok spec) :
    Resource.ofWritten apiVersion kind d'.written = .ok { r with metadata, spec } := by
  obtain ⟨ms', hms'⟩ := exists_members hobject
  obtain ⟨ms, hms, hfields⟩ := Resource.ofWritten_eq_ok.mp h
  have hconstant : ∀ {k : String} {text : String} {u : Unit}, k ≠ "metadata" → k ≠ "spec" →
      constant ms k text = .ok u → constant ms' k text = .ok u := by
    intro k text u hm hs hu
    unfold constant at hu ⊢
    rwa [valuesUnder_of_members hd' hms', hrest k hm hs, ← valuesUnder_of_members hd hms]
  refine Resource.ofWritten_eq_ok.mpr ⟨ms', hms', ?_⟩
  simp only [Resource.part, Part.read_both_eq_ok, Part.read_constant, Part.read_always,
    Part.read_field, optional_eq_readField hd hms, optional_eq_readField hd' hms',
    required_eq_readRequired hd' hms'] at hfields ⊢
  obtain ⟨hversion, hkind, -, -, hstatus⟩ := hfields
  exact ⟨hconstant (by decide) (by decide) hversion, hconstant (by decide) (by decide) hkind,
    hmetadata, hspec, hrest "status" (by decide) (by decide) ▸ hstatus⟩

end

end PodSwap
