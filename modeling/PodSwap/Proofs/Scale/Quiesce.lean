import PodSwap.Proofs.Object.Rereading
import PodSwap.Proofs.Scale.Phase

/-!
# Quiescing any workload

A workload may say nothing of its count, have a record from before, or have no specification at all.
Whatever it says, the patch that quiesces it takes its count to zero and leaves its own count in the
record, and its template stays as it was, where no template counts as the empty one. The stored
workload need not be the one that was read: it is enough that its record, or its template, is.

Main statements: `replicas_of_quiescePatch`, `record_of_quiescePatch` and
`template_of_quiescePatch`, of what the patch makes of a stored workload, and
`replicas_of_no_quiescePatch`, of when there is none.
-/

namespace PodSwap

open Json

/-- Where the template of a workload stands. -/
def Scale.templatePath : List String := ["spec", "template"]

/-! ## Patches between written objects -/

/-- A field that a record is written with once is found under its name. -/
theorem get?_merge_mergeDiff_fields {l l' : List (String × Option Json)}
    (hl : (l.map (·.1)).Nodup) (hl' : (l'.map (·.1)).Nodup) (d : Json) (k : String) :
    (merge d (mergeDiff (fields l) (fields l'))).get? k =
      patchedAt (d.get? k) (diffAt (Entries.get? k l).join (Entries.get? k l').join) := by
  have hget := get?_fields hl k
  have hget' := get?_fields hl' k
  rw [fields, object, get?_obj] at hget hget'
  rw [← hget, ← hget']
  exact get?_merge_mergeDiff (Entries.rising_ofList _) (Entries.rising_ofList _) d k

/-- A field of a record that is merged in. -/
theorem get?_merge_fields {l : List (String × Option Json)} (hl : (l.map (·.1)).Nodup) (d : Json)
    (k : String) : (merge d (fields l)).get? k = patchedAt (d.get? k) (Entries.get? k l).join := by
  have hget := get?_fields hl k
  rw [fields, object, get?_obj] at hget
  rw [fields, object, get?_merge (Entries.nodup_of_rising (Entries.rising_ofList _)), hget]
  cases (Entries.get? k l).join with
  | none => rfl
  | some p => cases p <;> rfl

section

variable [Schema] {Spec Status : Type} [Codec Spec] [Codec Status] {apiVersion kind : String}

theorem get?_merge_resource_metadata (r r' : Resource Spec Status) (d : Json) :
    (merge d (mergeDiff (Resource.toJson apiVersion kind r)
        (Resource.toJson apiVersion kind r'))).get? "metadata" =
      patchedAt (d.get? "metadata")
        (diffAt (some (toJson r.metadata)) (some (toJson r'.metadata))) := by
  rw [Resource.toJson_eq, Resource.toJson_eq]
  exact get?_merge_mergeDiff_fields (by simp [always, field]) (by simp [always, field]) d "metadata"

theorem get?_merge_resource_spec (r r' : Resource Spec Status) (d : Json) :
    (merge d (mergeDiff (Resource.toJson apiVersion kind r)
        (Resource.toJson apiVersion kind r'))).get? "spec" =
      patchedAt (d.get? "spec") (diffAt (r.spec.map toJson) (r'.spec.map toJson)) := by
  rw [Resource.toJson_eq, Resource.toJson_eq]
  exact get?_merge_mergeDiff_fields (by simp [always, field]) (by simp [always, field]) d "spec"

end

/-! ## Defaults -/

/-- By default a member is written only if it has to be there. -/
theorem Members.write_default (ms : Members) :
    ∀ m ∈ ms.part.write default, m.2 = none ∨ m.1 ∈ ms.required := by
  match ms with
  | .nil => exact fun _ hm => (nomatch hm)
  | .field name s rest =>
    exact List.forall_mem_cons.mpr ⟨.inl rfl, rest.write_default⟩
  | .always name s rest =>
    exact List.forall_mem_cons.mpr ⟨.inr List.mem_cons_self, fun m hm =>
      (rest.write_default m hm).imp_right (List.mem_cons_of_mem _)⟩
  | .constant name text rest =>
    exact List.forall_mem_cons.mpr ⟨.inr List.mem_cons_self, fun m hm =>
      (rest.write_default m hm).imp_right (List.mem_cons_of_mem _)⟩

theorem Members.write_default_eq_none {ms : Members} (h : ms.required = []) :
    ∀ m ∈ ms.part.write default, m.2 = none := fun m hm =>
  (ms.write_default m hm).resolve_right (by rw [h]; exact List.not_mem_nil)

/-- Where nothing has to be there, nothing is written by default. -/
theorem Members.toJson_default {ms : Members} (h : ms.required = []) :
    toJson (default : ms.Values) = .obj [] := by
  have hnone : (ms.part.write default).filterMap (fun m => m.2.map (m.1, ·)) = [] :=
    List.filterMap_eq_nil_iff.mpr fun m hm => by rw [write_default_eq_none h m hm]; rfl
  show fields (ms.part.write default) = _
  rw [fields, hnone]
  rfl

variable [Schema]

/-- A specification of which only the count is set says besides that whatever has to be there is
empty. -/
theorem WorkloadSpec.write_default {Template : Type} [TemplateField Template] [Inhabited Template]
    {rest : Rest _} {required : List String} (hselector : "selector" ∈ required)
    (htemplate : ∀ m ∈ TemplateField.part.write (default : Template),
      m.2 = none ∨ (m.1 ∈ required ∧ m.2 = some (.obj [])))
    (hrest : rest.members.required = []) (n : Int32) :
    ∀ m ∈ (Record.part (WorkloadSpec Template rest)).write
        (Record.fields { (default : WorkloadSpec Template rest) with replicas := some n }),
      m.1 = "replicas" ∨ m.2 = none ∨ (m.1 ∈ required ∧ m.2 = some (.obj [])) := by
  rw [WorkloadSpec.write_eq]
  refine List.forall_mem_cons.mpr ⟨.inl rfl, List.forall_mem_cons.mpr ⟨.inr (.inr ⟨hselector, ?_⟩),
    fun m hm => .inr ?_⟩⟩
  · exact congrArg some (Members.toJson_default Schema.labelSelector_optional)
  · rcases List.mem_append.mp hm with hm | hm
    · exact htemplate m hm
    · exact .inl (Members.write_default_eq_none hrest m hm)

/-- What the patch to another count says of a specification that may be missing. -/
theorem diffAt_spec {Template : Type} [TemplateField Template] [HasTimes Template]
    [Inhabited Template] [LawfulPart (TemplateField.part : Part Template)] {rest : Rest _}
    {spec : Option (WorkloadSpec Template rest)} {n : Int32}
    (h : spec.bind (·.replicas) ≠ some n) :
    diffAt (spec.map toJson) (some (toJson { spec.getD default with replicas := some n })) =
      some (if spec.isSome then .obj [("replicas", .int n.toInt)]
        else toJson { (default : WorkloadSpec Template rest) with replicas := some n }) := by
  cases spec with
  | none => rfl
  | some s => exact diffAt_workloadSpec h

namespace Workload

/-- What the patch to another count says of the specification: the count, or all of it where there
was none before. -/
def specPatch (w : Workload) (n : Int32) : Json :=
  if w.hasSpec then .obj [("replicas", .int n.toInt)]
  else
    match w.kind with
    | .replicaSet => Codec.toJson { (default : ReplicaSetSpec) with replicas := some n }
    | .deployment => Codec.toJson { (default : DeploymentSpec) with replicas := some n }
    | .statefulSet => Codec.toJson { (default : StatefulSetSpec) with replicas := some n }

theorem isObject_specPatch (w : Workload) (n : Int32) : (w.specPatch n).isObject = true := by
  unfold specPatch
  split
  · rfl
  · split <;> rfl

variable {w : Workload} {n : Int32}

theorem get?_spec_merge (m : ObjectMeta) (hn : w.replicas ≠ some n) (d : Json) :
    (merge d (mergeDiff w.toJson ((w.setMetadata m).setReplicas n).toJson)).get? "spec" =
      some (merge ((d.get? "spec").getD .null) (w.specPatch n)) := by
  -- what is not null is merged in
  have hpatched : ∀ x y : Option Json, diffAt x y = some (w.specPatch n) →
      patchedAt (d.get? "spec") (diffAt x y) =
        some (merge ((d.get? "spec").getD .null) (w.specPatch n)) := by
    intro x y h
    have hobject := w.isObject_specPatch n
    rw [h]
    cases hp : w.specPatch n with
    | obj ps => rfl
    | _ => rw [hp] at hobject; cases hobject
  cases w with
  | replicaSet r => exact (get?_merge_resource_spec _ _ d).trans (hpatched _ _ (diffAt_spec hn))
  | deployment r => exact (get?_merge_resource_spec _ _ d).trans (hpatched _ _ (diffAt_spec hn))
  | statefulSet r => exact (get?_merge_resource_spec _ _ d).trans (hpatched _ _ (diffAt_spec hn))

theorem get?_metadata_merge (w : Workload) (m : ObjectMeta) (n : Int32) (d : Json) :
    (merge d (mergeDiff w.toJson ((w.setMetadata m).setReplicas n).toJson)).get? "metadata" =
      patchedAt (d.get? "metadata")
        (diffAt (some (Codec.toJson w.metadata)) (some (Codec.toJson m))) := by
  cases w <;> exact get?_merge_resource_metadata _ _ d

/-- What becomes of the count where the specification is patched. -/
theorem replicas_merge_specPatch (w : Workload) (n : Int32) (j : Json) :
    (merge j (w.specPatch n)).get? "replicas" = some (.int n.toInt) := by
  unfold specPatch
  split
  · rw [get?_merge (by simp), Entries.get?_cons, if_pos rfl]
    rfl
  · cases w.kind <;> exact (get?_merge_fields (Record.nodup_write _) j _).trans rfl

theorem wellFormed_specPatch (w : Workload) (n : Int32) : (w.specPatch n).WellFormed := by
  unfold specPatch
  split
  · exact ⟨by simp [Rising], trivial, trivial⟩
  · split <;> exact PodSwap.wellFormed_toJson _

/-- What a patch of a specification names besides the count is required and said to be empty, and
it does so only where no specification was read. -/
theorem get?_merge_specPatch (w : Workload) (n : Int32) (s : Json) {k : String}
    (hk : k ≠ "replicas") :
    (merge s (w.specPatch n)).get? k = s.get? k ∨
      (w.hasSpec = false ∧ k ∈ w.kind.required ∧
        (merge s (w.specPatch n)).get? k = some (merge ((s.get? k).getD .null) (.obj []))) := by
  unfold specPatch
  split
  · refine .inl ?_
    rw [get?_merge (by simp), Entries.get?_cons, if_neg hk.symm]
    rfl
  · rename_i hspec
    have hfields : ∀ l : List (String × Option Json), (l.map (·.1)).Nodup →
        (∀ m ∈ l, m.1 = "replicas" ∨ m.2 = none ∨
          (m.1 ∈ w.kind.required ∧ m.2 = some (.obj []))) →
        (merge s (fields l)).get? k = s.get? k ∨
          (w.hasSpec = false ∧ k ∈ w.kind.required ∧
            (merge s (fields l)).get? k = some (merge ((s.get? k).getD .null) (.obj []))) := by
      intro l hl hnamed
      rw [get?_merge_fields hl]
      cases hget : Entries.get? k l with
      | none => exact .inl rfl
      | some v =>
        rcases hnamed (k, v) (Entries.mem_of_get? hget) with hcount | hnone | ⟨hmem, hempty⟩
        · exact absurd hcount hk
        · cases hnone
          exact .inl rfl
        · cases hempty
          exact .inr ⟨by simpa using hspec, hmem, rfl⟩
    have hselector : "selector" ∈ w.kind.required := by cases w <;> exact List.mem_cons_self
    cases w with
    | replicaSet r =>
      exact hfields _ (Record.nodup_write _) (WorkloadSpec.write_default hselector
        (List.forall_mem_singleton.mpr (.inl rfl)) Schema.replicaSetSpec_optional n)
    | deployment d =>
      exact hfields _ (Record.nodup_write _) (WorkloadSpec.write_default hselector
        (List.forall_mem_singleton.mpr (.inr ⟨.tail _ (.head _), rfl⟩))
        Schema.deploymentSpec_optional n)
    | statefulSet r =>
      exact hfields _ (Record.nodup_write _) (WorkloadSpec.write_default hselector
        (List.forall_mem_singleton.mpr (.inr ⟨.tail _ (.head _), rfl⟩))
        Schema.statefulSetSpec_optional n)

/-- What becomes of an annotation that is set, also where it had the value before and the patch does
not name it. -/
theorem annotationAt_merge {t : SortedMap String} {key : String}
    (hrest : ∀ k, k ≠ key → t.get? k = w.metadata.annotationTable.get? k)
    (hset : t.get? key ≠ none) (n : Int32) {d : Json}
    (hd : at? ["metadata", "annotations", key] d = (w.annotationAt key).map .str) :
    at? ["metadata", "annotations", key] (merge d (mergeDiff w.toJson
      ((w.setMetadata { w.metadata with annotations := some t }).setReplicas n).toJson)) =
        (t.get? key).map .str := by
  rw [at?_cons, get?_metadata_merge]
  by_cases hsame : w.annotationAt key = t.get? key
  · rw [diffAt_metadata_of_annotationAt hrest hset hsame, ← hsame]
    exact hd
  · rw [diffAt_metadata hrest hsame]
    exact Scale.annotation_merge key (t.get? key) _

end Workload

namespace Scale

variable {w : Workload} {p d : Json}

/-- A patch between two states of a workload is the difference of how they are written. -/
theorem eq_of_patchBetween {before after : Workload} (h : patchBetween before after = some p) :
    p = mergeDiff before.toJson after.toJson := by
  unfold patchBetween at h
  dsimp only at h
  split at h
  · cases h
  · exact (Option.some.inj h).symm

/-- The patch that quiesces a workload, where there is one. -/
theorem quiescePatch_eq (h : quiescePatch w = some p) :
    w.replicas ≠ some 0 ∧
      p = mergeDiff w.toJson ((w.annotate Marker.replicas
        (recordText (w.replicas.getD defaultReplicas))).setReplicas 0).toJson := by
  obtain ⟨w', hq, hp⟩ := Option.bind_eq_some_iff.mp h
  unfold quiesced at hq
  dsimp only at hq
  split at hq
  · cases hq
  · rename_i hcount
    cases hq
    refine ⟨fun hzero => hcount ?_, eq_of_patchBetween hp⟩
    rw [hzero]
    rfl

/-- There is a patch that quiesces a workload unless it asks for no pods. -/
theorem replicas_of_no_quiescePatch (h : quiescePatch w = none) : w.replicas = some 0 := by
  by_contra hcount
  have hq : quiesced w = some ((w.annotate Marker.replicas
      (recordText (w.replicas.getD defaultReplicas))).setReplicas 0) := by
    unfold quiesced
    refine if_neg fun hzero => hcount ?_
    cases hw : w.replicas with
    | none =>
      rw [hw] at hzero
      exact absurd hzero (by decide)
    | some n =>
      rw [hw] at hzero
      exact congrArg some hzero
  -- the patch names the specification, so it is not empty
  have hspec : (merge (.obj []) (mergeDiff w.toJson ((w.annotate Marker.replicas
      (recordText (w.replicas.getD defaultReplicas))).setReplicas 0).toJson)).get? "spec" =
        some _ := Workload.get?_spec_merge _ hcount _
  rw [quiescePatch, hq, Option.bind_some, patchBetween] at h
  split at h
  · rename_i hempty
    unfold isEmptyPatch at hempty
    split at hempty
    · rename_i ms hpatch
      rw [hpatch, List.isEmpty_iff.mp hempty] at hspec
      cases hspec
    · cases hempty
  · cases h

/-- A quiesced workload asks for no pods. -/
theorem replicas_of_quiescePatch (h : quiescePatch w = some p) (d : Json) :
    at? replicasPath (merge d p) = some (.int 0) := by
  obtain ⟨hcount, rfl⟩ := quiescePatch_eq h
  rw [replicasPath, at?_cons, Workload.annotate, Workload.get?_spec_merge _ hcount,
    Option.bind_some, at?_singleton]
  exact w.replicas_merge_specPatch 0 _

/-- A quiesced workload records how many pods it asked for when it was read. -/
theorem record_of_quiescePatch (h : quiescePatch w = some p)
    (hd : at? recordPath d = (w.annotationAt Marker.replicas).map .str) :
    at? recordPath (merge d p) =
      some (.str (recordText (w.replicas.getD defaultReplicas))) := by
  obtain ⟨-, rfl⟩ := quiescePatch_eq h
  have hset := w.metadata.annotationTable.get?_insert_self Marker.replicas
    (recordText (w.replicas.getD defaultReplicas))
  refine (Workload.annotationAt_merge (fun k hk => SortedMap.get?_insert_of_ne _ hk _) ?_ 0
    hd).trans ?_
  · rw [hset]
    exact Option.some_ne_none _
  · rw [hset]
    rfl

/-- The template of a quiesced workload is the one that was read. -/
theorem template_of_quiescePatch (h : quiescePatch w = some p)
    (hread : (readField (at? templatePath d)).map (·.getD {}) = .ok (w.podTemplate.getD {}))
    (hnone : w.hasSpec = false → at? templatePath d = none) :
    (readField (at? templatePath (merge d p))).map (·.getD {}) = .ok (w.podTemplate.getD {}) := by
  obtain ⟨hcount, rfl⟩ := quiescePatch_eq h
  have hpath : ∀ j : Option Json, (j.getD .null).get? "template" = j.bind (at? ["template"]) := by
    intro j
    cases j with
    | none => rfl
    | some j => rw [Option.bind_some, at?_singleton]; rfl
  rw [templatePath, at?_cons, Workload.annotate, Workload.get?_spec_merge _ hcount,
    Option.bind_some, at?_singleton]
  have hold := hpath (d.get? "spec")
  rcases w.get?_merge_specPatch 0 ((d.get? "spec").getD .null) (k := "template") (by decide) with
    hsame | ⟨hspec, -, hempty⟩
  · rw [hsame, hold]
    exact hread
  · -- there was no template before, and the empty one is written now
    have hat := hnone hspec
    rw [templatePath, at?_cons] at hat
    rw [hempty, hold, hat]
    rw [templatePath, at?_cons, hat] at hread
    exact hread

end Scale

end PodSwap
