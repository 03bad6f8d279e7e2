import PodSwap.Object.Kubernetes
import PodSwap.Proofs.Object.Rereading
import PodSwap.Proofs.Scale.Quiesce

/-!
# Scaling a workload that has changed since it was read

A patch is made from what was read of a workload, and it is applied to what is stored by then. What
it does not name stays as it is stored; so does the record, where the workload that was read already
had the one that quiescing it would leave.

Both follow from `Rescaled`, of which `rescaled_of_quiescePatch` and `rescaled_of_restorePatch` say
that it is what a patch makes of any stored workload.

Main statements: nothing but the count and the record is changed (`scaling_spares_the_rest`), and
what the record is afterwards (`record_after_quiesce`).
-/

namespace PodSwap

open Json

/-! ## Values that were rescaled -/

namespace Scale

/-- What a patch says of the metadata of a workload to set its record, or to remove it. -/
def recordPatch (record : Option String) : Json :=
  .obj [("annotations", .obj [(Marker.replicas, (record.map .str).getD .null)])]

/-- Whether a stored workload was changed in its record and its count only, as a patch said of
them. -/
structure Rescaled (kind : WorkloadKind) (record : Option (Option String)) (count : Option Int32)
    (d d' : Json) : Prop where
  wellFormed : d'.WellFormed
  isObject : d'.isObject = true
  rest : ∀ k, k ≠ "metadata" → k ≠ "spec" → d'.get? k = d.get? k
  metadata : d'.get? "metadata" = patchedAt (d.get? "metadata") (record.map recordPatch)
  spec :
    match count with
    | none => d'.get? "spec" = d.get? "spec"
    | some n => ∃ s, d'.get? "spec" = some s ∧
        Recounted kind.required n ((d.get? "spec").getD .null) s

namespace Rescaled

variable {kind : WorkloadKind} {record : Option (Option String)} {count : Option Int32}
  {d d' : Json} (h : Rescaled kind record count d d')

include h

/-- The specification is read with its count as the patch said. One that was missing is read as if
it had been empty otherwise. -/
theorem readField_spec (hd : d.WellFormed) {Spec : Type} [Codec Spec] {spec : Option Spec}
    {empty : Spec} {setCount : Int32 → Spec} (hs : readField (d.get? "spec") = .ok spec)
    (hempty : ofWritten (Json.obj []).written = .ok empty)
    (hset : ∀ (n : Int32) (j j' : Json), j.WellFormed →
      ofWritten j.written = .ok (spec.getD empty) → Recounted kind.required n j j' →
        ofWritten j'.written = .ok (setCount n)) :
    readField (d'.get? "spec") = .ok ((count.map setCount).or spec) := by
  have hspec := h.spec
  cases count with
  | none => rw [hspec, hs]; rfl
  | some n =>
    obtain ⟨j', hj', hrecounted⟩ := hspec
    rw [hj']
    cases spec with
    | none =>
      have hnull : (d.get? "spec").getD .null = .null := by
        rcases readField_none_ok hs with hx | hx <;> rw [hx] <;> rfl
      rw [hnull] at hrecounted
      -- an empty object has no more members than there are where nothing is
      have hfilled : Recounted kind.required n (.obj []) j' :=
        ⟨hrecounted.wellFormed, hrecounted.isObject, hrecounted.count, hrecounted.rest⟩
      have hwf : (Json.obj []).WellFormed := ⟨.nil, trivial⟩
      exact readField_of_read hfilled.isObject (hset n _ j' hwf hempty hfilled)
    | some s =>
      obtain ⟨j, hj, hread⟩ := readField_some_ok hs
      rw [hj] at hrecounted
      exact readField_of_read hrecounted.isObject (hset n j j' (hd.get? hj) hread hrecounted)

variable {k : String} {path : List String}

theorem at?_metadata (hpath : Elsewhere ("metadata" :: path)) :
    at? ("metadata" :: path) d' = at? ("metadata" :: path) d := by
  rw [at?_cons, h.metadata]
  cases record with
  | none => rfl
  | some r =>
    rw [← at?_merge_scalingPatch r 0 hpath, at?_cons]
    exact congrArg (Option.bind · (at? path)) (get?_merge_obj (by simp) rfl d).symm

/-- A path into the specification leads to the same value as before. What is required may have been
missing; then it is there now, and empty. -/
theorem at?_spec (hpath : Elsewhere ("spec" :: k :: path))
    (hrequired : k ∈ kind.required → path = [] → ∃ es, at? ["spec", k] d = some (.obj es)) :
    at? ("spec" :: k :: path) d' = at? ("spec" :: k :: path) d := by
  have hk : k ≠ "replicas" := by
    rintro rfl
    exact hpath.1.2 ⟨path, rfl⟩
  have hspec := h.spec
  rw [at?_cons, at?_cons]
  cases count with
  | none => rw [hspec]
  | some n =>
    obtain ⟨s, hs, hrecounted⟩ := hspec
    have hat : (d.get? "spec").bind (at? (k :: path)) =
        (((d.get? "spec").getD .null).get? k).bind (at? path) := by
      cases d.get? "spec" <;> rfl
    rw [hs, Option.bind_some, at?_cons, hat]
    rcases hrecounted.rest k hk with hsame | ⟨hmem, hempty⟩
    · rw [hsame]
    · rw [hempty]
      cases path with
      | nil =>
        obtain ⟨es, hes⟩ := hrequired hmem rfl
        rw [at?_cons, hat] at hes
        obtain ⟨j, hj, hjes⟩ := Option.bind_eq_some_iff.mp hes
        cases hjes
        rw [hj]
        rfl
      | cons k' path =>
        rw [Option.bind_some, at?_cons, get?_merge (by simp)]
        cases ((d.get? "spec").getD .null).get? k <;> rfl

/-- A path elsewhere leads to the same value as before, as long as what is required was there. -/
theorem at?_elsewhere (hpath : Elsewhere path) (hrequired : ∀ name ∈ kind.required,
    path = ["spec", name] → ∃ es, at? path d = some (.obj es)) : at? path d' = at? path d := by
  cases path with
  | nil => exact absurd List.nil_prefix hpath.1.1
  | cons k path =>
    by_cases hmetadata : k = "metadata"
    · subst hmetadata
      exact h.at?_metadata hpath
    · by_cases hspec : k = "spec"
      · subst hspec
        cases path with
        | nil => exact absurd ⟨["replicas"], rfl⟩ hpath.1.1
        | cons k path =>
          refine h.at?_spec hpath ?_
          rintro hmem rfl
          exact hrequired k hmem rfl
      · rw [at?_cons, at?_cons, h.rest k hmetadata hspec]

end Rescaled

end Scale

/-! ## What patches make of stored workloads -/

/-- A field that two records have in common has no part in the patch between them. -/
theorem get?_merge_mergeDiff_fields_of_eq {l l' : List (String × Option Json)}
    (hl : (l.map (·.1)).Nodup) (hl' : (l'.map (·.1)).Nodup) (hplain : ∀ m ∈ l, FieldPlain m)
    {k : String} (h : Entries.get? k l' = Entries.get? k l) (d : Json) :
    (merge d (mergeDiff (fields l) (fields l'))).get? k = d.get? k := by
  rw [get?_merge_mergeDiff_fields hl hl', h, diffAt_self (wellFormed_get?_of_fields hplain k)]
  rfl

section

variable [Schema]

namespace Workload

/-- The workload with what a patch says of its record: nothing, that it goes, or what it is. -/
def withRecord (w : Workload) : Option (Option String) → Workload
  | none => w
  | some none => w.unannotate Marker.replicas
  | some (some text) => w.annotate Marker.replicas text

/-- The workload with what a patch says of its count. -/
def withCount (w : Workload) : Option Int32 → Workload
  | none => w
  | some n => w.setReplicas n

end Workload

section

variable {Spec Status : Type} [Codec Spec] [HasTimes Spec] [Inhabited Spec] [LawfulCodec Spec]
  [Codec Status] [HasTimes Status] [Inhabited Status] [LawfulCodec Status]
  {apiVersion kind : String}

/-- The members of an object besides its metadata and its specification stay. -/
theorem get?_merge_resource_rest (r : Resource Spec Status) (m : ObjectMeta) (spec : Option Spec)
    (d : Json) {k : String} (hm : k ≠ "metadata") (hs : k ≠ "spec") :
    (merge d (mergeDiff (Resource.toJson apiVersion kind r)
        (Resource.toJson apiVersion kind { r with metadata := m, spec }))).get? k = d.get? k := by
  rw [Resource.toJson_eq, Resource.toJson_eq]
  refine get?_merge_mergeDiff_fields_of_eq (by simp [always, field]) (by simp [always, field])
    (by simp) ?_ d
  simp [always, field, Entries.get?_cons, hm.symm, hs.symm]

theorem get?_merge_resource_spec_of_eq (r : Resource Spec Status) (m : ObjectMeta) (d : Json) :
    (merge d (mergeDiff (Resource.toJson apiVersion kind r)
        (Resource.toJson apiVersion kind { r with metadata := m }))).get? "spec" =
      d.get? "spec" := by
  rw [Resource.toJson_eq, Resource.toJson_eq]
  exact get?_merge_mergeDiff_fields_of_eq (by simp [always, field]) (by simp [always, field])
    (by simp) (by simp [always, field, Entries.get?_cons]) d

end

namespace Workload

variable {w : Workload} {n : Int32} {d : Json}

theorem wellFormed_toJson (w : Workload) : w.toJson.WellFormed := by
  cases w <;> exact (Resource.plain_toJson _).wellFormed

/-- Setting the count that is there changes nothing. -/
theorem setReplicas_of_replicas (h : w.replicas = some n) : w.setReplicas n = w := by
  have hset : ∀ {Template : Type} {rest : Rest _} {spec : Option (WorkloadSpec Template rest)}
      [Inhabited Template], spec.bind (·.replicas) = some n →
        some { spec.getD default with replicas := some n } = spec := by
    intro Template rest spec _ hspec
    obtain ⟨s, rfl, hn⟩ := Option.bind_eq_some_iff.mp hspec
    rw [← hn]
    rfl
  cases w with
  | replicaSet r => exact congrArg (fun spec => Workload.replicaSet { r with spec }) (hset h)
  | deployment d => exact congrArg (fun spec => Workload.deployment { d with spec }) (hset h)
  | statefulSet s => exact congrArg (fun spec => Workload.statefulSet { s with spec }) (hset h)

theorem hasSpec_setReplicas (w : Workload) (n : Int32) : (w.setReplicas n).hasSpec = true := by
  cases w <;> rfl

theorem annotationAt_setReplicas (w : Workload) (n : Int32) (key : String) :
    (w.setReplicas n).annotationAt key = w.annotationAt key := by
  rw [annotationAt, metadata_setReplicas, annotationAt]

/-- What becomes of a specification whose count is patched. -/
theorem recounted_merge_specPatch (w : Workload) (n : Int32) {s : Json} (hs : s.WellFormed) :
    Recounted w.kind.required n s (merge s (w.specPatch n)) where
  wellFormed := hs.merge _ (w.wellFormed_specPatch n)
  isObject := by
    obtain ⟨ps, hps⟩ := exists_of_isObject (w.isObject_specPatch n)
    rw [hps]
    rfl
  count := w.replicas_merge_specPatch n s
  rest _ hk := (w.get?_merge_specPatch n s hk).imp_right And.right

/-- What a patch to other metadata and another count makes of a stored workload. -/
theorem rescaled_merge (w : Workload) {m : ObjectMeta} {record : Option (Option String)}
    {count : Option Int32} (hm : diffAt (some (Codec.toJson w.metadata)) (some (Codec.toJson m)) =
      record.map Scale.recordPatch) (hn : ∀ n ∈ count, w.replicas ≠ some n) (hd : d.WellFormed) :
    Scale.Rescaled w.kind record count d
      (merge d (mergeDiff w.toJson ((w.setMetadata m).withCount count).toJson)) where
  wellFormed := hd.merge _ (WellFormed.mergeDiff _ w.wellFormed_toJson (wellFormed_toJson _))
  isObject := by cases w <;> cases count <;> rfl
  rest k hmetadata hspec := by
    cases count with
    | none => cases w <;> exact get?_merge_resource_rest _ _ _ d hmetadata hspec
    | some n => cases w <;> exact get?_merge_resource_rest _ _ _ d hmetadata hspec
  metadata := by
    rw [← hm]
    cases count with
    | none => cases w <;> exact get?_merge_resource_metadata _ _ d
    | some n => exact w.get?_metadata_merge m n d
  spec := by
    cases count with
    | none => cases w <;> exact get?_merge_resource_spec_of_eq _ _ d
    | some n =>
      refine ⟨_, w.get?_spec_merge m (hn n rfl) d, w.recounted_merge_specPatch n ?_⟩
      exact hd.getD_get?

end Workload

namespace Scale

variable {w : Workload} {p d : Json} {record : Option (Option String)} {count : Option Int32}

/-- What a patch says of metadata in which a record is set: nothing where it was there. -/
theorem diffAt_annotate (m : ObjectMeta) (text : String) :
    diffAt (some (toJson m)) (some (toJson (m.annotate Marker.replicas text))) =
      if m.annotationAt Marker.replicas = some text then none
      else some (recordPatch (some text)) := by
  have hrest : ∀ k, k ≠ Marker.replicas →
      (m.annotationTable.insert Marker.replicas text).get? k = m.annotationTable.get? k :=
    fun k hk => SortedMap.get?_insert_of_ne _ hk text
  have hset := m.annotationTable.get?_insert_self Marker.replicas text
  split
  · rename_i hsame
    exact diffAt_metadata_of_annotationAt hrest (by rw [hset]; simp) (hsame.trans hset.symm)
  · rename_i hdiffers
    have hdiff := diffAt_metadata hrest fun heq => hdiffers (heq.trans hset)
    rw [hset] at hdiff
    exact hdiff

/-- What a patch says of metadata from which the record is removed. -/
theorem diffAt_unannotate {m : ObjectMeta} (h : m.annotationAt Marker.replicas ≠ none) :
    diffAt (some (toJson m)) (some (toJson (m.unannotate Marker.replicas))) =
      some (recordPatch none) := by
  have hset := m.annotationTable.get?_erase_self Marker.replicas
  have hdiff := diffAt_metadata (fun k hk => SortedMap.get?_erase_of_ne _ hk)
    fun heq => h (heq.trans hset)
  rw [hset] at hdiff
  exact hdiff

/-- What the patch that quiesces a workload makes of a stored one. It says nothing of the record
where the workload that was read had the same. -/
theorem rescaled_of_quiescePatch (h : quiescePatch w = some p) (hd : d.WellFormed) :
    Rescaled w.kind
      (if w.annotationAt Marker.replicas = some (recordText (w.replicas.getD defaultReplicas))
        then none else some (some (recordText (w.replicas.getD defaultReplicas))))
      (some 0) d (merge d p) := by
  obtain ⟨hcount, rfl⟩ := quiescePatch_eq h
  refine w.rescaled_merge (m := w.metadata.annotate Marker.replicas _) ?_ ?_ hd
  · rw [diffAt_annotate, Workload.annotationAt]
    split <;> rfl
  · rintro n ⟨⟩
    exact hcount

/-- The patch that restores a workload, where there is one. -/
theorem restorePatch_eq (h : restorePatch w = .ok (some p)) :
    ∃ n, w.annotationAt Marker.replicas ≠ none ∧
      p = mergeDiff w.toJson ((w.unannotate Marker.replicas).withCount
        (if 0 < n then some n else none)).toJson := by
  obtain ⟨r, hr, h⟩ := map_eq_ok.mp h
  obtain ⟨w', rfl, hp⟩ := Option.bind_eq_some_iff.mp h
  unfold restored at hr
  split at hr
  · cases hr
  · rename_i recorded hrecorded
    obtain ⟨n, -, hr⟩ := bind_eq_ok.mp hr
    cases hr
    refine ⟨n, ?_, ?_⟩
    · rw [(Option.filter_eq_some_iff.mp hrecorded).1]
      exact Option.some_ne_none recorded
    · rw [eq_of_patchBetween hp]
      split <;> rfl

/-- What the patch that restores a workload makes of a stored one. -/
theorem rescaled_of_restorePatch (h : restorePatch w = .ok (some p)) (hd : d.WellFormed) :
    ∃ count, Rescaled w.kind (some none) count d (merge d p) := by
  obtain ⟨n, hrecord, rfl⟩ := restorePatch_eq h
  have hmetadata := diffAt_unannotate hrecord
  by_cases hsame : w.replicas = some n
  · -- the count is there already, so the patch does not name it
    have hcount : (w.unannotate Marker.replicas).withCount (if 0 < n then some n else none) =
        (w.unannotate Marker.replicas).withCount none := by
      split
      · exact Workload.setReplicas_of_replicas (by simpa [Workload.unannotate] using hsame)
      · rfl
    rw [hcount]
    exact ⟨none, w.rescaled_merge hmetadata (by simp) hd⟩
  · refine ⟨if 0 < n then some n else none, w.rescaled_merge hmetadata ?_ hd⟩
    intro n' hn'
    split at hn'
    · cases hn'
      exact hsame
    · cases hn'

/-- A patch of either kind changes the record and the count of any stored workload. -/
theorem rescaled_of_sent (h : quiescePatch w = some p ∨ restorePatch w = .ok (some p))
    (hd : d.WellFormed) : ∃ record count, Rescaled w.kind record count d (merge d p) := by
  rcases h with h | h
  · exact ⟨_, _, rescaled_of_quiescePatch h hd⟩
  · exact ⟨_, rescaled_of_restorePatch h hd⟩

/-! ## What is read of a workload that was rescaled -/

namespace Rescaled

section

variable {kind : WorkloadKind} {d' : Json} (h : Rescaled kind record count d d') (hd : d.WellFormed)

include h hd

/-- The metadata is read with its record as the patch said. -/
theorem readRequired_metadata {c : Workload}
    (hc : readRequired (d.get? "metadata") = .ok c.metadata) :
    readRequired (d'.get? "metadata") = .ok (c.withRecord record).metadata := by
  rw [h.metadata]
  -- of an annotation that is named, what is there to read is the table that differs in it
  have hnamed : ∀ (r : Option String) (t : SortedMap String), t.get? Marker.replicas = r →
      (∀ k, k ≠ Marker.replicas → t.get? k = c.metadata.annotationTable.get? k) →
      readRequired (patchedAt (d.get? "metadata") (some (recordPatch r))) =
        .ok { c.metadata with annotations := some t } := by
    intro r t ht hrest
    obtain ⟨j, hj, hread, hmerge⟩ :=
      exists_of_readRequired Record.ofWritten_empty (fun _ => hd.get?) hc
    have hmerged := ObjectMeta.read_merge hj hread hrest
    rw [ht] at hmerged
    refine readRequired_of_read rfl ?_
    rw [recordPatch, hmerge]
    exact hmerged
  cases record with
  | none => exact hc
  | some r =>
    cases r with
    | none =>
      rw [Workload.withRecord, Workload.unannotate, Workload.metadata_setMetadata]
      exact hnamed none _ (SortedMap.get?_erase_self _ _)
        fun k hk => SortedMap.get?_erase_of_ne _ hk
    | some text =>
      rw [Workload.withRecord, Workload.annotate, Workload.metadata_setMetadata]
      exact hnamed (some text) _ (SortedMap.get?_insert_self _ _ text)
        fun k hk => SortedMap.get?_insert_of_ne _ hk text

/-- What is read of an object that was rescaled, given how the template in its specification is
read. -/
theorem reread_resource {Template Status : Type} [TemplateField Template] [HasTimes Template]
    [Inhabited Template] [LawfulPart (TemplateField.part : Part Template)] [Codec Status]
    {rest : Rest _} {apiVersion text : String} {m m' : ObjectMeta}
    {spec : Option (WorkloadSpec Template rest)} {status : Option Status}
    (htemplate : TemplateKept Template kind.required)
    (hr : Resource.ofWritten apiVersion text d.written = .ok ⟨m, spec, status⟩)
    (hm : readRequired (d.get? "metadata") = .ok m →
      readRequired (d'.get? "metadata") = .ok m') :
    Resource.ofWritten apiVersion text d'.written =
      .ok ⟨m', (count.map fun n => { spec.getD default with replicas := some n }).or spec,
        status⟩ := by
  obtain ⟨hmetadata, hspec⟩ := resource_fields hd hr
  have hrequired : ∀ k ∈ kind.required, k ∈ ["replicas", "selector", "template"] := by
    cases kind <;> decide
  exact Resource.reread hd hr h.wellFormed h.isObject h.rest (hm hmetadata)
    (h.readField_spec hd hspec Record.ofWritten_empty fun n j j' hj hread hj' =>
      WorkloadSpec.reread htemplate hrequired hj hread hj')

/-- What is read of a workload that was rescaled is what was read of it before, with its record and
its count as the patch said. -/
theorem reread {c : Workload} (hc : Workload.ofJson kind d = .ok c) :
    Workload.ofJson kind d' = .ok ((c.withRecord record).withCount count) := by
  have hmetadata := h.readRequired_metadata hd (c := c)
  cases kind <;> obtain ⟨⟨m, spec, status⟩, hr, rfl⟩ := map_eq_ok.mp hc
  · refine map_eq_ok.mpr ⟨_, h.reread_resource hd templateKept_optional hr hmetadata, ?_⟩
    rcases record with - | - | text <;> cases count <;> rfl
  · refine map_eq_ok.mpr ⟨_, h.reread_resource hd (templateKept_required _) hr hmetadata, ?_⟩
    rcases record with - | - | text <;> cases count <;> rfl
  · refine map_eq_ok.mpr ⟨_, h.reread_resource hd (templateKept_required _) hr hmetadata, ?_⟩
    rcases record with - | - | text <;> cases count <;> rfl

end

/-! ## What stays -/

/-- What is read of a workload besides its record and its count. -/
theorem unannotate_setReplicas (c : Workload) (record : Option (Option String))
    (count : Option Int32) :
    (((c.withRecord record).withCount count).unannotate Marker.replicas).setReplicas 0 =
      (c.unannotate Marker.replicas).setReplicas 0 := by
  have htable : ∀ t : SortedMap String,
      (∀ k, k ≠ Marker.replicas → t.get? k = c.metadata.annotationTable.get? k) →
      (c.setMetadata { c.metadata with annotations := some t }).unannotate Marker.replicas =
        c.unannotate Marker.replicas := by
    intro t ht
    have herase : t.erase Marker.replicas = c.metadata.annotationTable.erase Marker.replicas := by
      refine SortedMap.ext_get? fun k => ?_
      by_cases hk : k = Marker.replicas
      · rw [hk, SortedMap.get?_erase_self, SortedMap.get?_erase_self]
      · rw [SortedMap.get?_erase_of_ne _ hk, SortedMap.get?_erase_of_ne _ hk]
        exact ht k hk
    rw [Workload.unannotate, Workload.unannotate, Workload.metadata_setMetadata,
      ObjectMeta.unannotate, ObjectMeta.unannotate, ← herase]
    cases c <;> rfl
  have hrecord :
      (c.withRecord record).unannotate Marker.replicas = c.unannotate Marker.replicas := by
    rcases record with - | - | text
    · rfl
    · exact htable _ fun k hk => SortedMap.get?_erase_of_ne _ hk
    · exact htable _ fun k hk => SortedMap.get?_insert_of_ne _ hk text
  rw [← hrecord]
  generalize c.withRecord record = c'
  cases count with
  | none => rfl
  | some n => cases c' <;> rfl

end Rescaled

/-- A workload whose count is recorded, and which asks for no pods, is restored to its record. -/
theorem restored_of_record {c : Workload} (hd : d.WellFormed)
    (hread : Workload.ofJson w.kind d = .ok c) (hspec : c.hasSpec = true)
    (hzero : c.replicas = some 0) {n : Int32} (hn : 0 < n)
    (hrecord : c.annotationAt Marker.replicas = some (recordText n)) :
    ∃ q c', restorePatch c = .ok (some q) ∧ Workload.ofJson w.kind (merge d q) = .ok c' ∧
      c'.replicas = some n ∧ c'.annotationAt Marker.replicas = none := by
  have hkind := Workload.kind_of_read hread
  have hpatch := restorePatch_of_down hn
    ⟨hspec, hzero, _, hrecord, recordedCount_recordText hn⟩
  obtain ⟨count, hrescaled⟩ := rescaled_of_restorePatch hpatch hd
  rw [hkind] at hrescaled
  have hc' := hrescaled.reread hd hread
  refine ⟨_, _, hpatch, hc', ?_, ?_⟩
  · have hcount := Workload.replicas_of_read hrescaled.wellFormed hc'
    rw [show at? ["spec", "replicas"] _ = _ from replicas_merge_scalingPatch none n d,
      readField_count] at hcount
    exact (Except.ok.inj hcount).symm
  · have hat := Workload.annotationAt_of_read hrescaled.wellFormed hc' Marker.replicas
    rw [show at? ["metadata", "annotations", Marker.replicas] _ = _ from
      record_merge_scalingPatch none n d] at hat
    exact Option.map_eq_none_iff.mp hat.symm

end Scale

end

namespace Scale

/-! ## Main statements -/

section

variable [Schema] {w : Workload} {p d : Json}

/-- A patch that scales a workload leaves alone everything but the count and the record of what is
stored, however that differs from the workload that was read: the same is read of it besides these,
where no annotations count as empty ones, and every path elsewhere leads to the same value. Only of
a specification without a selector or a template that its kind requires, which is read as if these
were empty, the patch may write them out. Of a workload without a specification it writes no more,
since by `Schema.statefulSetSpec_optional` and its like nothing else has to be there. -/
theorem scaling_spares_the_rest {c : Workload}
    (hsent : quiescePatch w = some p ∨ restorePatch w = .ok (some p)) (hd : d.WellFormed)
    (hread : Workload.ofJson w.kind d = .ok c) :
    (∃ c', Workload.ofJson w.kind (merge d p) = .ok c' ∧
      (c'.unannotate Marker.replicas).setReplicas 0 =
        (c.unannotate Marker.replicas).setReplicas 0) ∧
    ∀ path, Elsewhere path →
      (∀ name ∈ w.kind.required, path = ["spec", name] → ∃ es, at? path d = some (.obj es)) →
      at? path (merge d p) = at? path d := by
  obtain ⟨record, count, h⟩ := rescaled_of_sent hsent hd
  exact ⟨⟨_, h.reread hd hread, Rescaled.unannotate_setReplicas c record count⟩,
    fun path => h.at?_elsewhere⟩

end

/-- A deployment that asks for two pods, as it is stored with this as its record or without. -/
def twoPods (recorded : Bool) : Json :=
  .obj [("apiVersion", .str "apps/v1"), ("kind", .str "Deployment"),
    ("metadata", .obj [
      ("annotations", .obj (if recorded then [(Marker.replicas, .str "2")] else [])),
      ("name", .str "web"), ("namespace", .str "default")]),
    ("spec", .obj [("paused", .bool true), ("replicas", .int 2),
      ("selector", .obj [("matchLabels", .obj [("app", .str "web")])]),
      ("template", .obj [("metadata", .obj [("labels", .obj [("app", .str "web")])])])])]

theorem wellFormed_twoPods (recorded : Bool) : (twoPods recorded).WellFormed := by
  cases recorded <;>
    simp only [twoPods, if_true, if_false, Bool.false_eq_true, int, WellFormed, WellFormedMembers,
      WellFormedMember] <;>
    decide

/-- The same deployment, of which nothing but its names was read. -/
def namesOnly : Workload :=
  .deployment { metadata := { name := some "web", ns := some "default" } }

/-- A deployment of which no specification was read is quiesced; by then it has one. -/
theorem selector_of_namesOnly_quiesced : ∃ p c, quiescePatch namesOnly = some p ∧
    Workload.ofJson .deployment (twoPods false) = .ok c ∧ c.hasSpec = true ∧
    at? ["spec", "selector"] (merge (twoPods false) p) =
      some (.obj [("matchLabels", .obj [("app", .str "web")])]) := by
  obtain ⟨p, hp⟩ : ∃ p, quiescePatch namesOnly = some p := ⟨_, rfl⟩
  obtain ⟨c, hc⟩ : ∃ c, Workload.ofJson .deployment (twoPods false) = .ok c := ⟨_, rfl⟩
  have hwf := wellFormed_twoPods false
  have hspec : c.hasSpec = true := (Workload.hasSpec_of_read hwf hc).mpr ⟨_, rfl, rfl⟩
  refine ⟨p, c, hp, hc, hspec, ?_⟩
  refine ((scaling_spares_the_rest (.inl hp) hwf hc).2 _ (by decide) ?_).trans rfl
  exact fun _ _ _ => ⟨_, rfl⟩

section

variable [Schema] {w : Workload} {d : Json}

/-- What quiescing a workload leaves as its record. It is the count that was read, unless the
workload that was read had this record: then it is whatever the stored one has by then, and there is
none if it was removed in between. From a record that is there the workload is restored to what it
says. -/
theorem record_after_quiesce {c : Workload} (hcount : 0 < w.replicas.getD defaultReplicas)
    (hd : d.WellFormed) (hread : Workload.ofJson w.kind d = .ok c) :
    ∃ p c', quiescePatch w = some p ∧ Workload.ofJson w.kind (merge d p) = .ok c' ∧
      c'.replicas = some 0 ∧
      c'.annotationAt Marker.replicas =
        (if w.annotationAt Marker.replicas = some (recordText (w.replicas.getD defaultReplicas))
          then c.annotationAt Marker.replicas
          else some (recordText (w.replicas.getD defaultReplicas))) ∧
      ∀ n, 0 < n → c'.annotationAt Marker.replicas = some (recordText n) →
        ∃ q c'', restorePatch c' = .ok (some q) ∧
          Workload.ofJson w.kind (merge (merge d p) q) = .ok c'' ∧
          c''.replicas = some n ∧ c''.annotationAt Marker.replicas = none := by
  cases hp : quiescePatch w with
  | none =>
    rw [replicas_of_no_quiescePatch hp] at hcount
    exact absurd hcount (by decide)
  | some p =>
    have hrescaled := rescaled_of_quiescePatch hp hd
    have hc' := hrescaled.reread hd hread
    rw [Workload.withCount] at hc'
    refine ⟨p, _, rfl, hc', Workload.replicas_setReplicas _ 0, ?_, fun n hn hrecord =>
      restored_of_record hrescaled.wellFormed hc' (Workload.hasSpec_setReplicas _ 0)
        (Workload.replicas_setReplicas _ 0) hn hrecord⟩
    rw [Workload.annotationAt_setReplicas]
    split
    · rfl
    · exact (Workload.annotationAt_annotate c _ _ _).trans (if_pos rfl)

end

/-- A record that is there by then is replaced. -/
theorem record_replaced_after_quiesce : ∃ p c, quiescePatch namesOnly = some p ∧
    Workload.ofJson .deployment (merge (twoPods true) p) = .ok c ∧
    c.replicas = some 0 ∧ c.annotationAt Marker.replicas = some "1" := by
  obtain ⟨c, hc⟩ : ∃ c, Workload.ofJson .deployment (twoPods true) = .ok c := ⟨_, rfl⟩
  have hwf := wellFormed_twoPods true
  obtain ⟨p, c', hp, hc', hzero, hrecord, -⟩ :=
    record_after_quiesce (w := namesOnly) (by decide) hwf hc
  exact ⟨p, c', hp, hc', hzero, hrecord.trans (if_neg (by decide))⟩

/-- The record that was read is removed before the patch is applied. No pods are asked for then, and
nothing says how many there were. -/
theorem no_record_after_quiesce : ∃ w p c,
    Workload.ofJson .deployment (twoPods true) = .ok w ∧ w.replicas = some 2 ∧
    quiescePatch w = some p ∧ (twoPods false).WellFormed ∧
    Workload.ofJson .deployment (merge (twoPods false) p) = .ok c ∧
    c.replicas = some 0 ∧ c.annotationAt Marker.replicas = none ∧ restorePatch c = .ok none :=
  ⟨_, _, _, rfl, rfl, rfl, wellFormed_twoPods false, rfl, rfl, rfl, rfl⟩

end Scale

end PodSwap
