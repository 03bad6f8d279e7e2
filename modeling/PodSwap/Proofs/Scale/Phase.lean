import PodSwap.Proofs.Object.Diff
import PodSwap.Proofs.Scale.Record

/-!
# The two phases of a workload

A workload that asks for `n` pods is up, without a record, or down, with `n` recorded. Quiescing
takes it down and restoring takes it up, each by a patch that names the count and the record and
nothing else; where the workload is there already, neither sends anything.

Main statements: what is read of a workload is in the phase of what is stored (`inPhase_of_read`),
the patches that are sent (`quiescePatch_of_up`, `restorePatch_of_down`), what they make of a stored
workload (`scaled_down_merge`, `scaled_up_merge`), and that they spare everything else
(`at?_merge_scalingPatch`).
-/

namespace PodSwap.Scale

open Json

/-- Where the count of a workload stands. -/
def replicasPath : List String := ["spec", "replicas"]

/-- Where the record of a workload stands. -/
def recordPath : List String := ["metadata", "annotations", Marker.replicas]

/-- The two phases. -/
inductive Phase where
  | up
  | down
deriving DecidableEq, Repr

namespace Phase

/-- The phase after one patch. -/
def flip : Phase → Phase
  | .up => .down
  | .down => .up

/-- The phase after a number of patches. -/
def after (ph : Phase) : Nat → Phase
  | 0 => ph
  | k + 1 => (ph.after k).flip

end Phase

/-- Whether something is said of what is wanted of a stored workload. -/
def HasSpec (d : Json) : Prop := ∃ j, d.get? "spec" = some j ∧ j.isObject = true

/-- A stored workload in a phase, where it asks for `n` pods or did so before. -/
def Scaled (n : Int32) : Phase → Json → Prop
  | .up, d =>
    HasSpec d ∧
      (∃ c, readField (at? replicasPath d) = .ok c ∧ c.getD defaultReplicas = n) ∧
      at? recordPath d = none
  | .down, d =>
    HasSpec d ∧
      at? replicasPath d = some (.int 0) ∧
      ∃ t, at? recordPath d = some (.str t) ∧ recordedCount t = .ok n

/-- A workload, as it was read, in a phase. -/
def InPhase [Schema] (n : Int32) : Phase → Workload → Prop
  | .up, w =>
    w.hasSpec = true ∧ w.replicas.getD defaultReplicas = n ∧ w.annotationAt Marker.replicas = none
  | .down, w =>
    w.hasSpec = true ∧ w.replicas = some 0 ∧
      ∃ t, w.annotationAt Marker.replicas = some t ∧ recordedCount t = .ok n

/-- What is read of a workload is in the phase of what is stored. -/
theorem inPhase_of_read [Schema] {n : Int32} {ph : Phase} {kind : WorkloadKind} {d : Json}
    {w : Workload} (hd : d.WellFormed) (h : Workload.ofJson kind d = .ok w) (hs : Scaled n ph d) :
    InPhase n ph w := by
  have hspec := Workload.hasSpec_of_read hd h
  have hcount := Workload.replicas_of_read hd h
  have hrecord := Workload.annotationAt_of_read hd h Marker.replicas
  cases ph with
  | up =>
    obtain ⟨hobject, ⟨c, hc, hn⟩, hnone⟩ := hs
    refine ⟨hspec.mpr hobject, ?_, ?_⟩
    · have hw : c = w.replicas := Except.ok.inj (hc.symm.trans hcount)
      rw [← hw, hn]
    · rw [show at? ["metadata", "annotations", Marker.replicas] d = none from hnone] at hrecord
      exact Option.map_eq_none_iff.mp hrecord.symm
  | down =>
    obtain ⟨hobject, hzero, t, ht, hn⟩ := hs
    refine ⟨hspec.mpr hobject, ?_, t, ?_, hn⟩
    · rw [show at? ["spec", "replicas"] d = some (.int 0) from hzero] at hcount
      exact (Except.ok.inj hcount).symm
    · rw [show at? ["metadata", "annotations", Marker.replicas] d = some (.str t) from ht]
        at hrecord
      obtain ⟨s, hs, hst⟩ := Option.map_eq_some_iff.mp hrecord.symm
      cases hst
      exact hs

/-! ## The patches -/

/-- The patch that sets the record of a workload, or removes it, and sets its count. -/
def scalingPatch (record : Option String) (n : Int32) : Json :=
  .obj [("metadata", .obj [("annotations", .obj [(Marker.replicas,
      (record.map .str).getD .null)])]),
    ("spec", .obj [("replicas", .int n.toInt)])]

/-- A patch between workloads that differ in their records and in their counts. -/
theorem patchBetween_eq [Schema] {w w' : Workload} {t : SortedMap String} {n : Int32}
    (hw' : w' = (w.setMetadata { w.metadata with annotations := some t }).setReplicas n)
    (hspec : w.hasSpec = true)
    (hrest : ∀ k, k ≠ Marker.replicas → t.get? k = w.metadata.annotationTable.get? k)
    (hkey : w.annotationAt Marker.replicas ≠ t.get? Marker.replicas) (hn : w.replicas ≠ some n) :
    patchBetween w w' = some (scalingPatch (t.get? Marker.replicas) n) := by
  subst hw'
  unfold patchBetween
  rw [Workload.mergeDiff_toJson hspec hrest hkey hn]
  rfl

theorem ne_zero_of_pos {n : Int32} (h : 0 < n) : n ≠ 0 := by
  rintro rfl
  exact absurd h (by decide)

section

variable [Schema] {n : Int32} {w : Workload}

/-- A workload that is up is taken down, with its count recorded. -/
theorem quiescePatch_of_up (hn : 0 < n) (h : InPhase n .up w) :
    quiescePatch w = some (scalingPatch (some (recordText n)) 0) := by
  obtain ⟨hspec, hcount, hnone⟩ := h
  have hzero : w.replicas ≠ some 0 := by
    intro hz
    rw [hz] at hcount
    exact ne_zero_of_pos hn hcount.symm
  have hq : quiesced w =
      some ((w.annotate Marker.replicas (recordText n)).setReplicas 0) := by
    unfold quiesced
    rw [hcount]
    exact if_neg (ne_zero_of_pos hn)
  have hset := w.metadata.annotationTable.get?_insert_self Marker.replicas (recordText n)
  have hpatch := patchBetween_eq (n := 0) rfl hspec
    (fun k hk => w.metadata.annotationTable.get?_insert_of_ne hk (recordText n))
    (by rw [hset, hnone]; simp) hzero
  rw [hset] at hpatch
  rw [quiescePatch, hq]
  exact hpatch

/-- A workload that asks for no pods is not quiesced. -/
theorem quiescePatch_of_replicas (h : w.replicas = some 0) : quiescePatch w = none := by
  have hq : quiesced w = none := by
    unfold quiesced
    rw [h]
    rfl
  rw [quiescePatch, hq]
  rfl

/-- A workload that is down is not taken down again. -/
theorem quiescePatch_of_down (h : InPhase n .down w) : quiescePatch w = none :=
  quiescePatch_of_replicas h.2.1

theorem recordOf_of_annotationAt {t : String} (h : w.annotationAt Marker.replicas = some t)
    (ht : t ≠ "") : recordOf w = some t := by
  simp [recordOf, h, Option.filter, ht]

/-- A workload that is down is taken up to its record. -/
theorem restorePatch_of_down (hn : 0 < n) (h : InPhase n .down w) :
    restorePatch w = .ok (some (scalingPatch none n)) := by
  obtain ⟨hspec, hzero, t, ht, hrecorded⟩ := h
  have hr : restored w =
      .ok (some ((w.unannotate Marker.replicas).setReplicas n)) := by
    unfold restored
    rw [recordOf_of_annotationAt ht (ne_empty_of_recordedCount hrecorded)]
    show (readRecord w t >>= _) = _
    rw [readRecord_of_recordedCount hrecorded]
    show Except.ok (some (if 0 < n then _ else _)) = _
    rw [if_pos hn]
  have hset := w.metadata.annotationTable.get?_erase_self Marker.replicas
  have hne : w.replicas ≠ some n := by
    rw [hzero]
    intro heq
    exact ne_zero_of_pos hn (Option.some.inj heq).symm
  have hpatch := patchBetween_eq (n := n) rfl hspec
    (fun k hk => w.metadata.annotationTable.get?_erase_of_ne hk)
    (by rw [hset, ht]; simp) hne
  rw [hset] at hpatch
  rw [restorePatch, hr]
  exact congrArg Except.ok hpatch

/-- A workload that is up is left alone by restoring it. -/
theorem restorePatch_of_up (h : InPhase n .up w) : restorePatch w = .ok none := by
  obtain ⟨-, -, hnone⟩ := h
  have hr : recordOf w = none := by simp [recordOf, hnone]
  rw [restorePatch, restored, hr]
  rfl

end

/-! ## What the patches do -/

/-- What a patch of one annotation makes of it. -/
theorem annotation_merge (key : String) (v : Option String) (m : Json) :
    at? ["annotations", key] (merge m (.obj [("annotations",
      .obj [(key, (v.map .str).getD .null)])])) = v.map .str := by
  have hannotations : (merge m (.obj [("annotations",
      .obj [(key, (v.map .str).getD .null)])])).get? "annotations" =
        some (merge ((m.get? "annotations").getD .null)
          (.obj [(key, (v.map .str).getD .null)])) :=
    get?_merge_obj (by simp) (by simp [Entries.get?_cons]) m
  rw [at?_cons, hannotations, Option.bind_some, at?_singleton, get?_merge (by simp)]
  cases v <;> simp [Entries.get?_cons, merge]

section

variable (record : Option String) (n : Int32) (d : Json)

theorem get?_merge_scalingPatch_spec :
    (merge d (scalingPatch record n)).get? "spec" =
      some (merge ((d.get? "spec").getD .null) (.obj [("replicas", .int n.toInt)])) :=
  get?_merge_obj (by simp) (by simp [Entries.get?_cons]) d

theorem replicas_merge_scalingPatch :
    at? replicasPath (merge d (scalingPatch record n)) = some (.int n.toInt) := by
  rw [replicasPath, at?_cons, get?_merge_scalingPatch_spec]
  show at? ["replicas"] (merge _ _) = _
  rw [at?_singleton, get?_merge (by simp)]
  simp [Entries.get?_cons, Json.int, merge]

theorem record_merge_scalingPatch :
    at? recordPath (merge d (scalingPatch record n)) = record.map .str := by
  have hmetadata : (merge d (scalingPatch record n)).get? "metadata" =
      some (merge ((d.get? "metadata").getD .null)
        (.obj [("annotations", .obj [(Marker.replicas, (record.map .str).getD .null)])])) :=
    get?_merge_obj (by simp) (by simp [Entries.get?_cons]) d
  rw [recordPath, at?_cons, hmetadata, Option.bind_some]
  exact annotation_merge Marker.replicas record _

theorem hasSpec_merge_scalingPatch : HasSpec (merge d (scalingPatch record n)) :=
  ⟨_, get?_merge_scalingPatch_spec record n d, rfl⟩

end

/-- The patch takes a workload down. -/
theorem scaled_down_merge {n : Int32} (hn : 0 < n) (d : Json) :
    Scaled n .down (merge d (scalingPatch (some (recordText n)) 0)) :=
  ⟨hasSpec_merge_scalingPatch _ _ d, replicas_merge_scalingPatch _ _ d, recordText n,
    record_merge_scalingPatch _ _ d, recordedCount_recordText hn⟩

/-- A count is read as it is written. -/
theorem readField_count (n : Int32) : readField (some (.int n.toInt)) = .ok (some n) := by
  have hread : ofJson (toJson n) = .ok n := ofJson_toJson n
  show (ofJson (toJson n)).map some = _
  rw [hread]
  rfl

/-- The patch takes a workload up. -/
theorem scaled_up_merge (n : Int32) (d : Json) : Scaled n .up (merge d (scalingPatch none n)) := by
  refine ⟨hasSpec_merge_scalingPatch _ _ d, ⟨some n, ?_, rfl⟩, record_merge_scalingPatch _ _ d⟩
  rw [replicas_merge_scalingPatch]
  exact readField_count n

/-- Whether two values of a stored workload say the same about its scale. -/
structure SameScale (d d' : Json) : Prop where
  spec : HasSpec d' ↔ HasSpec d
  replicas : at? replicasPath d' = at? replicasPath d
  record : at? recordPath d' = at? recordPath d

theorem Scaled.congr {n : Int32} {ph : Phase} {d d' : Json} (h : Scaled n ph d)
    (hd : SameScale d d') : Scaled n ph d' := by
  cases ph <;> simp only [Scaled, hd.spec, hd.replicas, hd.record] <;> exact h

/-- Neither the count nor the record of a workload, nothing that holds one of them and nothing
within them. -/
def Elsewhere (path : List String) : Prop :=
  (¬ path <+: replicasPath ∧ ¬ replicasPath <+: path) ∧
    ¬ path <+: recordPath ∧ ¬ recordPath <+: path

instance (path : List String) : Decidable (Elsewhere path) := by
  unfold Elsewhere
  infer_instance

theorem spares_scalingPatch (record : Option String) (n : Int32) {path : List String}
    (h : Elsewhere path) : Spares path (scalingPatch record n) := by
  obtain ⟨⟨hle, hge⟩, hle', hge'⟩ := h
  unfold scalingPatch
  cases path with
  | nil => exact absurd List.nil_prefix hle
  | cons a path =>
    refine ⟨by simp, ?_⟩
    by_cases hmetadata : "metadata" = a
    · subst hmetadata
      cases path with
      | nil => exact absurd (by decide) hle'
      | cons b path =>
        refine ⟨by simp, ?_⟩
        by_cases hannotations : "annotations" = b
        · subst hannotations
          cases path with
          | nil => exact absurd (by decide) hle'
          | cons c path =>
            refine ⟨by simp, ?_⟩
            by_cases hkey : Marker.replicas = c
            · subst hkey
              exact absurd ⟨path, rfl⟩ hge'
            · simp [Entries.get?_cons, hkey]
        · simp [Entries.get?_cons, hannotations]
    · by_cases hspec : "spec" = a
      · subst hspec
        cases path with
        | nil => exact absurd (by decide) hle
        | cons b path =>
          refine ⟨by simp, ?_⟩
          by_cases hreplicas : "replicas" = b
          · subst hreplicas
            exact absurd ⟨path, rfl⟩ hge
          · simp [Entries.get?_cons, hreplicas]
      · simp [Entries.get?_cons, hmetadata, hspec]

/-- Scaling a workload leaves alone whatever is elsewhere. -/
theorem at?_merge_scalingPatch (record : Option String) (n : Int32) {path : List String}
    (h : Elsewhere path) (d : Json) : at? path (merge d (scalingPatch record n)) = at? path d :=
  at?_merge (spares_scalingPatch record n h) d

end PodSwap.Scale
