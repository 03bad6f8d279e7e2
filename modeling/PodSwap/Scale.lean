import PodSwap.Cluster
import PodSwap.Json.Merge
import PodSwap.Marker
import PodSwap.Text.Blank
import PodSwap.Text.Integer
import PodSwap.Text.Quoted

/-!
# Scaling workloads down and back

A quiesced workload asks for no pods and remembers in an annotation how many it asked for. Both ways
are merge patches of exactly what changes, so that nothing else of the workload is touched.

Main statements: a quiesced workload asks for none and has a record (`replicas_quiesced`,
`annotationAt_quiesced`), and neither way touches the template (`podTemplate_quiesced`).
-/

namespace PodSwap.Scale

variable [Schema]

/-- The number of pods of a workload that does not say. -/
def defaultReplicas : Int32 := 1

/-- A number of pods as the record has it. -/
def recordText (n : Int32) : String := toString n.toInt

/-- The workload scaled to zero with its count recorded; absent if it is there already, so that a
record is never overwritten with zero. -/
def quiesced (w : Workload) : Option Workload :=
  let n := w.replicas.getD defaultReplicas
  if n = 0 then none else some ((w.annotate Marker.replicas (recordText n)).setReplicas 0)

/-- The record of a workload, where it has one. -/
def recordOf (w : Workload) : Option String := (w.annotationAt Marker.replicas).filter (· ≠ "")

/-- The count that a record holds. -/
def readRecord (w : Workload) (recorded : String) : Except Error Int32 :=
  -- people edit annotations, so blanks around the number do no harm
  match Text.signed32 (String.ofList (Text.trim recorded.toList)) with
  | .ok n => .ok n
  | .error fault =>
    let problem := "invalid " ++ Marker.replicas ++ " annotation " ++ Text.quoted recorded ++
      " on " ++ w.identity ++ ": " ++ fault.message
    .error (.serialization problem)

/-- The workload scaled back to its record, which it loses; absent if it has none. A record of zero
or less leaves the count alone. -/
def restored (w : Workload) : Except Error (Option Workload) :=
  match recordOf w with
  | none => .ok none
  | some recorded => do
    let n ← readRecord w recorded
    let bare := w.unannotate Marker.replicas
    return some (if 0 < n then bare.setReplicas n else bare)

/-- The merge patch between two states of a workload, if they differ. -/
def patchBetween (before after : Workload) : Option Json :=
  let patch := Json.mergeDiff before.toJson after.toJson
  if patch.isEmptyPatch then none else some patch

/-- The patch that quiesces a workload. -/
def quiescePatch (w : Workload) : Option Json := (quiesced w).bind (patchBetween w)

/-- The patch that restores a workload. -/
def restorePatch (w : Workload) : Except Error (Option Json) :=
  (restored w).map fun r => r.bind (patchBetween w)

section Operations

variable {σ : Type} (cluster : Cluster σ) (heed : Heed)

/-- Sends a patch if there is one, and says whether there was. -/
def send (w : Workload) (patch : Option Json) : Op σ Bool :=
  match patch with
  | none => pure false
  | some patch => do
    cluster.request heed (.patchWorkload w.kind w.ns w.name patch)
    return true

/-- Scales a workload to zero and says whether that took a patch. -/
def quiesce (w : Workload) : Op σ Bool := send cluster heed w (quiescePatch w)

/-- Scales a workload back to its record and says whether that took a patch. -/
def restore (w : Workload) : Op σ Bool := do
  let patch ← purely (restorePatch w)
  send cluster heed w patch

end Operations

/-! ## What is changed and what is not -/

theorem replicas_quiesced {w w' : Workload} (h : quiesced w = some w') : w'.replicas = some 0 := by
  unfold quiesced at h
  dsimp only at h
  split at h
  · simp at h
  · simp only [Option.some.injEq] at h
    subst h
    simp

/-- A quiesced workload records how many pods it asked for. -/
theorem annotationAt_quiesced {w w' : Workload} (h : quiesced w = some w') :
    w'.annotationAt Marker.replicas = some (recordText (w.replicas.getD defaultReplicas)) := by
  unfold quiesced at h
  dsimp only at h
  split at h
  · simp at h
  · simp only [Option.some.injEq] at h
    subst h
    have := Workload.annotationAt_annotate w Marker.replicas Marker.replicas
      (recordText (w.replicas.getD defaultReplicas))
    simpa [Workload.annotationAt] using this

/-- Quiescing leaves the template alone, where no template counts as the empty one. -/
theorem podTemplate_quiesced {w w' : Workload} (h : quiesced w = some w') :
    w'.podTemplate.getD {} = w.podTemplate.getD {} := by
  unfold quiesced at h
  dsimp only at h
  split at h
  · simp at h
  · simp only [Option.some.injEq] at h
    subst h
    rw [Workload.podTemplate_setReplicas]
    simp [Workload.annotate]

end PodSwap.Scale
