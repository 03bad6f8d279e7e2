import PodSwap.Proofs.Scale.Phase
import PodSwap.Proofs.Store.Basic

/-!
# Keeping count of what a run does

In a run on a store one workload and one sort of pods are watched, of which others keep their hands
off. The ledger says how often the workload was patched, and with that in which phase it is; which
pods were created and deleted, and with that which pods of the sort there are; and that all else of
the workload is as it was.

Main statements: others leave the ledger as it is (`Watch.Ledger.stable`), and it is kept over every
change: deletions (`Watch.Ledger.delete`), creations (`Watch.Ledger.create`) and the patches that
scale the workload down and up (`Watch.Ledger.quiesce`, `Watch.Ledger.restore`).
-/

namespace PodSwap

open Json Scale

variable [Schema]

/-! ## Pods of a sort -/

/-- What makes a pod the pod that it is: its name, its marks, its age and its containers, and
whether it is on its way out. All else of it the cluster may write while it runs. -/
def Pod.essence (pod : Pod) : Pod where
  metadata :=
    { name := pod.metadata.name
      ns := pod.metadata.ns
      creationTimestamp := pod.metadata.creationTimestamp
      deletionTimestamp := pod.metadata.deletionTimestamp
      labels := pod.metadata.labels
      annotations := pod.metadata.annotations }
  spec := pod.spec.map fun spec =>
    { containers := spec.containers, initContainers := spec.initContainers }

theorem Pod.name_of_essence {p q : Pod} (h : p.essence = q.essence) : p.name = q.name := by
  show p.essence.name = q.essence.name
  rw [h]

theorem Pod.annotations_of_essence {p q : Pod} (h : p.essence = q.essence) :
    p.metadata.annotations = q.metadata.annotations := by
  show p.essence.metadata.annotations = q.essence.metadata.annotations
  rw [h]

/-- Whether a pod is marked as a replacement. -/
def Pod.isReplacement (pod : Pod) : Bool := pod.metadata.labelTable.contains Marker.replaced

/-- Pods by namespace and name. -/
abbrev PodTable := String → String → Option Pod

/-- The table with a pod, or none, under a name. -/
def PodTable.set (t : PodTable) (ns name : String) (pod : Option Pod) : PodTable :=
  fun ns' name' => if ns' = ns ∧ name' = name then pod else t ns' name'

/-- The pod, if it is of the sort and not on its way out. -/
def ofSort (sort : Pod → Bool) (pod : Option Pod) : Option Pod :=
  (pod.filter fun p => !p.isTerminating && sort p).map Pod.essence

/-- The pods of a sort that are not on their way out. -/
def Stored.those (s : Stored) (sort : Pod → Bool) : PodTable :=
  fun ns name => ofSort sort (s.pods ns name)

/-- Whether the change is one of a pod. -/
def Mutation.isOfPod : Mutation → Bool
  | .created _ => true
  | .deleted _ _ => true
  | .patched _ _ => false

/-- Whether the change is a patch of a workload. -/
def Mutation.isPatchOf (key : WorkloadKey) : Mutation → Bool
  | .patched key' _ => key' = key
  | _ => false

/-- How changes turn the pods of a sort into others. A pod is created only where none is. -/
def Turns (sort : Pod → Bool) : PodTable → List Mutation → PodTable → Prop
  | t, [], t' => t' = t
  | t, .created pod :: m, t' =>
    t pod.ns pod.name = none ∧ Turns sort (t.set pod.ns pod.name (ofSort sort (some pod))) m t'
  | t, .deleted ns name :: m, t' => Turns sort (t.set ns name none) m t'
  | t, .patched _ _ :: m, t' => Turns sort t m t'

theorem Turns.append {sort : Pod → Bool} {t t' t'' : PodTable} {m m' : List Mutation}
    (h : Turns sort t m t') (h' : Turns sort t' m' t'') : Turns sort t (m ++ m') t'' := by
  induction m generalizing t with
  | nil =>
    cases h
    exact h'
  | cons x m ih =>
    cases x with
    | created pod => exact ⟨h.1, ih h.2⟩
    | deleted ns name => exact ih h
    | patched key patch => exact ih h

namespace Stored

variable {sort : Pod → Bool} {s s' : Stored} {ns name : String}

theorem those_of_onlyWorkload {key : WorkloadKey} (h : OnlyWorkload key s s') :
    s'.those sort = s.those sort := by
  funext ns name
  rw [those, those, h.2]

theorem those_of_onlyPod (h : OnlyPod ns name s s') :
    s'.those sort = (s.those sort).set ns name (ofSort sort (s'.pods ns name)) := by
  funext ns' name'
  unfold PodTable.set
  by_cases heq : ns' = ns ∧ name' = name
  · rw [if_pos heq, heq.1, heq.2]
    rfl
  · rw [if_neg heq]
    have hne : (ns', name') ≠ (ns, name) := fun hp => heq (Prod.mk.injEq .. ▸ hp)
    rw [those, h.1 ns' name' hne]
    rfl

/-- A pod of the sort is stored under its name. -/
theorem pod_of_those {pod : Pod} (h : s.those sort ns name = some pod) :
    ∃ p, s.pods ns name = some p ∧ p.isTerminating = false ∧ sort p = true ∧
      p.essence = pod := by
  obtain ⟨p, hp, hessence⟩ := Option.map_eq_some_iff.mp h
  obtain ⟨hstored, hsort⟩ := Option.filter_eq_some_iff.mp hp
  simp only [Bool.and_eq_true, Bool.not_eq_true'] at hsort
  exact ⟨p, hstored, hsort.1, hsort.2, hessence⟩

/-- What is read of a stored workload has the key that it is stored under. -/
theorem key_of_read {s : Stored} {key : WorkloadKey} {d : Json} {w : Workload}
    (hd : s.workloads key = some d) (hw : Workload.ofJson key.kind d = .ok w) : w.key = key := by
  have hwf := s.workload_wellFormed hd
  obtain ⟨hname, hns⟩ := s.workload_named hd
  rw [Workload.key, Workload.kind_of_read hw, Workload.ns_of_read hwf hw hns,
    Workload.name_of_read hwf hw hname]

theorem those_of_pod {p : Pod} (h : s.pods ns name = some p) (hlive : p.isTerminating = false)
    (hsort : sort p = true) : s.those sort ns name = some p.essence := by
  simp [those, ofSort, h, hlive, hsort]

end Stored

/-! ## What others leave alone -/

/-- Others leave alone the scale of a workload and the pods of a sort: they change neither the count
of the workload nor its record, and make, change or remove no pod of the sort. -/
structure Undisturbed (drift : Stored → Stored → Prop) (key : WorkloadKey) (sort : Pod → Bool) :
    Prop where
  workload : ∀ s s' d, drift s s' → s.workloads key = some d →
    ∃ d', s'.workloads key = some d' ∧ SameScale d d'
  pods : ∀ s s', drift s s' → s'.those sort = s.those sort

/-- The value at a path of a workload, where it is stored. -/
def Stored.field (s : Stored) (key : WorkloadKey) (path : List String) : Option Json :=
  (s.workloads key).bind (at? path)

theorem Stored.field_of_workloads {s : Stored} {key : WorkloadKey} {d : Json}
    (h : s.workloads key = some d) (path : List String) : s.field key path = at? path d := by
  rw [Stored.field, h]
  rfl

/-- What is watched in a run: a workload, with the number of pods it asks for, and a sort of pods,
from a state in which the workload is in a phase. -/
structure Watch where
  drift : Stored → Stored → Prop
  key : WorkloadKey
  count : Int32
  sort : Pod → Bool
  start : Stored
  phase : Phase

/-- Whether a stored workload asks for `n` pods, without a record. -/
def Stored.Restored (s : Stored) (key : WorkloadKey) (n : Int32) : Prop :=
  s.field key replicasPath = some (.int n.toInt) ∧ s.field key recordPath = none

namespace Watch

variable (o : Watch)

/-- Whether others leave alone what stands at a path of the workload. -/
def Kept (path : List String) : Prop :=
  ∀ s s', o.drift s s' → s'.field o.key path = s.field o.key path

/-- The ledger of a run after `k` patches of the workload and the changes `L` of pods. -/
structure Ledger (k : Nat) (L : List Mutation) (s : Stored) (m : List Mutation) : Prop where
  workload : ∃ d, s.workloads o.key = some d ∧ Scaled o.count (o.phase.after k) d ∧
    (0 < k → o.phase.after k = .up → at? replicasPath d = some (.int o.count.toInt))
  unpatched : k = 0 → s.field o.key replicasPath = o.start.field o.key replicasPath
  elsewhere : ∀ path, Elsewhere path → o.Kept path →
    s.field o.key path = o.start.field o.key path
  patches : m.countP (·.isPatchOf o.key) = k
  pods : m.filter (·.isOfPod) = L
  turns : Turns o.sort (o.start.those o.sort) L (s.those o.sort)

variable {o} {k : Nat} {L m : List Mutation} {s s' : Stored}

namespace Ledger

/-- The ledger at the beginning. -/
theorem begin {d : Json} (hd : o.start.workloads o.key = some d)
    (hs : Scaled o.count o.phase d) : o.Ledger 0 [] o.start [] where
  workload := ⟨d, hd, hs, fun h => absurd h (Nat.lt_irrefl 0)⟩
  unpatched := fun _ => rfl
  elsewhere := fun _ _ _ => rfl
  patches := rfl
  pods := rfl
  turns := rfl

/-- Others leave the ledger as it is. -/
theorem stable (still : Undisturbed o.drift o.key o.sort) : Stable o.drift (o.Ledger k L) := by
  intro s s' m hdrift h
  obtain ⟨d, hd, hs, hexact⟩ := h.workload
  obtain ⟨d', hd', hsame⟩ := still.workload s s' d hdrift hd
  refine ⟨⟨d', hd', hs.congr hsame, ?_⟩, ?_, ?_,
    h.patches, h.pods, ?_⟩
  · intro hk hup
    rw [hsame.replicas]
    exact hexact hk hup
  · intro hk
    rw [← h.unpatched hk, Stored.field, Stored.field, hd, hd']
    exact hsame.replicas
  · intro path hpath hkept
    rw [hkept s s' hdrift]
    exact h.elsewhere path hpath hkept
  · rw [still.pods s s' hdrift]
    exact h.turns

/-- As long as no pod was created or deleted, the pods of the sort are those of the beginning. -/
theorem those_eq (h : o.Ledger k [] s m) : s.those o.sort = o.start.those o.sort := h.turns

/-- A workload that is up after a patch asks for as many pods as before it was taken down. -/
theorem restored (h : o.Ledger k L s m) (hk : 0 < k) (hup : o.phase.after k = .up) :
    s.Restored o.key o.count := by
  obtain ⟨d, hd, hs, hexact⟩ := h.workload
  rw [hup] at hs
  rw [Stored.Restored, Stored.field, Stored.field, hd]
  exact ⟨hexact hk hup, hs.2.2⟩

/-- A workload that was down is restored exactly if it is up. -/
theorem restored_iff (h : o.Ledger k L s m) (hdown : o.phase = .down) :
    s.Restored o.key o.count ↔ o.phase.after k = .up := by
  constructor
  · intro hr
    obtain ⟨d, hd, hs, -⟩ := h.workload
    cases hph : o.phase.after k with
    | up => rfl
    | down =>
      rw [hph] at hs
      obtain ⟨-, -, t, ht, -⟩ := hs
      have hnone := hr.2
      rw [Stored.field, hd, Option.bind_some, ht] at hnone
      cases hnone
  · intro hup
    refine h.restored (Nat.pos_of_ne_zero ?_) hup
    rintro rfl
    rw [Phase.after, hdown] at hup
    cases hup

/-- A workload that was restored is so as long as it is up. -/
theorem still_restored (h : o.Ledger k L s m) (hup : o.phase.after k = .up)
    (hstart : o.start.Restored o.key o.count) : s.Restored o.key o.count := by
  rcases Nat.eq_zero_or_pos k with hk | hk
  · obtain ⟨d, hd, hs, -⟩ := h.workload
    rw [hup] at hs
    refine ⟨(h.unpatched hk).trans hstart.1, ?_⟩
    rw [Stored.field, hd]
    exact hs.2.2
  · exact h.restored hk hup

/-- A change of pods was made exactly if it is in the ledger. -/
theorem mem_iff (h : o.Ledger k L s m) {x : Mutation} (hx : x.isOfPod = true) :
    x ∈ m ↔ x ∈ L := by
  rw [← h.pods, List.mem_filter]
  exact ⟨fun hm => ⟨hm, hx⟩, And.left⟩

/-- The workload was patched exactly if the ledger counts a patch. -/
theorem patched_iff (h : o.Ledger k L s m) : (∃ patch, .patched o.key patch ∈ m) ↔ 0 < k := by
  rw [← h.patches, List.countP_pos_iff]
  constructor
  · rintro ⟨patch, hm⟩
    exact ⟨_, hm, decide_eq_true rfl⟩
  · rintro ⟨x, hm, hx⟩
    cases x with
    | created pod => cases hx
    | deleted ns name => cases hx
    | patched key patch =>
      cases of_decide_eq_true hx
      exact ⟨patch, hm⟩

theorem workload_isSome (h : o.Ledger k L s m) : s.workloads o.key ≠ none := by
  obtain ⟨d, hd, -⟩ := h.workload
  rw [hd]
  simp

/-- What is read of the workload is in its phase. -/
theorem inPhase_of_read (h : o.Ledger k L s m) {w : Workload} {d : Json}
    (hd : s.workloads o.key = some d) (hw : Workload.ofJson o.key.kind d = .ok w) :
    InPhase o.count (o.phase.after k) w := by
  obtain ⟨d', hd', hs, -⟩ := h.workload
  rw [hd] at hd'
  cases hd'
  exact Scale.inPhase_of_read (s.workload_wellFormed hd) hw hs

/-- A change of pods alone leaves the workload as it is. -/
theorem of_onlyPod (h : o.Ledger k L s m) {x : Mutation} {ns name : String}
    (hx : x.isOfPod = true) (hs : Stored.OnlyPod ns name s s')
    (hturn : Turns o.sort (s.those o.sort) [x] (s'.those o.sort)) :
    o.Ledger k (L ++ [x]) s' (m ++ [x]) where
  workload := by
    rw [hs.2]
    exact h.workload
  unpatched hk := by
    rw [Stored.field, hs.2]
    exact h.unpatched hk
  elsewhere path hpath hkept := by
    rw [Stored.field, hs.2]
    exact h.elsewhere path hpath hkept
  patches := by
    have hpatch : x.isPatchOf o.key = false := by
      cases x <;> first | rfl | cases hx
    rw [List.countP_append, h.patches]
    simp [hpatch]
  pods := by
    rw [List.filter_append, h.pods]
    simp [hx]
  turns := h.turns.append hturn

/-- A pod that is deleted is none of the pods of the sort any more. -/
theorem delete (h : o.Ledger k L s m) {ns name : String}
    (ha : s.Answers (.deletePod ns name) true s') :
    o.Ledger k (L ++ [.deleted ns name]) s' (m ++ [.deleted ns name]) := by
  obtain ⟨-, hgone, honly⟩ := ha
  apply h.of_onlyPod rfl honly
  show s'.those o.sort = _
  rw [Stored.those_of_onlyPod honly]
  congr 1
  cases hp : s'.pods ns name with
  | none => rfl
  | some pod => simp [ofSort, hgone pod hp]

/-- A pod that is created is one of the pods of the sort, if it is of the sort. -/
theorem create (h : o.Ledger k L s m) {wanted pod : Pod}
    (ha : s.Answers (.createPod wanted) pod s') :
    o.Ledger k (L ++ [.created pod]) s' (m ++ [.created pod]) := by
  obtain ⟨-, hfree, hstored, honly⟩ := ha
  refine h.of_onlyPod rfl honly ⟨?_, ?_⟩
  · rw [Stored.those, hfree]
    rfl
  · show s'.those o.sort = _
    rw [Stored.those_of_onlyPod honly, hstored]

/-- A patch of another workload is none of this one. -/
theorem patch_other (h : o.Ledger k L s m) {kind : WorkloadKind} {ns name : String} {patch : Json}
    (hkey : (⟨kind, ns, name⟩ : WorkloadKey) ≠ o.key)
    (ha : s.Answers (.patchWorkload kind ns name patch) () s') :
    o.Ledger k L s' (m ++ [.patched ⟨kind, ns, name⟩ patch]) where
  workload := by
    rw [ha.2.1 o.key (Ne.symm hkey)]
    exact h.workload
  unpatched hk := by
    rw [Stored.field, ha.2.1 o.key (Ne.symm hkey)]
    exact h.unpatched hk
  elsewhere path hpath hkept := by
    rw [Stored.field, ha.2.1 o.key (Ne.symm hkey)]
    exact h.elsewhere path hpath hkept
  patches := by
    rw [List.countP_append, h.patches]
    simp [Mutation.isPatchOf, hkey]
  pods := by
    rw [List.filter_append, h.pods]
    simp [Mutation.isOfPod]
  turns := by
    rw [Stored.those_of_onlyWorkload ha.2]
    exact h.turns

/-- A patch that scales the workload, as one that takes it to the next phase. -/
theorem scale (h : o.Ledger k L s m) {record : Option String} {c : Int32}
    (hscaled : ∀ d, Scaled o.count (o.phase.after (k + 1)) (merge d (scalingPatch record c)))
    (hexact : o.phase.after (k + 1) = .up → c = o.count)
    (ha : s.Answers (.patchWorkload o.key.kind o.key.ns o.key.name (scalingPatch record c)) () s') :
    o.Ledger (k + 1) L s' (m ++ [.patched o.key (scalingPatch record c)]) := by
  obtain ⟨⟨d, hd, hd'⟩, honly⟩ := ha
  refine ⟨⟨_, hd', hscaled d, ?_⟩, fun hk => absurd hk (Nat.succ_ne_zero k), ?_, ?_, ?_, ?_⟩
  · intro _ hup
    rw [replicas_merge_scalingPatch, hexact hup]
  · intro path hpath hkept
    rw [← h.elsewhere path hpath hkept, Stored.field, Stored.field, hd,
      show s'.workloads o.key = some (merge d (scalingPatch record c)) from hd']
    exact at?_merge_scalingPatch record c hpath d
  · rw [List.countP_append, h.patches]
    simp [Mutation.isPatchOf]
  · rw [List.filter_append, h.pods]
    simp [Mutation.isOfPod]
  · rw [Stored.those_of_onlyWorkload honly]
    exact h.turns

/-- The patch that quiesces the workload takes it down. -/
theorem quiesce (h : o.Ledger k L s m) (hn : 0 < o.count) (hup : o.phase.after k = .up)
    (ha : s.Answers (.patchWorkload o.key.kind o.key.ns o.key.name
      (scalingPatch (some (recordText o.count)) 0)) () s') :
    o.Ledger (k + 1) L s' (m ++ [.patched o.key (scalingPatch (some (recordText o.count)) 0)]) := by
  have hdown : o.phase.after (k + 1) = .down := by rw [Phase.after, hup, Phase.flip]
  refine h.scale ?_ ?_ ha
  · intro d
    rw [hdown]
    exact scaled_down_merge hn d
  · intro hup'
    rw [hdown] at hup'
    cases hup'

/-- The patch that restores the workload takes it up. -/
theorem restore (h : o.Ledger k L s m) (hdown : o.phase.after k = .down)
    (ha : s.Answers (.patchWorkload o.key.kind o.key.ns o.key.name
      (scalingPatch none o.count)) () s') :
    o.Ledger (k + 1) L s' (m ++ [.patched o.key (scalingPatch none o.count)]) := by
  have hup : o.phase.after (k + 1) = .up := by rw [Phase.after, hdown, Phase.flip]
  refine h.scale ?_ (fun _ => rfl) ha
  intro d
  rw [hup]
  exact scaled_up_merge o.count d

end Ledger

end Watch

end PodSwap
