import PodSwap.Object.Kubernetes
import PodSwap.Proofs.Engine.Replace
import PodSwap.Proofs.Engine.Revert

/-!
# A cluster with room for one pod

The smallest cluster on which a pod can be replaced: a stateful set that asks for two pods, up or
down, and at most one pod. A pod that is deleted is gone at once, and so is a pod of the stateful
set's when that is scaled. Every call takes a millisecond, and some may be refused.

Main statements: the cluster behaves as a store (`Slot.stores`), whose workload and replacements
others leave alone (`Slot.undisturbed`).
-/

namespace PodSwap

open Json Scale

/-- The state of the cluster. -/
structure Slot where
  pod : Option Pod := none
  phase : Phase := .up
  /-- How many calls were begun. -/
  calls : Nat := 0

namespace Slot

/-- The stateful set. -/
def key : WorkloadKey := ⟨.statefulSet, "default", "web"⟩

/-- The number of pods that the stateful set asks for while it is up. -/
def count : Int32 := 2

/-- The stateful set as it is written, with a record and a count. -/
def written (record : List (String × Json)) (n : Int) : Json :=
  .obj [("metadata", .obj [("annotations", .obj record), ("name", .str key.name),
      ("namespace", .str key.ns)]),
    ("spec", .obj [("replicas", .int n), ("selector", .obj []), ("template", .obj [])])]

/-- The stateful set as it is stored in a phase. -/
def doc : Phase → Json
  | .up => written [] 2
  | .down => written [(Marker.replicas, .str "2")] 0

/-- The patch that takes the stateful set out of a phase. -/
def patch : Phase → Json
  | .up => scalingPatch (some (recordText count)) 0
  | .down => scalingPatch none count

theorem merge_doc (ph : Phase) : merge (doc ph) (patch ph) = doc ph.flip := by
  cases ph <;> rfl

/-- Whether a value is that of a record, or that of none. -/
def isRecord : Option String → Json → Bool
  | none, .null => true
  | some text, .str text' => text' = text
  | _, _ => false

/-- Whether a value is the patch that sets a record, or removes it, and sets a count. -/
def scales (record : Option String) (n : Int32) : Json → Bool
  | .obj [(a, .obj [(b, .obj [(c, r)])]), (d, .obj [(e, .num m)])] =>
    (a = "metadata" && b = "annotations" && c = Marker.replicas && isRecord record r) &&
      (d = "spec" && e = "replicas" && m = .int n.toInt)
  | _ => false

theorem eq_of_isRecord {record : Option String} {r : Json} (h : isRecord record r = true) :
    r = (record.map .str).getD .null := by
  unfold isRecord at h
  split at h
  · rfl
  · rw [of_decide_eq_true h]
    rfl
  · cases h

theorem eq_of_scales {record : Option String} {n : Int32} {p : Json}
    (h : scales record n p = true) : p = scalingPatch record n := by
  unfold scales at h
  split at h
  · simp only [Bool.and_eq_true, decide_eq_true_eq] at h
    obtain ⟨⟨⟨⟨rfl, rfl⟩, rfl⟩, hr⟩, ⟨rfl, rfl⟩, rfl⟩ := h
    rw [eq_of_isRecord hr]
    rfl
  · cases h

/-- Whether a value is the patch that takes the stateful set out of a phase. -/
def isPatch : Phase → Json → Bool
  | .up => scales (some (recordText count)) 0
  | .down => scales none count

theorem eq_of_isPatch {ph : Phase} {p : Json} (h : isPatch ph p = true) : p = patch ph := by
  cases ph <;> exact eq_of_scales h

theorem doc_wellFormed (ph : Phase) : (doc ph).WellFormed := by
  cases ph <;>
    simp only [doc, written, int, WellFormed, WellFormedMembers, WellFormedMember] <;>
    decide

theorem doc_named (ph : Phase) : at? ["metadata", "name"] (doc ph) = some (.str key.name) ∧
    at? ["metadata", "namespace"] (doc ph) = some (.str key.ns) := by
  cases ph <;> exact ⟨rfl, rfl⟩

theorem scaled_doc (ph : Phase) : Scaled count ph (doc ph) := by
  cases ph with
  | up => exact ⟨⟨_, rfl, rfl⟩, ⟨some count, by decide, rfl⟩, rfl⟩
  | down => exact ⟨⟨_, rfl, rfl⟩, rfl, "2", rfl, by decide⟩

/-- The pod under a name. -/
def podAt (w : Slot) (ns name : String) : Option Pod :=
  w.pod.filter fun pod => pod.ns = ns && pod.name = name

/-- What the cluster stores. -/
def stored (w : Slot) : Stored where
  pods := w.podAt
  workloads key' := if key' = key then some (doc w.phase) else none
  pod_named h := by
    simpa using (Option.filter_eq_some_iff.mp h).2
  workload_wellFormed h := by
    split at h
    · cases h
      exact doc_wellFormed w.phase
    · cases h
  workload_named h := by
    split at h
    · rename_i hkey
      cases h
      rw [hkey]
      exact doc_named w.phase
    · cases h

/-- Creates a pod where there is none. -/
def create (w : Slot) (wanted : Pod) : Finish Slot Pod :=
  if w.pod.isSome || wanted.isTerminating then ⟨.error (.cluster "no room"), w, false⟩
  else ⟨.ok wanted, { w with pod := some wanted }, false⟩

/-- Deletes the pod, if it has the name. -/
def delete (w : Slot) (ns name : String) : Finish Slot Bool :=
  if (w.podAt ns name).isSome then ⟨.ok true, { w with pod := none }, false⟩
  else ⟨.ok false, w, false⟩

/-- Reads the stateful set, if it has the key. -/
def read (w : Slot) (key' : WorkloadKey) : Finish Slot (Option Workload) :=
  if key' = key then
    match Workload.ofJson key'.kind (doc w.phase) with
    | .ok workload => ⟨.ok (some workload), w, false⟩
    | .error _ => ⟨.error (.cluster "unreadable"), w, false⟩
  else ⟨.ok none, w, false⟩

/-- Scales the stateful set by a patch, and takes its pod away. -/
def scale (w : Slot) (key' : WorkloadKey) (p : Json) : Finish Slot Unit :=
  if key' = key ∧ isPatch w.phase p = true then
    ⟨.ok (), { w with phase := w.phase.flip, pod := w.pod.filter Pod.isReplacement }, false⟩
  else ⟨.error (.cluster "no patch of this kind"), w, false⟩

theorem stored_doc (w : Slot) : w.stored.workloads key = some (doc w.phase) := by
  show (if key = key then some (doc w.phase) else none) = some (doc w.phase)
  exact if_pos rfl

/-- What a call comes to that is not refused. -/
def answer (w : Slot) : (c : Call) → Finish Slot c.Answer
  | .getPod ns name => ⟨.ok (w.podAt ns name), w, false⟩
  | .listPods ns selector =>
    ⟨.ok (w.pod.filter fun pod => pod.ns = ns && satisfies pod.metadata.labelTable selector).toList,
      w, false⟩
  | .createPod wanted => w.create wanted
  | .deletePod ns name => w.delete ns name
  | .getWorkload kind ns name => w.read ⟨kind, ns, name⟩
  | .patchWorkload kind ns name p => w.scale ⟨kind, ns, name⟩ p

/-- The cluster, where it is said which of the calls are refused, by the number of calls begun. -/
def cluster (refuses : Nat → Bool) : Cluster Slot where
  call c :=
    { start := fun _ w => { w with calls := w.calls + 1 }
      span := fun _ => 1
      finish := fun _ w =>
        if refuses w.calls then ⟨.error (.cluster "refused"), w, false⟩ else w.answer c }

/-- What others do: they may take away pods that are no replacements. -/
def Drifts (s s' : Stored) : Prop :=
  s'.workloads = s.workloads ∧ ∀ ns name, s'.pods ns name = s.pods ns name ∨
    ∃ pod, s.pods ns name = some pod ∧ pod.isReplacement = false ∧ s'.pods ns name = none

theorem Drifts.refl (s : Stored) : Drifts s s := ⟨rfl, fun _ _ => .inl rfl⟩

theorem podAt_eq_some {w : Slot} {ns name : String} {pod : Pod} :
    w.podAt ns name = some pod ↔ w.pod = some pod ∧ pod.ns = ns ∧ pod.name = name := by
  simp [podAt, Option.filter_eq_some_iff]

theorem onlyPod_stored {w : Slot} {ns name : String} {pod' : Option Pod}
    (h : ∀ p, w.pod = some p ∨ pod' = some p → p.ns = ns ∧ p.name = name) :
    Stored.OnlyPod ns name w.stored { w with pod := pod' }.stored := by
  refine ⟨fun ns' name' hne => ?_, rfl⟩
  have hother : ∀ p, w.pod = some p ∨ pod' = some p → ¬ (p.ns = ns' ∧ p.name = name') := by
    rintro p hp ⟨rfl, rfl⟩
    obtain ⟨hns, hname⟩ := h p hp
    exact hne (by rw [hns, hname])
  have hnone : ∀ q : Option Pod, (∀ p, q = some p → w.pod = some p ∨ pod' = some p) →
      (q.filter fun p => p.ns = ns' && p.name = name') = none := by
    intro q hq
    cases q with
    | none => rfl
    | some p =>
      apply Option.filter_some_neg
      simpa using hother p (hq p rfl)
  exact (hnone pod' fun p hp => .inr hp).trans (hnone w.pod fun p hp => .inl hp).symm

section

variable {w : Slot}

theorem create_answers {wanted pod : Pod} (h : (w.create wanted).result = .ok pod) :
    w.stored.Answers (.createPod wanted) pod (w.create wanted).world.stored := by
  unfold create at h ⊢
  split at h
  · cases h
  · rename_i hroom
    cases h
    simp only [Bool.or_eq_true, not_or, Bool.not_eq_true, Option.isSome_eq_false_iff,
      Option.isNone_iff_eq_none] at hroom
    obtain ⟨hfree, hlive⟩ := hroom
    rw [if_neg (by simp [hfree, hlive])]
    refine ⟨⟨rfl, rfl, rfl, hlive⟩, ?_, ?_, onlyPod_stored ?_⟩
    · simp [stored, podAt, hfree]
    · exact (podAt_eq_some (w := { w with pod := some wanted })).mpr ⟨rfl, rfl, rfl⟩
    · intro p hp
      rcases hp with hp | hp
      · rw [hfree] at hp
        cases hp
      · cases hp
        exact ⟨rfl, rfl⟩

theorem delete_answers {ns name : String} {found : Bool}
    (h : (w.delete ns name).result = .ok found) :
    w.stored.Answers (.deletePod ns name) found (w.delete ns name).world.stored := by
  unfold delete at h ⊢
  cases hpod : w.podAt ns name with
  | none =>
    rw [hpod] at h
    cases h
    exact ⟨hpod, rfl⟩
  | some pod =>
    rw [hpod] at h
    cases h
    show w.stored.Answers (.deletePod ns name) true { w with pod := none }.stored
    refine ⟨⟨pod, hpod⟩, (fun p hp => by cases hp), onlyPod_stored fun p hp => ?_⟩
    obtain ⟨hthere, hns, hname⟩ := podAt_eq_some.mp hpod
    rcases hp with hp | hp
    · rw [hthere] at hp
      cases hp
      exact ⟨hns, hname⟩
    · cases hp

theorem read_answers {kind : WorkloadKind} {ns name : String} {workload : Option Workload}
    (h : (w.read ⟨kind, ns, name⟩).result = .ok workload) :
    w.stored.Answers (.getWorkload kind ns name) workload
      (w.read ⟨kind, ns, name⟩).world.stored := by
  unfold read at h ⊢
  split at h
  · rename_i hkey
    rw [if_pos hkey]
    cases hread : Workload.ofJson kind (doc w.phase) with
    | error _ =>
      simp only [hread] at h
      cases h
    | ok workload' =>
      simp only [hread] at h ⊢
      cases h
      exact ⟨⟨doc w.phase, if_pos hkey, hread⟩, rfl⟩
  · rename_i hkey
    rw [if_neg hkey]
    cases h
    exact ⟨if_neg hkey, rfl⟩

theorem scale_answers {kind : WorkloadKind} {ns name : String} {p : Json}
    (h : (w.scale ⟨kind, ns, name⟩ p).result = .ok ()) :
    ∃ s', w.stored.Answers (.patchWorkload kind ns name p) () s' ∧
      Drifts s' (w.scale ⟨kind, ns, name⟩ p).world.stored := by
  unfold scale at h ⊢
  split at h
  · rename_i hpatch
    rw [if_pos hpatch]
    refine ⟨{ w with phase := w.phase.flip }.stored, ⟨⟨doc w.phase, if_pos hpatch.1, ?_⟩,
      ?_, rfl⟩, rfl, ?_⟩
    · rw [eq_of_isPatch hpatch.2, merge_doc]
      exact if_pos hpatch.1
    · intro key' hne
      have hother : key' ≠ key := hpatch.1 ▸ hne
      exact (if_neg hother).trans (if_neg hother).symm
    · intro ns' name'
      -- the pod of the stateful set goes, and no replacement does
      show (w.pod.filter Pod.isReplacement).filter _ = w.pod.filter _ ∨ _
      cases hpod : w.pod with
      | none => exact .inl rfl
      | some pod =>
        cases hmarked : pod.isReplacement with
        | true => exact .inl (by rw [Option.filter_some_pos hmarked])
        | false =>
          rw [Option.filter_some_neg (by simp [hmarked])]
          cases hthere : w.podAt ns' name' with
          | none =>
            rw [podAt, hpod] at hthere
            exact .inl hthere.symm
          | some pod' =>
            obtain ⟨hsame, -⟩ := podAt_eq_some.mp hthere
            rw [hpod] at hsame
            cases hsame
            rw [podAt, hpod] at hthere
            exact .inr ⟨pod, hthere, hmarked, rfl⟩
  · cases h

/-- The cluster answers as a store does, but for what others do after it. -/
theorem answers_of_answer {c : Call} {a : c.Answer} (h : (w.answer c).result = .ok a) :
    ∃ s', w.stored.Answers c a s' ∧ Drifts s' (w.answer c).world.stored := by
  cases c with
  | getPod ns name =>
    cases h
    exact ⟨_, ⟨rfl, rfl⟩, .refl _⟩
  | listPods ns selector =>
    cases h
    refine ⟨_, ⟨fun pod => ?_, rfl⟩, .refl _⟩
    simp only [Option.mem_toList, Option.filter_eq_some_iff, Bool.and_eq_true,
      decide_eq_true_eq]
    constructor
    · rintro ⟨hthere, hns, hfits⟩
      exact ⟨⟨pod.name, podAt_eq_some.mpr ⟨hthere, hns, rfl⟩⟩, hfits⟩
    · rintro ⟨⟨name, hpod⟩, hfits⟩
      obtain ⟨hthere, hns, -⟩ := podAt_eq_some.mp hpod
      exact ⟨hthere, hns, hfits⟩
  | createPod wanted => exact ⟨_, create_answers h, .refl _⟩
  | deletePod ns name => exact ⟨_, delete_answers h, .refl _⟩
  | getWorkload kind ns name => exact ⟨_, read_answers h, .refl _⟩
  | patchWorkload kind ns name p => exact scale_answers h

/-- A call that comes to an error changes nothing. -/
theorem answer_of_error {c : Call} {e : Error} (h : (w.answer c).result = .error e) :
    (w.answer c).world = w := by
  cases c with
  | getPod ns name => cases h
  | listPods ns selector => cases h
  | createPod wanted =>
    show (w.create wanted).world = w
    replace h : (w.create wanted).result = .error e := h
    unfold create at h ⊢
    split at h
    · rename_i hroom
      rw [if_pos hroom]
    · cases h
  | deletePod ns name =>
    replace h : (w.delete ns name).result = .error e := h
    unfold delete at h
    split at h <;> cases h
  | getWorkload kind ns name =>
    show (w.read ⟨kind, ns, name⟩).world = w
    unfold read
    split
    · split <;> rfl
    · rfl
  | patchWorkload kind ns name p =>
    show (w.scale ⟨kind, ns, name⟩ p).world = w
    replace h : (w.scale ⟨kind, ns, name⟩ p).result = .error e := h
    unfold scale at h ⊢
    split at h
    · cases h
    · rename_i hpatch
      rw [if_neg hpatch]

end

/-- The cluster behaves as a store. -/
theorem stores (refuses : Nat → Bool) : (cluster refuses).Stores stored Drifts where
  begins _ _ w := .refl w.stored
  fails c now w e h := by
    have hkept : (((cluster refuses).call c).finish now w).world = w := by
      simp only [cluster] at h ⊢
      split at h
      · rename_i hrefused
        rw [if_pos hrefused]
      · rename_i hrefused
        rw [if_neg hrefused]
        exact answer_of_error h
    rw [hkept]
    exact .refl w.stored
  answers c now w a h := by
    simp only [cluster] at h ⊢
    split at h
    · cases h
    · rename_i hrefused
      rw [if_neg hrefused]
      obtain ⟨s', hs', hdrift⟩ := answers_of_answer h
      exact ⟨_, s', .refl _, hs', hdrift⟩

/-- Others leave the stateful set and every sort of replacements alone. -/
theorem undisturbed {sort : Pod → Bool} (h : ∀ pod, sort pod = true → pod.isReplacement = true) :
    Undisturbed Drifts key sort where
  workload s s' d hdrift hd := ⟨d, by rw [hdrift.1, hd], Iff.rfl, rfl, rfl⟩
  pods s s' hdrift := by
    funext ns name
    rcases hdrift.2 ns name with heq | ⟨pod, hpod, hunmarked, hnone⟩
    · rw [Stored.those, heq]
      rfl
    · have hsort : sort pod = false := by
        cases hs : sort pod with
        | false => rfl
        | true => exact absurd (h pod hs) (by simp [hunmarked])
      rw [Stored.those, Stored.those, hpod, hnone, ofSort, ofSort,
        Option.filter_some_neg (by simp [hsort])]
      rfl

/-! ## The engine on it -/

/-- Settings by which everything is looked at once. -/
def impatient : Settings where
  findReplacedTimeoutSecs := 0
  revertFindTimeoutSecs := 0
  selectTimeoutSecs := 0
  terminationTimeoutSecs := 0

/-- The engine on the cluster, for which every name and every expression is an image. -/
def engine (refuses : Nat → Bool) : Engine Slot where
  cluster := cluster refuses
  images := ⟨fun name => .ok [name], fun expression => .ok expression⟩
  settings := impatient

theorem engine_stores (refuses : Nat → Bool) :
    (engine refuses).cluster.Stores stored Drifts :=
  stores refuses

/-- A run that begins now. -/
def begin (w : Slot) : Run Slot := ⟨0, none, w⟩

/-- The labels of the pods of the stateful set: one of their own, and one that the controller puts
on them. -/
def labels : SortedMap String :=
  (SortedMap.empty.insert "app" "web").insert "pod-template-hash" "5d4"

/-- The labels that pods are selected by. -/
def selector : SortedMap String := SortedMap.empty.insert "app" "web"

/-- A spec that selects by labels. -/
def spec (selector : SortedMap String) : Spec := { labelSelector := some selector }

/-- The pod of the stateful set. -/
def target : Pod where
  metadata :=
    { name := some "web-0"
      ns := some key.ns
      labels := some labels
      ownerReferences :=
        some [{ kind := key.kind.text, name := key.name, controller := some true }] }
  spec := some { containers := [{ name := "main" }] }

/-- A replacement for a pod of the stateful set, with markers that lead back to it. -/
def standIn : Pod where
  metadata :=
    { name := some "web-0-devspace"
      ns := some key.ns
      labels := some (selector.insert Marker.replaced "true")
      annotations := some ((SortedMap.empty.insert Marker.parentKind key.kind.text).insert
        Marker.parentName key.name) }
  spec := some { containers := [{ name := "main" }] }

section

variable {refuses : Nat → Bool} {ns : String} {s : Spec} {selection : Selection}
  {images : List String}

theorem revert_timeout : ((engine refuses).noted.replacementOptions ns s selection
    (engine refuses).noted.settings.revertFindTimeout).timeoutMs = 0 := Nat.zero_mul _

theorem find_timeout : ((engine refuses).noted.replacementOptions ns s selection
    (engine refuses).noted.settings.findReplacedTimeout).timeoutMs = 0 := Nat.zero_mul _

theorem target_timeout :
    ((engine refuses).noted.targetOptions ns s selection images).timeoutMs = 0 := Nat.zero_mul _

theorem termination_timeout : (engine refuses).noted.settings.terminationTimeout = 0 :=
  Nat.zero_mul _

end

/-- The only pod that there is, if it matches. -/
theorem only {w : Slot} (opts : SelectOptions) {pod : Pod} (h : w.pod = some pod)
    (hns : pod.ns = opts.ns) (hmatch : opts.matches pod = true) : w.stored.Only opts pod where
  stored := podAt_eq_some.mpr ⟨h, hns, rfl⟩
  matching := hmatch
  only name q hq _ := by
    obtain ⟨hthere, -⟩ := podAt_eq_some.mp hq
    rw [h] at hthere
    exact (Option.some.inj hthere).symm

/-- A replacement on the cluster. -/
def replace (refuses : Nat → Bool) (w : Slot) :
    Except Error Outcome × Run (Slot × List CallEvent) :=
  (engine refuses).replacing (spec selector) (begin w)

/-- A revert on the cluster. -/
def revert (refuses : Nat → Bool) (w : Slot) :
    Except Error (Option SelectedPod) × Run (Slot × List CallEvent) :=
  (engine refuses).reverting (spec selector) (begin w)

/-- The stateful set is down, and the replacement stands. -/
def replaced : Slot := { pod := some standIn, phase := .down }

/-- The replacement is what is found while it stands. -/
theorem finds_standIn (refuses : Nat → Bool) (timeoutMs : Nat) : PodTable.Finds
    replaced.stored.pods ((engine refuses).replacementOptions key.ns (spec selector)
      (.labels selector) timeoutMs) standIn := by
  have hmatch : ((engine fun _ => false).replacementOptions key.ns (spec selector)
      (.labels selector) 0).matches standIn = true := by decide
  refine (only (w := replaced) _ rfl rfl ?_).finds
  exact hmatch

/-- The stateful set asks for its pods only while it is up. -/
theorem restored_iff {w : Slot} : w.stored.Restored key count ↔ w.phase = .up := by
  have hdoc : w.stored.workloads key = some (doc w.phase) := stored_doc w
  unfold Stored.Restored Stored.field
  rw [hdoc]
  cases w.phase with
  | up => exact iff_of_true ⟨rfl, rfl⟩ rfl
  | down => exact iff_of_false (fun h => by cases h.2) Phase.noConfusion

end Slot

end PodSwap
