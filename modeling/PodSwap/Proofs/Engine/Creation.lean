import PodSwap.Proofs.Engine.Undertaking

/-!
# What has to come before a creation

Two pods with one identity are what a replacement has to avoid. So the replacement of a pod is
created only when its parent asks for no more pods, and when the pod is known to be gone. Where the
next pod of the parent has another name it is enough that the pod is on its way; for a stateful set
it is not, however long it has been so.

Main statement: `creates_only_vacated`.
-/

namespace PodSwap

variable [Schema]

variable {σ : Type}

/-- What an event tells of a pod that was looked for. -/
def CallEvent.look? (ns name : String) : CallEvent → Option (Except Error (Option Pod))
  | .answered _ (.getPod ns' name') x => if ns' = ns ∧ name' = name then some x else none
  | _ => none

/-- The last answer about a pod. -/
def lastLook (ns name : String) (events : List CallEvent) : Option (Except Error (Option Pod)) :=
  events.findSome? (CallEvent.look? ns name)

theorem lastLook_answered (ns name : String) (now : Nat) (x : Except Error (Option Pod))
    (events : List CallEvent) :
    lastLook ns name (.answered now (.getPod ns name) x :: events) = some x := by
  have hlook : CallEvent.look? ns name (.answered now (.getPod ns name) x) = some x := by
    simp only [CallEvent.look?, and_self, if_true]
  unfold lastLook
  rw [List.findSome?_cons, hlook]

/-- A pod that has terminated, as it was seen, is gone or, where that is enough, on its way. -/
theorem Termination.hasTerminated_iff {kind : WorkloadKind} {found : Option Pod} :
    hasTerminated kind found = true ↔ ∀ pod, found = some pod →
      pod.isTerminating = true ∧ (kind = .deployment ∨ kind = .replicaSet) := by
  cases found with
  | none => exact iff_of_true rfl fun pod h => by cases h
  | some pod =>
    constructor
    · rintro h pod' ⟨⟩
      obtain ⟨hterminating, hkind⟩ := Bool.and_eq_true_iff.mp h
      refine ⟨hterminating, ?_⟩
      cases kind with
      | deployment => exact .inl rfl
      | replicaSet => exact .inr rfl
      | statefulSet => cases hkind
    · intro h
      obtain ⟨hterminating, hkind⟩ := h pod rfl
      refine Bool.and_eq_true_iff.mpr ⟨hterminating, ?_⟩
      rcases hkind with rfl | rfl <;> rfl

namespace Engine

/-- What is so of a pod and its parent before the replacement is created, by the history up to where
they were found and the one up to the creation. -/
structure Vacated (target : SelectedPod) (parent : Workload) (sought earlier : List CallEvent) :
    Prop where
  /-- The parent asked for no pods when it was found, or it was scaled down since. -/
  down : parent.replicas = some 0 ∨
    ∃ since, earlier = since ++ sought ∧ Scale.Acknowledged parent since
  /-- When the pod was last looked for it was gone or, unless its parent is a stateful set, on its
  way. -/
  gone : ∃ found, lastLook target.pod.ns target.pod.name earlier = some (.ok found) ∧
    ∀ pod, found = some pod →
      pod.isTerminating = true ∧ (parent.kind = .deployment ∨ parent.kind = .replicaSet)

/-- A creation comes after a pod and its parent were found, and with the pod's place vacated. -/
def CreatesVacated (e : Engine σ) (spec : Spec) (r : Run σ) (c : Call) (earlier : List CallEvent) :
    Prop :=
  ∀ wanted, c = .createPod wanted → ∃ target parent r₁,
    e.seeking spec r = (.ok (.target target parent), r₁) ∧
      Vacated target parent r₁.world.2 earlier

section

variable {e : Engine σ} {spec : Spec} {start : Run σ} {r r₁ : Run (σ × List CallEvent)}
  {target : SelectedPod} {parent : Workload}

/-- Operations that create nothing keep the rule. -/
theorem CreatesVacated.of_calls {α : Type} {op : Op (σ × List CallEvent) α}
    (hop : op.Calls Call.CreatesNone) (hr : Obeys (e.CreatesVacated spec start) r.world.2) :
    op.Ends r fun _ r' => Obeys (e.CreatesVacated spec start) r'.world.2 :=
  (hop r).mono fun _ _ _ hnotes =>
    hr.notes (fun _ _ hnone _ wanted hc => absurd hc (hnone wanted)) hnotes

/-- A swap waits until the place is vacated before it creates. -/
theorem swapIn_creates_vacated (wanted : Pod)
    (hseek : e.seeking spec start = (.ok (.target target parent), r₁))
    (hdown : parent.replicas = some 0 ∨
      ∃ since, r.world.2 = since ++ r₁.world.2 ∧ Scale.Acknowledged parent since)
    (hr : Obeys (e.CreatesVacated spec start) r.world.2) :
    (e.noted.swapIn target parent wanted).Ends r fun _ r' =>
      Obeys (e.CreatesVacated spec start) r'.world.2 := by
  have hwait : (Termination.waitForTermination e.noted.cluster .caller target.pod.ns
      target.pod.name parent.kind e.settings.terminationPollIntervalMs
      e.settings.terminationTimeout).Ends r _ :=
    Cluster.wait_noted e.cluster .caller (c := .getPod target.pod.ns target.pod.name)
      (f := fun pod => Termination.doneIf (Termination.hasTerminated parent.kind pod))
      (φ := fun _ => True) (fun _ _ _ _ => trivial) r
  have hlooks : ∀ c (since : List CallEvent), c = Call.getPod target.pod.ns target.pod.name →
      (∀ event ∈ since, event.call = Call.getPod target.pod.ns target.pod.name) →
        e.CreatesVacated spec start c (since ++ r.world.2) := by
    rintro c since rfl - wanted' hc
    cases hc
  refine hwait.during_bind _ ?_ fun _ _ _ h => hr.notes hlooks h.1
  rintro ⟨⟩ r₂ - ⟨hnotes, hvalue⟩
  obtain ⟨found, now, earlier, hdone, -, hevents, hsuffix⟩ := hvalue () rfl
  have hterminated : Termination.hasTerminated parent.kind found = true := by
    cases h : Termination.hasTerminated parent.kind found with
    | true => rfl
    | false =>
      rw [h] at hdone
      cases hdone
  have hvacated : Vacated target parent r₁.world.2 r₂.world.2 := by
    refine ⟨hdown.imp id ?_, found, ?_, Termination.hasTerminated_iff.mp hterminated⟩
    · rintro ⟨since, hsince, hacknowledged⟩
      obtain ⟨new, hnew, -⟩ := hnotes
      exact ⟨new ++ since, by rw [hnew, hsince, List.append_assoc],
        hacknowledged.mono (List.subset_append_right new since)⟩
    · rw [hevents]
      exact lastLook_answered _ _ now (.ok found) earlier
  -- the answer that ended the wait is the last thing in the history when the creation is begun
  refine (e.cluster.request_tells .caller (.createPod wanted) r₂).during _ ?_
  intro x r₃ _ htells
  exact (hr.notes hlooks hnotes).tells (fun _ _ => ⟨target, parent, r₁, hseek, hvacated⟩) htells

end

/-- Whatever the cluster answers, how long it takes, and whenever the run is cancelled: a
replacement begins to create a pod only after it found a pod and its parent, when the parent asked
for no pods or was scaled down by a patch that was acknowledged since, and when the last answer
about the pod was that it is gone or, unless the parent is a stateful set, that it is on its way. -/
theorem creates_only_vacated (e : Engine σ) (spec : Spec) (r : Run σ) :
    Obeys (e.CreatesVacated spec r) (e.replacing spec r).2.world.2 := by
  have hreplace : (e.noted.replacePod spec).Ends r.unnoted fun _ r' =>
      Obeys (e.CreatesVacated spec r) r'.world.2 := by
    rw [replacePod_eq]
    refine (CreatesVacated.of_calls (seek_createsNone spec) .nil).with_run.bind ?_
      fun _ _ _ h => h.2
    rintro found r₁ - ⟨hseek, hr₁⟩
    cases found with
    | standing s => exact .of_pure hr₁
    | target target parent =>
      dsimp only
      rw [swap_eq]
      refine ((CreatesVacated.of_calls (prepare_createsNone target parent spec) hr₁).and
        (prepare_acknowledged target parent spec r₁)).bind ?_ fun _ _ _ h => h.1
      rintro ⟨wanted, quiesced⟩ r₂ - ⟨hr₂, hacknowledged⟩
      obtain ⟨hnone, hpatched⟩ := hacknowledged wanted quiesced rfl
      have hdown : parent.replicas = some 0 ∨
          ∃ since, r₂.world.2 = since ++ r₁.world.2 ∧ Scale.Acknowledged parent since := by
        cases quiesced with
        | false => exact .inl (hnone rfl)
        | true => exact .inr (hpatched rfl)
      refine (swapIn_creates_vacated wanted hseek hdown hr₂).tried ?_
      intro x r₃ _ hr₃
      cases x with
      | ok created => exact .of_pure hr₃
      | error err =>
        dsimp only
        split
        · refine Op.Ends.bind (Q := fun _ r' => Obeys (e.CreatesVacated spec r) r'.world.2) ?_
            (fun _ _ _ h => .of_throw h) fun _ _ _ h => h
          exact CreatesVacated.of_calls (rollBack_createsNone parent) hr₃
        · exact .of_throw hr₃
  exact hreplace.result

end Engine

end PodSwap
