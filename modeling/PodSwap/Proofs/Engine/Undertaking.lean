import PodSwap.Proofs.Engine.Replace
import PodSwap.Proofs.Engine.Requests
import PodSwap.Proofs.Run.History
import PodSwap.Proofs.Scale.Quiesce

/-!
# What a replacement undertakes, and its way back

What a run comes to at each stage determines which calls it plans: the patch that scales a workload
down or up is known from the workload as it was read, and the way back reads the parent again and
then scales it up.

Main statements: a replacement ends as what it undertakes, but for its way back
(`replacing_cases`), which makes at most its two calls (`replacing_back`); and a parent is scaled
down only by a patch that was acknowledged (`quiesce_acknowledged`).
-/

namespace PodSwap

variable [Schema]

variable {σ : Type}

/-! ## Patches that are planned -/

namespace Scale

/-- The call that sends a patch, if there is one. -/
def sendCalls (w : Workload) : Option Json → List Call
  | none => []
  | some patch => [.patchWorkload w.kind w.ns w.name patch]

/-- The call that scales a workload down, if it takes one. -/
def quiesceCalls (w : Workload) : List Call := sendCalls w (quiescePatch w)

/-- The call that scales a workload up, if it takes one. -/
def restoreCalls (w : Workload) : List Call :=
  match restorePatch w with
  | .ok patch => sendCalls w patch
  | .error _ => []

/-- The call that scales up what was read of a workload. -/
def restoreAsRead : Except Error (Option Workload) → List Call
  | .ok (some current) => restoreCalls current
  | .ok none => []
  | .error _ => []

/-- Whether a workload was scaled down by a patch that was acknowledged. -/
def Acknowledged (w : Workload) (events : List CallEvent) : Prop :=
  ∃ patch now, quiescePatch w = some patch ∧
    CallEvent.answered now (.patchWorkload w.kind w.ns w.name patch) (.ok ()) ∈ events

theorem Acknowledged.mono {w : Workload} {events events' : List CallEvent}
    (h : Acknowledged w events) (hsubset : events ⊆ events') : Acknowledged w events' := by
  obtain ⟨patch, now, hpatch, hevent⟩ := h
  exact ⟨patch, now, hpatch, hsubset hevent⟩

@[simp] theorem filter_sendCalls (w : Workload) (patch : Option Json) :
    (sendCalls w patch).filter Call.isMutating = sendCalls w patch := by
  cases patch <;> rfl

@[simp] theorem filter_restoreCalls (w : Workload) :
    (restoreCalls w).filter Call.isMutating = restoreCalls w := by
  unfold restoreCalls
  cases restorePatch w with
  | ok patch => exact filter_sendCalls w patch
  | error err => rfl

@[simp] theorem filter_restoreAsRead (reread : Except Error (Option Workload)) :
    (restoreAsRead reread).filter Call.isMutating = restoreAsRead reread := by
  unfold restoreAsRead
  split
  · exact filter_restoreCalls _
  · rfl
  · rfl

section

variable (cluster : Cluster σ) (heed : Heed) (kind : Call → Bool) (w : Workload)
  (r : Run (σ × List CallEvent))

theorem send_carries (patch : Option Json) :
    (send cluster.traced heed w patch).Ends r fun x r' =>
      r.Carries kind ((sendCalls w patch).filter kind) (¬ Interrupted x) r' := by
  cases patch with
  | none => exact .of_pure (.refl r)
  | some patch =>
    refine (cluster.request_carries heed kind _ r).bind ?_ fun err r' _ h => h.mono ?_
    · exact fun _ r' _ h => .of_pure (h.mono fun _ => not_interrupted_ok _)
    · exact fun h herr => h (interrupted_error.mpr (interrupted_error.mp herr))

theorem restore_carries :
    (restore cluster.traced heed w).Ends r fun x r' =>
      r.Carries kind ((restoreCalls w).filter kind) (¬ Interrupted x) r' := by
  unfold restore restoreCalls
  cases restorePatch w with
  | error err => exact .of_throw (.refl r)
  | ok patch => exact send_carries cluster heed kind w r patch

/-- Scaling a workload down says whether that took a patch: if it did, the patch was acknowledged,
and if not, the workload asked for no pods. -/
theorem quiesce_acknowledged :
    (quiesce cluster.traced heed w).Ends r fun x r' =>
      (x = .ok false → w.replicas = some 0) ∧
        (x = .ok true → ∃ since, r'.world.2 = since ++ r.world.2 ∧ Acknowledged w since) := by
  unfold quiesce
  cases hpatch : quiescePatch w with
  | none =>
    refine .of_pure ⟨fun _ => replicas_of_no_quiescePatch hpatch, fun h => ?_⟩
    cases h
  | some patch =>
    refine (cluster.request_tells heed _ r).bind ?_ ?_
    · intro _ r' _ htells
      refine .of_pure ⟨nofun, fun _ => ?_⟩
      cases htells with
      | answered events => exact ⟨[_, _], events, patch, _, hpatch, List.mem_cons_self⟩
    · exact fun err r' _ _ => ⟨nofun, nofun⟩

end

end Scale

namespace Engine

variable {e : Engine σ} {spec : Spec} {r : Run σ}

/-! ## Runs -/

/-- The lookup of the replacement that there is, with what it does noted. -/
def lookingUp (e : Engine σ) (spec : Spec) (timeoutMs : Nat) (r : Run σ) :
    Except Error (Option SelectedPod) × Run (σ × List CallEvent) :=
  (e.noted.lookUp spec timeoutMs).from r.unnoted

/-- The search for what there is for a spec, with what it does noted. -/
def seeking (e : Engine σ) (spec : Spec) (r : Run σ) :
    Except Error Found × Run (σ × List CallEvent) :=
  (e.noted.seek spec).from r.unnoted

/-- All of a replacement but its way back, with what it does noted. -/
def undertaking (e : Engine σ) (spec : Spec) (r : Run σ) :
    Except Error (Except (Error × Workload) Outcome) × Run (σ × List CallEvent) :=
  (e.noted.undertake spec).from r.unnoted

/-- A replacement comes to what it undertakes, and where that left a parent scaled down, the way
back is gone first. -/
theorem replacing_cases (e : Engine σ) (spec : Spec) (r : Run σ) :
    (∃ outcome, (e.undertaking spec r).1 = .ok (.ok outcome) ∧
      e.replacing spec r = (.ok outcome, (e.undertaking spec r).2)) ∨
    (∃ err, (e.undertaking spec r).1 = .error err ∧
      e.replacing spec r = (.error err, (e.undertaking spec r).2)) ∨
    ∃ err parent, (e.undertaking spec r).1 = .ok (.error (err, parent)) ∧
      e.replacing spec r =
        (.error err, ((e.noted.rollBack parent).from (e.undertaking spec r).2).2) := by
  unfold replacing undertaking
  rw [replacePod_eq_undertake, Op.from_bind]
  cases (e.noted.undertake spec).from r.unnoted with
  | mk x r' =>
    cases x with
    | error err => exact .inr (.inl ⟨err, rfl, rfl⟩)
    | ok y =>
      cases y with
      | ok outcome => exact .inl ⟨outcome, rfl, rfl⟩
      | error failure => exact .inr (.inr ⟨failure.1, failure.2, rfl, rfl⟩)

/-- A parent that was prepared was scaled down by a patch that was acknowledged, or asked for no
pods. -/
theorem prepare_acknowledged (target : SelectedPod) (parent : Workload) (spec : Spec)
    (r : Run (σ × List CallEvent)) :
    (e.noted.prepare target parent spec).Ends r fun x r' => ∀ wanted quiesced,
      x = .ok (wanted, quiesced) → (quiesced = false → parent.replicas = some 0) ∧
        (quiesced = true →
          ∃ since, r'.world.2 = since ++ r.world.2 ∧ Scale.Acknowledged parent since) := by
  refine (prepare_ends target spec
    (Scale.quiesce_acknowledged e.cluster .caller parent r)).mono ?_
  intro x r' _ h wanted quiesced hx
  obtain ⟨⟨hnone, hpatched⟩, -⟩ := h wanted quiesced hx
  exact ⟨fun hfalse => hnone (by rw [hfalse]), fun htrue => hpatched (by rw [htrue])⟩

/-! ## The way back -/

/-- The parent as the way back reads it again. -/
def rereading (e : Engine σ) (parent : Workload) (r : Run (σ × List CallEvent)) :
    Except Error (Option Workload) :=
  ((e.noted.cluster.request .nobody
    (.getWorkload parent.kind parent.ns parent.name)).from r).1

/-- The calls of the way back: the parent is read again and scaled up as it is then. -/
def wayBackCalls (parent : Workload) (reread : Except Error (Option Workload)) : List Call :=
  .getWorkload parent.kind parent.ns parent.name :: Scale.restoreAsRead reread

theorem rollBack_carries (e : Engine σ) (parent : Workload) (r : Run (σ × List CallEvent)) :
    (e.noted.rollBack parent).Ends r fun _ r' =>
      r.Carries (fun _ => true) (wayBackCalls parent (e.rereading parent r)) False r' := by
  have hread := (e.cluster.request_carries .nobody (fun _ => true)
    (.getWorkload parent.kind parent.ns parent.name) r).with_run
  rw [rollBack_eq]
  refine Op.Ends.tried (Q := fun _ r' => r.Carries (fun _ => true)
    (wayBackCalls parent (e.rereading parent r)) False r') ?_ fun _ _ _ h => .of_pure h
  unfold restoring
  refine hread.bind ?_ fun _ _ _ h => h.2.stop _
  rintro current r₁ - ⟨hrun, hcarried⟩
  have hreread : e.rereading parent r = .ok current := congrArg Prod.fst hrun
  rw [hreread]
  cases current with
  | none => exact .of_pure (hcarried.stop [])
  | some current =>
    have hrestore := Scale.restore_carries e.cluster .nobody (fun _ => true) current r₁
    rw [List.filter_true] at hrestore
    have hall := hcarried.done (not_interrupted_ok _)
    refine hrestore.bind ?_ fun _ _ _ h => (hall.trans h).mono False.elim
    exact fun _ _ _ h => .of_pure ((hall.trans h).mono False.elim)

/-- After what it undertakes a replacement begins nothing but its way back, where it has to. -/
theorem replacing_back (e : Engine σ) (spec : Spec) (r : Run σ) :
    ∃ back, (e.replacing spec r).2.world.2 = back ++ (e.undertaking spec r).2.world.2 ∧
      (back = [] ∨ ∃ err parent, (e.undertaking spec r).1 = .ok (.error (err, parent)) ∧
        (begunCalls back).Sublist
          (wayBackCalls parent (e.rereading parent (e.undertaking spec r).2))) := by
  rcases e.replacing_cases spec r with ⟨outcome, -, hrun⟩ | ⟨err, -, hrun⟩ |
      ⟨err, parent, hfailed, hrun⟩
  · exact ⟨[], by rw [hrun]; rfl, .inl rfl⟩
  · exact ⟨[], by rw [hrun]; rfl, .inl rfl⟩
  · obtain ⟨back, hback, hcalls, -⟩ :=
      (rollBack_carries e parent (e.undertaking spec r).2).result
    rw [List.filter_true] at hcalls
    rw [hrun]
    exact ⟨back, hback, .inr ⟨err, parent, hfailed, hcalls⟩⟩

/-- Whatever a replacement creates, it undertakes to. -/
theorem replacing_created {pod : Pod}
    (hpod : .created pod ∈ mutations (e.replacing spec r).2.world.2) :
    .created pod ∈ mutations (e.undertaking spec r).2.world.2 := by
  rcases e.replacing_cases spec r with ⟨outcome, -, hrun⟩ | ⟨err, -, hrun⟩ |
      ⟨err, parent, -, hrun⟩ <;>
    rw [hrun] at hpod
  · exact hpod
  · exact hpod
  · exact (rollBack_createsNone parent (e.undertaking spec r).2).result.created hpod

/-- A replacement goes on from what it undertakes. -/
theorem undertaking_leads (e : Engine σ) (spec : Spec) (r : Run σ) :
    (e.undertaking spec r).2.Leads (e.replacing spec r).2 := by
  rcases e.replacing_cases spec r with ⟨outcome, -, hrun⟩ | ⟨err, -, hrun⟩ |
      ⟨err, parent, -, hrun⟩
  · rw [hrun]
    exact .refl _
  · rw [hrun]
    exact .refl _
  · rw [hrun]
    exact (rollBack_carries e parent (e.undertaking spec r).2).1

end Engine

end PodSwap
