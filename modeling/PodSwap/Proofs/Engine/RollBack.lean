import PodSwap.Proofs.Engine.Requests
import PodSwap.Proofs.Engine.RoundTrip
import PodSwap.Proofs.Store.Keeping

/-!
# Rolling a parent back

Where the parent was scaled down and then the replacement could not be made, for whatever reason,
the parent gets back what it asked for. What is known of it then is only what the scaling down left
behind: no pods asked for, and a record of how many there were. So it does not matter how the wait
for the pod or the creation failed, nor when, nor that the caller had given up.

Main statement: `failed_replace_gives_back`.
-/

namespace PodSwap

open Json Scale

section

variable [Schema]

/-- A workload that was scaled down from a count: it asks for no pods, and its record says how many
it asked for. -/
def Scale.IsDown (n : Int32) (count record : Option Json) : Prop :=
  count = some (.int 0) ∧ record = some (.str (recordText n))

/-- A workload that asks for a count of pods, without a record. -/
def Scale.IsUp (n : Int32) (count record : Option Json) : Prop :=
  count = some (.int n.toInt) ∧ record = none

/-- What is read of a workload that was scaled down leads back up. -/
theorem Scale.restorePatch_of_isDown {n : Int32} (hn : 0 < n) {kind : WorkloadKind} {d : Json}
    {w : Workload} (hwf : d.WellFormed) (hread : Workload.ofJson kind d = .ok w)
    (hdown : IsDown n (at? replicasPath d) (at? recordPath d)) :
    restorePatch w = .ok (some (scalingPatch none n)) := by
  have hspec : HasSpec d := by
    have hcount := hdown.1
    rw [replicasPath, at?_cons] at hcount
    obtain ⟨j, hj, hreplicas⟩ := Option.bind_eq_some_iff.mp hcount
    refine ⟨j, hj, ?_⟩
    cases j <;> first | rfl | cases hreplicas
  have hs : Scaled n .down d :=
    ⟨hspec, hdown.1, recordText n, hdown.2, recordedCount_recordText hn⟩
  exact restorePatch_of_down hn (inPhase_of_read hwf hread hs)

section

variable {σ : Type} {e : Engine σ} {key : WorkloadKey} {view : σ → Stored} {w₀ : σ}
  {F : Option Json → Option Json → Prop} {w : Workload} {n : Int32}
  {r : Run (σ × List CallEvent)} (law : e.cluster.KeepsScale key view w₀)

include law

/-- Scaling a workload down, whose record is as it was read, records what was read of its count. -/
theorem Scale.quiesce_shows (heed : Heed) (hkey : w.key = key)
    (hr : e.cluster.Shows key view w₀
      (fun _ record => record = (w.annotationAt Marker.replicas).map .str) r.world.1) :
    (quiesce e.cluster.traced heed w).Ends r fun x r' => x = .ok true →
      e.cluster.Shows key view w₀ (IsDown (w.replicas.getD defaultReplicas)) r'.world.1 := by
  unfold quiesce send
  cases hpatch : quiescePatch w with
  | none => exact .of_pure fun h => by cases h
  | some p =>
    refine (law.patch_shows heed hr hkey
      (G := IsDown (w.replicas.getD defaultReplicas)) ?_).bind ?_ fun _ _ _ _ h => by cases h
    · intro d hd
      exact ⟨replicas_of_quiescePatch hpatch d, record_of_quiescePatch hpatch hd⟩
    · exact fun _ r' _ hr' => .of_pure fun _ => hr' rfl

namespace Engine

variable {parent : Workload}

/-- The scale of the parent is kept whether the replacement is swapped in or not. -/
theorem swapIn_shows (target : SelectedPod) (parent : Workload) (replacement : Pod)
    (hr : e.cluster.Shows key view w₀ F r.world.1) :
    (e.noted.swapIn target parent replacement).Ends r fun _ r' =>
      e.cluster.Shows key view w₀ F r'.world.1 := by
  have hwait : (Termination.waitForTermination e.noted.cluster .caller target.pod.ns
      target.pod.name parent.kind e.settings.terminationPollIntervalMs
      e.settings.terminationTimeout).Ends r fun _ r' => e.cluster.Shows key view w₀ F r'.world.1 :=
    law.wait_shows .caller hr (c := .getPod target.pod.ns target.pod.name) rfl
  refine hwait.during_bind _ ?_ fun _ _ _ hr₁ => hr₁
  intro _ r₁ _ hr₁
  exact (law.request_shows .caller hr₁ (c := .createPod replacement) rfl).during _
    fun _ _ _ hr₂ => hr₂

/-- Scaling the parent up again succeeds only with the parent as it was. -/
theorem restoring_shows (hn : 0 < n) (hkey : parent.key = key)
    (hr : e.cluster.Shows key view w₀ (IsDown n) r.world.1) :
    (e.noted.restoring parent).Ends r fun x r' => x = .ok () →
      e.cluster.Shows key view w₀ (IsUp n) r'.world.1 := by
  refine (law.read_shows .nobody hr hkey).bind ?_ fun _ _ _ _ h => by cases h
  intro found r₁ _ hfound
  obtain ⟨hr₁, hfound⟩ := hfound found rfl
  cases found with
  | none => cases hfound.1
  | some current =>
    obtain ⟨hcurrent, d, hwf, hread, hdown⟩ := hfound
    have hsent := law.patch_shows .nobody hr₁ hcurrent (G := IsUp n) (p := scalingPatch none n)
      fun d _ => ⟨replicas_merge_scalingPatch none n d, record_merge_scalingPatch none n d⟩
    have hrestore : (Scale.restore e.cluster.traced .nobody current).Ends r₁ fun x r' =>
        ∀ b, x = .ok b → e.cluster.Shows key view w₀ (IsUp n) r'.world.1 := by
      rw [Scale.restore, restorePatch_of_isDown hn hwf hread hdown, Op.purely_ok_bind]
      refine hsent.bind ?_ fun _ _ _ _ _ h => by cases h
      exact fun _ r' _ hr' => .of_pure fun _ _ => hr' rfl
    refine hrestore.bind ?_ fun _ _ _ _ h => by cases h
    exact fun b r' _ hr' => .of_pure fun _ => hr' b rfl

end Engine

end

namespace Engine

variable {σ : Type} {e : Engine σ} {view : σ → Stored} {spec : Spec}

/-- A replacement that fails after its parent was scaled down gives the parent back. Let a pod and
its parent have been found in a replacement, and the parent scaled down, by a patch; let then the
wait for the pod or the creation fail with an error. If the parent could be read again and patched,
and its scale was kept from when it was found, the result is that error, the parent asks for as many
pods as it was read to ask for, and has no record, and no pod was created. -/
theorem failed_replace_gives_back {r : Run σ} {r₁ r₂ r₃ r₄ : Run (σ × List CallEvent)}
    {target : SelectedPod} {parent : Workload} {replacement : Pod} {err : Error}
    (hn : 0 < parent.replicas.getD defaultReplicas)
    (hseek : (e.noted.seek spec).from r.unnoted = (.ok (.target target parent), r₁))
    (hprepare : (e.noted.prepare target parent spec).from r₁ = (.ok (replacement, true), r₂))
    (hfail : (e.noted.swapIn target parent replacement).from r₂ = (.error err, r₃))
    (hback : (e.noted.restoring parent).from r₃ = (.ok (), r₄))
    (law : e.cluster.KeepsScale parent.key view r₁.world.1)
    (hrecord : (view r₁.world.1).field parent.key recordPath =
      (parent.annotationAt Marker.replicas).map .str) :
    (e.replacing spec r).1 = .error err ∧
      (view (e.replacing spec r).2.world.1).Restored parent.key
        (parent.replicas.getD defaultReplicas) ∧
      ∀ pod, .created pod ∉ mutations (e.replacing spec r).2.world.2 := by
  have hrun : e.replacing spec r = (.error err, r₄) := by
    unfold replacing
    rw [replacePod_eq, Op.from_bind, hseek]
    dsimp only
    rw [swap_eq, Op.from_bind, hprepare]
    dsimp only
    rw [Op.from_attempt_bind, hfail]
    dsimp only
    rw [if_pos rfl, rollBack_eq, Op.from_bind, Op.from_attempt_bind, hback]
    rfl
  have hdown := ((prepare_ends target spec (quiesce_shows law .caller rfl
    ⟨.refl, hrecord⟩)).of_from hprepare _ _ rfl).1 rfl
  have hkept := (swapIn_shows law target parent replacement hdown).of_from hfail
  have hup := (restoring_shows law hn rfl hkept).of_from hback rfl
  rw [hrun]
  refine ⟨rfl, hup.2, fun pod hpod => ?_⟩
  -- neither the stages before the swap nor the one after it create a pod
  have hcreated := (restoring_calls (fun _ => Call.Reads.createsNone)
    Call.createsNone_patchWorkload parent).created hback hpod
  exact not_created_of_prepare hseek hprepare pod
    ((swapIn_not_created target parent replacement r₂).of_from hfail err rfl pod hcreated)

end Engine

end

namespace Slot

/-- Others leave the scale of the stateful set alone. -/
theorem keepsScale (refuses : Nat → Bool) (w : Slot) :
    (engine refuses).cluster.KeepsScale key stored w :=
  (engine_stores refuses).keepsScale (fun _ _ h => .of_workloads (congrFun h.1 key)) w

/-- Where the creation of the replacement is refused, the stateful set gets its pods back. -/
theorem given_back_after_refused_creation :
    let failed := replace (fun calls => calls = 6) fresh
    failed.1 = .error (.step "create replacement pod" (.cluster "refused")) ∧
      failed.2.world.1.stored.Restored key count := by
  let e := engine fun calls => calls = 6
  let sought := (e.noted.seek (spec selector)).from (begin fresh).unnoted
  let prepared := fun found : SelectedPod × Workload =>
    (e.noted.prepare found.1 found.2 (spec selector)).from sought.2
  let swapped := fun (found : SelectedPod × Workload) (wanted : Pod) =>
    (e.noted.swapIn found.1 found.2 wanted).from (prepared found).2
  have hstages : ((sought.1.toOption.bind Found.target?).any fun found =>
      (found.2.key = key && found.2.replicas = some count &&
        found.2.annotationAt Marker.replicas = none && sought.2.world.1.phase = .up) &&
      (prepared found).1.toOption.any fun ready => ready.2 &&
        (swapped found ready.1).1 = .error (.step "create replacement pod" (.cluster "refused")) &&
        ((e.noted.restoring found.2).from (swapped found ready.1).2).1 = .ok ()) = true := by
    simp only [e, sought, prepared, swapped, Engine.seek, Engine.seekTarget, Engine.findReplacement,
      Engine.select, Engine.keepsReplacement, Engine.deleteReplacement, Termination.deleteAndWait,
      Engine.findTarget, Engine.swapIn, Termination.waitForTermination, Poll.wait_eq_once,
      find_timeout, target_timeout, termination_timeout]
    decide +kernel
  obtain ⟨⟨target, parent⟩, hfound, hstages⟩ := (Option.any_eq_true _ _).mp hstages
  obtain ⟨found, hsought, htarget⟩ := Option.bind_eq_some_iff.mp hfound
  simp only [Bool.and_eq_true, decide_eq_true_eq] at hstages
  obtain ⟨⟨⟨⟨hkey, hcount⟩, hnone⟩, hup⟩, hprepared⟩ := hstages
  obtain ⟨⟨wanted, quiesced⟩, hready, hprepared⟩ := (Option.any_eq_true _ _).mp hprepared
  simp only [Bool.and_eq_true, decide_eq_true_eq] at hprepared
  obtain ⟨⟨rfl, hfail⟩, hback⟩ := hprepared
  obtain rfl := Found.eq_of_target? htarget
  have hrecord : (stored sought.2.world.1).field parent.key recordPath =
      (parent.annotationAt Marker.replicas).map .str := by
    rw [hkey, hnone, Stored.field, stored_doc, hup]
    rfl
  have hgiven := Engine.failed_replace_gives_back (by rw [hcount]; decide)
    (Op.from_of_toOption hsought) (Op.from_of_toOption hready) (Prod.ext hfail rfl)
    (Prod.ext hback rfl) (hkey ▸ keepsScale _ _) hrecord
  rw [hkey, hcount] at hgiven
  exact ⟨hgiven.1, hgiven.2.1⟩

end Slot

end PodSwap
