import PodSwap.Ownership
import PodSwap.Proofs.Store.Ledger
import PodSwap.Termination

/-!
# The parts of an operation and the ledger

What the steps of replacing and reverting do to the ledger of a run on a store: reading leaves it as
it is, a deletion adds to it, and scaling the watched workload takes it to the phase it is to be
in.

Main statements: `fetch_ends`, `parentOfReplacement_ends` and `resolveParent_ends` for reading,
`deleteAndWait_ends` for deletions, `quiesce_ends` and `restore_ends` for scaling.
-/

namespace PodSwap

open Json Scale

variable [Schema]

/-- Whether a pod carries the markers of a workload. -/
def Links (key : WorkloadKey) (pod : Pod) : Prop :=
  pod.ns = key.ns ∧ Ownership.parentMarkers pod = some (key.kind.text, key.name)

instance (key : WorkloadKey) (pod : Pod) : Decidable (Links key pod) := by
  unfold Links
  infer_instance

/-- What the cluster keeps writing to a pod has nothing to do with its markers. -/
theorem links_essence (key : WorkloadKey) (pod : Pod) : Links key pod.essence ↔ Links key pod :=
  Iff.rfl

/-- Whether a pod was still seen so long after it was deleted. -/
def Late {σ : Type} (timeoutMs : Nat) (r : Run (σ × List CallEvent)) : Prop :=
  ∃ now now' ns name pod, CallEvent.answered now (.deletePod ns name) (.ok true) ∈ r.world.2 ∧
    CallEvent.answered now' (.getPod ns name) (.ok (some pod)) ∈ r.world.2 ∧ now + timeoutMs ≤ now'

/-- The workload that controls a pod is fetched in the namespace of the pod, and so is what leads to
it. So what every fetch there keeps and says of its workload, finding the parent does. -/
theorem Ownership.resolveParent_ends_of_fetch {σ : Type} {cluster : Cluster σ} {heed : Heed}
    {pod : Pod} {I : Run (σ × List CallEvent) → Prop}
    {Q : Workload → Run (σ × List CallEvent) → Prop}
    (hfetch : ∀ kind name r, I r → (fetch cluster.traced heed kind pod.ns name).Ends r
      fun x r' => I r' ∧ ∀ w, x = .ok w → Q w r')
    {r : Run (σ × List CallEvent)} (hr : I r) :
    (resolveParent cluster.traced heed pod).Ends r
      fun x r' => I r' ∧ ∀ w, x = .ok w → Q w r' := by
  unfold resolveParent
  cases pod.metadata.controller with
  | none => exact .of_throw ⟨hr, fun _ h => by cases h⟩
  | some owner =>
    dsimp only
    split
    · refine (hfetch .replicaSet owner.name r hr).bind ?_
        fun _ _ _ h => ⟨h.1, fun _ h => by cases h⟩
      rintro replicaSet r' - ⟨hr', hreplicaSet⟩
      cases replicaSet.metadata.controller with
      | none =>
        refine .of_pure ⟨hr', fun w hw => ?_⟩
        cases hw
        exact hreplicaSet replicaSet rfl
      | some above =>
        dsimp only
        split
        · exact hfetch _ _ _ hr'
        · exact .of_throw ⟨hr', fun _ h => by cases h⟩
    · split
      · exact hfetch _ _ _ hr
      · exact .of_throw ⟨hr, fun _ h => by cases h⟩

namespace Watch

/-- What was read of a workload is in the phase of the watched one, if it is that one. -/
def Reads (o : Watch) (k : Nat) (w : Workload) : Prop :=
  w.key = o.key → InPhase o.count (o.phase.after k) w

/-- What is stored under a name is the watched workload, in its phase, if the name is that one's. -/
def Shows (o : Watch) (k : Nat) (key : WorkloadKey) : Option Workload → Prop
  | some w => w.key = key ∧ o.Reads k w
  | none => key ≠ o.key

/-- Whether others leave a name of a pod unused. -/
def KeepsAbsent (o : Watch) (ns name : String) : Prop :=
  ∀ s s', o.drift s s' → s.pods ns name = none → s'.pods ns name = none

section

variable {σ : Type} {cluster : Cluster σ} {view : σ → Stored} {o : Watch}
  (law : cluster.Stores view o.drift) (still : Undisturbed o.drift o.key o.sort) (heed : Heed)
  {k : Nat} {L : List Mutation} {r : Run (σ × List CallEvent)}

include law still

/-! ## Reading -/

/-- What is read under a name is what is stored there. -/
theorem getWorkload_ends (kind : WorkloadKind) (ns name : String)
    (hr : Holds view (o.Ledger k L) r) :
    (cluster.traced.request heed (.getWorkload kind ns name)).Ends r fun x r' =>
      Holds view (o.Ledger k L) r' ∧
        match x with
        | .ok a => o.Shows k ⟨kind, ns, name⟩ a
        | .error _ => Troubled r' := by
  refine (law.read_ends heed (Ledger.stable still) (c := .getWorkload kind ns name) rfl
    (φ := o.Shows k ⟨kind, ns, name⟩) ?_ hr).mono ?_
  · intro s a m hs ha
    cases a with
    | none =>
      intro heq
      exact hs.workload_isSome (heq ▸ ha.1)
    | some w =>
      obtain ⟨⟨d, hd, hw⟩, -⟩ := ha
      have hkey : w.key = ⟨kind, ns, name⟩ := Stored.key_of_read hd hw
      refine ⟨hkey, ?_⟩
      intro heq
      have hkind : o.key.kind = kind := by rw [← heq, hkey]
      rw [← hkey, heq] at hd
      exact hs.inPhase_of_read hd (hkind ▸ hw)
  · intro x r' _ hx
    cases x with
    | ok a => exact hx
    | error e => exact hx

/-- What is fetched is what is stored under the name. -/
theorem fetch_ends {kind : WorkloadKind} {ns name : String} (hr : Holds view (o.Ledger k L) r) :
    (Ownership.fetch cluster.traced heed kind ns name).Ends r fun x r' =>
      Holds view (o.Ledger k L) r' ∧
        match x with
        | .ok w => w.key = ⟨kind, ns, name⟩ ∧ o.Reads k w
        | .error e => Troubled r' ∨
            ((⟨kind, ns, name⟩ : WorkloadKey) ≠ o.key ∧ e.isCancelled = false) := by
  refine (getWorkload_ends law still heed kind ns name hr).bind ?_
    fun e r' _ he => ⟨he.1, .inl he.2⟩
  intro a r' _ ha
  cases a with
  | some w => exact .of_pure ha
  | none => exact .of_throw ⟨ha.1, .inr ⟨ha.2, rfl⟩⟩

/-- What the markers of a replacement lead to is the watched workload exactly if they name it, and
then it is found. -/
theorem parentOfReplacement_ends {pod : Pod} (hr : Holds view (o.Ledger k L) r) :
    (Ownership.parentOfReplacement cluster.traced heed pod).Ends r fun x r' =>
      Holds view (o.Ledger k L) r' ∧
        match x with
        | .ok w => (w.key = o.key ↔ Links o.key pod) ∧ o.Reads k w
        | .error e => Troubled r' ∨ (¬ Links o.key pod ∧ e.isCancelled = false) := by
  unfold Ownership.parentOfReplacement
  cases hm : Ownership.parentMarkers pod with
  | none =>
    refine .of_throw ⟨hr, .inr ⟨fun hl => ?_, rfl⟩⟩
    rw [Links, hm] at hl
    cases hl.2
  | some markers =>
    obtain ⟨text, name⟩ := markers
    have hlinks : Links o.key pod ↔
        pod.ns = o.key.ns ∧ text = o.key.kind.text ∧ name = o.key.name := by
      simp [Links, hm]
    dsimp only
    cases hk : WorkloadKind.ofText? text with
    | none =>
      rw [WorkloadKind.parse, hk, Op.purely_error_bind]
      refine .of_throw ⟨hr, .inr ⟨fun hl => ?_, rfl⟩⟩
      rw [(hlinks.mp hl).2.1, WorkloadKind.ofText?_text] at hk
      cases hk
    | some kind =>
      rw [WorkloadKind.parse, hk, Op.purely_ok_bind]
      have htext := WorkloadKind.text_of_ofText? hk
      have hkey : (⟨kind, pod.ns, name⟩ : WorkloadKey) = o.key ↔ Links o.key pod := by
        rw [hlinks, ← htext]
        constructor
        · intro h
          rw [← h]
          exact ⟨rfl, rfl, rfl⟩
        · rintro ⟨hns, hkind, hname⟩
          have hkind : kind = o.key.kind := by
            have := congrArg WorkloadKind.ofText? hkind
            rw [WorkloadKind.ofText?_text, WorkloadKind.ofText?_text] at this
            exact Option.some.inj this
          rw [hns, hkind, hname]
      refine (fetch_ends law still heed hr).mono fun x r' _ hx => ⟨hx.1, ?_⟩
      cases x with
      | ok w => exact ⟨by rw [hx.2.1]; exact hkey, hx.2.2⟩
      | error e => exact hx.2.imp id fun hne => ⟨fun hl => hne.1 (hkey.mpr hl), hne.2⟩

/-- The workload that controls a pod is in the namespace of the pod. -/
theorem resolveParent_ends (pod : Pod) (hr : Holds view (o.Ledger k L) r) :
    (Ownership.resolveParent cluster.traced heed pod).Ends r fun x r' =>
      Holds view (o.Ledger k L) r' ∧ ∀ w, x = .ok w → w.ns = pod.ns ∧ o.Reads k w := by
  refine Ownership.resolveParent_ends_of_fetch (fun kind name r hr => ?_) hr
  refine (fetch_ends law still heed hr).mono fun x r' _ hx => ⟨hx.1, fun w hw => ?_⟩
  subst hw
  exact ⟨congrArg WorkloadKey.ns hx.2.1, hx.2.2⟩

/-! ## Deleting -/

/-- The wait for a deleted pod ends with the pod gone. Without trouble it only fails if the pod was
seen for too long. -/
theorem waitUntilGone_ends {ns name : String} {p : Poll} {deleted : Nat}
    (hdeleted : CallEvent.answered deleted (.deletePod ns name) (.ok true) ∈ r.world.2)
    (hnow : deleted ≤ r.now) (hr : Holds view (o.Ledger k L) r) :
    (p.wait heed ((cluster.traced.call (.getPod ns name)).map
        fun pod => Termination.doneIf pod.isNone)).Ends r fun x r' =>
      match x with
      | .ok () => Holds view (fun s m => o.Ledger k L s m ∧
          (o.KeepsAbsent ns name → s.pods ns name = none)) r'
      | .error _ => Holds view (o.Ledger k L) r' ∧ (Troubled r' ∨
          ((0 < p.intervalMs ∨ ∀ w, 0 < (cluster.call (.getPod ns name)).span w) →
            Late p.timeoutMs r')) := by
  have hdone : ∀ pod : Option Pod, Termination.doneIf pod.isNone = some () → pod = none := by
    intro pod h
    cases pod with
    | none => rfl
    | some pod => cases h
  have h := law.wait_ends heed (c := .getPod ns name)
    (f := fun pod => Termination.doneIf pod.isNone) (p := p)
    (B := fun _ s m => o.Ledger k L s m ∧ (o.KeepsAbsent ns name → s.pods ns name = none))
    (Ledger.stable still)
    (fun _ s s' m hd hs => ⟨Ledger.stable still s s' m hd hs.1,
      fun habsent => habsent s s' hd (hs.2 habsent)⟩)
    (fun s a s' m b hs ha hb => by
      obtain ⟨rfl, rfl⟩ := ha
      simpa [Call.mutation?] using ⟨hs, fun _ => hdone _ hb⟩)
    (fun s a s' m hs ha _ => by
      obtain ⟨rfl, rfl⟩ := ha
      simpa [Call.mutation?] using hs) hr
  apply h.mono
  intro x r' hl hx
  cases x with
  | ok b => exact hx
  | error e =>
    obtain ⟨hholds, htrouble | ⟨-, -, hlate⟩⟩ := hx
    · exact ⟨hholds, .inl htrouble⟩
    · refine ⟨hholds, .inr fun hpasses => ?_⟩
      obtain ⟨now, pod, hle, hnone, hseen⟩ := hlate hpasses
      cases pod with
      | none => cases hnone
      | some pod =>
        exact ⟨deleted, now, ns, name, pod, hl.events.subset hdeleted, hseen, by omega⟩

/-- A pod is deleted and gone, or there is none, unless something fails. -/
theorem deleteAndWait_ends {ns name : String} {intervalMs timeoutMs : Nat}
    (hr : Holds view (o.Ledger k L) r) :
    (Termination.deleteAndWait cluster.traced heed ns name intervalMs timeoutMs).Ends r fun x r' =>
      match x with
      | .ok () =>
        Holds view (fun s m => o.Ledger k (L ++ [.deleted ns name]) s m ∧
          (o.KeepsAbsent ns name → s.pods ns name = none)) r' ∨
        Holds view (o.Ledger k L) r' ∧ ∃ s m, o.Ledger k L s m ∧ s.pods ns name = none
      | .error _ =>
        (Holds view (o.Ledger k L) r' ∨ Holds view (o.Ledger k (L ++ [.deleted ns name])) r') ∧
          (Troubled r' ∨
            ((0 < intervalMs ∨ ∀ w, 0 < (cluster.call (.getPod ns name)).span w) →
              Late timeoutMs r')) := by
  have hdelete := law.request_ends heed (c := .deletePod ns name)
    (A := o.Ledger k L)
    (B := fun found s m => if found then o.Ledger k (L ++ [.deleted ns name]) s m
      else o.Ledger k L s m ∧ ∃ s m, o.Ledger k L s m ∧ s.pods ns name = none)
    (Ledger.stable still)
    (fun found s s' m hd hs => by
      cases found with
      | true => exact Ledger.stable still s s' m hd hs
      | false => exact ⟨Ledger.stable still s s' m hd hs.1, hs.2⟩)
    (fun s found s' m hs ha => by
      cases found with
      | true => exact hs.delete ha
      | false =>
        obtain ⟨hnone, rfl⟩ := ha
        refine ⟨?_, s', m, hs, hnone⟩
        rw [show m ++ ((Call.deletePod ns name).mutation? false).toList = m from
          List.append_nil m]
        exact hs) hr
  refine hdelete.bind ?_ fun e r' _ he => ⟨.inl he.1, .inl he.2⟩
  intro found r' _ ha
  cases found with
  | false => exact .of_pure (.inr ha.1)
  | true =>
    apply (waitUntilGone_ends law still heed ha.2 (Nat.le_refl _) ha.1).mono
    intro x r'' _ hx
    cases x with
    | ok _ => exact .inl hx
    | error e => exact ⟨.inr hx.1, hx.2⟩

/-! ## Scaling -/

theorem send_ends (k' : Nat) {w : Workload} {patch : Option Json}
    (hnone : patch = none → k' = k)
    (hpatch : ∀ p, patch = some p → ∀ s s' m, o.Ledger k L s m →
      s.Answers (.patchWorkload w.kind w.ns w.name p) () s' →
      o.Ledger k' L s' (m ++ [.patched w.key p])) (hr : Holds view (o.Ledger k L) r) :
    (send cluster.traced heed w patch).Ends r fun x r' =>
      match x with
      | .ok _ => Holds view (o.Ledger k' L) r'
      | .error _ => Holds view (o.Ledger k L) r' ∧ Troubled r' := by
  unfold send
  cases patch with
  | none =>
    refine .of_pure ?_
    rw [hnone rfl]
    exact hr
  | some p =>
    have h := law.request_ends heed (c := .patchWorkload w.kind w.ns w.name p)
      (B := fun _ => o.Ledger k' L) (Ledger.stable still) (fun _ => Ledger.stable still)
      (fun s _ s' m hs ha => hpatch p rfl s s' m hs ha) hr
    exact h.bind (fun _ r' _ ha => .of_pure ha.1) fun e r' _ he => he

/-- What was scaled: the watched workload is in the phase then, and no other patch of it was
made. -/
def Scales (o : Watch) (ph : Phase) (w : Workload) (k k' : Nat) : Prop :=
  (k' = k ∨ k' = k + 1) ∧ (w.key = o.key → o.phase.after k' = ph) ∧ (w.key ≠ o.key → k' = k)

omit law still in
theorem patch_other_of_send {w : Workload} (hkey : w.key ≠ o.key) (p : Json) (s s' : Stored)
    (m : List Mutation) (hs : o.Ledger k L s m)
    (ha : s.Answers (.patchWorkload w.kind w.ns w.name p) () s') :
    o.Ledger k L s' (m ++ [.patched w.key p]) :=
  hs.patch_other hkey ha

/-- Quiescing takes the watched workload down. -/
theorem quiesce_ends (hn : 0 < o.count) {w : Workload} (hw : o.Reads k w)
    (hr : Holds view (o.Ledger k L) r) :
    (quiesce cluster.traced heed w).Ends r fun x r' =>
      match x with
      | .ok _ => ∃ k', Holds view (o.Ledger k' L) r' ∧ Scales o .down w k k'
      | .error _ => Holds view (o.Ledger k L) r' ∧ Troubled r' := by
  unfold quiesce
  by_cases hkey : w.key = o.key
  · have hread := hw hkey
    cases hph : o.phase.after k with
    | up =>
      rw [hph] at hread
      have hdown : o.phase.after (k + 1) = .down := by rw [Phase.after, hph, Phase.flip]
      rw [quiescePatch_of_up hn hread]
      refine (send_ends law still heed (k + 1) (fun h => by cases h) ?_ hr).mono ?_
      · intro p hp s s' m hs ha
        cases hp
        obtain ⟨hkind, hns, hname⟩ := (WorkloadKey.mk.injEq ..).mp hkey
        rw [hkey]
        rw [hkind, hns, hname] at ha
        exact hs.quiesce hn hph ha
      · intro x r' _ hx
        cases x with
        | ok _ =>
          exact ⟨k + 1, hx, .inr rfl, fun _ => hdown, fun hne => absurd hkey hne⟩
        | error e => exact hx
    | down =>
      rw [hph] at hread
      rw [quiescePatch_of_down hread]
      exact .of_pure ⟨k, hr, .inl rfl, fun _ => hph, fun _ => rfl⟩
  · refine (send_ends law still heed k (fun _ => rfl) (fun p _ => patch_other_of_send hkey p)
      hr).mono ?_
    intro x r' _ hx
    cases x with
    | ok _ => exact ⟨k, hx, .inl rfl, fun heq => absurd heq hkey, fun _ => rfl⟩
    | error e => exact hx

/-- Restoring takes the watched workload up. -/
theorem restore_ends (hn : 0 < o.count) {w : Workload} (hw : o.Reads k w)
    (hr : Holds view (o.Ledger k L) r) :
    (restore cluster.traced heed w).Ends r fun x r' =>
      match x with
      | .ok _ => ∃ k', Holds view (o.Ledger k' L) r' ∧ Scales o .up w k k'
      | .error _ => Holds view (o.Ledger k L) r' ∧ (Troubled r' ∨ w.key ≠ o.key) := by
  unfold Scale.restore
  by_cases hkey : w.key = o.key
  · have hread := hw hkey
    cases hph : o.phase.after k with
    | up =>
      rw [hph] at hread
      rw [restorePatch_of_up hread, Op.purely_ok_bind]
      exact .of_pure ⟨k, hr, .inl rfl, fun _ => hph, fun _ => rfl⟩
    | down =>
      rw [hph] at hread
      have hup : o.phase.after (k + 1) = .up := by rw [Phase.after, hph, Phase.flip]
      rw [restorePatch_of_down hn hread, Op.purely_ok_bind]
      refine (send_ends law still heed (k + 1) (fun h => by cases h) ?_ hr).mono ?_
      · intro p hp s s' m hs ha
        cases hp
        obtain ⟨hkind, hns, hname⟩ := (WorkloadKey.mk.injEq ..).mp hkey
        rw [hkey]
        rw [hkind, hns, hname] at ha
        exact hs.restore hph ha
      · intro x r' _ hx
        cases x with
        | ok _ => exact ⟨k + 1, hx, .inr rfl, fun _ => hup, fun hne => absurd hkey hne⟩
        | error e => exact ⟨hx.1, .inl hx.2⟩
  · cases hpatch : restorePatch w with
    | error e =>
      rw [Op.purely_error_bind]
      exact .of_throw ⟨hr, .inr hkey⟩
    | ok patch =>
      rw [Op.purely_ok_bind]
      refine (send_ends law still heed k (fun _ => rfl) (fun p _ => patch_other_of_send hkey p)
        hr).mono ?_
      intro x r' _ hx
      cases x with
      | ok _ => exact ⟨k, hx, .inl rfl, fun heq => absurd heq hkey, fun _ => rfl⟩
      | error e => exact ⟨hx.1, .inl hx.2⟩

omit still in
/-- Restoring a workload leaves alone what depends on the pods only. -/
theorem restore_keeps_pods {w : Workload} {F : Stored → Prop}
    (hdrift : ∀ s s', o.drift s s' → F s → F s') (hpods : ∀ s s', s'.pods = s.pods → F s → F s')
    (hr : F (view r.world.1)) :
    (restore cluster.traced heed w).Ends r fun _ r' => F (view r'.world.1) := by
  have hstable : Stable o.drift fun s _ => F s := fun s s' _ => hdrift s s'
  unfold Scale.restore
  cases restorePatch w with
  | error e =>
    rw [Op.purely_error_bind]
    exact .of_throw hr
  | ok patch =>
    rw [Op.purely_ok_bind]
    unfold send
    cases patch with
    | none => exact .of_pure hr
    | some p =>
      have h := law.request_ends heed (c := .patchWorkload w.kind w.ns w.name p)
        (A := fun s _ => F s) (B := fun _ s _ => F s) hstable (fun _ => hstable)
        (fun s _ s' _ hs ha => hpods s s' ha.2.2 hs) hr
      exact h.bind (fun _ r' _ ha => .of_pure ha.1) fun e r' _ he => he.1

end

end Watch

end PodSwap
