import PodSwap.Proofs.Engine.Awaiting

/-!
# The order of changes

Which calls a replacement or a revert begins to change the cluster, and in which order, is planned
by what it comes to know: the replacement that stands is deleted and its parent scaled up, then the
parent of the fresh target is scaled down and the replacement created, and if that fails the parent
is scaled up again. A replacement that is kept only has its parent scaled down, and one of which no
fingerprints can be taken is left alone. An operation carries out its plan up to some step and
leaves the rest.

Main statement: `follow_protocol`, of every run of both operations.
-/

namespace PodSwap

variable [Schema]

variable {σ : Type}

namespace Engine

/-! ## Plans -/

/-- The parent of a replacement, as its markers lead to it. -/
def askingParent (e : Engine σ) (s : SelectedPod) (r : Run (σ × List CallEvent)) :
    Except Error Workload :=
  ((Ownership.parentOfReplacement e.noted.cluster .caller s.pod).from r).1

/-- The calls that take a replacement down. -/
def takeDownCalls (s : SelectedPod) : Option Workload → List Call
  | none => [.deletePod s.pod.ns s.pod.name]
  | some parent => .deletePod s.pod.ns s.pod.name :: Scale.restoreCalls parent

/-- The calls that do with a replacement what becomes of it. -/
def verdictCalls (s : SelectedPod) : Verdict → List Call
  | .kept parent => Scale.quiesceCalls parent
  | .takenDown parent => takeDownCalls s parent
  | .undecided _ => []

/-- The calls that put a replacement in the place of a pod, if one can be built. -/
def exchangeCalls (e : Engine σ) (target : SelectedPod) (parent : Workload) (spec : Spec) :
    List Call :=
  match e.wanted target parent spec with
  | .ok replacement => Scale.quiesceCalls parent ++ [.createPod replacement]
  | .error _ => []

section

variable (e : Engine σ) (spec : Spec) (r : Run σ)

/-- What a replacement plans to do with the one that stands. -/
def checkPlan : List Call :=
  match e.lookingUp spec e.settings.findReplacedTimeout r with
  | (.ok (some s), r₁) => verdictCalls s (e.judge spec s (e.askingParent s r₁))
  | _ => []

/-- What a replacement plans to do with the fresh target. -/
def exchangePlan : List Call :=
  match (e.seeking spec r).1 with
  | .ok (.target target parent) => e.exchangeCalls target parent spec
  | _ => []

/-- What a replacement plans to change on its way back. -/
def wayBackPlan : List Call :=
  match e.undertaking spec r with
  | (.ok (.error (_, parent)), r₁) => Scale.restoreAsRead (e.rereading parent r₁)
  | _ => []

/-- What a revert plans. -/
def revertPlan : List Call :=
  match e.lookingUp spec e.settings.revertFindTimeout r with
  | (.ok (some s), r₁) => takeDownCalls s (e.askingParent s r₁).toOption
  | _ => []

end

/-! ## Plans are carried out -/

section

variable {e : Engine σ} {r : Run (σ × List CallEvent)} {α : Type}

/-- What only reads carries out no plan. -/
theorem carries_of_reads {op : Op (σ × List CallEvent) α} (hop : op.Calls Call.Reads) (all : Prop)
    (r : Run (σ × List CallEvent)) :
    op.Ends r fun _ r' => r.Carries Call.isMutating [] all r' :=
  (hop r).mono fun _ _ _ hnotes => .of_notes hnotes fun _ hreads => hreads

theorem deleteReplacement_carries (s : SelectedPod) (r : Run (σ × List CallEvent)) :
    (e.noted.deleteReplacement s).Ends r fun x r' =>
      r.Carries Call.isMutating [.deletePod s.pod.ns s.pod.name] (∃ a, x = .ok a) r' := by
  have hdelete : (Termination.deleteAndWait e.noted.cluster .caller s.pod.ns s.pod.name
      e.settings.deletePollIntervalMs e.settings.terminationTimeout).Ends r fun x r' =>
        r.Carries Call.isMutating [.deletePod s.pod.ns s.pod.name] (∃ a, x = .ok a) r' := by
    refine (e.cluster.request_carries .caller Call.isMutating _ r).bind ?_
      fun _ _ _ h => h.failed
    intro found r₁ _ h
    have hdone := h.done (not_interrupted_ok _)
    cases found with
    | false => exact .of_pure (hdone.mono fun _ => trivial)
    | true =>
      have hwait : ∀ poll : Poll, (poll.wait .caller
          ((e.cluster.traced.call (.getPod s.pod.ns s.pod.name)).map
            fun pod => Termination.doneIf pod.isNone)).Calls Call.Reads :=
        fun _ => Cluster.wait_calls rfl
      refine (carries_of_reads (hwait _) True r₁).mono fun x r₂ _ h₂ => ?_
      exact (hdone.trans h₂).mono fun _ => trivial
  refine hdelete.during _ fun x r' _ h => h.mono ?_
  rintro ⟨a, ha⟩
  cases x with
  | ok b => exact ⟨b, rfl⟩
  | error err => cases ha

theorem takeDown_carries (s : SelectedPod) (parent : Option Workload)
    (r : Run (σ × List CallEvent)) :
    (e.noted.takeDown s parent).Ends r fun x r' =>
      r.Carries Call.isMutating (takeDownCalls s parent) (∃ a, x = .ok a) r' := by
  cases parent with
  | none =>
    rw [takeDown_none]
    refine (deleteReplacement_carries s r).bind ?_ fun _ _ _ h => h.failed
    exact fun a r₁ _ h => .of_pure (h.mono fun _ => ⟨a, rfl⟩)
  | some parent =>
    rw [takeDown_some]
    have hrestore := fun r₁ => Scale.restore_carries e.cluster .caller Call.isMutating parent r₁
    simp only [Scale.filter_restoreCalls] at hrestore
    refine (deleteReplacement_carries s r).bind ?_ fun _ _ _ h => (h.stop _).failed
    intro a r₁ _ h
    have hdeleted := h.done ⟨a, rfl⟩
    refine (hrestore r₁).during_bind _ ?_ fun _ _ _ h₁ => (hdeleted.trans h₁).failed
    exact fun b r₂ _ h₁ => .of_pure ((hdeleted.trans h₁).mono fun _ => not_interrupted_ok b)

theorem quiesce_carries (parent : Workload) (r : Run (σ × List CallEvent)) :
    (Scale.quiesce e.noted.cluster .caller parent).Ends r fun x r' =>
      r.Carries Call.isMutating (Scale.quiesceCalls parent) (¬ Interrupted x) r' := by
  have h := Scale.send_carries e.cluster .caller Call.isMutating parent r
    (Scale.quiescePatch parent)
  rw [Scale.filter_sendCalls] at h
  exact h

theorem carryOut_carries (s : SelectedPod) (verdict : Verdict) (r : Run (σ × List CallEvent)) :
    (e.noted.carryOut s verdict).Ends r fun x r' =>
      r.Carries Call.isMutating (verdictCalls s verdict) (∃ a, x = .ok a) r' := by
  cases verdict with
  | undecided err => exact .of_throw (.refl r)
  | takenDown parent =>
    rw [carryOut_takenDown]
    refine (takeDown_carries s parent r).bind ?_ fun _ _ _ h => h.failed
    exact fun a r₁ _ h => .of_pure (h.mono fun _ => ⟨a, rfl⟩)
  | kept parent =>
    refine (quiesce_carries parent r).tried ?_
    intro x r₁ _ h
    cases x with
    | ok quiesced => exact .of_pure (h.mono fun _ => not_interrupted_ok quiesced)
    | error err =>
      dsimp only
      split
      · exact .of_throw h.failed
      · rename_i hrun
        exact .of_pure (h.mono fun _ => fun hcancelled => hrun (interrupted_error.mp hcancelled))

theorem keepsReplacement_carries (s : SelectedPod) (spec : Spec) (r : Run (σ × List CallEvent)) :
    (e.noted.keepsReplacement s spec).Ends r fun x r' =>
      r.Carries Call.isMutating (verdictCalls s (e.judge spec s (e.askingParent s r)))
        (∃ a, x = .ok a) r' := by
  rw [keepsReplacement_eq]
  refine (carries_of_reads (Op.Calls.closed.parentOfReplacement (fun _ h => h) s.pod) True
    r).with_run.tried ?_
  rintro x r₁ - ⟨hasked, hread⟩
  have hparent : e.askingParent s r = x := congrArg Prod.fst hasked
  rw [hparent]
  exact (carryOut_carries s _ r₁).mono fun _ _ _ h => hread.trans h

/-- A search does with the replacement that stands what it plans, and all of it where it goes on. -/
theorem seek_carries (spec : Spec) (r : Run σ) :
    (e.noted.seek spec).Ends r.unnoted fun x r' =>
      r.unnoted.Carries Call.isMutating (e.checkPlan spec r) (∃ a, x = .ok a) r' := by
  have htarget : (e.noted.seekTarget spec).Calls Call.Reads :=
    Op.Calls.closed.seekTarget (fun _ h => h) spec
  rw [seek_eq]
  refine (carries_of_reads (Op.Calls.closed.lookUp (fun _ h => h) spec _) True
    r.unnoted).with_run.bind ?_ ?_
  · rintro existing r₁ - ⟨hlookUp, hread⟩
    have hplan : e.lookingUp spec e.settings.findReplacedTimeout r = (.ok existing, r₁) := hlookUp
    unfold checkPlan
    rw [hplan]
    cases existing with
    | none =>
      exact (carries_of_reads htarget True r₁).mono fun _ _ _ h => (hread.trans h).mono fun _ =>
        trivial
    | some s =>
      refine (keepsReplacement_carries s spec r₁).bind ?_ fun _ _ _ h => (hread.trans h).failed
      intro kept r₂ _ h
      have hdone := hread.trans (h.done ⟨kept, rfl⟩)
      cases kept with
      | true => exact .of_pure (hdone.mono fun _ => trivial)
      | false =>
        refine (carries_of_reads htarget True r₂).mono fun _ _ _ h₂ => ?_
        have hall := hdone.trans h₂
        rw [List.append_nil] at hall
        exact hall.mono fun _ => trivial
  · rintro err r₁ - ⟨hlookUp, hread⟩
    have hplan : e.lookingUp spec e.settings.findReplacedTimeout r = (.error err, r₁) := hlookUp
    unfold checkPlan
    rw [hplan]
    exact hread.failed

/-- An exchange scales the parent down and creates the replacement, unless that cannot be built. -/
theorem exchange_carries (target : SelectedPod) (parent : Workload) (spec : Spec)
    (r : Run (σ × List CallEvent)) :
    (e.noted.exchange target parent spec).Ends r fun _ r' =>
      r.Carries Call.isMutating (e.exchangeCalls target parent spec) False r' := by
  unfold exchange exchangeCalls
  rw [prepare_eq]
  cases hwanted : e.wanted target parent spec with
  | error err =>
    have hnone : e.noted.wanted target parent spec = .error err := hwanted
    rw [hnone]
    exact .of_throw (.refl r)
  | ok wanted =>
    have hsome : e.noted.wanted target parent spec = .ok wanted := hwanted
    rw [hsome, Op.purely_ok_bind, bind_assoc]
    refine (quiesce_carries parent r).during_bind _ ?_ fun _ _ _ h => h.stop _
    intro quiesced r₁ _ h
    have hdown := h.done (not_interrupted_ok quiesced)
    rw [pure_bind]
    have hswapIn : (e.noted.swapIn target parent wanted).Ends r₁ fun _ r₂ =>
        r.Carries Call.isMutating (Scale.quiesceCalls parent ++ [.createPod wanted]) False r₂ := by
      refine (carries_of_reads (Op.Calls.closed.waitForTermination (fun _ h => h) target.pod.ns
        target.pod.name parent.kind _ _) True r₁).during_bind _ ?_ fun _ _ _ h₂ => ?_
      · intro _ r₂ _ h₂
        refine (e.cluster.request_carries .caller Call.isMutating (.createPod wanted)
          r₂).during _ ?_
        exact fun _ r₃ _ h₃ => (hdown.trans (h₂.trans h₃)).mono False.elim
      · exact hdown.trans (h₂.stop [.createPod wanted])
    refine hswapIn.tried ?_
    intro x r₂ _ h₂
    cases x with
    | ok created => exact .of_pure h₂
    | error err =>
      dsimp only
      split
      · exact .of_pure h₂
      · exact .of_throw h₂

/-- What is undertaken is done as planned. -/
theorem undertake_carries (spec : Spec) (r : Run σ) :
    (e.noted.undertake spec).Ends r.unnoted fun _ r' =>
      r.unnoted.Carries Call.isMutating (e.checkPlan spec r ++ e.exchangePlan spec r) False r' := by
  unfold undertake
  refine (seek_carries spec r).with_run.bind ?_ fun _ _ _ h => h.2.stop _
  rintro found r₁ - ⟨hseek, h⟩
  have hfound : (e.seeking spec r).1 = .ok found := congrArg Prod.fst hseek
  have hdone := h.done ⟨found, rfl⟩
  unfold exchangePlan
  rw [hfound]
  cases found with
  | standing s => exact .of_pure (hdone.stop _)
  | target target parent =>
    exact (exchange_carries target parent spec r₁).mono fun _ _ _ h₁ => hdone.trans h₁

/-- A search that finds a target found no replacement, or one that it took down. -/
theorem judge_of_target {spec : Spec} {r : Run σ} {target : SelectedPod} {parent : Workload}
    {r₂ : Run (σ × List CallEvent)} (h : e.seeking spec r = (.ok (.target target parent), r₂)) :
    (∃ r₁, e.lookingUp spec e.settings.findReplacedTimeout r = (.ok none, r₁)) ∨
      ∃ s r₁ known, e.lookingUp spec e.settings.findReplacedTimeout r = (.ok (some s), r₁) ∧
        e.judge spec s (e.askingParent s r₁) = .takenDown known := by
  unfold seeking at h
  rw [seek_eq] at h
  obtain ⟨existing, r₁, hlookUp, h⟩ := Op.ok_of_bind h
  cases existing with
  | none => exact .inl ⟨r₁, hlookUp⟩
  | some s =>
    refine .inr ⟨s, r₁, ?_⟩
    obtain ⟨kept, r₃, hkeeps, h⟩ := Op.ok_of_bind h
    cases kept with
    | true => cases h
    | false =>
      rw [keepsReplacement_eq, Op.from_attempt_bind] at hkeeps
      change (e.noted.carryOut s (e.judge spec s (e.askingParent s r₁))).from _ = _ at hkeeps
      cases hjudge : e.judge spec s (e.askingParent s r₁) with
      | takenDown known => exact ⟨known, hlookUp, rfl⟩
      | undecided err =>
        rw [hjudge] at hkeeps
        cases hkeeps
      | kept parent' =>
        rw [hjudge, carryOut, Op.from_attempt_bind] at hkeeps
        split at hkeeps
        · cases hkeeps
        · split at hkeeps <;> cases hkeeps

/-! ## The way back -/

/-- The way back is gone only where the parent of a target was scaled down, by a patch that was
acknowledged, and nothing was created. -/
theorem undertake_fails (spec : Spec) (r : Run σ) :
    (e.noted.undertake spec).Ends r.unnoted fun x r' => ∀ err parent,
      x = .ok (.error (err, parent)) → ∃ target r₁ since,
        e.seeking spec r = (.ok (.target target parent), r₁) ∧
          r'.world.2 = since ++ r₁.world.2 ∧ Scale.Acknowledged parent since ∧
            ∀ pod, .created pod ∉ mutations r'.world.2 := by
  unfold undertake
  refine (seek_createsNone spec r.unnoted).with_run.bind ?_ fun _ _ _ _ _ _ h => by cases h
  rintro found r₁ - ⟨hseek, hsought⟩
  cases found with
  | standing s => exact .of_pure fun _ _ h => by cases h
  | target target parent =>
    unfold exchange
    refine ((prepare_createsNone target parent spec r₁).and
      (prepare_acknowledged target parent spec r₁)).bind ?_ fun _ _ _ _ _ _ h => by cases h
    rintro ⟨wanted, quiesced⟩ r₂ - ⟨hprepared, hacknowledged⟩
    refine (swapIn_not_created target parent wanted r₂).tried ?_
    intro x r₃ hl hswapIn
    cases x with
    | ok created => exact .of_pure fun _ _ h => by cases h
    | error err =>
      cases quiesced with
      | false => exact .of_throw fun _ _ h => by cases h
      | true =>
        refine .of_pure ?_
        rintro _ _ ⟨⟩
        obtain ⟨since, hsince, hscaled⟩ := (hacknowledged wanted true rfl).2 rfl
        obtain ⟨later, hlater⟩ := hl.events
        refine ⟨target, r₁, later ++ since, hseek, ?_,
          hscaled.mono (List.subset_append_right later since), fun pod hpod => ?_⟩
        · rw [← hlater, hsince, List.append_assoc]
        · have hcreated := hsought.created (hprepared.created (hswapIn err rfl pod hpod))
          cases hcreated

end

/-! ## The protocol -/

/-- How a replacement goes about its changes. -/
structure ReplaceProtocol (e : Engine σ) (spec : Spec) (r : Run σ) : Prop where
  /-- The changes are begun in the order of the plan, each at most once. -/
  planned : (moves (e.replacing spec r).2.world.2).Sublist
    (e.checkPlan spec r ++ e.exchangePlan spec r ++ e.wayBackPlan spec r)
  /-- While a deletion is not over nothing is begun but a look at the pod. -/
  awaited : Obeys AwaitsDeletions (e.replacing spec r).2.world.2
  /-- The way back comes after all else, and changes something only where the parent of the target
  was scaled down, by a patch that was acknowledged, and no pod was created. -/
  wayBack : ∃ back, (e.replacing spec r).2.world.2 = back ++ (e.undertaking spec r).2.world.2 ∧
    (moves (e.undertaking spec r).2.world.2).Sublist
      (e.checkPlan spec r ++ e.exchangePlan spec r) ∧
    (moves back).Sublist (e.wayBackPlan spec r) ∧
    (moves back ≠ [] → ∃ target parent r₁ since,
      e.seeking spec r = (.ok (.target target parent), r₁) ∧
        (e.undertaking spec r).2.world.2 = since ++ r₁.world.2 ∧
          Scale.Acknowledged parent since ∧
            ∀ pod, .created pod ∉ mutations (e.replacing spec r).2.world.2)
  /-- Where the replacement is kept, at most its parent is scaled down. -/
  kept : ∀ s r₁ parent,
    e.lookingUp spec e.settings.findReplacedTimeout r = (.ok (some s), r₁) →
      e.judge spec s (e.askingParent s r₁) = .kept parent →
        (moves (e.replacing spec r).2.world.2).Sublist (Scale.quiesceCalls parent)
  /-- Where it is not known what becomes of the replacement, as without its fingerprints, nothing is
  changed. -/
  undecided : ∀ s r₁ err,
    e.lookingUp spec e.settings.findReplacedTimeout r = (.ok (some s), r₁) →
      e.judge spec s (e.askingParent s r₁) = .undecided err →
        moves (e.replacing spec r).2.world.2 = []

/-- How a revert goes about its changes. -/
structure RevertProtocol (e : Engine σ) (spec : Spec) (r : Run σ) : Prop where
  /-- The changes are begun in the order of the plan, each at most once. -/
  planned : (moves (e.reverting spec r).2.world.2).Sublist (e.revertPlan spec r)
  /-- While a deletion is not over nothing is begun but a look at the pod. -/
  awaited : Obeys AwaitsDeletions (e.reverting spec r).2.world.2
  /-- Where no replacement is found, nothing is changed. -/
  unfound : (∀ s, (e.lookingUp spec e.settings.revertFindTimeout r).1 ≠ .ok (some s)) →
    moves (e.reverting spec r).2.world.2 = []

section

variable (e : Engine σ) (spec : Spec) (r : Run σ)

/-- The moves of what comes after the undertaking are those of the way back. -/
theorem replacing_wayBack :
    ∃ back, (e.replacing spec r).2.world.2 = back ++ (e.undertaking spec r).2.world.2 ∧
      (moves back).Sublist (e.wayBackPlan spec r) ∧
      (moves back ≠ [] → ∃ target parent r₁ since,
        e.seeking spec r = (.ok (.target target parent), r₁) ∧
          (e.undertaking spec r).2.world.2 = since ++ r₁.world.2 ∧
            Scale.Acknowledged parent since ∧
              ∀ pod, .created pod ∉ mutations (e.replacing spec r).2.world.2) := by
  obtain ⟨back, hback, rfl | ⟨err, parent, hfailed, hcalls⟩⟩ := e.replacing_back spec r
  · exact ⟨[], hback, List.nil_sublist _, fun hmoves => absurd rfl hmoves⟩
  · have hplan : e.wayBackPlan spec r =
        Scale.restoreAsRead (e.rereading parent (e.undertaking spec r).2) := by
      unfold wayBackPlan
      rw [show e.undertaking spec r = (.ok (.error (err, parent)), (e.undertaking spec r).2) from
        Prod.ext hfailed rfl]
    refine ⟨back, hback, ?_, fun _ => ?_⟩
    · have hmoves := hcalls.filter Call.isMutating
      rw [wayBackCalls, List.filter_cons_of_neg Bool.false_ne_true,
        Scale.filter_restoreAsRead] at hmoves
      rw [hplan]
      exact hmoves
    · obtain ⟨target, r₁, since, hseek, hsince, hscaled, huncreated⟩ :=
        (undertake_fails (e := e) spec r).result err parent hfailed
      exact ⟨target, parent, r₁, since, hseek, hsince, hscaled,
        fun pod hpod => huncreated pod (replacing_created hpod)⟩

/-- Only a replacement that found a target plans more than to check the one that stands. -/
theorem plans_of_no_target
    (h : ∀ target parent r₁, e.seeking spec r ≠ (.ok (.target target parent), r₁)) :
    e.exchangePlan spec r = [] ∧ e.wayBackPlan spec r = [] := by
  constructor
  · unfold exchangePlan
    cases hseek : e.seeking spec r with
    | mk x r₁ =>
      cases x with
      | error err => rfl
      | ok found =>
        cases found with
        | standing s => rfl
        | target target parent => exact absurd hseek (h target parent r₁)
  · unfold wayBackPlan
    cases hundertake : e.undertaking spec r with
    | mk x r₁ =>
      cases x with
      | error err => rfl
      | ok y =>
        cases y with
        | ok outcome => rfl
        | error failure =>
          obtain ⟨target, r₂, -, hseek, -⟩ :=
            (undertake_fails (e := e) spec r).result failure.1 failure.2 (by
              show (e.undertaking spec r).1 = _
              rw [hundertake])
          exact absurd hseek (h target failure.2 r₂)

/-- The moves of a replacement that found one are those of what becomes of it, unless that is taken
down. -/
theorem moves_of_judged {s : SelectedPod} {r₁ : Run (σ × List CallEvent)} {verdict : Verdict}
    (hfound : e.lookingUp spec e.settings.findReplacedTimeout r = (.ok (some s), r₁))
    (hjudge : e.judge spec s (e.askingParent s r₁) = verdict)
    (hstays : ∀ parent, verdict ≠ .takenDown parent)
    (hplanned : (moves (e.replacing spec r).2.world.2).Sublist
      (e.checkPlan spec r ++ e.exchangePlan spec r ++ e.wayBackPlan spec r)) :
    (moves (e.replacing spec r).2.world.2).Sublist (verdictCalls s verdict) := by
  obtain ⟨hexchange, hwayBack⟩ := e.plans_of_no_target spec r fun target parent r₂ hseek => by
    rcases judge_of_target hseek with ⟨r₃, hnone⟩ | ⟨s', r₃, known, hsome, htakenDown⟩
    · rw [hfound] at hnone
      cases hnone
    · rw [hfound] at hsome
      cases hsome
      exact hstays known (hjudge.symm.trans htakenDown)
  rw [hexchange, hwayBack, List.append_nil, List.append_nil] at hplanned
  unfold checkPlan at hplanned
  rw [hfound] at hplanned
  rw [← hjudge]
  exact hplanned

theorem replacing_protocol : e.ReplaceProtocol spec r := by
  have hundertaken : (moves (e.undertaking spec r).2.world.2).Sublist
      (e.checkPlan spec r ++ e.exchangePlan spec r) :=
    (undertake_carries spec r).result.sublist rfl
  obtain ⟨back, hback, hwayBack, hafter⟩ := e.replacing_wayBack spec r
  have hplanned : (moves (e.replacing spec r).2.world.2).Sublist
      (e.checkPlan spec r ++ e.exchangePlan spec r ++ e.wayBackPlan spec r) := by
    rw [hback, moves_append]
    exact hundertaken.append hwayBack
  exact
    { planned := hplanned
      awaited := (replacePod_awaits spec r.unnoted DeletionsOver.nil Obeys.nil).result.1
      wayBack := ⟨back, hback, hundertaken, hwayBack, hafter⟩
      kept := fun s r₁ parent hfound hjudge =>
        e.moves_of_judged spec r hfound hjudge (fun _ h => by cases h) hplanned
      undecided := fun s r₁ err hfound hjudge => List.sublist_nil.mp
        (e.moves_of_judged spec r hfound hjudge (fun _ h => by cases h) hplanned) }

theorem reverting_protocol : e.RevertProtocol spec r := by
  have hcarried : (e.noted.revertPod spec).Ends r.unnoted fun _ r' =>
      r.unnoted.Carries Call.isMutating (e.revertPlan spec r) False r' := by
    rw [revertPod_eq]
    refine (carries_of_reads (Op.Calls.closed.lookUp (fun _ h => h) spec _) True
      r.unnoted).with_run.bind ?_ ?_
    · rintro existing r₁ - ⟨hlookUp, hread⟩
      have hplan : e.lookingUp spec e.settings.revertFindTimeout r = (.ok existing, r₁) := hlookUp
      unfold revertPlan
      rw [hplan]
      cases existing with
      | none => exact .of_pure (hread.mono False.elim)
      | some s =>
        dsimp only
        rw [parentToRestore_eq, bind_assoc]
        refine (carries_of_reads (Op.Calls.closed.parentOfReplacement (fun _ h => h) s.pod) True
          r₁).with_run.tried ?_
        rintro x r₂ - ⟨hasked, hread₂⟩
        have hparent : e.askingParent s r₁ = x := congrArg Prod.fst hasked
        rw [hparent]
        have htakeDown := fun parent => (takeDown_carries (e := e) s parent r₂).bind
          (f := fun _ => pure (some s)) (R := fun _ r₃ =>
            r.unnoted.Carries Call.isMutating (takeDownCalls s parent) False r₃)
          (fun _ r₃ _ h => .of_pure ((hread.trans (hread₂.trans h)).mono False.elim))
          (fun _ r₃ _ h => (hread.trans (hread₂.trans h)).mono False.elim)
        cases x with
        | ok parent => exact htakeDown (some parent)
        | error err =>
          dsimp only
          split
          · exact .of_throw ((hread.trans hread₂).stop _)
          · exact htakeDown none
    · rintro err r₁ - ⟨hlookUp, hread⟩
      have hplan : e.lookingUp spec e.settings.revertFindTimeout r = (.error err, r₁) := hlookUp
      unfold revertPlan
      rw [hplan]
      exact hread.mono False.elim
  have hplanned : (moves (e.reverting spec r).2.world.2).Sublist (e.revertPlan spec r) :=
    hcarried.result.sublist rfl
  refine ⟨hplanned, (revertPod_awaits spec r.unnoted DeletionsOver.nil Obeys.nil).result.1, ?_⟩
  intro hnone
  unfold revertPlan at hplanned
  split at hplanned
  · rename_i s r₁ hfound
    exact absurd (congrArg Prod.fst hfound) (hnone s)
  · exact List.sublist_nil.mp hplanned

end

/-- Whatever the cluster answers, what fails and when the run is cancelled: a replacement and a
revert go about their changes by the protocol. -/
theorem follow_protocol (e : Engine σ) (spec : Spec) (r : Run σ) :
    e.ReplaceProtocol spec r ∧ e.RevertProtocol spec r :=
  ⟨e.replacing_protocol spec r, e.reverting_protocol spec r⟩

end Engine

end PodSwap
