import PodSwap.Proofs.Engine.Slot
import PodSwap.Proofs.Engine.Undertaking
import PodSwap.Proofs.Run.Cancellation

/-!
# Cancellation

Both operations heed a cancellation at whatever point it comes: they begin no call from its instant
on, and are interrupted if it comes while they are under way. No place that makes something else of
an error, a value or another error, makes something else of an interruption: not the lookup that
takes a wait that was too long for an absence, not the check that takes a replacement without a
parent down, and not the one that keeps a replacement whose parent could not be scaled down. Only
the way back of a replacement runs on, with its two calls.

Main statement: `heed_cancellation`.
-/

namespace PodSwap

section

variable [Schema]

variable {σ : Type}

namespace Engine

variable {e : Engine σ}

/-! ## What a replacement undertakes -/

/-- What a replacement comes to, by what it undertakes. -/
def overall {α : Type} : Except Error (Except (Error × Workload) α) → Except Error α
  | .error err => .error err
  | .ok (.error (err, _)) => .error err
  | .ok (.ok a) => .ok a

theorem replacing_fst (e : Engine σ) (spec : Spec) (r : Run σ) :
    (e.replacing spec r).1 = overall (e.undertaking spec r).1 := by
  rcases e.replacing_cases spec r with ⟨outcome, hx, hrun⟩ | ⟨err, hx, hrun⟩ |
      ⟨err, parent, hx, hrun⟩ <;>
    rw [hx, hrun] <;> rfl

/-- What is undertaken heeds a cancellation, also where the way back is still to come. -/
theorem undertake_heeds (spec : Spec) (r : Run (σ × List CallEvent)) :
    (e.noted.undertake spec).Ends r fun x r' => r.Heeds (Interrupted (overall x)) r' := by
  unfold undertake
  have hany : ∀ c : Call, c.Reads → True := fun _ _ => trivial
  refine ((Op.Heeds.closed.seek hany (fun _ _ _ _ => trivial) (fun _ _ => trivial) spec r).mono
    fun x r₁ hl hx => And.intro hl hx).bind ?_ ?_
  · rintro found r₁ - ⟨hl₁, hr₁⟩
    have hsought := hr₁.mono (not_interrupted_ok found)
    cases found with
    | standing s => exact .of_pure (hsought.mono False.elim)
    | target target parent =>
      unfold exchange
      refine ((Op.Heeds.closed.prepare (fun _ _ _ _ => trivial) target parent spec r₁).mono
        fun x r₂ hl hx => And.intro hl hx).bind ?_ ?_
      · rintro ⟨wanted, quiesced⟩ r₂ - ⟨hl₂, hr₂⟩
        have hprepared := hsought.trans id hl₁ hl₂ (hr₂.mono (not_interrupted_ok _))
        refine (Op.Heeds.closed.swapIn hany trivial target parent r₂).tried ?_
        intro x r₃ hl₃ hr₃
        have hswapped := hprepared.trans id (hl₁.trans hl₂) hl₃ hr₃
        cases x with
        | ok created => exact .of_pure (hswapped.mono fun h => absurd h (not_interrupted_ok _))
        | error err =>
          have herror := hswapped.mono interrupted_error.mp
          cases quiesced with
          | true => exact .of_pure (herror.mono interrupted_error.mpr)
          | false => exact .of_throw (herror.mono interrupted_error.mpr)
      · rintro err r₂ - ⟨hl₂, hr₂⟩
        have hprepared := hsought.trans id hl₁ hl₂ hr₂
        exact hprepared.mono fun h => interrupted_error.mpr (interrupted_error.mp h)
  · rintro err r₁ - ⟨-, hr₁⟩
    exact hr₁.mono fun h => interrupted_error.mpr (interrupted_error.mp h)

/-! ## Runs that were cancelled before -/

section

variable {r : Run (σ × List CallEvent)} (h : r.isCancelled .caller = true)

include h

theorem select_of_isCancelled (opts : SelectOptions) :
    (e.noted.select opts).from r = (.error .cancelled, r) := by
  have hwait : ∀ p : Poll, (p.wait .caller ((e.noted.cluster.call
      (.listPods opts.ns opts.selectorText)).map opts.pick)).from r = (.error .cancelled, r) :=
    fun p => Poll.rounds_of_error (guarded_of_isCancelled h)
  unfold select
  rw [Op.from_attempt_bind, hwait]
  rfl

/-- A lookup in a run that was cancelled before does nothing, and comes to an interruption unless
the spec is invalid. -/
theorem lookUp_of_isCancelled (spec : Spec) (timeoutMs : Nat) :
    ∃ err, (e.noted.lookUp spec timeoutMs).from r = (.error err, r) ∧
      (spec.validate = .ok () → err.root = .cancelled) := by
  unfold lookUp
  cases hselection : spec.selection with
  | error err =>
    have hinvalid : spec.validate = .error err := by
      rw [Spec.validate, hselection]
      rfl
    rw [hinvalid]
    exact ⟨err, rfl, fun h => by cases h⟩
  | ok selection =>
    rw [Spec.validate_of_selection hselection, Op.purely_ok_bind,
      e.findReplacement_eq_select hselection]
    refine ⟨.step "find replaced pod" .cancelled, ?_, fun _ => rfl⟩
    show (inStep _ ((e.noted.select _).from r).1, ((e.noted.select _).from r).2) = _
    rw [select_of_isCancelled h]
    rfl

end

end Engine

/-! ## Whole runs -/

/-- How an operation that was given a spec heeds a cancellation, by what it came to and by the state
it ended in. -/
structure HeedsCancellation {α : Type} (spec : Spec) (c : Nat) (x : Except Error α)
    (r' : Run (σ × List CallEvent)) : Prop where
  /-- No call is begun at the instant of the cancellation or later. -/
  begun_lt : ∀ now call, CallEvent.begun now call ∈ r'.world.2 → now < c
  /-- An operation that is under way at the instant ends in an interruption. With an invalid spec it
  is over at once. -/
  interrupted : spec.validate = .ok () → c ≤ r'.now → ∃ err, x = .error err ∧ err.root = .cancelled

namespace HeedsCancellation

variable {α : Type} {spec : Spec} {r : Run σ} {c : Nat}

theorem of_heeds {x : Except Error α} {r' : Run (σ × List CallEvent)} (hc : r.cancelAt = some c)
    (hnow : r.now < c) (hc' : r'.cancelAt = some c) (h : r.unnoted.Heeds (Interrupted x) r') :
    HeedsCancellation spec c x r' := by
  have hstart : r.unnoted.Keeps c False :=
    ⟨fun _ _ hevent => (List.not_mem_nil hevent).elim, .inl hnow⟩
  have hkeeps := h c hc hc' hstart
  refine ⟨hkeeps.begun_lt, fun _ hdue => ?_⟩
  obtain ⟨err, hx, hcancelled⟩ := hkeeps.now_lt.resolve_left (Nat.not_lt.mpr hdue)
  exact ⟨err, hx, of_decide_eq_true hcancelled⟩

/-- What was interrupted before it began heeded the cancellation. -/
theorem of_unbegun {err : Error} (h : spec.validate = .ok () → err.root = .cancelled) :
    HeedsCancellation spec c (.error err : Except Error α) r.unnoted :=
  ⟨fun _ _ hevent => (List.not_mem_nil hevent).elim, fun hvalid _ => ⟨err, rfl, h hvalid⟩⟩

end HeedsCancellation

namespace Engine

section

variable {r : Run σ} {c : Nat} (hc : r.cancelAt = some c)

include hc

theorem isCancelled_unnoted (hdue : ¬ r.now < c) : r.unnoted.isCancelled .caller = true := by
  have hcancelAt : r.unnoted.cancelAt = some c := hc
  simp only [Run.isCancelled, Run.cancellation, hcancelAt]
  exact decide_eq_true (Nat.not_lt.mp hdue)

theorem replacing_heeds (e : Engine σ) (spec : Spec)
    (hkept : (e.replacing spec r).2.cancelAt = some c) :
    HeedsCancellation spec c (e.replacing spec r).1 (e.undertaking spec r).2 := by
  rw [replacing_fst]
  by_cases hnow : r.now < c
  · have hundertake := undertake_heeds (e := e) spec r.unnoted
    exact .of_heeds hc hnow (hundertake.1.cancelAt_eq (e.undertaking_leads spec r) hc hkept)
      hundertake.result
  · obtain ⟨err, hlookUp, hroot⟩ := lookUp_of_isCancelled (e := e) (isCancelled_unnoted hc hnow)
      spec e.settings.findReplacedTimeout
    have hseek : (e.noted.seek spec).from r.unnoted = (.error err, r.unnoted) := by
      rw [seek_eq]
      exact Op.from_bind_of_error hlookUp
    have hundertake : e.undertaking spec r = (.error err, r.unnoted) :=
      Op.from_bind_of_error hseek
    rw [hundertake]
    exact .of_unbegun hroot

theorem reverting_heeds (e : Engine σ) (spec : Spec)
    (hkept : (e.reverting spec r).2.cancelAt = some c) :
    HeedsCancellation spec c (e.reverting spec r).1 (e.reverting spec r).2 := by
  by_cases hnow : r.now < c
  · have hrevert : (e.noted.revertPod spec).Heeds := Op.Heeds.closed.revertPod
      (fun _ _ => trivial) (fun _ _ _ _ => trivial) (fun _ _ => trivial) spec
    exact .of_heeds hc hnow hkept (hrevert r.unnoted).result
  · obtain ⟨err, hlookUp, hroot⟩ := lookUp_of_isCancelled (e := e) (isCancelled_unnoted hc hnow)
      spec e.settings.revertFindTimeout
    have hrevert : e.reverting spec r = (.error err, r.unnoted) := by
      unfold reverting
      rw [revertPod_eq]
      exact Op.from_bind_of_error hlookUp
    rw [hrevert]
    exact .of_unbegun hroot

end

/-- Whatever the cluster answers and how long it takes: a replacement and a revert heed a
cancellation, unless a call brings another one forward. They begin no call from its instant on, and
if they are under way then, they end in an interruption; a replacement only goes its way back, where
it has to, which is to read the parent again and to scale it up. -/
theorem heed_cancellation (e : Engine σ) (spec : Spec) {r : Run σ} {c : Nat}
    (hc : r.cancelAt = some c) :
    ((e.replacing spec r).2.cancelAt = some c →
      HeedsCancellation spec c (e.replacing spec r).1 (e.undertaking spec r).2 ∧
      ∃ back, (e.replacing spec r).2.world.2 = back ++ (e.undertaking spec r).2.world.2 ∧
        (back = [] ∨ ∃ err parent, (e.undertaking spec r).1 = .ok (.error (err, parent)) ∧
          (begunCalls back).Sublist
            (wayBackCalls parent (e.rereading parent (e.undertaking spec r).2)))) ∧
    ((e.reverting spec r).2.cancelAt = some c →
      HeedsCancellation spec c (e.reverting spec r).1 (e.reverting spec r).2) := by
  exact ⟨fun hkept => ⟨replacing_heeds hc e spec hkept, e.replacing_back spec r⟩,
    reverting_heeds hc e spec⟩

end Engine

end

namespace Slot

/-- The engine on the cluster, on which no call is refused. -/
def calm : Engine Slot := engine fun _ => false

/-- A run on the cluster that is cancelled at an instant. -/
def cancelledAt (c : Nat) (w : Slot) : Run Slot := ⟨0, some c, w⟩

/-- A replacement is cancelled while its pod is created, and a revert while the parent of the
replacement is looked for. -/
theorem interrupted_at_creation_and_lookup :
    let fresh : Slot := { pod := some target }
    (∃ err, (calm.replacing (spec selector) (cancelledAt 6 fresh)).1 = .error err ∧
        err.root = .cancelled) ∧
      (∃ err, (calm.reverting (spec selector) (cancelledAt 2 replaced)).1 = .error err ∧
        err.root = .cancelled) ∧
      ∀ now call, .begun now call ∈
        (calm.reverting (spec selector) (cancelledAt 2 replaced)).2.world.2 → now < 2 := by
  intro fresh
  have hreplace : (calm.replacing (spec selector) (cancelledAt 6 fresh)).2.cancelAt = some 6 ∧
      6 ≤ (calm.undertaking (spec selector) (cancelledAt 6 fresh)).2.now := by
    simp only [fresh, calm, Engine.replacing, Engine.replacePod, Engine.undertaking,
      Engine.undertake, Engine.exchange, Engine.seek, Engine.seekTarget, Engine.findReplacement,
      Engine.select, Engine.keepsReplacement, Engine.deleteReplacement, Termination.deleteAndWait,
      Engine.findTarget, Engine.swap, Engine.swapIn, Termination.waitForTermination,
      Poll.wait_eq_once, find_timeout, target_timeout, termination_timeout]
    decide +kernel
  have hrevert : (calm.reverting (spec selector) (cancelledAt 2 replaced)).2.cancelAt = some 2 ∧
      2 ≤ (calm.reverting (spec selector) (cancelledAt 2 replaced)).2.now := by
    simp only [calm, Engine.reverting, Engine.revertPod, Engine.findReplacement, Engine.select,
      Engine.deleteReplacement, Termination.deleteAndWait, Poll.wait_eq_once, revert_timeout,
      termination_timeout]
    decide +kernel
  have hvalid : (spec selector).validate = .ok () := rfl
  have hreplaced := ((Engine.heed_cancellation calm (spec selector)
    (r := cancelledAt 6 fresh) rfl).1 hreplace.1).1
  have hreverted := (Engine.heed_cancellation calm (spec selector)
    (r := cancelledAt 2 replaced) rfl).2 hrevert.1
  exact ⟨hreplaced.interrupted hvalid hreplace.2, hreverted.interrupted hvalid hrevert.2,
    hreverted.begun_lt⟩

end Slot

end PodSwap
