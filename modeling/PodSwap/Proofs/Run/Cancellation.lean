import PodSwap.Proofs.Run.History

/-!
# Heeding a cancellation

An operation heeds a cancellation if it begins no call at its instant or later, and if time comes to
that instant only by the operation being interrupted. A cancellation that a call brings forward is
another one: what is said is of cancellations that stay where they are.

What tries an operation and goes on whatever it ends with has to let an interruption through.

Main statements: a rule for every way to put operations together (`Op.Heeds.bind`,
`Op.Heeds.tried`, `Op.Heeds.during`), for a call (`Cluster.request_heeds`), for sleep
(`sleep_heeds`) and for a poll (`Cluster.wait_heeds`), so that heeding a cancellation is a closed
property (`Op.Heeds.closed`).
-/

namespace PodSwap

variable [Schema]

variable {σ α β : Type}

/-- Whether a run has kept to the instant it is to be cancelled at: all calls were begun before it,
and it has not come unless the run was stopped. -/
structure Run.Keeps (c : Nat) (stopped : Prop) (r : Run (σ × List CallEvent)) : Prop where
  begun_lt : ∀ now call, CallEvent.begun now call ∈ r.world.2 → now < c
  now_lt : r.now < c ∨ stopped

/-- From one state to another a run went on keeping to the instant it is to be cancelled at, as long
as that is where it was. -/
def Run.Heeds (stopped : Prop) (r r' : Run (σ × List CallEvent)) : Prop :=
  ∀ c, r.cancelAt = some c → r'.cancelAt = some c → r.Keeps c False → r'.Keeps c stopped

/-- The operation heeds a cancellation. -/
def Op.Heeds (op : Op (σ × List CallEvent) α) : Prop :=
  ∀ r, op.Ends r fun x r' => r.Heeds (Interrupted x) r'

theorem Run.Keeps.mono {c : Nat} {stopped stopped' : Prop} {r : Run (σ × List CallEvent)}
    (h : r.Keeps c stopped) (hstopped : stopped → stopped') : r.Keeps c stopped' :=
  ⟨h.begun_lt, h.now_lt.imp id hstopped⟩

namespace Run.Heeds

variable {stopped stopped' : Prop} {r r' r'' : Run (σ × List CallEvent)}

theorem refl (r : Run (σ × List CallEvent)) : r.Heeds stopped r :=
  fun _ _ _ h => h.mono False.elim

theorem mono (h : r.Heeds stopped r') (hstopped : stopped → stopped') : r.Heeds stopped' r' :=
  fun c hc hc' hkeeps => (h c hc hc' hkeeps).mono hstopped

/-- A run that was not stopped goes on. -/
theorem trans (h : r.Heeds stopped r') (hstopped : ¬ stopped) (hl : r.Leads r')
    (hl' : r'.Leads r'') (h' : r'.Heeds stopped' r'') : r.Heeds stopped' r'' := by
  intro c hc hc'' hkeeps
  have hc' := hl.cancelAt_eq hl' hc hc''
  exact h' c hc' hc'' ((h c hc hc' hkeeps).mono hstopped)

end Run.Heeds

namespace Op.Heeds

variable {op : Op (σ × List CallEvent) α}

theorem of_pure (a : α) : (pure a : Op (σ × List CallEvent) α).Heeds := fun r => .of_pure (.refl r)

theorem of_throw (e : Error) : (throw e : Op (σ × List CallEvent) α).Heeds :=
  fun r => .of_throw (.refl r)

theorem bind {f : α → Op (σ × List CallEvent) β} (h : op.Heeds) (hf : ∀ a, (f a).Heeds) :
    (op >>= f).Heeds := by
  intro r
  refine ((h r).mono fun x r' hl hx => And.intro hl hx).bind ?_ ?_
  · rintro a r' - ⟨hl, ha⟩
    exact (hf a r').mono fun y r'' hl' hy => ha.trans (not_interrupted_ok a) hl hl' hy
  · rintro e r' - ⟨-, he⟩
    exact he.mono fun hstopped => interrupted_error.mpr (interrupted_error.mp hstopped)

theorem during (name : String) (h : op.Heeds) : (PodSwap.during name op).Heeds :=
  fun r => (h r).during name fun _ _ _ hx => hx.mono interrupted_inStep.mpr

/-- What goes on after an operation whatever that ended with, but for an interruption. -/
theorem tried {f : Except Error α → Op (σ × List CallEvent) β} (h : op.Heeds)
    (hf : ∀ x, ¬ Interrupted x → (f x).Heeds)
    (hstop : ∀ err : Error, err.isCancelled = true → f (.error err) = throw err) :
    (PodSwap.attempt op >>= f).Heeds := by
  intro r
  refine ((h r).mono fun x r' hl hx => And.intro hl hx).tried ?_
  rintro x r' - ⟨hl, hx⟩
  by_cases hinterrupted : Interrupted x
  · obtain ⟨err, rfl, hcancelled⟩ := hinterrupted
    rw [hstop err hcancelled]
    exact .of_throw (hx.mono fun _ => interrupted_error.mpr hcancelled)
  · exact (hf x hinterrupted r').mono fun y r'' hl' hy => hx.trans hinterrupted hl hl' hy

end Op.Heeds

/-! ## Calls and sleep -/

/-- An action heeds a cancellation if it notes no calls as begun but at its own beginning. -/
theorem guarded_heeds {a : Timed (σ × List CallEvent) α}
    (hleads : ∀ r : Run (σ × List CallEvent), r.Leads ((guarded .caller a).from r).2)
    (hstart : ∀ now w t call, CallEvent.begun t call ∈ (a.start now w).2 →
      t = now ∨ CallEvent.begun t call ∈ w.2)
    (hfinish : ∀ now w t call, CallEvent.begun t call ∈ (a.finish now w).world.2 →
      CallEvent.begun t call ∈ w.2) : (guarded .caller a).Heeds := by
  intro r
  refine ⟨hleads r, fun c hc _ hkeeps => ?_⟩
  have hnow : r.now < c := hkeeps.now_lt.resolve_right id
  have hbegun : ∀ t call, CallEvent.begun t call ∈ (a.start r.now r.world).2 → t < c := by
    intro t call hevent
    rcases hstart r.now r.world t call hevent with rfl | hevent
    · exact hnow
    · exact hkeeps.begun_lt t call hevent
  rcases from_guarded_of_lt a hc hnow with h | ⟨hdue, h⟩
  · rw [h]
    exact ⟨hbegun, .inr (interrupted_error.mpr rfl)⟩
  · rw [h]
    exact ⟨fun t call hevent => hbegun t call (hfinish _ _ t call hevent), .inl hdue⟩

theorem sleep_heeds (ms : Nat) : (sleep .caller ms : Op (σ × List CallEvent) Unit).Heeds := by
  have hleads : ∀ r : Run (σ × List CallEvent), r.Leads ((sleep .caller ms).from r).2 := by
    intro r
    rcases from_sleep .caller ms r with ⟨now, hle, -, h⟩ | h
    · rw [h]
      exact .of_cancelAt_eq hle rfl List.suffix_rfl
    · rw [h]
      exact .of_cancelAt_eq (Nat.le_add_right _ _) rfl List.suffix_rfl
  exact guarded_heeds (a := pause ms) hleads (fun _ _ _ _ h => .inr h) fun _ _ _ _ h => h

namespace Cluster

variable {cluster : Cluster σ} {c : Call}

/-- A call that is noted heeds a cancellation. -/
theorem guarded_traced_heeds (f : c.Answer → β) :
    (guarded .caller ((cluster.traced.call c).map f)).Heeds := by
  refine guarded_heeds ?_ ?_ ?_
  · exact fun r => (cluster.guarded_traced_ends .caller (Q := fun _ _ => True)
      (fun _ _ => trivial) (fun _ _ => trivial) fun _ _ _ _ _ => trivial).1
  · intro now w t call hevent
    rcases List.mem_cons.mp hevent with heq | hevent
    · cases heq
      exact .inl rfl
    · exact .inr hevent
  · intro now w t call hevent
    rcases List.mem_cons.mp hevent with heq | hevent
    · cases heq
    · exact hevent

theorem request_heeds (c : Call) : (cluster.traced.request .caller c).Heeds := by
  unfold Cluster.request
  rw [← Timed.map_id (cluster.traced.call c)]
  exact guarded_traced_heeds id

/-- A poll heeds a cancellation, in its calls and in between. -/
theorem wait_heeds (p : Poll) (f : c.Answer → Option β) :
    (p.wait .caller ((cluster.traced.call c).map f)).Heeds := by
  intro r
  refine Poll.rounds_ends (I := fun r₁ => r.Leads r₁ ∧ r.Heeds False r₁)
    (J := fun _ r₁ => r.Leads r₁ ∧ r.Heeds False r₁)
    (Q := fun x r₁ => r.Heeds (Interrupted x) r₁) ?_ ?_ ?_ Poll.idleRounds r ⟨.refl r, .refl r⟩
  · rintro r₁ ⟨hl, hr₁⟩
    refine (guarded_traced_heeds f r₁).mono fun x r₂ hl' hx => ?_
    have hr₂ := hr₁.trans id hl hl' hx
    cases x with
    | error e => exact hr₂.mono fun h => interrupted_error.mpr (interrupted_error.mp h)
    | ok x =>
      cases x with
      | some b => exact hr₂.mono fun h => absurd h (not_interrupted_ok _)
      | none => exact ⟨hl.trans hl', hr₂.mono (not_interrupted_ok _)⟩
  · exact fun _ _ h _ => h.2.mono False.elim
  · rintro - r₁ ⟨hl, hr₁⟩
    refine (sleep_heeds p.intervalMs r₁).mono fun x r₂ hl' hx => ?_
    have hr₂ := hr₁.trans id hl hl' hx
    cases x with
    | ok _ =>
      have hon := hr₂.mono (not_interrupted_ok _)
      exact ⟨⟨hl.trans hl', hon⟩, fun _ => hon.mono False.elim⟩
    | error e => exact hr₂.mono fun h => interrupted_error.mpr (interrupted_error.mp h)

end Cluster

/-- What is put together from operations that heed a cancellation heeds it. -/
theorem Op.Heeds.closed {cluster : Cluster σ} :
    Op.Closed cluster .caller (fun _ => True) fun op => op.Heeds where
  of_pure := .of_pure
  of_throw := .of_throw
  bind := .bind
  during name := .during name
  tried := .tried
  request _ := Cluster.request_heeds _
  wait p f _ := Cluster.wait_heeds p f

end PodSwap
