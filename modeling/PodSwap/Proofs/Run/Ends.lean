import PodSwap.Cluster
import PodSwap.Run.Poll

/-!
# How operations end

`op.Ends r Q` says that the operation `op`, begun in the state `r` of a run on a cluster that notes
its calls, ends with a result and a state that satisfy `Q`, and that the run went on in between:
time did not go back, a cancellation was at most brought forward, and nothing that was noted was
lost.

Main statements: a rule for every way to put operations together (`Ends.bind`, `Ends.tried`,
`Ends.during`), for a call that is noted (`guarded_traced_ends`) and for a poll (`Poll.wait_ends`).
-/

namespace PodSwap

variable {σ α β : Type}

/-- Whether a run can have gone on from one state to another. -/
structure Run.Leads [Schema] (r r' : Run (σ × List CallEvent)) : Prop where
  now_le : r.now ≤ r'.now
  cancelAt_le : ∀ c, r.cancelAt = some c → ∃ c' ≤ c, r'.cancelAt = some c'
  events : r.world.2 <:+ r'.world.2

namespace Run.Leads

variable [Schema] {r r' r'' : Run (σ × List CallEvent)}

/-- What leaves the cancellation where it is, and goes on otherwise. -/
theorem of_cancelAt_eq (hnow : r.now ≤ r'.now) (hcancelAt : r'.cancelAt = r.cancelAt)
    (hevents : r.world.2 <:+ r'.world.2) : r.Leads r' :=
  ⟨hnow, fun c hc => ⟨c, Nat.le_refl c, hcancelAt.trans hc⟩, hevents⟩

theorem refl (r : Run (σ × List CallEvent)) : r.Leads r :=
  .of_cancelAt_eq (Nat.le_refl _) rfl List.suffix_rfl

theorem trans (h : r.Leads r') (h' : r'.Leads r'') : r.Leads r'' := by
  refine ⟨Nat.le_trans h.now_le h'.now_le, fun c hc => ?_, h.events.trans h'.events⟩
  obtain ⟨c', hle, hc'⟩ := h.cancelAt_le c hc
  obtain ⟨c'', hle', hc''⟩ := h'.cancelAt_le c' hc'
  exact ⟨c'', Nat.le_trans hle' hle, hc''⟩

theorem uncancelled (h : r.Leads r') (hnone : r'.cancelAt = none) : r.cancelAt = none := by
  cases hc : r.cancelAt with
  | none => rfl
  | some c =>
    obtain ⟨c', -, hc'⟩ := h.cancelAt_le c hc
    rw [hnone] at hc'
    cases hc'

/-- A cancellation that is where it was in the end was there all the time. -/
theorem cancelAt_eq (h : r.Leads r') (h' : r'.Leads r'') {c : Nat} (hc : r.cancelAt = some c)
    (hc'' : r''.cancelAt = some c) : r'.cancelAt = some c := by
  obtain ⟨c₁, hle, hc₁⟩ := h.cancelAt_le c hc
  obtain ⟨c₂, hle', hc₂⟩ := h'.cancelAt_le c₁ hc₁
  rw [hc''] at hc₂
  cases hc₂
  rw [hc₁, Nat.le_antisymm hle hle']

end Run.Leads

/-- The operation, begun in the state, ends as the condition says. -/
def Op.Ends [Schema] (op : Op (σ × List CallEvent) α) (r : Run (σ × List CallEvent))
    (Q : Except Error α → Run (σ × List CallEvent) → Prop) : Prop :=
  r.Leads (op.from r).2 ∧ Q (op.from r).1 (op.from r).2

/-- Whether a result is an error whose cause is a cancellation. -/
def Interrupted (x : Except Error α) : Prop := ∃ err, x = .error err ∧ err.isCancelled = true

@[simp] theorem not_interrupted_ok (a : α) : ¬ Interrupted (.ok a : Except Error α) := by
  rintro ⟨err, h, -⟩
  cases h

@[simp] theorem interrupted_error {err : Error} :
    Interrupted (.error err : Except Error α) ↔ err.isCancelled = true := by
  constructor
  · rintro ⟨err', h, hcancelled⟩
    cases h
    exact hcancelled
  · exact fun h => ⟨err, rfl, h⟩

/-- An interruption is no wait that was too long. -/
theorem Error.isTimeout_of_isCancelled {err : Error} (h : err.isCancelled = true) :
    err.isTimeout = false := by
  unfold Error.isTimeout
  rw [of_decide_eq_true h]

/-- A step noted in an error leaves its cause alone. -/
@[simp] theorem interrupted_inStep {name : String} {x : Except Error α} :
    Interrupted (inStep name x) ↔ Interrupted x := by
  cases x with
  | ok a => exact iff_of_false (not_interrupted_ok a) (not_interrupted_ok a)
  | error err =>
    rw [inStep, interrupted_error, interrupted_error, Error.isCancelled, Error.root_step,
      Error.isCancelled]

/-! ## Operations put together -/

theorem Op.from_bind (op : Op σ α) (f : α → Op σ β) (r : Run σ) :
    (op >>= f).from r =
      match op.from r with
      | (.ok a, r') => (f a).from r'
      | (.error e, r') => (.error e, r') := by
  show (ExceptT.bindCont f (op r).1) (op r).2 = _
  unfold Op.from ExceptT.run ExceptT.bindCont
  cases h : op r with
  | mk x r' => cases x <;> rfl

theorem Op.from_of_toOption {op : Op σ α} {r : Run σ} {a : α}
    (h : (op.from r).1.toOption = some a) : op.from r = (.ok a, (op.from r).2) := by
  refine Prod.ext ?_ rfl
  cases hx : (op.from r).1 with
  | ok b =>
    rw [hx] at h
    cases h
    rfl
  | error e =>
    rw [hx] at h
    cases h

/-- What an operation and what follows it end with, if that is a value. -/
theorem Op.ok_of_bind {op : Op σ α} {f : α → Op σ β} {r r' : Run σ} {b : β}
    (h : (op >>= f).from r = (.ok b, r')) :
    ∃ a r₁, op.from r = (.ok a, r₁) ∧ (f a).from r₁ = (.ok b, r') := by
  rw [Op.from_bind] at h
  cases ho : op.from r with
  | mk x r₁ =>
    rw [ho] at h
    cases x with
    | ok a => exact ⟨a, r₁, rfl, h⟩
    | error e => cases h

theorem Op.from_bind_of_error {op : Op σ α} {f : α → Op σ β} {r r' : Run σ} {e : Error}
    (h : op.from r = (.error e, r')) : (op >>= f).from r = (.error e, r') := by
  rw [Op.from_bind, h]

theorem Op.from_attempt_bind (op : Op σ α) (f : Except Error α → Op σ β) (r : Run σ) :
    (attempt op >>= f).from r = (f (op.from r).1).from (op.from r).2 := rfl

theorem Op.purely_ok_bind (a : α) (f : α → Op σ β) : (purely (.ok a) >>= f) = f a := rfl

theorem Op.purely_error_bind (e : Error) (f : α → Op σ β) :
    (purely (.error e) >>= f) = throw e := rfl

namespace Op.Ends

variable [Schema] {r : Run (σ × List CallEvent)} {op : Op (σ × List CallEvent) α}
  {Q T : Except Error α → Run (σ × List CallEvent) → Prop}

theorem result (h : op.Ends r Q) : Q (op.from r).1 (op.from r).2 := h.2

/-- What an operation ends with that is known to end so. -/
theorem of_from (h : op.Ends r Q) {x : Except Error α} {r' : Run (σ × List CallEvent)}
    (hrun : op.from r = (x, r')) : Q x r' := by
  have hQ := h.2
  rw [hrun] at hQ
  exact hQ

/-- What an operation ends with may be said in a weaker way. -/
theorem mono (h : op.Ends r Q) (hQ : ∀ x r', r.Leads r' → Q x r' → T x r') : op.Ends r T :=
  ⟨h.1, hQ _ _ h.1 h.2⟩

/-- What an operation ends with in two ways, it ends with in both. -/
theorem and (h : op.Ends r Q) (h' : op.Ends r T) : op.Ends r fun x r' => Q x r' ∧ T x r' :=
  ⟨h.1, h.2, h'.2⟩

theorem of_pure {a : α} (h : Q (.ok a) r) : (pure a : Op (σ × List CallEvent) α).Ends r Q :=
  ⟨.refl r, h⟩

theorem of_throw {e : Error} (h : Q (.error e) r) :
    (throw e : Op (σ × List CallEvent) α).Ends r Q :=
  ⟨.refl r, h⟩

theorem of_purely {x : Except Error α} (h : Q x r) :
    (purely x : Op (σ × List CallEvent) α).Ends r Q :=
  ⟨.refl r, h⟩

/-- An operation and what follows it, which goes on from the state it ends in. -/
theorem bind {f : α → Op (σ × List CallEvent) β}
    {R : Except Error β → Run (σ × List CallEvent) → Prop} (h : op.Ends r Q)
    (hok : ∀ a r', r.Leads r' → Q (.ok a) r' → (f a).Ends r' R)
    (herror : ∀ e r', r.Leads r' → Q (.error e) r' → R (.error e) r') : (op >>= f).Ends r R := by
  obtain ⟨hleads, hQ⟩ := h
  unfold Op.Ends
  rw [Op.from_bind]
  cases ho : op.from r with
  | mk x r' =>
    rw [ho] at hleads hQ
    cases x with
    | ok a =>
      obtain ⟨hleads', hR⟩ := hok a r' hleads hQ
      exact ⟨hleads.trans hleads', hR⟩
    | error e => exact ⟨hleads, herror e r' hleads hQ⟩

/-- An operation that is tried, and what follows it whatever it ends with. -/
theorem tried {f : Except Error α → Op (σ × List CallEvent) β}
    {R : Except Error β → Run (σ × List CallEvent) → Prop} (h : op.Ends r Q)
    (hf : ∀ x r', r.Leads r' → Q x r' → (f x).Ends r' R) :
    (PodSwap.attempt op >>= f).Ends r R := by
  obtain ⟨hleads, hQ⟩ := h
  obtain ⟨hleads', hR⟩ := hf _ _ hleads hQ
  exact ⟨hleads.trans hleads', hR⟩

theorem during (name : String) (h : op.Ends r Q)
    (hQ : ∀ x r', r.Leads r' → Q x r' → T (inStep name x) r') :
    (PodSwap.during name op).Ends r T :=
  ⟨h.1, hQ _ _ h.1 h.2⟩

/-- A step with a name, and what follows it: the name only goes into the error. -/
theorem during_bind (name : String) {f : α → Op (σ × List CallEvent) β}
    {R : Except Error β → Run (σ × List CallEvent) → Prop} (h : op.Ends r Q)
    (hok : ∀ a r', r.Leads r' → Q (.ok a) r' → (f a).Ends r' R)
    (herror : ∀ e r', r.Leads r' → Q (.error e) r' → R (.error (.step name e)) r') :
    (PodSwap.during name op >>= f).Ends r R := by
  have hnamed : (PodSwap.during name op).Ends r fun x r' => ∃ y, x = inStep name y ∧ Q y r' :=
    h.during name fun x r' _ hx => ⟨x, rfl, hx⟩
  apply hnamed.bind
  · rintro a r' hl ⟨y, hy, hQ⟩
    cases y with
    | ok b =>
      cases hy
      exact hok a r' hl hQ
    | error e => cases hy
  · rintro e r' hl ⟨y, hy, hQ⟩
    cases y with
    | ok b => cases hy
    | error e =>
      cases hy
      exact herror _ r' hl hQ

end Op.Ends

/-! ## Calls and sleep -/

theorem Timed.map_id (a : Timed σ α) : a.map id = a := by
  obtain ⟨start, span, finish⟩ := a
  unfold Timed.map
  congr 1
  funext now w
  show (⟨(finish now w).result.map id, (finish now w).world, (finish now w).cancels⟩ :
    Finish σ α) = finish now w
  cases finish now w with
  | mk result world cancels => cases result <;> rfl

/-- An action is cut short by a cancellation or comes to its end. -/
theorem from_guarded (heed : Heed) (a : Timed σ α) (r : Run σ) :
    (∃ now world, r.now ≤ now ∧ r.cancelAt ≠ none ∧
      (world = r.world ∨ world = a.start r.now r.world) ∧
      (guarded heed a).from r = (.error .cancelled, { r with now, world })) ∨
    (let world := a.start r.now r.world
     let due := r.now + a.span world
     let f := a.finish due world
     (guarded heed a).from r = (f.result,
      { now := due, cancelAt := r.cancellationAfter f.cancels due, world := f.world })) := by
  have hsome : ∀ due c, r.interruption heed due = some c → r.cancelAt ≠ none := by
    intro due c hc hnone
    unfold Run.interruption Run.cancellation at hc
    cases heed <;> simp [hnone] at hc
  simp only [guarded, Op.from, ExceptT.run, ExceptT.mk]
  by_cases hcancelled : r.isCancelled heed = true
  · refine .inl ⟨r.now, r.world, Nat.le_refl _, ?_, .inl rfl, by rw [if_pos hcancelled]⟩
    intro hnone
    unfold Run.isCancelled Run.cancellation at hcancelled
    cases heed <;> simp [hnone] at hcancelled
  · rw [if_neg hcancelled]
    cases hc : r.interruption heed (r.now + a.span (a.start r.now r.world)) with
    | some c =>
      have hlt := (lt_of_interruption (by simpa using hcancelled) hc).1
      exact .inl ⟨c, _, Nat.le_of_lt hlt, hsome _ _ hc, .inr rfl, rfl⟩
    | none => exact .inr rfl

/-- Whether a run is not cancelled up to a time. -/
def Run.FreeUpTo (r : Run σ) (t : Nat) : Prop := ∀ c, r.cancelAt = some c → t < c

namespace Run.FreeUpTo

variable {r : Run σ} {t t' c : Nat}

theorem of_none (hr : r.cancelAt = none) (t : Nat) : r.FreeUpTo t := by
  intro c hc
  rw [hr] at hc
  cases hc

theorem of_some (hc : r.cancelAt = some c) (h : t < c) : r.FreeUpTo t := by
  intro c' hc'
  rw [hc] at hc'
  cases hc'
  exact h

theorem mono (h : r.FreeUpTo t) (ht : t' ≤ t) : r.FreeUpTo t' :=
  fun c hc => Nat.lt_of_le_of_lt ht (h c hc)

end Run.FreeUpTo

/-- An action comes to its end that is over before the run is cancelled. -/
theorem guarded_of_freeUpTo (heed : Heed) (a : Timed σ α) {r : Run σ}
    (h : r.FreeUpTo (r.now + a.span (a.start r.now r.world))) :
    let world := a.start r.now r.world
    let due := r.now + a.span world
    let f := a.finish due world
    (guarded heed a).from r = (f.result,
      { now := due, cancelAt := r.cancellationAfter f.cancels due, world := f.world }) := by
  have hfree : ∀ c, r.cancellation heed = some c → r.now + a.span (a.start r.now r.world) < c := by
    cases heed with
    | caller => exact h
    | nobody =>
      intro c hc
      cases hc
  have hrunning : r.isCancelled heed = false := by
    unfold Run.isCancelled
    cases hc : r.cancellation heed with
    | none => rfl
    | some c =>
      have hlater := hfree c hc
      exact decide_eq_false (by omega)
  have hover : r.interruption heed (r.now + a.span (a.start r.now r.world)) = none := by
    unfold Run.interruption
    cases hc : r.cancellation heed with
    | none => rfl
    | some c => exact Option.filter_some_neg (by simpa using hfree c hc)
  simp only [guarded, Op.from, ExceptT.run, ExceptT.mk, hrunning, Bool.false_eq_true, if_false,
    hover]

/-- An action is cut short at the instant of a cancellation that comes while it is in flight. -/
theorem guarded_of_cut {a : Timed σ α} {r : Run σ} {c : Nat} (hc : r.cancelAt = some c)
    (hnow : r.now < c) (hdue : c ≤ r.now + a.span (a.start r.now r.world)) :
    (guarded .caller a).from r =
      (.error .cancelled, { r with now := c, world := a.start r.now r.world }) := by
  have hrunning : r.isCancelled .caller = false := by
    simp only [Run.isCancelled, Run.cancellation, hc]
    exact decide_eq_false (Nat.not_le.mpr hnow)
  have hcut : r.interruption .caller (r.now + a.span (a.start r.now r.world)) = some c := by
    simp only [Run.interruption, Run.cancellation, hc]
    exact Option.filter_some_pos (decide_eq_true hdue)
  simp only [guarded, Op.from, ExceptT.run, ExceptT.mk, hrunning, Bool.false_eq_true, if_false,
    hcut]

/-- An action that is begun before the instant of a cancellation is cut short at the instant, or is
over before it. -/
theorem from_guarded_of_lt (a : Timed σ α) {r : Run σ} {c : Nat} (hc : r.cancelAt = some c)
    (hnow : r.now < c) :
    let world := a.start r.now r.world
    let due := r.now + a.span world
    let f := a.finish due world
    (guarded .caller a).from r = (.error .cancelled, { r with now := c, world }) ∨
      (due < c ∧ (guarded .caller a).from r = (f.result,
        { now := due, cancelAt := r.cancellationAfter f.cancels due, world := f.world })) := by
  intro world due f
  by_cases hdue : c ≤ due
  · exact .inl (guarded_of_cut hc hnow hdue)
  · have hlater : due < c := Nat.lt_of_not_le hdue
    exact .inr ⟨hlater, guarded_of_freeUpTo .caller a (.of_some hc hlater)⟩

/-- The action that only takes time. -/
def pause (ms : Nat) : Timed σ Unit :=
  ⟨fun _ w => w, fun _ => sleepSpan ms, fun _ w => ⟨.ok (), w, false⟩⟩

theorem sleep_eq_guarded (heed : Heed) (ms : Nat) :
    (sleep heed ms : Op σ Unit) = guarded heed (pause ms) := rfl

theorem from_sleep (heed : Heed) (ms : Nat) (r : Run σ) :
    (∃ now, r.now ≤ now ∧ r.cancelAt ≠ none ∧
      (sleep heed ms).from r = (.error .cancelled, { r with now })) ∨
    (sleep heed ms).from r = (.ok (), { r with now := r.now + sleepSpan ms }) := by
  rw [sleep_eq_guarded]
  rcases from_guarded heed (pause ms) r with ⟨now, world, hle, hc, hworld, h⟩ | h
  · obtain rfl : world = r.world := by rcases hworld with h | h <;> exact h
    exact .inl ⟨now, hle, hc, h⟩
  · exact .inr h

/-- An action brings a cancellation forward at most. -/
theorem cancellationAfter_le {r : Run σ} {c : Nat} (hc : r.cancelAt = some c) (cancels : Bool)
    (due : Nat) : ∃ c' ≤ c, r.cancellationAfter cancels due = some c' := by
  unfold Run.cancellationAfter
  cases cancels with
  | false => exact ⟨c, Nat.le_refl c, hc⟩
  | true =>
    rw [hc]
    exact ⟨min due c, Nat.min_le_right due c, rfl⟩

/-- How a call ends that is noted: it never begins, it is cut short, or it comes to its end and its
answer is noted. -/
theorem Cluster.guarded_traced_ends [Schema] (cluster : Cluster σ) (heed : Heed) {c : Call}
    {f : c.Answer → β} {r : Run (σ × List CallEvent)}
    {Q : Except Error β → Run (σ × List CallEvent) → Prop}
    (hunbegun : ∀ now, r.cancelAt ≠ none → Q (.error .cancelled) { r with now })
    (hcut : ∀ now, r.cancelAt ≠ none → Q (.error .cancelled) { r with
      now, world := ((cluster.call c).start r.now r.world.1, .begun r.now c :: r.world.2) })
    (hover : ∀ w due cancelAt, w = (cluster.call c).start r.now r.world.1 →
      due = r.now + (cluster.call c).span w →
        Q (((cluster.call c).finish due w).result.map f) { now := due, cancelAt, world :=
          (((cluster.call c).finish due w).world,
            .answered due c ((cluster.call c).finish due w).result ::
              .begun r.now c :: r.world.2) }) :
    (guarded heed ((cluster.traced.call c).map f)).Ends r Q := by
  unfold Op.Ends
  rcases from_guarded heed ((cluster.traced.call c).map f) r with
    ⟨now, world, hle, hc, hworld, h⟩ | h
  · rw [h]
    rcases hworld with rfl | rfl
    · exact ⟨.of_cancelAt_eq hle rfl List.suffix_rfl, hunbegun now hc⟩
    · exact ⟨.of_cancelAt_eq hle rfl (List.suffix_cons _ _), hcut now hc⟩
  · rw [h]
    exact ⟨⟨Nat.le_add_right _ _, fun _ hc => cancellationAfter_le hc _ _,
      (List.suffix_cons _ _).trans (List.suffix_cons _ _)⟩, hover _ _ _ rfl rfl⟩

/-! ## Polls -/

namespace Poll

section

variable {p : Poll} {heed : Heed} {check : Timed σ (Option α)} {deadline idle : Nat}
  {r r' r'' : Run σ}

/-- What the rounds of a poll come to, without what shows that they end. -/
theorem rounds_eq : p.rounds heed check deadline idle r =
    match (guarded heed check).from r with
    | (.error e, r') => (.error e, r')
    | (.ok (some a), r') => (.ok a, r')
    | (.ok none, r') =>
      if deadline ≤ r'.now then (.error p.timedOut, r')
      else
        match (sleep heed p.intervalMs).from r' with
        | (.error e, r'') => (.error e, r'')
        | (.ok (), r'') =>
          if r.now < r''.now then p.rounds heed check deadline idleRounds r''
          else
            match idle with
            | 0 => (.error p.timedOut, r'')
            | idle + 1 => p.rounds heed check deadline idle r'' := by
  rw [rounds]
  split <;> rename_i hg <;> simp only [hg]
  rename_i r₁
  by_cases hd : deadline ≤ r₁.now
  · rw [dif_pos hd, if_pos hd]
  · rw [dif_neg hd, if_neg hd]
    cases idle <;> split <;> rename_i hs <;> simp only [hs, dite_eq_ite]

theorem rounds_of_error {e : Error} (h : (guarded heed check).from r = (.error e, r')) :
    p.rounds heed check deadline idle r = (.error e, r') := by
  rw [rounds_eq, h]

theorem rounds_of_value {a : α} (h : (guarded heed check).from r = (.ok (some a), r')) :
    p.rounds heed check deadline idle r = (.ok a, r') := by
  rw [rounds_eq, h]

section

variable (h : (guarded heed check).from r = (.ok none, r'))

include h

theorem rounds_of_due (hd : deadline ≤ r'.now) :
    p.rounds heed check deadline idle r = (.error p.timedOut, r') := by
  rw [rounds_eq, h]
  exact if_pos hd

variable (hd : ¬ deadline ≤ r'.now)

include hd

theorem rounds_of_cancelled {e : Error} (hs : (sleep heed p.intervalMs).from r' = (.error e, r'')) :
    p.rounds heed check deadline idle r = (.error e, r'') := by
  rw [rounds_eq, h]
  simp only [if_neg hd, hs]

variable (hs : (sleep heed p.intervalMs).from r' = (.ok (), r''))

include hs

theorem rounds_of_later (hn : r.now < r''.now) :
    p.rounds heed check deadline idle r = p.rounds heed check deadline idleRounds r'' := by
  rw [rounds_eq, h]
  simp only [if_neg hd, hs, if_pos hn]

theorem rounds_of_no_rounds (hn : ¬ r.now < r''.now) :
    p.rounds heed check deadline 0 r = (.error p.timedOut, r'') := by
  rw [rounds_eq, h]
  simp only [if_neg hd, hs, if_neg hn]

theorem rounds_of_idle (hn : ¬ r.now < r''.now) :
    p.rounds heed check deadline (idle + 1) r = p.rounds heed check deadline idle r'' := by
  rw [rounds_eq, h]
  simp only [if_neg hd, hs, if_neg hn]

end

end

/-- The only check of a poll without time. -/
def once (p : Poll) (heed : Heed) (check : Timed σ (Option α)) : Op σ α := do
  match ← guarded heed check with
  | some a => return a
  | none => throw p.timedOut

/-- A poll without time makes one check. -/
theorem wait_eq_once {p : Poll} (h : p.timeoutMs = 0) (heed : Heed)
    (check : Timed σ (Option α)) : p.wait heed check = p.once heed check := by
  funext r
  show p.rounds heed check (r.now + p.timeoutMs) idleRounds r =
    (guarded heed check >>= fun x => match x with
      | some a => pure a
      | none => throw p.timedOut : Op σ α).from r
  rw [Op.from_bind, h]
  have hnow := now_le_guarded heed check r
  cases hg : (guarded heed check).from r with
  | mk x r' =>
    cases x with
    | error e => exact rounds_of_error hg
    | ok x =>
      cases x with
      | some a => exact rounds_of_value hg
      | none =>
        rw [hg] at hnow
        exact rounds_of_due hg (by simpa using hnow)

section

variable [Schema] {p : Poll} {heed : Heed} {check : Timed (σ × List CallEvent) (Option α)}
  {deadline : Nat}
  {I : Run (σ × List CallEvent) → Prop}
  {J : Run (σ × List CallEvent) → Run (σ × List CallEvent) → Prop}
  {Q : Except Error α → Run (σ × List CallEvent) → Prop}

/-- A poll keeps what holds before every round, `I`, where `J` is what a round without a value
leaves behind. It ends by a check, by the deadline, in its sleep, or because no time passes. -/
theorem rounds_ends
    (hcheck : ∀ r, I r → (guarded heed check).Ends r fun x r' =>
      match x with
      | .ok (some a) => Q (.ok a) r'
      | .ok none => J r r'
      | .error e => Q (.error e) r')
    (hdue : ∀ r r', J r r' → deadline ≤ r'.now → Q (.error p.timedOut) r')
    (hsleep : ∀ r r', J r r' → (sleep heed p.intervalMs).Ends r' fun x r'' =>
      match x with
      | .ok () => I r'' ∧ (r''.now ≤ r.now → Q (.error p.timedOut) r'')
      | .error e => Q (.error e) r'')
    (idle : Nat) (r : Run (σ × List CallEvent)) (hr : I r) :
    r.Leads (p.rounds heed check deadline idle r).2 ∧
      Q (p.rounds heed check deadline idle r).1 (p.rounds heed check deadline idle r).2 := by
  induction idle, r using Poll.rounds.induct p heed check deadline with
  | case1 idle r e r' hg =>
    have h := hcheck r hr
    rw [Op.Ends, hg] at h
    rw [rounds_of_error hg]
    exact h
  | case2 idle r a r' hg =>
    have h := hcheck r hr
    rw [Op.Ends, hg] at h
    rw [rounds_of_value hg]
    exact h
  | case3 idle r r' hg hd =>
    have h := hcheck r hr
    rw [Op.Ends, hg] at h
    rw [rounds_of_due hg hd]
    exact ⟨h.1, hdue r r' h.2 hd⟩
  | case4 idle r r' hg hd e r'' hs =>
    have h := hcheck r hr
    rw [Op.Ends, hg] at h
    have hslept := hsleep r r' h.2
    rw [Op.Ends, hs] at hslept
    rw [rounds_of_cancelled hg hd hs]
    exact ⟨h.1.trans hslept.1, hslept.2⟩
  | case5 idle r r' hg hd r'' hs hn ih =>
    have h := hcheck r hr
    rw [Op.Ends, hg] at h
    have hslept := hsleep r r' h.2
    rw [Op.Ends, hs] at hslept
    rw [rounds_of_later hg hd hs hn]
    obtain ⟨hleads, hQ⟩ := ih hslept.2.1
    exact ⟨h.1.trans (hslept.1.trans hleads), hQ⟩
  | case6 r r' hg hd r'' hs hn =>
    have h := hcheck r hr
    rw [Op.Ends, hg] at h
    have hslept := hsleep r r' h.2
    rw [Op.Ends, hs] at hslept
    rw [rounds_of_no_rounds hg hd hs hn]
    exact ⟨h.1.trans hslept.1, hslept.2.2 (Nat.le_of_not_lt hn)⟩
  | case7 r r' hg hd r'' hs hn idle ih =>
    have h := hcheck r hr
    rw [Op.Ends, hg] at h
    have hslept := hsleep r r' h.2
    rw [Op.Ends, hs] at hslept
    rw [rounds_of_idle hg hd hs hn]
    obtain ⟨hleads, hQ⟩ := ih hslept.2.1
    exact ⟨h.1.trans (hslept.1.trans hleads), hQ⟩

/-- The same of a poll from now on, whose sleep may end at any time. -/
theorem wait_ends {r : Run (σ × List CallEvent)}
    (hcheck : ∀ r, I r → (guarded heed check).Ends r fun x r' =>
      match x with
      | .ok (some a) => Q (.ok a) r'
      | .ok none => J r r'
      | .error e => Q (.error e) r')
    (hdue : ∀ r₁ r', J r₁ r' → r.now + p.timeoutMs ≤ r'.now → Q (.error p.timedOut) r')
    (hcancel : ∀ r r' now, J r r' → r'.cancelAt ≠ none → Q (.error .cancelled) { r' with now })
    (hidle : ∀ r r', J r r' → r'.now + sleepSpan p.intervalMs ≤ r.now →
      Q (.error p.timedOut) { r' with now := r'.now + sleepSpan p.intervalMs })
    (hagain : ∀ r r' now, J r r' → I { r' with now }) (hr : I r) :
    (p.wait heed check).Ends r Q := by
  refine rounds_ends hcheck hdue ?_ idleRounds r hr
  intro r₁ r' hJ
  unfold Op.Ends
  rcases from_sleep heed p.intervalMs r' with ⟨now, hle, hc, h⟩ | h
  · rw [h]
    exact ⟨.of_cancelAt_eq hle rfl List.suffix_rfl, hcancel r₁ r' now hJ hc⟩
  · rw [h]
    exact ⟨.of_cancelAt_eq (Nat.le_add_right _ _) rfl List.suffix_rfl, hagain r₁ r' _ hJ,
      hidle r₁ r' hJ⟩

end

end Poll

end PodSwap
