import PodSwap.Proofs.Object.Reading
import PodSwap.Proofs.Run.Ends
import PodSwap.Proofs.Store.Basic

/-!
# What operations call

An operation makes calls of a kind only if all its parts do, whatever the cluster answers. That is
a property that comes from the calls and passes through every way to put operations together, and
there are others: `Op.Closed` says what all of them have to satisfy.

Main statements: a rule for every way to put operations together (`Op.Calls.bind`,
`Op.Calls.attempt`, `Op.Calls.during`), for a call (`request_calls`) and for a poll (`wait_calls`),
so that making calls of a kind is such a property (`Op.Calls.closed`); and that a value of a poll
comes from the answer that was noted last (`wait_noted`).
-/

namespace PodSwap

variable [Schema]

variable {σ α β : Type}

/-- The call that an event tells of. -/
def CallEvent.call : CallEvent → Call
  | .begun _ c => c
  | .answered _ c _ => c

/-- Whether a call asks for no pod. -/
def Call.CreatesNone (c : Call) : Prop := ∀ pod, c ≠ .createPod pod

/-- What was noted from one state to another is of calls of a kind. -/
def Run.Notes (p : Call → Prop) (r r' : Run (σ × List CallEvent)) : Prop :=
  ∃ new, r'.world.2 = new ++ r.world.2 ∧ ∀ event ∈ new, p event.call

/-- The operation makes calls of a kind only. -/
def Op.Calls (p : Call → Prop) (op : Op (σ × List CallEvent) α) : Prop :=
  ∀ r, op.Ends r fun _ r' => r.Notes p r'

namespace Run.Notes

variable {p : Call → Prop} {r r' r'' : Run (σ × List CallEvent)}

theorem refl (r : Run (σ × List CallEvent)) : r.Notes p r :=
  ⟨[], rfl, fun _ h => by cases h⟩

theorem trans (h : r.Notes p r') (h' : r'.Notes p r'') : r.Notes p r'' := by
  obtain ⟨new, hnew, hp⟩ := h
  obtain ⟨new', hnew', hp'⟩ := h'
  refine ⟨new' ++ new, by rw [hnew', hnew, List.append_assoc], fun event hevent => ?_⟩
  rcases List.mem_append.mp hevent with hevent | hevent
  · exact hp' event hevent
  · exact hp event hevent

theorem suffix (h : r.Notes p r') : r.world.2 <:+ r'.world.2 := by
  obtain ⟨new, hnew, -⟩ := h
  rw [hnew]
  exact List.suffix_append new _

theorem mono {q : Call → Prop} (h : r.Notes p r') (hpq : ∀ c, p c → q c) : r.Notes q r' := by
  obtain ⟨new, hnew, hp⟩ := h
  exact ⟨new, hnew, fun event hevent => hpq _ (hp event hevent)⟩

/-- Where no pod was asked for, none was created. -/
theorem created (h : r.Notes Call.CreatesNone r') {pod : Pod}
    (hpod : .created pod ∈ mutations r'.world.2) : .created pod ∈ mutations r.world.2 := by
  obtain ⟨new, hnew, hcalls⟩ := h
  rw [hnew, mutations, List.filterMap_append, List.reverse_append, List.mem_append] at hpod
  rcases hpod with hpod | hpod
  · exact hpod
  · obtain ⟨event, hevent, hmutation⟩ := List.mem_filterMap.mp (List.mem_reverse.mp hpod)
    have hcall := hcalls event hevent
    cases event with
    | begun now c => cases hmutation
    | answered now c x =>
      cases x with
      | error e => cases hmutation
      | ok a =>
        cases c with
        | createPod wanted => exact absurd rfl (hcall wanted)
        | deletePod ns name => cases a <;> cases hmutation
        | _ => cases hmutation

end Run.Notes

namespace Op.Calls

variable {p : Call → Prop} {op : Op (σ × List CallEvent) α}

theorem of_pure (a : α) : (pure a : Op (σ × List CallEvent) α).Calls p :=
  fun r => .of_pure (.refl r)

theorem of_throw (e : Error) : (throw e : Op (σ × List CallEvent) α).Calls p :=
  fun r => .of_throw (.refl r)

theorem bind {f : α → Op (σ × List CallEvent) β} (h : op.Calls p) (hf : ∀ a, (f a).Calls p) :
    (op >>= f).Calls p := by
  intro r
  refine (h r).bind ?_ fun _ _ _ hr' => hr'
  intro a r' _ hr'
  exact (hf a r').mono fun _ _ _ hr'' => hr'.trans hr''

theorem attempt (h : op.Calls p) : (PodSwap.attempt op).Calls p := h

theorem during (name : String) (h : op.Calls p) : (PodSwap.during name op).Calls p :=
  fun r => (h r).during name fun _ _ _ hr' => hr'

/-- What goes on after trouble ends in trouble. -/
theorem troubled (h : op.Calls p) {r : Run (σ × List CallEvent)} (hr : Troubled r) :
    op.Ends r fun _ r' => Troubled r' :=
  (h r).mono fun _ _ hleads _ => hr.leads hleads

/-- An operation that asks for no pod creates none. -/
theorem created (h : op.Calls Call.CreatesNone) {r r' : Run (σ × List CallEvent)}
    {x : Except Error α} (hrun : op.from r = (x, r')) {pod : Pod}
    (hpod : .created pod ∈ mutations r'.world.2) : .created pod ∈ mutations r.world.2 :=
  ((h r).of_from hrun).created hpod

end Op.Calls

namespace Cluster

variable (cluster : Cluster σ) (heed : Heed) {c : Call}

/-- A call notes itself, and its value comes from its answer, which is what was noted last. -/
theorem guarded_noted {f : c.Answer → β} {φ : c.Answer → Prop}
    (hφ : ∀ now w a, ((cluster.call c).finish now w).result = .ok a → φ a)
    (r : Run (σ × List CallEvent)) :
    (guarded heed ((cluster.traced.call c).map f)).Ends r fun x r' =>
      r.Notes (· = c) r' ∧ ∀ b, x = .ok b → ∃ a earlier, f a = b ∧ φ a ∧
        r'.world.2 = CallEvent.answered r'.now c (.ok a) :: earlier ∧ r.world.2 <:+ earlier := by
  refine cluster.guarded_traced_ends heed ?_ ?_ ?_
  · exact fun now _ => ⟨⟨[], rfl, fun _ h => by cases h⟩, fun b hb => by cases hb⟩
  · refine fun now _ => ⟨⟨[.begun r.now c], rfl, ?_⟩, fun b hb => by cases hb⟩
    intro event hevent
    rw [List.mem_singleton.mp hevent]
    rfl
  · intro w due cancelAt _ _
    refine ⟨⟨[_, _], rfl, ?_⟩, ?_⟩
    · intro event hevent
      rcases List.mem_cons.mp hevent with rfl | hevent
      · rfl
      · rw [List.mem_singleton.mp hevent]
        rfl
    · intro b hb
      obtain ⟨a, ha, hfa⟩ := map_eq_ok.mp hb
      exact ⟨a, _, hfa, hφ due w a ha, by rw [ha], List.suffix_cons _ _⟩

variable {cluster heed} {p : Call → Prop}

theorem request_calls (hc : p c) : (cluster.traced.request heed c).Calls p := by
  intro r
  have h := guarded_noted cluster heed (f := id) (φ := fun _ : c.Answer => True)
    (fun _ _ _ _ => trivial) r
  rw [Timed.map_id] at h
  exact h.mono fun _ _ _ hx => hx.1.mono fun _ h => h ▸ hc

section

variable {f : c.Answer → Option β} {poll : Poll}

variable (cluster heed) in
/-- A poll makes its call only, and its value comes from the answer that was noted last. -/
theorem wait_noted {φ : c.Answer → Prop}
    (hφ : ∀ now w a, ((cluster.call c).finish now w).result = .ok a → φ a)
    (r : Run (σ × List CallEvent)) :
    (poll.wait heed ((cluster.traced.call c).map f)).Ends r fun x r' =>
      r.Notes (· = c) r' ∧ ∀ b, x = .ok b → ∃ a now earlier, f a = some b ∧ φ a ∧
        r'.world.2 = CallEvent.answered now c (.ok a) :: earlier ∧ r.world.2 <:+ earlier := by
  refine Poll.wait_ends (I := fun r' => r.Notes (· = c) r')
    (J := fun _ r' => r.Notes (· = c) r') ?_ ?_ ?_ ?_ ?_ (.refl r)
  · intro r₁ hr₁
    refine (guarded_noted cluster heed hφ r₁).mono ?_
    rintro x r₂ - ⟨hnotes, hvalue⟩
    cases x with
    | error e => exact ⟨hr₁.trans hnotes, fun b hb => by cases hb⟩
    | ok x =>
      cases x with
      | none => exact hr₁.trans hnotes
      | some b =>
        refine ⟨hr₁.trans hnotes, fun b' hb' => ?_⟩
        cases hb'
        obtain ⟨a, earlier, ha, hφa, hevents, hsuffix⟩ := hvalue _ rfl
        exact ⟨a, _, earlier, ha, hφa, hevents, hr₁.suffix.trans hsuffix⟩
  · exact fun r₁ r₂ h _ => ⟨h, fun b hb => by cases hb⟩
  · exact fun r₁ r₂ now h _ => ⟨h, fun b hb => by cases hb⟩
  · exact fun r₁ r₂ h _ => ⟨h, fun b hb => by cases hb⟩
  · exact fun r₁ r₂ now h => h

theorem wait_calls (hc : p c) : (poll.wait heed ((cluster.traced.call c).map f)).Calls p := by
  intro r
  refine (wait_noted cluster heed (φ := fun _ => True) (fun _ _ _ _ => trivial) r).mono ?_
  exact fun _ _ _ hx => hx.1.mono fun _ h => h ▸ hc

end

end Cluster

/-! ## Closed properties -/

/-- A property of operations that calls of a kind have, and those that are put together from
operations that have it. What goes on after an operation whatever that ended with has to let an
interruption through. -/
structure Op.Closed (cluster : Cluster σ) (heed : Heed) (p : Call → Prop)
    (P : ∀ {α : Type}, Op (σ × List CallEvent) α → Prop) : Prop where
  of_pure : ∀ {α : Type} (a : α), P (pure a : Op (σ × List CallEvent) α)
  of_throw : ∀ {α : Type} (err : Error), P (throw err : Op (σ × List CallEvent) α)
  bind : ∀ {α β : Type} {op : Op (σ × List CallEvent) α} {f : α → Op (σ × List CallEvent) β},
    P op → (∀ a, P (f a)) → P (op >>= f)
  during : ∀ {α : Type} {op : Op (σ × List CallEvent) α} (name : String),
    P op → P (PodSwap.during name op)
  tried : ∀ {α β : Type} {op : Op (σ × List CallEvent) α}
    {f : Except Error α → Op (σ × List CallEvent) β}, P op → (∀ x, ¬ Interrupted x → P (f x)) →
      (∀ err : Error, err.isCancelled = true → f (.error err) = throw err) →
        P (PodSwap.attempt op >>= f)
  request : ∀ {c : Call}, p c → P (cluster.traced.request heed c)
  wait : ∀ {α : Type} {c : Call} (poll : Poll) (f : c.Answer → Option α), p c →
    P (poll.wait heed ((cluster.traced.call c).map f))

theorem Op.Closed.of_purely {cluster : Cluster σ} {heed : Heed} {p : Call → Prop}
    {P : ∀ {α : Type}, Op (σ × List CallEvent) α → Prop} (h : Op.Closed cluster heed p P)
    (x : Except Error α) : P (purely x : Op (σ × List CallEvent) α) := by
  cases x with
  | ok a => exact h.of_pure a
  | error err => exact h.of_throw err

theorem Op.Calls.closed {cluster : Cluster σ} {heed : Heed} {p : Call → Prop} :
    Op.Closed cluster heed p fun op => op.Calls p where
  of_pure := .of_pure
  of_throw := .of_throw
  bind := .bind
  during name := .during name
  request := Cluster.request_calls
  wait _ _ := Cluster.wait_calls
  tried {_ _ _ f} h hf hstop := h.attempt.bind fun x => by
    by_cases hx : Interrupted x
    · obtain ⟨err, rfl, hcancelled⟩ := hx
      rw [hstop err hcancelled]
      exact .of_throw err
    · exact hf x hx

end PodSwap
