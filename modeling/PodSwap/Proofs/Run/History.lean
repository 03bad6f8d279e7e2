import PodSwap.Proofs.Run.Calls

/-!
# The history of a run

What was noted is the history of a run, the last event first. From it can be read which calls were
begun, in which order and after what, and which of them were to change the cluster: the moves.

Main statements: how a call goes into the history (`Cluster.request_tells`), that calls of a kind
obey a rule that allows them at any time (`Obeys.notes`), and how moves that are planned one after
the other are carried out (`Run.Carries.trans`, `Cluster.request_carries`).
-/

namespace PodSwap

variable [Schema]

variable {σ α : Type}

/-- What is known of how an operation ends may also say which operation it was. -/
theorem Op.Ends.with_run {op : Op (σ × List CallEvent) α} {r : Run (σ × List CallEvent)}
    {Q : Except Error α → Run (σ × List CallEvent) → Prop} (h : op.Ends r Q) :
    op.Ends r fun x r' => op.from r = (x, r') ∧ Q x r' :=
  ⟨h.1, rfl, h.2⟩

/-! ## Calls in their order -/

/-- The call that an event begins. -/
def CallEvent.begun? : CallEvent → Option Call
  | .begun _ c => some c
  | .answered _ _ _ => none

/-- The calls that were begun, the first of them first. -/
def begunCalls (events : List CallEvent) : List Call :=
  (events.filterMap CallEvent.begun?).reverse

/-- The calls that were begun to change the cluster, the first of them first. -/
def moves (events : List CallEvent) : List Call := (begunCalls events).filter Call.isMutating

theorem begunCalls_append (new old : List CallEvent) :
    begunCalls (new ++ old) = begunCalls old ++ begunCalls new := by
  unfold begunCalls
  rw [List.filterMap_append, List.reverse_append]

theorem moves_append (new old : List CallEvent) : moves (new ++ old) = moves old ++ moves new := by
  unfold moves
  rw [begunCalls_append, List.filter_append]

theorem mem_begunCalls {events : List CallEvent} {c : Call} :
    c ∈ begunCalls events ↔ ∃ now, CallEvent.begun now c ∈ events := by
  unfold begunCalls
  rw [List.mem_reverse, List.mem_filterMap]
  constructor
  · rintro ⟨event, hevent, hc⟩
    cases event with
    | begun now c' =>
      cases hc
      exact ⟨now, hevent⟩
    | answered now c' x => cases hc
  · rintro ⟨now, hevent⟩
    exact ⟨_, hevent, rfl⟩

/-! ## What a call leaves behind -/

/-- How a call and its result go into the history: it was not begun, it was begun and cut short, or
it was answered. -/
inductive Run.Tells (c : Call) (r r' : Run (σ × List CallEvent)) : Except Error c.Answer → Prop
  | unbegun (events : r'.world.2 = r.world.2) : Tells c r r' (.error .cancelled)
  | cut (events : r'.world.2 = .begun r.now c :: r.world.2) : Tells c r r' (.error .cancelled)
  | answered {x : Except Error c.Answer}
    (events : r'.world.2 = .answered r'.now c x :: .begun r.now c :: r.world.2) : Tells c r r' x

theorem Cluster.request_tells (cluster : Cluster σ) (heed : Heed) (c : Call)
    (r : Run (σ × List CallEvent)) :
    (cluster.traced.request heed c).Ends r fun x r' => r.Tells c r' x := by
  unfold Cluster.request
  rw [← Timed.map_id (cluster.traced.call c)]
  refine cluster.guarded_traced_ends heed ?_ ?_ ?_
  · exact fun now _ => .unbegun rfl
  · exact fun now _ => .cut rfl
  · intro w due cancelAt _ _
    rw [Except.map_id]
    exact .answered rfl

/-! ## Rules for calls -/

/-- Every call was begun as a rule says, given the history before it. -/
def Obeys (rule : Call → List CallEvent → Prop) (events : List CallEvent) : Prop :=
  ∀ now c earlier, CallEvent.begun now c :: earlier <:+ events → rule c earlier

namespace Obeys

variable {rule : Call → List CallEvent → Prop} {events : List CallEvent}

theorem nil : Obeys rule [] := by
  intro now c earlier h
  cases List.suffix_nil.mp h

theorem answered (h : Obeys rule events) (now : Nat) (c : Call) (x : Except Error c.Answer) :
    Obeys rule (.answered now c x :: events) := by
  intro now' c' earlier hsuffix
  rcases List.suffix_cons_iff.mp hsuffix with heq | hsuffix
  · cases (List.cons.inj heq).1
  · exact h now' c' earlier hsuffix

theorem begun (h : Obeys rule events) {c : Call} (hc : rule c events) (now : Nat) :
    Obeys rule (.begun now c :: events) := by
  intro now' c' earlier hsuffix
  rcases List.suffix_cons_iff.mp hsuffix with heq | hsuffix
  · obtain ⟨hevent, rfl⟩ := List.cons.inj heq
    cases hevent
    exact hc
  · exact h now' c' earlier hsuffix

/-- Calls of a kind obey a rule that allows them at any time, as long as only such calls were made
since. -/
theorem notes {p : Call → Prop} {r r' : Run (σ × List CallEvent)} (h : Obeys rule r.world.2)
    (hp : ∀ c since, p c → (∀ event ∈ since, p event.call) → rule c (since ++ r.world.2))
    (hnotes : r.Notes p r') : Obeys rule r'.world.2 := by
  obtain ⟨new, hnew, hcalls⟩ := hnotes
  rw [hnew]
  clear hnew
  induction new with
  | nil => exact h
  | cons event new ih =>
    have hearlier : ∀ event ∈ new, p event.call :=
      fun event hevent => hcalls event (List.mem_cons_of_mem _ hevent)
    have hcall := hcalls event List.mem_cons_self
    cases event with
    | begun now c => exact (ih hearlier).begun (hp c new hcall hearlier) now
    | answered now c x => exact (ih hearlier).answered now c x

/-- A call obeys the rule if it may be begun now. -/
theorem tells {c : Call} {r r' : Run (σ × List CallEvent)} {x : Except Error c.Answer}
    (h : Obeys rule r.world.2) (hc : rule c r.world.2) (htells : r.Tells c r' x) :
    Obeys rule r'.world.2 := by
  cases htells with
  | unbegun events => rw [events]; exact h
  | cut events => rw [events]; exact h.begun hc _
  | answered events => rw [events]; exact (h.begun hc _).answered _ _ _

end Obeys

/-! ## Plans -/

/-- From one state to another the calls of a kind that were begun were planned, in the order of the
plan, and all of the plan was carried out if it is so. -/
def Run.Carries (kind : Call → Bool) (plan : List Call) (all : Prop)
    (r r' : Run (σ × List CallEvent)) : Prop :=
  ∃ new, r'.world.2 = new ++ r.world.2 ∧ ((begunCalls new).filter kind).Sublist plan ∧
    (all → (begunCalls new).filter kind = plan)

namespace Run.Carries

variable {kind : Call → Bool} {plan plan' : List Call} {all all' : Prop}
  {r r' r'' : Run (σ × List CallEvent)}

theorem refl (r : Run (σ × List CallEvent)) : r.Carries kind [] all r :=
  ⟨[], rfl, List.Sublist.refl [], fun _ => rfl⟩

/-- Calls of other kinds are no part of a plan. -/
theorem of_notes {p : Call → Prop} (h : r.Notes p r') (hp : ∀ c, p c → kind c = false) :
    r.Carries kind [] all r' := by
  obtain ⟨new, hnew, hcalls⟩ := h
  have hnone : (begunCalls new).filter kind = [] := by
    refine List.filter_eq_nil_iff.mpr fun c hc => ?_
    obtain ⟨now, hevent⟩ := mem_begunCalls.mp hc
    rw [hp c (hcalls _ hevent)]
    exact Bool.false_ne_true
  exact ⟨new, hnew, List.sublist_nil.mpr hnone, fun _ => hnone⟩

theorem mono (h : r.Carries kind plan all r') (hall : all' → all) :
    r.Carries kind plan all' r' := by
  obtain ⟨new, hnew, hsublist, hfull⟩ := h
  exact ⟨new, hnew, hsublist, fun h => hfull (hall h)⟩

theorem done (h : r.Carries kind plan all r') (hall : all) : r.Carries kind plan True r' :=
  h.mono fun _ => hall

/-- What is done of a plan by what fails. -/
theorem failed (h : r.Carries kind plan all r') {err : Error} :
    r.Carries kind plan (∃ a : α, Except.error err = .ok a) r' := by
  refine h.mono ?_
  rintro ⟨a, ha⟩
  cases ha

/-- A plan that was carried out to its end, and what was done of another after it. -/
theorem trans (h : r.Carries kind plan True r') (h' : r'.Carries kind plan' all r'') :
    r.Carries kind (plan ++ plan') all r'' := by
  obtain ⟨new, hnew, -, hfull⟩ := h
  obtain ⟨new', hnew', hsublist', hfull'⟩ := h'
  have hcalls : (begunCalls (new' ++ new)).filter kind =
      plan ++ (begunCalls new').filter kind := by
    rw [begunCalls_append, List.filter_append, hfull trivial]
  refine ⟨new' ++ new, by rw [hnew', hnew, List.append_assoc], ?_, fun hall => ?_⟩
  · rw [hcalls]
    exact hsublist'.append_left plan
  · rw [hcalls, hfull' hall]

/-- What was done of a plan was done of it and of what was planned after it. -/
theorem stop (h : r.Carries kind plan all r') (plan' : List Call) :
    r.Carries kind (plan ++ plan') False r' := by
  obtain ⟨new, hnew, hsublist, -⟩ := h
  exact ⟨new, hnew, hsublist.trans (List.sublist_append_left plan plan'), False.elim⟩

/-- What was done of a plan where nothing had been noted. -/
theorem sublist (h : r.Carries kind plan all r') (hr : r.world.2 = []) :
    ((begunCalls r'.world.2).filter kind).Sublist plan := by
  obtain ⟨new, hnew, hsublist, -⟩ := h
  rw [hnew, hr, List.append_nil]
  exact hsublist

end Run.Carries

/-- A call is begun, unless that is what was interrupted. -/
theorem Cluster.request_carries (cluster : Cluster σ) (heed : Heed) (kind : Call → Bool) (c : Call)
    (r : Run (σ × List CallEvent)) :
    (cluster.traced.request heed c).Ends r fun x r' =>
      r.Carries kind ([c].filter kind) (¬ Interrupted x) r' := by
  refine (cluster.request_tells heed c r).mono ?_
  rintro x r' - htells
  cases htells with
  | unbegun events =>
    refine ⟨[], events, List.nil_sublist _, fun h => ?_⟩
    exact absurd (interrupted_error.mpr rfl) h
  | cut events => exact ⟨[.begun r.now c], events, List.Sublist.refl _, fun _ => rfl⟩
  | answered events =>
    exact ⟨[.answered r'.now c x, .begun r.now c], events, List.Sublist.refl _, fun _ => rfl⟩

end PodSwap
