import PodSwap.Engine
import PodSwap.Object.Kubernetes
import PodSwap.Proofs.Object.Reading
import PodSwap.Proofs.Run.Polling
import PodSwap.Proofs.Selection.Pick

/-!
# The pod that is selected

A selection lists the pods again and again until the time is up or there is one that can be taken.
Which one that is depends on what the last list has in it, and neither on the order of that list nor
on the lists before.

Main statement: `select_chooses`.
-/

namespace PodSwap


variable {σ α β : Type}

/-! ## Listings that differ in the order -/

/-- Whether two answers list the same, in whatever order. -/
def ListAlike : Except Error (List α) → Except Error (List α) → Prop
  | .ok xs, .ok ys => xs.Perm ys
  | .error err, .error err' => err = err'
  | _, _ => False

/-- Whether two listings differ in nothing but the order of what they list. -/
structure Timed.Shuffled (a a' : Timed σ (List α)) : Prop where
  start : a'.start = a.start
  span : a'.span = a.span
  world : ∀ now w, (a'.finish now w).world = (a.finish now w).world
  cancels : ∀ now w, (a'.finish now w).cancels = (a.finish now w).cancels
  result : ∀ now w, ListAlike (a.finish now w).result (a'.finish now w).result

namespace Timed.Shuffled

variable {a a' : Timed σ (List α)} (h : a.Shuffled a')

include h

theorem neverCancels (ha : a.NeverCancels) : a'.NeverCancels :=
  fun now w => (h.cancels now w).trans (ha now w)

theorem uncut (r : Run σ) :
    ListAlike (a.uncut r).1 (a'.uncut r).1 ∧ (a'.uncut r).2 = (a.uncut r).2 := by
  unfold Timed.uncut
  rw [h.start, h.span]
  exact ⟨h.result _ _, congrArg (Run.mk _ _) (h.world _ _)⟩

variable {p : Poll} {r : Run σ}

theorem begun (n : Nat) : p.begun a' r n = p.begun a r n := by
  induction n with
  | zero => rfl
  | succ n ih =>
    rw [Poll.begun_succ, Poll.begun_succ, Poll.ended, Poll.ended, ih, (h.uncut _).2]

theorem ended (n : Nat) : p.ended a' r n = p.ended a r n := by
  rw [Poll.ended, Poll.ended, h.begun, (h.uncut _).2]

theorem outcome (n : Nat) : ListAlike (p.outcome a r n) (p.outcome a' r n) := by
  rw [Poll.outcome, Poll.outcome, h.begun]
  exact (h.uncut _).1

end Timed.Shuffled

/-- What is made of two answers that list the same, by a function that does not go by the order. -/
theorem ListAlike.map_eq {x y : Except Error (List α)} (h : ListAlike x y) {f : List α → β}
    (hf : ∀ xs ys, x = .ok xs → xs.Perm ys → f ys = f xs) : y.map f = x.map f := by
  cases x with
  | error err =>
    cases y with
    | error err' => rw [show err = err' from h]
    | ok ys => cases h
  | ok xs =>
    cases y with
    | error err => cases h
    | ok ys => exact congrArg Except.ok (hf xs ys rfl h)

/-! ## Selections -/

section

variable [Schema]

/-- The poll by which a pod is looked for. -/
def SelectOptions.poll (o : SelectOptions) : Poll where
  operation := o.operation
  intervalMs := o.intervalMs
  timeoutMs := o.timeoutMs

namespace Engine

/-- What a selection comes to by what its poll comes to. -/
def selected (x : Except Error SelectedPod) : Except Error (Option SelectedPod) :=
  match x with
  | .ok s => .ok (some s)
  | .error err => if err.isTimeout then .ok none else .error err

section

variable (e : Engine σ) (o : SelectOptions) (r : Run σ)

/-- The listing of the pods that the options ask for. -/
def listing : Timed σ (List Pod) := e.cluster.call (.listPods o.ns o.selectorText)

/-- What a selection is answered when it lists the pods, counted from nought. -/
def answer (n : Nat) : Except Error (List Pod) := o.poll.outcome (e.listing o) r n

/-- The state in which it is answered. -/
def answered (n : Nat) : Run σ := o.poll.ended (e.listing o) r n

/-- Whether a selection lists the pods again behind an answer: it has nothing that can be taken, and
there is time left. -/
def ListsAgain (n : Nat) : Prop :=
  ∃ pods, e.answer o r n = .ok pods ∧ (∀ pod ∈ pods, ∀ c, ¬ o.Offers pod c) ∧
    (e.answered o r n).now < o.poll.deadline r

/-- What a selection comes to by its last answer. -/
inductive Selects (n : Nat) : Except Error (Option SelectedPod) → Prop where
  | chosen {pods : List Pod} {s : SelectedPod} (h : e.answer o r n = .ok pods)
      (hs : o.Chosen pods s) : Selects n (.ok (some s))
  | nothing {pods : List Pod} (h : e.answer o r n = .ok pods)
      (hnone : ∀ pod ∈ pods, ∀ c, ¬ o.Offers pod c)
      (hdue : o.poll.deadline r ≤ (e.answered o r n).now) : Selects n (.ok none)
  /-- The cluster took too long to answer. -/
  | timedOut {err : Error} (h : e.answer o r n = .error err) (herr : err.isTimeout = true) :
    Selects n (.ok none)
  | failed {err : Error} (h : e.answer o r n = .error err) (herr : err.isTimeout = false) :
    Selects n (.error err)

/-- A selection is a poll of what is picked from the lists. -/
theorem from_select : (e.select o).from r =
    let polled := (o.poll.wait .caller ((e.listing o).map o.pick)).from r
    (selected polled.1, polled.2) := by
  unfold select
  rw [Op.from_attempt_bind]
  dsimp only [listing, SelectOptions.poll]
  cases hx : ((Poll.wait _ _ _ : Op σ SelectedPod).from r).1 with
  | ok s => rfl
  | error err =>
    dsimp only [selected]
    split <;> rfl

end

section

variable {e : Engine σ} {o : SelectOptions} {r : Run σ} {n : Nat}

/-- A selection goes on as the poll of what is picked does. -/
theorem listsAgain_iff :
    e.ListsAgain o r n ↔ o.poll.GoesOn ((e.listing o).map o.pick) r n := by
  unfold ListsAgain Poll.GoesOn
  rw [Poll.outcome_map, Poll.ended_map, map_eq_ok]
  simp only [SelectOptions.pick_eq_none_iff]
  constructor
  · rintro ⟨pods, h, hnone, hearly⟩
    exact ⟨⟨pods, h, hnone⟩, hearly⟩
  · rintro ⟨⟨pods, h, hnone⟩, hearly⟩
    exact ⟨pods, h, hnone, hearly⟩

/-- Where the poll of what is picked is over, the selection comes to what is made of that. -/
theorem selects_of_stops {x : Except Error SelectedPod}
    (hnames : ∀ pods, e.answer o r n = .ok pods →
      (pods.map fun pod => pod.metadata.name).Nodup)
    (h : o.poll.Stops ((e.listing o).map o.pick) r n x) : e.Selects o r n (selected x) := by
  cases h with
  | value hx =>
    rw [Poll.outcome_map] at hx
    obtain ⟨pods, hpods, hpick⟩ := map_eq_ok.mp hx
    exact .chosen hpods (SelectOptions.chosen_of_pick (hnames pods hpods) hpick)
  | @failure err hx =>
    rw [Poll.outcome_map] at hx
    have hanswer : e.answer o r n = .error err := by
      unfold answer
      cases hlisted : o.poll.outcome (e.listing o) r n with
      | ok pods => rw [hlisted] at hx; cases hx
      | error err' => rw [hlisted] at hx; cases hx; rfl
    cases htimeout : err.isTimeout with
    | true => simpa only [selected, htimeout, if_true] using .timedOut hanswer htimeout
    | false => simpa only [selected, htimeout, Bool.false_eq_true, if_false] using
        .failed hanswer htimeout
  | late hx hdue =>
    rw [Poll.outcome_map] at hx
    rw [Poll.ended_map] at hdue
    obtain ⟨pods, hpods, hpick⟩ := map_eq_ok.mp hx
    exact .nothing hpods (SelectOptions.pick_eq_none_iff.mp hpick) hdue

/-- A selection that nobody cancels lists the pods until there is one that can be taken, an error,
or no time left, and comes to what there is in the last of the lists: of the pods that can be taken
the newest, with its first container that is asked for. Nothing is selected only if there was
nothing to be taken from any of the lists. Listed in another order, the same pods come to the same
selection. -/
theorem select_chooses (hinterval : 0 < o.intervalMs) (hr : r.cancelAt = none)
    (hcancels : (e.listing o).NeverCancels)
    (hnames : ∀ n pods, e.answer o r n = .ok pods →
      (pods.map fun pod => pod.metadata.name).Nodup) :
    (∃ n x, (∀ m < n, e.ListsAgain o r m) ∧ e.Selects o r n x ∧
      (e.select o).from r = (x, e.answered o r n)) ∧
    ∀ e' : Engine σ, (e.listing o).Shuffled (e'.listing o) →
      (e'.select o).from r = (e.select o).from r := by
  have hpicks := hcancels.map o.pick
  refine ⟨?_, fun e' hshuffled => ?_⟩
  · obtain ⟨n, x, hbefore, hstops⟩ :=
      o.poll.exists_first_stop ((e.listing o).map o.pick) r hinterval
    refine ⟨n, selected x, fun m hm => listsAgain_iff.mpr (hbefore m hm),
      selects_of_stops (hnames n) hstops, ?_⟩
    rw [from_select, Poll.wait_of_stops hpicks hr hinterval hbefore hstops, Poll.ended_map]
    rfl
  · -- what is picked from a list is picked from it in any other order as well
    have houtcome : ∀ m, o.poll.outcome ((e'.listing o).map o.pick) r m =
        o.poll.outcome ((e.listing o).map o.pick) r m := by
      intro m
      rw [Poll.outcome_map, Poll.outcome_map]
      exact (hshuffled.outcome m).map_eq fun pods _ hpods hperm =>
        SelectOptions.pick_eq_of_perm (hnames m pods hpods) hperm
    have hended : ∀ m, o.poll.ended ((e'.listing o).map o.pick) r m =
        o.poll.ended ((e.listing o).map o.pick) r m := by
      intro m
      rw [Poll.ended_map, Poll.ended_map, hshuffled.ended]
    have hpicks' := (hshuffled.neverCancels hcancels).map o.pick
    rw [from_select, from_select, Poll.wait_congr hpicks hr hpicks' hinterval houtcome hended]

end

end Engine

end

/-! ## A list of pods -/

namespace Roll

/-- A pod with two containers. -/
def pod (name : String) (created deleted : Option Timestamp) : Pod where
  metadata :=
    { name := some name
      creationTimestamp := created
      deletionTimestamp := deleted }
  spec := some { containers := [{ name := "proxy" }, { name := "main" }] }

/-- Of four pods, the newest is on its way out, two are of the same age and one has none. -/
def pods : List Pod :=
  [pod "web-0" none none, pod "web-2" (some ⟨10, 0⟩) none,
    pod "web-3" (some ⟨20, 0⟩) (some ⟨30, 0⟩), pod "web-1" (some ⟨10, 0⟩) none]

/-- What a cluster answers that can only list some pods. -/
def answer (listed : List Pod) : (c : Call) → Except Error c.Answer
  | .listPods .. => .ok listed
  | _ => .error (.cluster "no such call")

/-- The engine on the cluster. -/
def engine (listed : List Pod) : Engine Unit where
  cluster := ⟨fun c => ⟨fun _ w => w, fun _ => 1, fun _ w => ⟨answer listed c, w, false⟩⟩⟩
  images := ⟨fun name => .ok [name], .ok⟩

/-- Options that name the second container. -/
def options : SelectOptions where
  ns := "default"
  containerName := some "main"
  intervalMs := 2
  timeoutMs := 5

/-- The lesser by name of the two pods of one age, with its second container. -/
def lesser : SelectedPod := ⟨pod "web-1" (some ⟨10, 0⟩) none, { name := "main" }⟩

theorem chosen_lesser : options.Chosen pods lesser := by
  refine ⟨by decide, SelectOptions.offers_iff.mpr ⟨by decide, rfl⟩, fun p hp c hoffers hne => ?_⟩
  simp only [pods, List.mem_cons, List.not_mem_nil, or_false] at hp
  obtain rfl | rfl | rfl | rfl := hp
  · exact .inl rfl
  · exact .inr ⟨rfl, by decide, by decide⟩
  · cases hoffers.live
  · exact absurd rfl hne

/-- It is the one that is selected, however the pods are listed. -/
theorem lesser_is_selected :
    0 < options.intervalMs ∧ ((engine pods).listing options).NeverCancels ∧
      (pods.map fun pod => pod.metadata.name).Nodup ∧
      (((engine pods).select options).from ⟨0, none, ()⟩).1 = .ok (some lesser) ∧
      ((engine pods.reverse).select options).from ⟨0, none, ()⟩ =
        ((engine pods).select options).from ⟨0, none, ()⟩ := by
  have hnames : (pods.map fun pod => pod.metadata.name).Nodup := by decide
  have hanswer : ∀ n listed, (engine pods).answer options ⟨0, none, ()⟩ n = .ok listed →
      listed = pods := fun _ _ h => (Except.ok.inj h).symm
  obtain ⟨⟨n, x, -, hselects, hrun⟩, hshuffled⟩ := Engine.select_chooses
    (e := engine pods) (o := options) (r := ⟨0, none, ()⟩) (by decide) rfl (fun _ _ => rfl)
    (fun n listed h => (hanswer n listed h).symm ▸ hnames)
  refine ⟨by decide, fun _ _ => rfl, hnames, ?_, hshuffled _ ?_⟩
  · rw [hrun]
    cases hselects with
    | chosen h hs =>
      obtain rfl := hanswer n _ h
      rw [hs.unique hnames chosen_lesser]
    | nothing h hnone =>
      obtain rfl := hanswer n _ h
      exact absurd chosen_lesser.offers (hnone _ chosen_lesser.listed _)
    | timedOut h => cases h
    | failed h => cases h
  · exact ⟨rfl, rfl, fun _ _ => rfl, fun _ _ => rfl, fun _ _ => (List.reverse_perm pods).symm⟩

end Roll

end PodSwap
