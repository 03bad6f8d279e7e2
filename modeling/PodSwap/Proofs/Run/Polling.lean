import Mathlib.Data.Nat.Find
import PodSwap.Proofs.Run.Ends

/-!
# The checks of a poll

A poll that nobody cancels makes its checks one after the other, each an interval after the end of
the one before. It goes on behind a check that came to nothing before the deadline, and is over with
the first that did not: by its value, its error, or because it came to nothing too late. A poll that
is to be cancelled goes the same way until then.

Main statements: the rounds of a poll go on as they do from any check up to which it goes on
(`rounds_eq_begun`), there is a check behind which it does not (`exists_not_goesOn`), and both
together (`wait_ends_in_time`): how a poll ends and when, and that what is so from the deadline on
at the latest is not missed. A poll is known by what its checks come to (`wait_congr`).
-/

namespace PodSwap

variable {σ α β : Type}

/-- What an action comes to that is not cut short. -/
def Timed.uncut (a : Timed σ α) (r : Run σ) : Except Error α × Run σ :=
  let world := a.start r.now r.world
  let due := r.now + a.span world
  let f := a.finish due world
  (f.result, { r with now := due, world := f.world })

/-- Whether an action never cancels the run it is part of. -/
def Timed.NeverCancels (a : Timed σ α) : Prop := ∀ now w, (a.finish now w).cancels = false

theorem Timed.NeverCancels.map {a : Timed σ α} (h : a.NeverCancels) (f : α → β) :
    (a.map f).NeverCancels := h

/-- Nothing cuts an action short that is over before the run is cancelled. -/
theorem guarded_eq_uncut (heed : Heed) {a : Timed σ α} (ha : a.NeverCancels) {r : Run σ}
    (hr : r.FreeUpTo (a.uncut r).2.now) : (guarded heed a).from r = a.uncut r := by
  have hcancels := ha (r.now + a.span (a.start r.now r.world)) (a.start r.now r.world)
  rw [guarded_of_freeUpTo heed a hr, hcancels]
  rfl

theorem pause_neverCancels (ms : Nat) : (pause ms : Timed σ Unit).NeverCancels := fun _ _ => rfl

/-- Nothing cuts a sleep short that is over before the run is cancelled. -/
theorem sleep_of_freeUpTo (heed : Heed) {ms : Nat} {r : Run σ}
    (hr : r.FreeUpTo (r.now + sleepSpan ms)) :
    (sleep heed ms).from r = (.ok (), { r with now := r.now + sleepSpan ms }) := by
  rw [sleep_eq_guarded]
  exact guarded_eq_uncut heed (pause_neverCancels ms) hr

theorem sleepSpan_pos {ms : Nat} (h : 0 < ms) : 0 < sleepSpan ms := by
  unfold sleepSpan longestSpan
  omega

theorem sleepSpan_le (ms : Nat) : sleepSpan ms ≤ ms := Nat.min_le_left _ _

namespace Poll

section

variable (p : Poll) (check : Timed σ α) (r : Run σ)

/-- The state in which a check begins, the first one being number nought, if the poll goes on up to
it. -/
def begun : Nat → Run σ
  | 0 => r
  | n + 1 =>
    let r' := (check.uncut (begun n)).2
    { r' with now := r'.now + sleepSpan p.intervalMs }

/-- The state in which the check ends. -/
def ended (n : Nat) : Run σ := (check.uncut (p.begun check r n)).2

/-- What the check comes to. -/
def outcome (n : Nat) : Except Error α := (check.uncut (p.begun check r n)).1

/-- How many milliseconds the check takes. -/
def lasts (n : Nat) : Nat :=
  check.span (check.start (p.begun check r n).now (p.begun check r n).world)

/-- When the time of the poll is up. -/
def deadline : Nat := r.now + p.timeoutMs

theorem begun_succ (n : Nat) : p.begun check r (n + 1) =
    { p.ended check r n with now := (p.ended check r n).now + sleepSpan p.intervalMs } := rfl

theorem now_ended (n : Nat) :
    (p.ended check r n).now = (p.begun check r n).now + p.lasts check r n := rfl

/-- Neither a check nor a sleep changes when the run is to be cancelled. -/
theorem cancelAt_begun (n : Nat) : (p.begun check r n).cancelAt = r.cancelAt := by
  induction n with
  | zero => rfl
  | succ n ih => exact ih

theorem freeUpTo_begun {n t : Nat} : (p.begun check r n).FreeUpTo t ↔ r.FreeUpTo t := by
  unfold Run.FreeUpTo
  rw [cancelAt_begun]

theorem now_begun_le_ended (n : Nat) : (p.begun check r n).now ≤ (p.ended check r n).now :=
  Nat.le_add_right _ _

theorem now_ended_le_begun (n : Nat) :
    (p.ended check r n).now ≤ (p.begun check r (n + 1)).now :=
  Nat.le_add_right _ _

/-- With every check there passes some time. -/
theorem le_now_begun (hinterval : 0 < p.intervalMs) (n : Nat) :
    r.now + n ≤ (p.begun check r n).now := by
  have hslept := sleepSpan_pos hinterval
  induction n with
  | zero => exact Nat.le_refl _
  | succ n ih =>
    have hended := p.now_ended check r n
    rw [begun_succ]
    show r.now + (n + 1) ≤ (p.ended check r n).now + sleepSpan p.intervalMs
    omega

/-- What is made of the result of a check does not change when the checks begin. -/
theorem begun_map (f : α → β) (n : Nat) : p.begun (check.map f) r n = p.begun check r n := by
  induction n with
  | zero => rfl
  | succ n ih =>
    rw [begun, ih]
    rfl

theorem ended_map (f : α → β) (n : Nat) : p.ended (check.map f) r n = p.ended check r n := by
  rw [ended, begun_map]
  rfl

theorem outcome_map (f : α → β) (n : Nat) :
    p.outcome (check.map f) r n = (p.outcome check r n).map f := by
  rw [outcome, begun_map]
  rfl

end

/-! ## Where a poll goes on and where it is over -/

section

variable (p : Poll) (check : Timed σ (Option α)) (r : Run σ)

/-- Whether a poll goes on behind a check: it came to nothing, and there is time left. -/
def GoesOn (n : Nat) : Prop :=
  p.outcome check r n = .ok none ∧ (p.ended check r n).now < p.deadline r

/-- How a poll is over with a check. -/
inductive Stops (n : Nat) : Except Error α → Prop where
  | value {a : α} (h : p.outcome check r n = .ok (some a)) : Stops n (.ok a)
  | failure {err : Error} (h : p.outcome check r n = .error err) : Stops n (.error err)
  /-- The check came to nothing, and the time is up. -/
  | late (h : p.outcome check r n = .ok none) (hdue : p.deadline r ≤ (p.ended check r n).now) :
    Stops n (.error p.timedOut)

variable {p check r} {n : Nat} {x : Except Error α}

/-- A poll that does not go on behind a check is over with it. -/
theorem exists_stops (h : ¬ p.GoesOn check r n) : ∃ x, p.Stops check r n x := by
  cases hx : p.outcome check r n with
  | error err => exact ⟨_, .failure hx⟩
  | ok y =>
    cases y with
    | some a => exact ⟨_, .value hx⟩
    | none => exact ⟨_, .late hx (Nat.le_of_not_lt fun hlt => h ⟨hx, hlt⟩)⟩

variable (p check r) in
/-- No poll goes on for ever: in time its time is up. -/
theorem exists_not_goesOn (hinterval : 0 < p.intervalMs) : ∃ n, ¬ p.GoesOn check r n := by
  refine ⟨p.timeoutMs, fun h => ?_⟩
  have hbegun := p.le_now_begun check r hinterval p.timeoutMs
  have hended := p.now_ended check r p.timeoutMs
  have hearly : (p.ended check r p.timeoutMs).now < r.now + p.timeoutMs := h.2
  omega

variable (p check r) in
/-- There is a check with which a poll is over. -/
theorem exists_first_stop (hinterval : 0 < p.intervalMs) :
    ∃ n x, (∀ m < n, p.GoesOn check r m) ∧ p.Stops check r n x := by
  classical
  have hexists := p.exists_not_goesOn check r hinterval
  obtain ⟨x, hx⟩ := exists_stops (Nat.find_spec hexists)
  exact ⟨_, x, fun m hm => Classical.byContradiction (Nat.find_min hexists hm), hx⟩

/-! ## The rounds -/

variable {heed : Heed} (hcancels : check.NeverCancels)

include hcancels

/-- A check that is over before the run is cancelled comes to its outcome. -/
theorem guarded_begun (hr : r.FreeUpTo (p.ended check r n).now) :
    (guarded heed check).from (p.begun check r n) =
      (p.outcome check r n, p.ended check r n) :=
  guarded_eq_uncut heed hcancels ((p.freeUpTo_begun check r).mpr hr)

/-- Behind a check the rounds go on with the next. -/
theorem rounds_of_goesOn (hinterval : 0 < p.intervalMs) (h : p.GoesOn check r n)
    (hr : r.FreeUpTo (p.begun check r (n + 1)).now) :
    p.rounds heed check (p.deadline r) idleRounds (p.begun check r n) =
      p.rounds heed check (p.deadline r) idleRounds (p.begun check r (n + 1)) := by
  obtain ⟨hnothing, hearly⟩ := h
  have hended : (guarded heed check).from (p.begun check r n) =
      (.ok none, p.ended check r n) := by
    rw [guarded_begun hcancels (hr.mono (p.now_ended_le_begun check r n)), hnothing]
  have hslept : (sleep heed p.intervalMs).from (p.ended check r n) =
      (.ok (), p.begun check r (n + 1)) :=
    sleep_of_freeUpTo heed ((p.freeUpTo_begun check r).mpr hr)
  have hlater : (p.begun check r n).now < (p.begun check r (n + 1)).now := by
    have hpos := sleepSpan_pos hinterval
    have hnow := p.now_ended check r n
    rw [begun_succ]
    show _ < (p.ended check r n).now + sleepSpan p.intervalMs
    omega
  exact rounds_of_later hended (Nat.not_le.mpr hearly) hslept hlater

/-- The rounds from the first check on are those from any check up to which they went on. -/
theorem rounds_eq_begun (hinterval : 0 < p.intervalMs) (h : ∀ m < n, p.GoesOn check r m)
    (hr : r.FreeUpTo (p.begun check r n).now) :
    p.rounds heed check (p.deadline r) idleRounds r =
      p.rounds heed check (p.deadline r) idleRounds (p.begun check r n) := by
  induction n with
  | zero => rfl
  | succ n ih =>
    have hle : (p.begun check r n).now ≤ (p.begun check r (n + 1)).now :=
      Nat.le_trans (p.now_begun_le_ended check r n) (p.now_ended_le_begun check r n)
    rw [ih (fun m hm => h m (Nat.lt_succ_of_lt hm)) (hr.mono hle)]
    exact rounds_of_goesOn hcancels hinterval (h n (Nat.lt_succ_self n)) hr

/-- The rounds are over with a check as the poll is. -/
theorem rounds_of_stops (h : p.Stops check r n x) (hr : r.FreeUpTo (p.ended check r n).now) :
    p.rounds heed check (p.deadline r) idleRounds (p.begun check r n) =
      (x, p.ended check r n) := by
  have hended : (guarded heed check).from (p.begun check r n) = _ := guarded_begun hcancels hr
  cases h with
  | value hx =>
    rw [hx] at hended
    exact rounds_of_value hended
  | failure hx =>
    rw [hx] at hended
    exact rounds_of_error hended
  | late hx hdue =>
    rw [hx] at hended
    exact rounds_of_due hended hdue

/-- A poll that is over before the run is cancelled comes to what it is over with. -/
theorem wait_of_freeUpTo (hinterval : 0 < p.intervalMs) (hbefore : ∀ m < n, p.GoesOn check r m)
    (h : p.Stops check r n x) (hr : r.FreeUpTo (p.ended check r n).now) :
    (p.wait heed check).from r = (x, p.ended check r n) := by
  show p.rounds heed check (p.deadline r) idleRounds r = _
  rw [rounds_eq_begun hcancels hinterval hbefore (hr.mono (p.now_begun_le_ended check r n)),
    rounds_of_stops hcancels h hr]

variable (hr : r.cancelAt = none)

include hr

/-- A poll comes to what it is over with. -/
theorem wait_of_stops (hinterval : 0 < p.intervalMs) (hbefore : ∀ m < n, p.GoesOn check r m)
    (h : p.Stops check r n x) : (p.wait heed check).from r = (x, p.ended check r n) :=
  wait_of_freeUpTo hcancels hinterval hbefore h (.of_none hr _)

/-- Polls whose checks come to the same, and end in the same states, come to the same. -/
theorem wait_congr {check' : Timed σ (Option α)} (hcancels' : check'.NeverCancels)
    (hinterval : 0 < p.intervalMs)
    (houtcome : ∀ n, p.outcome check' r n = p.outcome check r n)
    (hended : ∀ n, p.ended check' r n = p.ended check r n) :
    (p.wait heed check').from r = (p.wait heed check).from r := by
  obtain ⟨n, x, hbefore, hstops⟩ := p.exists_first_stop check r hinterval
  have hbefore' : ∀ m < n, p.GoesOn check' r m := by
    intro m hm
    rw [GoesOn, houtcome, hended]
    exact hbefore m hm
  have hstops' : p.Stops check' r n x := by
    cases hstops with
    | value h => exact .value ((houtcome n).trans h)
    | failure h => exact .failure ((houtcome n).trans h)
    | late h hdue => exact .late ((houtcome n).trans h) (by rw [hended]; exact hdue)
  rw [wait_of_stops hcancels' hr hinterval hbefore' hstops',
    wait_of_stops hcancels hr hinterval hbefore hstops, hended]

omit hcancels hr in
/-- A check that follows another ends less than an interval and its own time behind the deadline. -/
theorem now_ended_lt (hbefore : ∀ m < n, p.GoesOn check r m) (hn : 0 < n) :
    (p.ended check r n).now < p.deadline r + p.intervalMs + p.lasts check r n := by
  obtain ⟨m, rfl⟩ := Nat.exists_eq_succ_of_ne_zero (Nat.ne_of_gt hn)
  have hearly := (hbefore m (Nat.lt_succ_self m)).2
  have hslept := sleepSpan_le p.intervalMs
  rw [now_ended, begun_succ]
  show (p.ended check r m).now + sleepSpan p.intervalMs + _ < _
  omega

/-- A poll that nobody cancels makes its first check at once. It is over with the first check that
comes to a value or an error, or to nothing when the time is up, and none of those before did. It
ends with that check, which ends less than an interval and its own time behind the deadline, unless
it was the only one. So where no check comes to an error, and from some time on that is not behind
the deadline every check comes to a value, the poll does so too. -/
theorem wait_ends_in_time (hinterval : 0 < p.intervalMs) :
    (p.begun check r 0 = r ∧
      ∃ n x, (∀ m < n, p.GoesOn check r m) ∧ p.Stops check r n x ∧
        (p.wait heed check).from r = (x, p.ended check r n) ∧
        (n = 0 ∧ (p.ended check r n).now = r.now + p.lasts check r n ∨
          (p.ended check r n).now < p.deadline r + p.intervalMs + p.lasts check r n)) ∧
    ∀ t ≤ p.deadline r, (∀ n err, p.outcome check r n ≠ .error err) →
      (∀ n, t ≤ (p.ended check r n).now → ∃ a, p.outcome check r n = .ok (some a)) →
      ∃ a, ((p.wait heed check).from r).1 = .ok a := by
  obtain ⟨n, x, hbefore, hstops⟩ := p.exists_first_stop check r hinterval
  have hwait : (p.wait heed check).from r = (x, p.ended check r n) :=
    wait_of_stops hcancels hr hinterval hbefore hstops
  refine ⟨⟨rfl, n, x, hbefore, hstops, hwait, ?_⟩, fun t ht hnever halways => ?_⟩
  · cases n with
    | zero => exact .inl ⟨rfl, rfl⟩
    | succ n => exact .inr (now_ended_lt hbefore (Nat.succ_pos n))
  · rw [hwait]
    cases hstops with
    | value _ => exact ⟨_, rfl⟩
    | failure herror => exact absurd herror (hnever n _)
    | late hnothing hdue =>
      obtain ⟨a, ha⟩ := halways n (Nat.le_trans ht hdue)
      rw [hnothing] at ha
      cases ha

end

/-- A door that opens at a time and stays open. To look at it takes no time. -/
def doorOpenFrom (time : Nat) : Timed Unit (Option Unit) where
  start _ w := w
  span _ := 0
  finish now w := ⟨.ok (if time ≤ now then some () else none), w, false⟩

/-- Looks at the door every two milliseconds for five. -/
def doorPoll : Poll := { operation := "door", intervalMs := 2, timeoutMs := 5 }

/-- A door that opens just when the time is up is found open, with a look that comes behind that. -/
theorem door_found_open :
    0 < doorPoll.intervalMs ∧ (doorOpenFrom 5).NeverCancels ∧
      (∃ a, ((doorPoll.wait .caller (doorOpenFrom 5)).from ⟨0, none, ()⟩).1 = .ok a) ∧
      doorPoll.Stops (doorOpenFrom 5) ⟨0, none, ()⟩ 3 (.ok ()) := by
  refine ⟨by decide, fun _ _ => rfl, ?_, .value rfl⟩
  have hnever : ∀ n err, doorPoll.outcome (doorOpenFrom 5) ⟨0, none, ()⟩ n ≠ .error err := by
    intro n err h
    cases h
  refine (wait_ends_in_time (fun _ _ => rfl) rfl (by decide)).2 5 (by decide) hnever ?_
  intro n hlate
  exact ⟨(), congrArg Except.ok (if_pos hlate)⟩

end Poll

end PodSwap
