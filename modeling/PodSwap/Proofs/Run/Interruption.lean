import Mathlib.Order.Monotone.Basic
import PodSwap.Proofs.Run.Polling

/-!
# Polls that are cancelled

A poll that is to be cancelled at an instant goes like the one that nobody cancels until then. The
instant comes before the poll, in one of its checks, in the sleep behind one, or behind its end. At
an instant at which something else happens as well the cancellation comes first.

Which checks a poll begins can be read off a clock that each of them looks at when it begins
(`Timed.clocked`). A check that is made ready and never begins does not look.

Main statements: the instant at which a poll is cut short lies in a check or in the sleep behind it
(`exists_cut`), there the poll is cut (`wait_of_cut`), and so it has begun the checks that it would
have begun before the instant and no other; behind its end a cancellation changes nothing
(`wait_of_cancellation`).
-/

namespace PodSwap

variable {σ α : Type}

/-- The action on a world that also keeps the times at which such actions were begun, the last one
first. -/
def Timed.clocked (a : Timed σ α) : Timed (σ × List Nat) α where
  start now w := (a.start now w.1, now :: w.2)
  span w := a.span w.1
  finish now w :=
    let f := a.finish now w.1
    ⟨f.result, (f.world, w.2), f.cancels⟩

theorem Timed.NeverCancels.clocked {a : Timed σ α} (h : a.NeverCancels) :
    a.clocked.NeverCancels :=
  fun now w => h now w.1

/-- The run with an instant at which it is to be cancelled. -/
def Run.withCancellation (r : Run σ) (c : Nat) : Run σ := { r with cancelAt := some c }

namespace Poll

section

variable (p : Poll) (check : Timed σ α) (r : Run σ) (c : Nat)

/-! ## The same checks -/

theorem begun_withCancellation (n : Nat) :
    p.begun check (r.withCancellation c) n = (p.begun check r n).withCancellation c := by
  induction n with
  | zero => rfl
  | succ n ih =>
    rw [begun, ih]
    rfl

theorem ended_withCancellation (n : Nat) :
    p.ended check (r.withCancellation c) n = (p.ended check r n).withCancellation c := by
  rw [ended, begun_withCancellation]
  rfl

theorem outcome_withCancellation (n : Nat) :
    p.outcome check (r.withCancellation c) n = p.outcome check r n := by
  rw [outcome, begun_withCancellation]
  rfl

theorem now_begun_mono : Monotone fun n => (p.begun check r n).now :=
  monotone_nat_of_le_succ fun n =>
    Nat.le_trans (p.now_begun_le_ended check r n) (p.now_ended_le_begun check r n)

end

section

variable {p : Poll} {check : Timed σ (Option α)} {r : Run σ} {n c : Nat} {x : Except Error α}

theorem goesOn_withCancellation :
    p.GoesOn check (r.withCancellation c) n ↔ p.GoesOn check r n := by
  unfold GoesOn
  rw [outcome_withCancellation, ended_withCancellation]
  rfl

theorem Stops.withCancellation (h : p.Stops check r n x) :
    p.Stops check (r.withCancellation c) n x := by
  cases h with
  | value hx => exact .value ((p.outcome_withCancellation check r c n).trans hx)
  | failure hx => exact .failure ((p.outcome_withCancellation check r c n).trans hx)
  | late hx hdue =>
    refine .late ((p.outcome_withCancellation check r c n).trans hx) ?_
    rw [ended_withCancellation]
    exact hdue

/-! ## Where a poll is cut short -/

/-- How the rounds of a poll are cut short that go on up to a check which begins before the
instant: in the check or in the sleep behind it. -/
inductive Cut (p : Poll) (check : Timed σ α) (r : Run σ) (c n : Nat) : Run σ → Prop where
  | inCheck (h : c ≤ (p.ended check r n).now) :
    Cut p check r c n { p.begun check r n with
      now := c, world := check.start (p.begun check r n).now (p.begun check r n).world }
  | inSleep (h : (p.ended check r n).now < c) (hc : c ≤ (p.begun check r (n + 1)).now) :
    Cut p check r c n { p.ended check r n with now := c }

/-- An instant that comes behind the beginning of a poll, and not behind the end of a check, comes
in one of the checks so far or in the sleep behind one. -/
theorem exists_cut (hstart : r.now < c) (hend : c ≤ (p.ended check r n).now) :
    ∃ m ≤ n, (p.begun check r m).now < c ∧
      (c ≤ (p.ended check r m).now ∨
        m < n ∧ (p.ended check r m).now < c ∧ c ≤ (p.begun check r (m + 1)).now) := by
  -- on the last check: the instant comes in it, in the sleep before it, or in what came before
  induction n with
  | zero => exact ⟨0, Nat.le_refl 0, hstart, .inl hend⟩
  | succ n ih =>
    rcases Nat.lt_or_ge (p.begun check r (n + 1)).now c with hbegun | hbegun
    · exact ⟨n + 1, Nat.le_refl _, hbegun, .inl hend⟩
    · rcases Nat.lt_or_ge (p.ended check r n).now c with hended | hended
      · exact ⟨n, Nat.le_succ n, Nat.lt_of_le_of_lt (p.now_begun_le_ended check r n) hended,
          .inr ⟨Nat.lt_succ_self n, hended, hbegun⟩⟩
      · obtain ⟨m, hm, hbegun', hcut⟩ := ih hended
        refine ⟨m, Nat.le_succ_of_le hm, hbegun', hcut.imp_right ?_⟩
        rintro ⟨hlt, hslept⟩
        exact ⟨Nat.lt_succ_of_lt hlt, hslept⟩

variable (hc : r.cancelAt = some c)

include hc

/-- The rounds are cut short in a check that is in flight. -/
theorem rounds_of_cut_check {deadline idle : Nat} (hbegun : (p.begun check r n).now < c)
    (hended : c ≤ (p.ended check r n).now) :
    p.rounds .caller check deadline idle (p.begun check r n) =
      (.error .cancelled, { p.begun check r n with
        now := c, world := check.start (p.begun check r n).now (p.begun check r n).world }) :=
  rounds_of_error (guarded_of_cut ((p.cancelAt_begun check r n).trans hc) hbegun hended)

variable (hcancels : check.NeverCancels)

include hcancels

/-- The rounds are cut short in the sleep behind a check. -/
theorem rounds_of_cut_sleep {idle : Nat} (hgoes : p.GoesOn check r n)
    (hended : (p.ended check r n).now < c) (hbegun : c ≤ (p.begun check r (n + 1)).now) :
    p.rounds .caller check (p.deadline r) idle (p.begun check r n) =
      (.error .cancelled, { p.ended check r n with now := c }) := by
  have hcancelAt : (p.ended check r n).cancelAt = some c := (p.cancelAt_begun check r n).trans hc
  have hnothing : (guarded .caller check).from (p.begun check r n) =
      (.ok none, p.ended check r n) := by
    rw [guarded_begun hcancels (.of_some hc hended), hgoes.1]
  have hslept : (sleep .caller p.intervalMs).from (p.ended check r n) =
      (.error .cancelled, { p.ended check r n with now := c }) :=
    guarded_of_cut (a := pause p.intervalMs) hcancelAt hended hbegun
  exact rounds_of_cancelled hnothing (Nat.not_le.mpr hgoes.2) hslept

/-- A poll that is cancelled before it is over is cut short at just that instant, in the last check
that it begins before or in the sleep behind it. -/
theorem wait_of_cut (hinterval : 0 < p.intervalMs) (hstart : r.now < c)
    (hbefore : ∀ m < n, p.GoesOn check r m) (hend : c ≤ (p.ended check r n).now) :
    ∃ m ≤ n, (p.begun check r m).now < c ∧ (m < n → c ≤ (p.begun check r (m + 1)).now) ∧
      ∃ r', p.Cut check r c m r' ∧ (p.wait .caller check).from r = (.error .cancelled, r') := by
  obtain ⟨m, hm, hbegun, hcut⟩ := exists_cut hstart hend
  have hwait : (p.wait .caller check).from r =
      p.rounds .caller check (p.deadline r) idleRounds (p.begun check r m) :=
    rounds_eq_begun hcancels hinterval (fun k hk => hbefore k (Nat.lt_of_lt_of_le hk hm))
      (.of_some hc hbegun)
  rcases hcut with hended | ⟨hlt, hended, hslept⟩
  · have hnext := p.now_ended_le_begun check r m
    refine ⟨m, hm, hbegun, fun _ => Nat.le_trans hended hnext, _, .inCheck hended, ?_⟩
    rw [hwait, rounds_of_cut_check hc hbegun hended]
  · refine ⟨m, hm, hbegun, fun _ => hslept, _, .inSleep hended hslept, ?_⟩
    rw [hwait, rounds_of_cut_sleep hc hcancels (hbefore m hlt) hended hslept]

end

/-! ## The checks that were begun -/

section

variable {p : Poll} {check : Timed σ α} {r : Run (σ × List Nat)} {m n c : Nat}

theorem clock_ended : (p.ended check.clocked r n).world.2 =
    (p.begun check.clocked r n).now :: (p.begun check.clocked r n).world.2 := rfl

/-- No check was begun later than the one that is. -/
theorem le_of_mem_clock (hr : r.world.2 = []) {t : Nat}
    (ht : t ∈ (p.begun check.clocked r n).world.2) : t ≤ (p.begun check.clocked r n).now := by
  induction n with
  | zero =>
    rw [begun, hr] at ht
    cases ht
  | succ n ih =>
    have hle := p.now_begun_mono check.clocked r (Nat.le_succ n)
    rcases List.mem_cons.mp ht with rfl | ht
    · exact hle
    · exact Nat.le_trans (ih ht) hle

/-- The checks begun before an instant are those up to the last one that is. -/
theorem filter_clock (hr : r.world.2 = []) (hm : m ≤ n)
    (hbegun : (p.begun check.clocked r m).now < c)
    (hnext : m < n → c ≤ (p.begun check.clocked r (m + 1)).now) :
    (p.ended check.clocked r n).world.2.filter (· < c) = (p.ended check.clocked r m).world.2 := by
  -- on the checks behind the last one: the clock only goes forward, so each of them is too late
  induction n, hm using Nat.le_induction with
  | base =>
    refine List.filter_eq_self.mpr fun t ht => decide_eq_true ?_
    rcases List.mem_cons.mp ht with rfl | ht
    · exact hbegun
    · exact Nat.lt_of_le_of_lt (le_of_mem_clock hr ht) hbegun
  | succ n hm ih =>
    have hlate : c ≤ (p.begun check.clocked r (n + 1)).now :=
      Nat.le_trans (hnext (Nat.lt_succ_of_le hm))
        (p.now_begun_mono check.clocked r (Nat.succ_le_succ hm))
    rw [clock_ended, List.filter_cons_of_neg (by simpa using hlate)]
    exact ih fun hlt => hnext (Nat.lt_succ_of_lt hlt)

/-- Where a poll is cut short, the check it was cut in or behind is the last one it began. -/
theorem Cut.now_and_clock {r' : Run (σ × List Nat)} (h : p.Cut check.clocked r c n r') :
    r'.now = c ∧ r'.world.2 = (p.ended check.clocked r n).world.2 := by
  cases h with
  | inCheck _ => exact ⟨rfl, rfl⟩
  | inSleep _ _ => exact ⟨rfl, rfl⟩

end

/-! ## What a cancellation changes -/

/-- A cancellation only cuts a poll short. One that comes before the poll makes it end at once, with
no check begun. One that comes while the poll is under way makes it end at just that instant, and
the checks begun are those that the poll begins before the instant when nobody cancels it. One that
comes behind the end of the poll changes nothing. -/
theorem cancellation_only_cuts {p : Poll} {check : Timed σ (Option α)}
    (hcancels : check.NeverCancels) (hinterval : 0 < p.intervalMs) (now : Nat) (w : σ) (c : Nat) :
    let start : Run (σ × List Nat) := ⟨now, none, (w, [])⟩
    let whole := (p.wait .caller check.clocked).from start
    let cut := (p.wait .caller check.clocked).from (start.withCancellation c)
    (c ≤ now → cut = (.error .cancelled, start.withCancellation c)) ∧
      (now < c → c < whole.2.now → cut.1 = .error .cancelled ∧ cut.2.now = c ∧
        cut.2.world.2 = whole.2.world.2.filter (· < c)) ∧
      (whole.2.now < c → cut = (whole.1, whole.2.withCancellation c)) := by
  intro start whole cut
  -- both runs make the checks of the one that nobody cancels, up to where the other is cut
  obtain ⟨n, x, hbefore, hstops⟩ := p.exists_first_stop check.clocked start hinterval
  have hwhole : whole = (x, p.ended check.clocked start n) :=
    wait_of_stops hcancels.clocked rfl hinterval hbefore hstops
  have hbefore' : ∀ m < n, p.GoesOn check.clocked (start.withCancellation c) m :=
    fun m hm => goesOn_withCancellation.mpr (hbefore m hm)
  refine ⟨fun hearly => ?_, fun hlate hend => ?_, fun hend => ?_⟩
  · exact rounds_of_error (guarded_of_isCancelled (decide_eq_true hearly))
  · rw [hwhole] at hend ⊢
    have hend' : c ≤ (p.ended check.clocked (start.withCancellation c) n).now := by
      rw [ended_withCancellation]
      exact Nat.le_of_lt hend
    obtain ⟨m, hm, hbegun, hnext, r', hcut, hwait⟩ :=
      wait_of_cut rfl hcancels.clocked hinterval hlate hbefore' hend'
    rw [begun_withCancellation] at hbegun hnext
    obtain ⟨hnow, hclock⟩ := hcut.now_and_clock
    rw [ended_withCancellation] at hclock
    have hcutShort : cut = (.error .cancelled, r') := hwait
    rw [hcutShort]
    exact ⟨rfl, hnow, hclock.trans (filter_clock rfl hm hbegun hnext).symm⟩
  · rw [hwhole] at hend ⊢
    have hfree : (start.withCancellation c).FreeUpTo
        (p.ended check.clocked (start.withCancellation c) n).now := by
      rw [ended_withCancellation]
      exact .of_some rfl hend
    have hwait : cut = _ :=
      wait_of_freeUpTo hcancels.clocked hinterval hbefore' hstops.withCancellation hfree
    rw [ended_withCancellation] at hwait
    exact hwait

/-- A knock. The first takes three milliseconds and those after it one, and the third is
answered. -/
def knock : Timed Nat (Option Unit) where
  start _ n := n + 1
  span n := if n = 1 then 3 else 1
  finish _ n := ⟨.ok (if 3 ≤ n then some () else none), n, false⟩

/-- Knocks every two milliseconds for twenty. -/
def knocking : Poll := { operation := "knock", intervalMs := 2, timeoutMs := 20 }

/-- Knocks that nobody cancels are begun at 0, 5 and 8 and answered at 9. Cancelled beforehand, in
the first knock, in the sleep behind the second, and afterwards. -/
theorem knocks_cut_short :
    let start : Run (Nat × List Nat) := ⟨0, none, (0, [])⟩
    let cut c := (knocking.wait .caller knock.clocked).from (start.withCancellation c)
    knock.NeverCancels ∧ 0 < knocking.intervalMs ∧
      cut 0 = (.error .cancelled, start.withCancellation 0) ∧
      ((cut 2).1 = .error .cancelled ∧ (cut 2).2.now = 2 ∧ (cut 2).2.world.2 = [0]) ∧
      ((cut 7).1 = .error .cancelled ∧ (cut 7).2.now = 7 ∧ (cut 7).2.world.2 = [5, 0]) ∧
      cut 10 = (.ok (), ⟨9, some 10, (3, [8, 5, 0])⟩) := by
  intro start cut
  have hcancels : knock.NeverCancels := fun _ _ => rfl
  have hinterval : 0 < knocking.intervalMs := by decide
  have hbefore : ∀ m < 2, knocking.GoesOn knock.clocked start m := by
    intro m hm
    match m, hm with
    | 0, _ => exact ⟨rfl, by decide⟩
    | 1, _ => exact ⟨rfl, by decide⟩
  have hwhole : (knocking.wait .caller knock.clocked).from ⟨0, none, (0, [])⟩ =
      (.ok (), ⟨9, none, (3, [8, 5, 0])⟩) :=
    wait_of_stops (r := start) hcancels.clocked rfl hinterval hbefore (.value rfl)
  obtain ⟨hbeforehand, -, -⟩ := cancellation_only_cuts hcancels hinterval 0 0 0
  obtain ⟨-, hinKnock, -⟩ := cancellation_only_cuts hcancels hinterval 0 0 2
  obtain ⟨-, hinSleep, -⟩ := cancellation_only_cuts hcancels hinterval 0 0 7
  obtain ⟨-, -, hafterwards⟩ := cancellation_only_cuts hcancels hinterval 0 0 10
  rw [hwhole] at hinKnock hinSleep hafterwards
  exact ⟨hcancels, hinterval, hbeforehand (by decide), hinKnock (by decide) (by decide),
    hinSleep (by decide) (by decide), hafterwards (by decide)⟩

end Poll

end PodSwap
