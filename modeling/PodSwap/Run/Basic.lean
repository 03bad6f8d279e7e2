import PodSwap.Error

/-!
# Runs

A run goes through time, in whole milliseconds. Actions take a span of it and have their effect at
the end; a run may be cancelled at an instant, and then an action that heeds the cancellation ends
there, without its effect. A sleep ends at the latest where the timer does that it is set on
(`longestSpan`).

Main statements: time never goes back (`now_le_guarded`, `now_le_sleep`), and a cancelled run begins
nothing (`guarded_of_isCancelled`).
-/

namespace PodSwap

/-- How far ahead the timer of the runtime can be set, thirty years of 365 days. It takes a time
beyond that for this one, so a sleep that was to last longer ends there. -/
def longestSpan : Nat := 946080000000

/-- How long a sleep that is to last some milliseconds does last. -/
def sleepSpan (ms : Nat) : Nat := min ms longestSpan

/-- What an action leaves behind when it is over. -/
structure Finish (σ α : Type) where
  result : Except Error α
  world : σ
  /-- Whether the action cancels the run it is part of. -/
  cancels : Bool := false

/-- An action that takes time, on a world of type `σ`. -/
structure Timed (σ α : Type) where
  /-- What its beginning, at the given time, leaves behind. -/
  start : Nat → σ → σ
  /-- How many milliseconds it takes from there. -/
  span : σ → Nat
  /-- What it does at its end, which is at the given time. -/
  finish : Nat → σ → Finish σ α

/-- The action with a function applied to its result. -/
def Timed.map {σ α β : Type} (f : α → β) (a : Timed σ α) : Timed σ β where
  start := a.start
  span := a.span
  finish now w :=
    let f' := a.finish now w
    ⟨f'.result.map f, f'.world, f'.cancels⟩

/-- Which cancellation an action heeds. -/
inductive Heed where
  /-- The caller's. -/
  | caller
  /-- None. -/
  | nobody
deriving DecidableEq, Repr

/-- The state of a run: the time, the instant of its cancellation and the world. -/
structure Run (σ : Type) where
  now : Nat
  cancelAt : Option Nat
  world : σ

/-- An operation of a run: it changes the state and ends with a result or an error. -/
abbrev Op (σ α : Type) := ExceptT Error (StateM (Run σ)) α

namespace Run

variable {σ : Type}

/-- The instant at which what heeds a cancellation is cancelled. -/
def cancellation (r : Run σ) : Heed → Option Nat
  | .caller => r.cancelAt
  | .nobody => none

/-- Whether the cancellation has come. -/
def isCancelled (r : Run σ) (heed : Heed) : Bool :=
  match r.cancellation heed with
  | some c => c ≤ r.now
  | none => false

/-- The instant of the cancellation if it comes by a time. -/
def interruption (r : Run σ) (heed : Heed) (due : Nat) : Option Nat :=
  (r.cancellation heed).filter (· ≤ due)

/-- The instant of the cancellation after an action that ended at a time. -/
def cancellationAfter (r : Run σ) (cancels : Bool) (due : Nat) : Option Nat :=
  if cancels then some (min due (r.cancelAt.getD due)) else r.cancelAt

end Run

variable {σ α : Type}

/-- Runs an operation from a state. -/
def Op.from (op : Op σ α) (r : Run σ) : Except Error α × Run σ := op.run r

/-- An action unless the run is cancelled before it is over. -/
def guarded (heed : Heed) (a : Timed σ α) : Op σ α := ExceptT.mk fun r =>
  if r.isCancelled heed then (.error .cancelled, r)
  else
    let world := a.start r.now r.world
    let due := r.now + a.span world
    match r.interruption heed due with
    -- what its beginning left behind stays, its effect never comes
    | some c => (.error .cancelled, { r with now := c, world })
    | none =>
      let f := a.finish due world
      (f.result, { now := due, cancelAt := r.cancellationAfter f.cancels due, world := f.world })

/-- Lets time pass unless the run is cancelled meanwhile. -/
def sleep (heed : Heed) (ms : Nat) : Op σ Unit := ExceptT.mk fun r =>
  if r.isCancelled heed then (.error .cancelled, r)
  else
    let due := r.now + sleepSpan ms
    match r.interruption heed due with
    | some c => (.error .cancelled, { r with now := c })
    | none => (.ok (), { r with now := due })

/-- The operation with a step noted in its error. -/
def during (name : String) (op : Op σ α) : Op σ α := ExceptT.mk fun r =>
  let (result, r) := op.from r
  (inStep name result, r)

/-- The result of an operation, also where it is an error. -/
def attempt (op : Op σ α) : Op σ (Except Error α) := ExceptT.mk fun r =>
  let (result, r) := op.from r
  (.ok result, r)

/-- An operation that does not touch the run. -/
def purely (result : Except Error α) : Op σ α := ExceptT.mk fun r => (result, r)

/-! ## Time and cancellation -/

/-- A cancelled run begins nothing. -/
theorem guarded_of_isCancelled {heed : Heed} {a : Timed σ α} {r : Run σ}
    (h : r.isCancelled heed = true) : (guarded heed a).from r = (.error .cancelled, r) := by
  simp [guarded, Op.from, ExceptT.run, ExceptT.mk, h]

theorem lt_of_interruption {heed : Heed} {r : Run σ} {due c : Nat}
    (hn : r.isCancelled heed = false) (h : r.interruption heed due = some c) :
    r.now < c ∧ c ≤ due := by
  unfold Run.isCancelled at hn
  unfold Run.interruption at h
  cases hc : r.cancellation heed with
  | none => simp [hc] at h
  | some t =>
    rw [hc] at hn h
    simp only [Option.filter_some, decide_eq_true_eq] at h
    split at h
    · simp only [Option.some.injEq] at h
      subst h
      simp only [decide_eq_false_iff_not, Nat.not_le] at hn
      exact ⟨hn, by assumption⟩
    · simp at h

/-- Time does not go back while an action runs. -/
theorem now_le_guarded (heed : Heed) (a : Timed σ α) (r : Run σ) :
    r.now ≤ ((guarded heed a).from r).2.now := by
  simp only [guarded, Op.from, ExceptT.run, ExceptT.mk]
  split
  · exact Nat.le_refl _
  · rename_i hn
    split
    · rename_i c hc
      exact Nat.le_of_lt (lt_of_interruption (by simpa using hn) hc).1
    · exact Nat.le_add_right _ _

/-- Time does not go back in sleep. -/
theorem now_le_sleep (heed : Heed) (ms : Nat) (r : Run σ) :
    r.now ≤ ((sleep heed ms).from r).2.now := by
  simp only [sleep, Op.from, ExceptT.run, ExceptT.mk]
  split
  · exact Nat.le_refl _
  · rename_i hn
    split
    · rename_i c hc
      exact Nat.le_of_lt (lt_of_interruption (by simpa using hn) hc).1
    · exact Nat.le_add_right _ _

end PodSwap
