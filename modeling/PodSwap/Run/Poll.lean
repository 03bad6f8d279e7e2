import PodSwap.Run.Basic

/-!
# Polling

A poll makes a check again and again, with an interval between, until the check yields a value, ends
with an error, or ends at or after the deadline. The first check begins at once, so there always is
one.

Every round either takes time, of which there is only so much before the deadline, or none; rounds
that take no time are only possible with an interval of zero. In the program such rounds go on until
the deadline comes, because the clock moves on its own. Here it moves with sleeps and calls only, so
something has to be assumed of how many rounds fit into no time (`idleRounds`).
-/

namespace PodSwap

/-- What is waited for, how often it is checked and for how long. -/
structure Poll where
  /-- What is waited for, as errors name it. -/
  operation : String
  intervalMs : Nat
  timeoutMs : Nat
deriving Repr

namespace Poll

variable {σ α : Type}

/-- How many rounds in a row may take no time. This is an assumption about the clock and no bound
that the program sets: by the end of so many rounds the deadline is taken to have come. Nothing
rests on it where the interval is not zero. -/
def idleRounds : Nat := 100000

/-- The error of a poll that took too long. -/
def timedOut (p : Poll) : Error := .timeout p.operation p.timeoutMs

set_option linter.unusedVariables false in
/-- Rounds of a poll up to its deadline. -/
def rounds (p : Poll) (heed : Heed) (check : Timed σ (Option α)) (deadline idle : Nat)
    (r : Run σ) : Except Error α × Run σ :=
  match hg : (guarded heed check).from r with
  | (.error e, r') => (.error e, r')
  | (.ok (some a), r') => (.ok a, r')
  | (.ok none, r') =>
    -- the deadline is looked at behind the check, so a value that comes late still counts
    if hd : deadline ≤ r'.now then (.error p.timedOut, r')
    else
      match hs : (sleep heed p.intervalMs).from r' with
      | (.error e, r'') => (.error e, r'')
      | (.ok (), r'') =>
        -- only rounds that took no time at all count against `idle`
        if hn : r.now < r''.now then p.rounds heed check deadline idleRounds r''
        else
          match idle with
          | 0 => (.error p.timedOut, r'')
          | idle + 1 => p.rounds heed check deadline idle r''
termination_by (deadline - r.now, idle)
decreasing_by
  · have hle := now_le_guarded heed check r
    rw [hg] at hle
    exact Prod.Lex.left _ _ (by simp only at hle; omega)
  · have hle := now_le_guarded heed check r
    have hle' := now_le_sleep heed p.intervalMs r'
    rw [hg] at hle
    rw [hs] at hle'
    have : r''.now = r.now := by simp only at hle hle'; omega
    rw [this]
    exact Prod.Lex.right _ (Nat.lt_succ_self _)

/-- Polls from now on. -/
def wait (p : Poll) (heed : Heed) (check : Timed σ (Option α)) : Op σ α := ExceptT.mk fun r =>
  p.rounds heed check (r.now + p.timeoutMs) idleRounds r

end Poll

/-! ## Checks from a script -/

/-- What a check of a script comes to. -/
inductive CheckOutcome where
  | pending
  | done (value : String)
  | failed (problem : String)
deriving DecidableEq, Repr

/-- Checks that come to what a script says, and to nothing beyond its end. -/
structure CheckScript where
  outcomes : List CheckOutcome
  /-- How many checks were begun. -/
  begun : Nat := 0
deriving Repr

namespace CheckScript

/-- The check that comes next, which sleeps for some milliseconds first. -/
def next (ms : Nat) : Timed CheckScript (Option String) where
  start _ s := { s with begun := s.begun + 1 }
  span _ := sleepSpan ms
  finish _ s :=
    let outcome := s.outcomes.headD .pending
    let s := { s with outcomes := s.outcomes.drop 1 }
    match outcome with
    | .pending => ⟨.ok none, s, false⟩
    | .done v => ⟨.ok (some v), s, false⟩
    | .failed problem => ⟨.error (.cluster problem), s, false⟩

/-- How many checks were made ready: those that were begun, and the first one even if it was not. -/
def prepared (s : CheckScript) : Nat := max 1 s.begun

end CheckScript

end PodSwap
