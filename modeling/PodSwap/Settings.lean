import PodSwap.Duration
import PodSwap.Entries
import PodSwap.Text.Integer

/-!
# Settings

How long an operation waits and how often it looks. Every setting has a default; those of the
environment that read as unsigned numbers of 64 bits replace it, others are passed over.
-/

namespace PodSwap

/-- The limits and intervals of the operations, and the namespace of specs that name none. -/
structure Settings where
  /-- Seconds for finding a replacement before a new one is made. -/
  findReplacedTimeoutSecs : Nat := 2
  /-- Seconds for finding a replacement that is to be removed. -/
  revertFindTimeoutSecs : Nat := 4
  /-- Seconds for finding a pod to replace. -/
  selectTimeoutSecs : Nat := 300
  /-- Seconds for a pod to be gone. -/
  terminationTimeoutSecs : Nat := 120
  /-- Milliseconds between two looks at a pod that was deleted. -/
  deletePollIntervalMs : Nat := 1000
  /-- Milliseconds between two looks at a pod that its workload gives up. -/
  terminationPollIntervalMs : Nat := 2000
  /-- Milliseconds between two lists of pods to select from. -/
  selectPollIntervalMs : Nat := 2000
  /-- The namespace of specs that name none. -/
  defaultNamespace : String := "default"
deriving DecidableEq, Repr, Inhabited

namespace Settings

/-- How long a replacement is looked for before a new one is made. -/
def findReplacedTimeout (s : Settings) : Nat := s.findReplacedTimeoutSecs * 1000

/-- How long a replacement is looked for before there is nothing to revert. -/
def revertFindTimeout (s : Settings) : Nat := s.revertFindTimeoutSecs * 1000

/-- How long a pod to replace is looked for. -/
def selectTimeout (s : Settings) : Nat := s.selectTimeoutSecs * 1000

/-- How long a pod may take to terminate. -/
def terminationTimeout (s : Settings) : Nat := s.terminationTimeoutSecs * 1000

/-- All spans in milliseconds: the four limits, then the three intervals. -/
def spans (s : Settings) : List Nat :=
  [s.findReplacedTimeout, s.revertFindTimeout, s.selectTimeout, s.terminationTimeout,
   s.deletePollIntervalMs, s.terminationPollIntervalMs, s.selectPollIntervalMs]

/-- The number that a variable of the environment holds, or the default. -/
def number (env : SortedMap String) (name : String) (default : Nat) : Nat :=
  match env.get? name with
  | none => default
  | some text =>
    match Text.unsigned64 text with
    | .ok n => n
    | .error _ => default

/-- The settings that an environment makes. -/
def ofEnvironment (env : SortedMap String) : Settings :=
  let d : Settings := {}
  { findReplacedTimeoutSecs :=
      number env "PODREPLACE_FIND_REPLACED_TIMEOUT_SECS" d.findReplacedTimeoutSecs
    revertFindTimeoutSecs :=
      number env "PODREPLACE_REVERT_FIND_TIMEOUT_SECS" d.revertFindTimeoutSecs
    selectTimeoutSecs := number env "PODREPLACE_SELECT_TIMEOUT_SECS" d.selectTimeoutSecs
    terminationTimeoutSecs :=
      number env "PODREPLACE_TERMINATION_TIMEOUT_SECS" d.terminationTimeoutSecs
    deletePollIntervalMs := number env "PODREPLACE_DELETE_POLL_INTERVAL_MS" d.deletePollIntervalMs
    terminationPollIntervalMs :=
      number env "PODREPLACE_TERMINATION_POLL_INTERVAL_MS" d.terminationPollIntervalMs
    selectPollIntervalMs := number env "PODREPLACE_SELECT_POLL_INTERVAL_MS" d.selectPollIntervalMs
    defaultNamespace := (env.get? "PODREPLACE_DEFAULT_NAMESPACE").getD d.defaultNamespace }

end Settings

end PodSwap
