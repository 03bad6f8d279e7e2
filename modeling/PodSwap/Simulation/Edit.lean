import PodSwap.Cluster
import PodSwap.Json.Merge
import PodSwap.Simulation.Controllers

/-!
# Changes that nobody asked the cluster for

A simulation is a world, what is planned to happen to it and a log. Calls can be given outcomes in
advance; edits change the world without a call, at once or when their time has come. Due edits
happen when the next call is answered.

Main statement: once all due edits were made, exactly those that are not due yet stay planned
(`planned_settle`).
-/

namespace PodSwap.Simulation

variable [Schema]

/-- The functions of a cluster's API. -/
inductive Function where
  | getPod
  | listPods
  | createPod
  | deletePod
  | getWorkload
  | patchWorkload
deriving DecidableEq, Repr

/-- The name of a function. -/
def Function.text : Function → String
  | .getPod => "get_pod"
  | .listPods => "list_pods"
  | .createPod => "create_pod"
  | .deletePod => "delete_pod"
  | .getWorkload => "get_workload"
  | .patchWorkload => "patch_workload"

/-- The function that a call calls. -/
def functionOf : Call → Function
  | .getPod .. => .getPod
  | .listPods .. => .listPods
  | .createPod .. => .createPod
  | .deletePod .. => .deletePod
  | .getWorkload .. => .getWorkload
  | .patchWorkload .. => .patchWorkload

/-- What is to come of a call. -/
inductive Scripted where
  /-- What the world makes of it. -/
  | ordinary
  /-- An error and no effect. -/
  | failing
  /-- What the world makes of it, and the run is cancelled. -/
  | cancelling
  /-- No effect, as if nothing were there. -/
  | void
  /-- A pod is created under another name. -/
  | renaming
deriving DecidableEq, Repr

/-- Outcomes in advance, by the name of the function; those of a function come one after another. -/
abbrev Script := SortedMap (List Scripted)

namespace Script

/-- The outcomes of a function. -/
def outcomes (s : Script) (name : String) : List Scripted := (s.get? name).getD []

/-- The script with the outcomes of another behind its own. -/
def append (s t : Script) : Script :=
  t.toList.foldl (fun s e => s.insert e.1 (s.outcomes e.1 ++ e.2)) s

/-- The outcome of the next call of a function, and the script for the calls after it. -/
def next (s : Script) (f : Function) : Scripted × Script :=
  match s.outcomes f.text with
  | [] => (.ordinary, s)
  | outcome :: rest => (outcome, s.insert f.text rest)

end Script

/-- A change without a call. -/
inductive Edit where
  | addPod (pod : Pod)
  | removePod (ns name : String)
  | terminatePod (ns name : String)
  | addWorkload (workload : Workload)
  | removeWorkload (kind : WorkloadKind) (ns name : String)
  | editWorkload (kind : WorkloadKind) (ns name : String) (patch : Json)
  | script (script : Script)
  /-- An edit that always fails. -/
  | refused (reason : Error)

namespace World

/-- The world with a workload put under a key, once its controllers have seen it. -/
def putWorkload (w : World) (kind : WorkloadKind) (ns name : String) (workload : Workload) :
    World :=
  { w with workloads := w.workloads.insert (workloadKey kind ns name) workload }.reconcile
    ns workload

/-- The world with a merge patch applied to a workload. -/
def patchWorkload (w : World) (kind : WorkloadKind) (ns name : String) (patch : Json) :
    Except Error World :=
  match w.workload? kind ns name with
  | none => .error (.cluster (kind.text ++ " " ++ ns ++ "/" ++ name ++ " not found"))
  | some workload => do
    let patched ← fromReading (Workload.ofJson kind (Json.merge workload.toJson patch))
    return w.putWorkload kind ns name patched

end World

end PodSwap.Simulation

namespace PodSwap

open Simulation

variable [Schema]

/-- What came of a call that was to change the cluster. -/
inductive Simulation.MutationOutcome where
  /-- It had its effect. -/
  | effect
  /-- It succeeded without an effect. -/
  | noEffect
  /-- It failed. -/
  | failure
deriving DecidableEq, Repr

/-- What happened in a step of a simulation. -/
structure Simulation.Log where
  /-- The calls that were to change the cluster, with what came of them, in order. -/
  mutations : List (Call × MutationOutcome) := []
  /-- How often each function was called, by its name. -/
  counts : SortedMap Nat := .empty
  /-- The lists of pods that were asked for, repetitions left out. -/
  listings : List String := []

/-- A simulated cluster: its world, what is planned and what happened. -/
structure Simulation where
  world : World := {}
  /-- How many milliseconds a call takes, by the name of the function. -/
  latency : SortedMap Nat := .empty
  script : Script := .empty
  /-- Edits that are still to come, with their times. -/
  planned : List (Nat × Edit) := []
  log : Log := {}

namespace Simulation

/-- The simulation after an edit. -/
def edit (s : Simulation) : Edit → Except Error Simulation
  | .addPod pod => .ok { s with world := s.world.addPod pod }
  | .removePod ns name => .ok { s with world := s.world.removePod (World.podKey ns name) }
  | .terminatePod ns name => .ok { s with world := s.world.terminate (World.podKey ns name) }
  | .addWorkload w => .ok { s with world := s.world.putWorkload w.kind w.ns w.name w }
  | .removeWorkload kind ns name =>
    let workloads := s.world.workloads.erase (World.workloadKey kind ns name)
    .ok { s with world := { s.world with workloads } }
  | .editWorkload kind ns name patch =>
    (s.world.patchWorkload kind ns name patch).map fun world => { s with world }
  | .script script => .ok { s with script := s.script.append script }
  | .refused reason => .error reason

/-- The simulation after those of some planned edits that are due, with the others planned still. An
edit that fails ends this, and those behind it stay planned. -/
def settleFrom (now : Nat) : List (Nat × Edit) → Simulation → Except Error Unit × Simulation
  | [], s => (.ok (), s)
  | p :: ps, s =>
    if p.1 ≤ now then
      match s.edit p.2 with
      | .ok s => settleFrom now ps s
      | .error e => (.error e, { s with planned := s.planned ++ ps })
    else settleFrom now ps { s with planned := s.planned ++ [p] }

/-- The simulation after the edits that are due at a time. -/
def settle (s : Simulation) (now : Nat) : Except Error Unit × Simulation :=
  settleFrom now s.planned { s with planned := [] }

/-! ## What stays planned -/

theorem planned_edit {s s' : Simulation} {e : Edit} (h : s.edit e = .ok s') :
    s'.planned = s.planned := by
  cases e with
  | editWorkload kind ns name patch =>
    simp only [edit] at h
    cases hw : s.world.patchWorkload kind ns name patch with
    | error err => simp [hw, Except.map] at h
    | ok w =>
      simp only [hw, Except.map, Except.ok.injEq] at h
      subst h
      rfl
  | refused reason => simp [edit] at h
  | _ =>
    simp only [edit, Except.ok.injEq] at h
    subst h
    rfl

theorem planned_settleFrom {now : Nat} {ps : List (Nat × Edit)} {s s' : Simulation}
    (h : settleFrom now ps s = (.ok (), s')) :
    s'.planned = s.planned ++ ps.filter fun p => decide (now < p.1) := by
  induction ps generalizing s with
  | nil =>
    simp only [settleFrom, Prod.mk.injEq, true_and] at h
    simp [h]
  | cons p ps ih =>
    simp only [settleFrom] at h
    split at h
    · rename_i hle
      split at h
      · rename_i s₁ hs
        rw [ih h, planned_edit hs, List.filter_cons_of_neg (by simpa using hle)]
      · simp at h
    · rename_i hle
      rw [ih h, List.filter_cons_of_pos (by simpa using hle)]
      simp

/-- When all due edits were made, those that are not due yet stay planned and no others. -/
theorem planned_settle {now : Nat} {s s' : Simulation} (h : s.settle now = (.ok (), s')) :
    s'.planned = s.planned.filter fun p => decide (now < p.1) := by
  simpa using planned_settleFrom h

end Simulation

end PodSwap
