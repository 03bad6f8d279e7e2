import PodSwap.Engine
import PodSwap.Object.Kubernetes
import PodSwap.Simulation.Cluster

/-!
# Sessions with a simulated cluster

A session is a sequence of steps on one simulated cluster whose time runs on. A step asks something
of the engine, or changes the world. Every step begins with an empty log and with its own
cancellation.
-/

namespace PodSwap.Simulation

variable [Schema]

/-- A pod that a step is about. -/
inductive PodRef where
  /-- One that the cluster holds. -/
  | stored (ns name : String)
  /-- One that is given. -/
  | given (pod : Pod)

/-- A workload that a step is about. -/
inductive WorkloadRef where
  /-- One that the cluster holds. -/
  | stored (kind : WorkloadKind) (ns name : String)
  /-- One that is given. -/
  | given (workload : Workload)

/-- The pod, which has to be there; finding it is no call. -/
def PodRef.resolve (r : PodRef) (w : World) : Except Error Pod :=
  match r with
  | .given pod => .ok pod
  | .stored ns name =>
    match w.pod? ns name with
    | some pod => .ok pod
    | none => .error (.cluster "no such pod in the fake cluster")

/-- The workload, which has to be there; finding it is no call. -/
def WorkloadRef.resolve (r : WorkloadRef) (w : World) : Except Error Workload :=
  match r with
  | .given workload => .ok workload
  | .stored kind ns name =>
    match w.workload? kind ns name with
    | some workload => .ok workload
    | none => .error (.cluster "no such workload in the fake cluster")

/-- A step of a session. -/
inductive Step where
  | edit (e : Edit)
  | replace (spec : Spec)
  | revert (spec : Spec)
  | quiesce (w : WorkloadRef)
  | restore (w : WorkloadRef)
  | resolveParent (p : PodRef)
  | parentOfReplacement (p : PodRef)
  | parentMarkers (p : PodRef)
  | deleteAndWait (ns name : String) (intervalMs timeoutMs : Nat)
  | waitForTermination (kind : WorkloadKind) (ns name : String) (intervalMs timeoutMs : Nat)
  | select (o : SelectOptions)

/-- What a step comes to. -/
inductive StepResult where
  | nothing
  | outcome (o : Outcome)
  | selected (s : Option SelectedPod)
  | patched (b : Bool)
  | parent (identity : String)
  | markers (m : Option (String × String))

/-- An edit as an operation that takes no time. -/
def editNow (e : Edit) : Op Simulation Unit := ExceptT.mk fun r =>
  match r.world.edit e with
  | .ok s => (.ok (), { r with world := s })
  | .error err => (.error err, r)

/-- What the world holds as a reference says. -/
def lookUp {α : Type} (f : World → Except Error α) : Op Simulation α := ExceptT.mk fun r =>
  (f r.world.world, r)

/-- The operation of a step. -/
def Step.operation (e : Engine Simulation) : Step → Op Simulation StepResult
  | .edit change => do
    editNow change
    return .nothing
  | .replace spec => return .outcome (← e.replacePod spec)
  | .revert spec => return .selected (← e.revertPod spec)
  | .quiesce w => do
    let w ← lookUp w.resolve
    return .patched (← Scale.quiesce e.cluster .caller w)
  | .restore w => do
    let w ← lookUp w.resolve
    return .patched (← Scale.restore e.cluster .caller w)
  | .resolveParent p => do
    let pod ← lookUp p.resolve
    return .parent (← Ownership.resolveParent e.cluster .caller pod).identity
  | .parentOfReplacement p => do
    let pod ← lookUp p.resolve
    return .parent (← Ownership.parentOfReplacement e.cluster .caller pod).identity
  | .parentMarkers p => do
    let pod ← lookUp p.resolve
    return .markers (Ownership.parentMarkers pod)
  | .deleteAndWait ns name intervalMs timeoutMs => do
    Termination.deleteAndWait e.cluster .caller ns name intervalMs timeoutMs
    return .nothing
  | .waitForTermination kind ns name intervalMs timeoutMs => do
    Termination.waitForTermination e.cluster .caller ns name kind intervalMs timeoutMs
    return .nothing
  | .select o => return .selected (← e.select o)

/-- When a step is cancelled, counted from its beginning. -/
inductive CancelTime where
  | never
  /-- Before it begins. -/
  | before
  /-- So many milliseconds after it began. -/
  | after (ms : Nat)

/-- The instant of a cancellation, for a step that begins at a time. -/
def CancelTime.instant (start : Nat) : CancelTime → Option Nat
  | .never => none
  | .before => some start
  | .after ms => some (start + sleepSpan ms)

/-- What a step did: its result, how long it took and the simulation after it. -/
structure StepReport where
  result : Except Error StepResult
  elapsedMs : Nat
  simulation : Simulation

/-- A session: the engine, the simulation and its time. -/
structure Session where
  engine : Engine Simulation
  simulation : Simulation
  now : Nat := 0

/-- The session after a step, which may not even be one. -/
def Session.take (s : Session) (step : Except Error Step) (cancel : CancelTime) :
    StepReport × Session :=
  -- every step has its own cancellation and an empty log
  let start : Run Simulation :=
    { now := s.now
      cancelAt := cancel.instant s.now
      world := { s.simulation with log := {} } }
  let operation : Op Simulation StepResult := do (← purely step).operation s.engine
  let (result, r) := operation.from start
  (⟨result, r.now - s.now, r.world⟩, { s with simulation := r.world, now := r.now })

/-- The reports of steps taken one after another. -/
def Session.takeAll (s : Session) : List (Except Error Step × CancelTime) → List StepReport
  | [] => []
  | (step, cancel) :: rest =>
    let (report, s) := s.take step cancel
    report :: s.takeAll rest

/-- A session on a world made from workloads and pods, which are added in this order. -/
def Session.begin (images : ImageResolver) (settings : Settings) (empty : Simulation)
    (workloads : List Workload) (pods : List Pod) : Session :=
  let add (w : World) (workload : Workload) : World :=
    w.putWorkload workload.kind workload.ns workload.name workload
  let world := pods.foldl World.addPod (workloads.foldl add empty.world)
  { engine := { cluster, images, settings }
    simulation := { empty with world } }

end PodSwap.Simulation
