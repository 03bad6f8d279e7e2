import PodSwap.Proofs.Json.Path
import PodSwap.Proofs.Run.Ends
import PodSwap.Selection

/-!
# Clusters that behave as stores

A cluster stores pods and the written form of workloads, each under its name. A call is answered by
what is stored, and stores what it is to store; around that, others may change what is stored, and a
call that fails changes nothing itself. What others do is left open: it is a relation, `drift`,
between what is stored before and after.

Main statements: `Stored.Answers`, what a store answers and becomes; `Cluster.Stores`, that a
cluster behaves so; and `Cluster.Stores.request_ends`, by which a condition that others leave alone
is carried over a call.
-/

namespace PodSwap

open Json

variable [Schema]

/-- What a workload is stored under. -/
structure WorkloadKey where
  kind : WorkloadKind
  ns : String
  name : String
deriving DecidableEq, Repr

/-- What the workload is stored under. -/
def Workload.key (w : Workload) : WorkloadKey := ⟨w.kind, w.ns, w.name⟩

/-- What a cluster stores: pods by namespace and name, and workloads as they are written. Whatever
is stored has the name that it is stored under. -/
structure Stored where
  pods : String → String → Option Pod
  workloads : WorkloadKey → Option Json
  pod_named : ∀ {ns name pod}, pods ns name = some pod → pod.ns = ns ∧ pod.name = name
  workload_wellFormed : ∀ {key d}, workloads key = some d → d.WellFormed
  workload_named : ∀ {key d}, workloads key = some d →
    at? ["metadata", "name"] d = some (.str key.name) ∧
      at? ["metadata", "namespace"] d = some (.str key.ns)

/-- Whether a pod can be what a server made of one that was to be created: it may fill in what the
server fills in, but it leaves the labels and the annotations alone. -/
structure Pod.MadeFrom (wanted pod : Pod) : Prop where
  ns : pod.ns = wanted.ns
  labels : pod.metadata.labels = wanted.metadata.labels
  annotations : pod.metadata.annotations = wanted.metadata.annotations
  live : pod.isTerminating = false

namespace Stored

/-- Whether nothing but one pod is different. -/
def OnlyPod (ns name : String) (s s' : Stored) : Prop :=
  (∀ ns' name', (ns', name') ≠ (ns, name) → s'.pods ns' name' = s.pods ns' name') ∧
    s'.workloads = s.workloads

/-- Whether nothing but one workload is different. -/
def OnlyWorkload (key : WorkloadKey) (s s' : Stored) : Prop :=
  (∀ key', key' ≠ key → s'.workloads key' = s.workloads key') ∧ s'.pods = s.pods

/-- What a store may answer to a call, and what it is after that. -/
def Answers (s : Stored) : (c : Call) → c.Answer → Stored → Prop
  | .getPod ns name, pod, s' => pod = s.pods ns name ∧ s' = s
  | .listPods ns selector, pods, s' =>
    (∀ pod, pod ∈ pods ↔
      (∃ name, s.pods ns name = some pod) ∧
        satisfies pod.metadata.labelTable selector = true) ∧ s' = s
  | .createPod wanted, pod, s' =>
    Pod.MadeFrom wanted pod ∧ s.pods pod.ns pod.name = none ∧
      s'.pods pod.ns pod.name = some pod ∧ OnlyPod pod.ns pod.name s s'
  | .deletePod ns name, true, s' =>
    -- a pod that is deleted may be there for a while, on its way out
    (∃ pod, s.pods ns name = some pod) ∧
      (∀ pod, s'.pods ns name = some pod → pod.isTerminating = true) ∧ OnlyPod ns name s s'
  | .deletePod ns name, false, s' => s.pods ns name = none ∧ s' = s
  | .getWorkload kind ns name, none, s' => s.workloads ⟨kind, ns, name⟩ = none ∧ s' = s
  | .getWorkload kind ns name, some w, s' =>
    (∃ d, s.workloads ⟨kind, ns, name⟩ = some d ∧ Workload.ofJson kind d = .ok w) ∧ s' = s
  | .patchWorkload kind ns name patch, (), s' =>
    (∃ d, s.workloads ⟨kind, ns, name⟩ = some d ∧
      s'.workloads ⟨kind, ns, name⟩ = some (merge d patch)) ∧ OnlyWorkload ⟨kind, ns, name⟩ s s'

end Stored

variable {σ : Type}

/-- A cluster that behaves as a store, of which `view` tells what it stores: its answers are those
of a store, and all else that changes it is `drift`. -/
structure Cluster.Stores (cluster : Cluster σ) (view : σ → Stored)
    (drift : Stored → Stored → Prop) : Prop where
  begins : ∀ c now w, drift (view w) (view ((cluster.call c).start now w))
  fails : ∀ c now w e, ((cluster.call c).finish now w).result = .error e →
    drift (view w) (view ((cluster.call c).finish now w).world)
  answers : ∀ c now w a, ((cluster.call c).finish now w).result = .ok a →
    ∃ s s', drift (view w) s ∧ s.Answers c a s' ∧
      drift s' (view ((cluster.call c).finish now w).world)

/-! ## What was done -/

/-- A change that a cluster made at a call. -/
inductive Mutation where
  | created (pod : Pod)
  | deleted (ns name : String)
  | patched (key : WorkloadKey) (patch : Json)

/-- The pod that a change created. -/
def Mutation.created? : Mutation → Option Pod
  | .created pod => some pod
  | _ => none

/-- The change that a call stands for, given its answer. -/
def Call.mutation? : (c : Call) → c.Answer → Option Mutation
  | .createPod _, pod => some (.created pod)
  | .deletePod ns name, true => some (.deleted ns name)
  | .patchWorkload kind ns name patch, () => some (.patched ⟨kind, ns, name⟩ patch)
  | _, _ => none

/-- The change that an event tells of. -/
def CallEvent.mutation? : CallEvent → Option Mutation
  | .answered _ c (.ok a) => c.mutation? a
  | _ => none

/-- The changes that were made, the first of them first. -/
def mutations (events : List CallEvent) : List Mutation :=
  (events.filterMap CallEvent.mutation?).reverse

theorem mutations_cons (event : CallEvent) (events : List CallEvent) :
    mutations (event :: events) = mutations events ++ event.mutation?.toList := by
  unfold mutations
  rw [List.filterMap_cons]
  cases event.mutation? <;> simp

theorem mem_of_created? {changes : List Mutation} {pod : Pod}
    (h : changes.findSome? Mutation.created? = some pod) : .created pod ∈ changes := by
  obtain ⟨x, hmem, hx⟩ := List.exists_of_findSome?_eq_some h
  cases x with
  | created q =>
    cases hx
    exact hmem
  | deleted _ _ => cases hx
  | patched _ _ => cases hx

/-- A call that is not to change anything does not. -/
theorem Stored.answers_of_not_isMutating {s s' : Stored} {c : Call} {a : c.Answer}
    (hc : c.isMutating = false) (h : s.Answers c a s') : s' = s ∧ c.mutation? a = none := by
  cases c with
  | getPod ns name => exact ⟨h.2, rfl⟩
  | listPods ns selector => exact ⟨h.2, rfl⟩
  | getWorkload kind ns name =>
    cases a with
    | none => exact ⟨h.2, rfl⟩
    | some w => exact ⟨h.2, rfl⟩
  | createPod _ => cases hc
  | deletePod _ _ => cases hc
  | patchWorkload _ _ _ _ => cases hc

/-! ## Conditions on a run -/

/-- A condition on what is stored and on what was done, said of a state of a run. -/
def Holds (view : σ → Stored) (A : Stored → List Mutation → Prop)
    (r : Run (σ × List CallEvent)) : Prop :=
  A (view r.world.1) (mutations r.world.2)

/-- Others leave the condition alone. -/
def Stable (drift : Stored → Stored → Prop) (A : Stored → List Mutation → Prop) : Prop :=
  ∀ s s' m, drift s s' → A s m → A s' m

/-- Whether a run met a failure or was cancelled. -/
def Troubled (r : Run (σ × List CallEvent)) : Prop :=
  r.cancelAt ≠ none ∨ ∃ now c e, CallEvent.answered now c (.error e) ∈ r.world.2

theorem Troubled.leads {r r' : Run (σ × List CallEvent)} (h : Troubled r) (hl : r.Leads r') :
    Troubled r' := by
  rcases h with hc | ⟨now, c, e, he⟩
  · exact .inl fun hc' => hc (hl.uncancelled hc')
  · exact .inr ⟨now, c, e, hl.events.subset he⟩

namespace Cluster.Stores

variable {cluster : Cluster σ} {view : σ → Stored} {drift : Stored → Stored → Prop}
  (heed : Heed) {c : Call} {A : Stored → List Mutation → Prop} {r : Run (σ × List CallEvent)}

section

variable {β : Type} {f : c.Answer → β} {B : c.Answer → Stored → List Mutation → Prop}
  (law : cluster.Stores view drift) (hA : Stable drift A) (hB : ∀ a, Stable drift (B a))
  (hstep : ∀ s a s' m, A s m → s.Answers c a s' → B a s' (m ++ (c.mutation? a).toList))

include law hA hB hstep

/-- How a call ends of whose answer a function is taken. The time that is spent is that of the
call, unless it is cut short. -/
theorem guarded_ends (hr : Holds view A r) :
    (guarded heed ((cluster.traced.call c).map f)).Ends r fun x r' =>
      match x with
      | .ok b => ∃ a, f a = b ∧ Holds view (B a) r' ∧
          CallEvent.answered r'.now c (.ok a) ∈ r'.world.2 ∧
          ∃ w, r'.now = r.now + (cluster.call c).span w
      | .error _ => Holds view A r' ∧ Troubled r' := by
  have hbegun : ∀ now w, A (view w) (mutations r.world.2) →
      A (view ((cluster.call c).start now w)) (mutations (.begun now c :: r.world.2)) := by
    intro now w h
    rw [mutations_cons]
    simpa [CallEvent.mutation?] using hA _ _ _ (law.begins c now w) h
  refine cluster.guarded_traced_ends heed (fun _ hc => ⟨hr, .inl hc⟩)
    (fun _ hc => ⟨hbegun _ _ hr, .inl hc⟩) ?_
  intro w due cancelAt hw hdue
  have hstarted := hbegun r.now r.world.1 hr
  rw [← hw] at hstarted
  cases hres : ((cluster.call c).finish due w).result with
  | ok a =>
    obtain ⟨s, s', hds, hans, hds'⟩ := law.answers c due w a hres
    refine ⟨a, rfl, ?_, by simp, w, hdue⟩
    show B a _ (mutations (.answered due c (.ok a) :: _))
    rw [mutations_cons]
    exact hB a _ _ _ hds' (hstep s a s' _ (hA _ _ _ hds hstarted) hans)
  | error e =>
    refine ⟨?_, .inr ⟨due, c, e, by simp⟩⟩
    show A _ (mutations (.answered due c (.error e) :: _))
    rw [mutations_cons]
    simpa [CallEvent.mutation?] using hA _ _ _ (law.fails c due w e hres) hstarted

/-- How a call ends: where it is answered, what is stored has changed as the answer says, and where
it is not, nothing was done and there is trouble. -/
theorem request_ends (hr : Holds view A r) :
    (cluster.traced.request heed c).Ends r fun x r' =>
      match x with
      | .ok a => Holds view (B a) r' ∧ CallEvent.answered r'.now c (.ok a) ∈ r'.world.2
      | .error _ => Holds view A r' ∧ Troubled r' := by
  have h := law.guarded_ends heed (f := id) hA hB hstep hr
  rw [Timed.map_id] at h
  apply h.mono
  intro x r' _ hx
  cases x with
  | ok a =>
    obtain ⟨b, rfl, hHolds, hevent, -⟩ := hx
    exact ⟨hHolds, hevent⟩
  | error e => exact hx

end

/-! ## Polls -/

section

variable {β : Type} {f : c.Answer → Option β} {B : β → Stored → List Mutation → Prop}
  (law : cluster.Stores view drift) (hA : Stable drift A) (hB : ∀ b, Stable drift (B b))
  (hvalue : ∀ s a s' m b, A s m → s.Answers c a s' → f a = some b →
    B b s' (m ++ (c.mutation? a).toList))
  (hpending : ∀ s a s' m, A s m → s.Answers c a s' → f a = none →
    A s' (m ++ (c.mutation? a).toList))

include law hA hB hvalue hpending

/-- How a poll of a call ends: with a value that an answer yields, or without. If there was no
trouble then it took too long, an answer yielded nothing, and such an answer came at the deadline or
later, unless no time passes between two looks. -/
theorem wait_ends {p : Poll} (hr : Holds view A r) :
    (p.wait heed ((cluster.traced.call c).map f)).Ends r fun x r' =>
      match x with
      | .ok b => Holds view (B b) r'
      | .error e => Holds view A r' ∧ (Troubled r' ∨
          (e = p.timedOut ∧ (∃ s m a s', A s m ∧ s.Answers c a s' ∧ f a = none) ∧
            ((0 < p.intervalMs ∨ ∀ w, 0 < (cluster.call c).span w) →
              ∃ now a, r.now + p.timeoutMs ≤ now ∧ f a = none ∧
                CallEvent.answered now c (.ok a) ∈ r'.world.2))) := by
  -- what a round without a value leaves behind
  let J : Run (σ × List CallEvent) → Run (σ × List CallEvent) → Prop := fun r₁ r₂ =>
    Holds view A r₂ ∧ (∃ s m a s', A s m ∧ s.Answers c a s' ∧ f a = none) ∧
      (∃ a, f a = none ∧ CallEvent.answered r₂.now c (.ok a) ∈ r₂.world.2) ∧
      ∃ w, r₂.now = r₁.now + (cluster.call c).span w
  refine Poll.wait_ends (I := Holds view A) (J := J) ?_ ?_ ?_ ?_ ?_ hr
  · intro r₁ hr₁
    -- a round ends in a state of the one kind or the other, by what its answer yields
    have h := law.guarded_ends heed (f := f)
      (B := fun a s m => (∀ b, f a = some b → B b s m) ∧
        (f a = none → A s m ∧ ∃ s m a s', A s m ∧ s.Answers c a s' ∧ f a = none)) hA
      (fun a s s' m hd hs => ⟨fun b hb => hB b _ _ _ hd (hs.1 b hb), fun hn =>
        ⟨hA _ _ _ hd (hs.2 hn).1, (hs.2 hn).2⟩⟩)
      (fun s a s' m hs hans => ⟨fun b hb => hvalue s a s' m b hs hans hb, fun hn =>
        ⟨hpending s a s' m hs hans hn, s, m, a, s', hs, hans, hn⟩⟩) hr₁
    apply h.mono
    intro x r₂ _ hx
    cases x with
    | error e => exact ⟨hx.1, .inl hx.2⟩
    | ok b =>
      obtain ⟨a, ha, hholds, hevent, hspan⟩ := hx
      cases b with
      | some b => exact hholds.1 b ha
      | none => exact ⟨(hholds.2 ha).1, (hholds.2 ha).2, ⟨a, ha, hevent⟩, hspan⟩
  · rintro r₁ r₂ ⟨hholds, hpend, ⟨a, ha, hevent⟩, -⟩ hdue
    exact ⟨hholds, .inr ⟨rfl, hpend, fun _ => ⟨r₂.now, a, hdue, ha, hevent⟩⟩⟩
  · rintro r₁ r₂ now ⟨hholds, -⟩ hc
    exact ⟨hholds, .inl (.inl hc)⟩
  · rintro r₁ r₂ ⟨hholds, hpend, -, w, hw⟩ hidle
    refine ⟨hholds, .inr ⟨rfl, hpend, fun hpasses => ?_⟩⟩
    -- a round takes time, by the call or by the sleep
    have hpos : 0 < (cluster.call c).span w + sleepSpan p.intervalMs := by
      rcases hpasses with hint | hspan
      · have : 0 < sleepSpan p.intervalMs := by
          unfold sleepSpan longestSpan
          omega
        omega
      · have := hspan w
        omega
    omega
  · rintro r₁ r₂ now ⟨hholds, -⟩
    exact hholds

end

/-! ## Reading -/

section

variable (law : cluster.Stores view drift) (hA : Stable drift A) (hc : c.isMutating = false)

include law hA hc

/-- A call that reads keeps the condition, and what it answers is true of a state that meets it. -/
theorem read_ends {φ : c.Answer → Prop} (hφ : ∀ s a m, A s m → s.Answers c a s → φ a)
    (hr : Holds view A r) :
    (cluster.traced.request heed c).Ends r fun x r' => Holds view A r' ∧
      match x with
      | .ok a => φ a
      | .error _ => Troubled r' := by
  have h := law.request_ends heed (B := fun a s m => A s m ∧ φ a) hA
    (fun a s s' m hd hs => ⟨hA s s' m hd hs.1, hs.2⟩)
    (fun s a s' m hs ha => by
      obtain ⟨rfl, hm⟩ := Stored.answers_of_not_isMutating hc ha
      rw [hm]
      simpa using ⟨hs, hφ s' a m hs ha⟩) hr
  apply h.mono
  intro x r' _ hx
  cases x with
  | ok a => exact hx.1
  | error e => exact hx

/-- A poll that reads keeps the condition. Where it took too long an answer yielded nothing. -/
theorem poll_ends {β : Type} {f : c.Answer → Option β} {φ : β → Prop} {ψ : Prop}
    (hφ : ∀ s a m b, A s m → s.Answers c a s → f a = some b → φ b)
    (hψ : ∀ s a m, A s m → s.Answers c a s → f a = none → ψ) {p : Poll} (hr : Holds view A r) :
    (p.wait heed ((cluster.traced.call c).map f)).Ends r fun x r' =>
      Holds view A r' ∧
        match x with
        | .ok b => φ b
        | .error e => Troubled r' ∨ (e = p.timedOut ∧ ψ) := by
  have h := law.wait_ends heed (f := f) (p := p) (B := fun b s m => A s m ∧ φ b) hA
    (fun b s s' m hd hs => ⟨hA s s' m hd hs.1, hs.2⟩)
    (fun s a s' m b hs ha hb => by
      obtain ⟨rfl, hm⟩ := Stored.answers_of_not_isMutating hc ha
      rw [hm]
      simpa using ⟨hs, hφ s' a m b hs ha hb⟩)
    (fun s a s' m hs ha _ => by
      obtain ⟨rfl, hm⟩ := Stored.answers_of_not_isMutating hc ha
      rw [hm]
      simpa using hs) hr
  apply h.mono
  intro x r' _ hx
  cases x with
  | ok b => exact hx
  | error e =>
    obtain ⟨hholds, hwhy⟩ := hx
    refine ⟨hholds, hwhy.imp id ?_⟩
    rintro ⟨he, ⟨s, m, a, s', hs, ha, hnone⟩, -⟩
    obtain ⟨rfl, -⟩ := Stored.answers_of_not_isMutating hc ha
    exact ⟨he, hψ s' a m hs ha hnone⟩

end

end Cluster.Stores

end PodSwap
