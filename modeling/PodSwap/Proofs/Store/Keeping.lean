import PodSwap.Proofs.Scale.Quiesce
import PodSwap.Proofs.Store.Ledger

/-!
# Clusters that keep a workload's scale

Much of a run does not depend on what a cluster does with its pods, but only on what becomes of one
workload, and that only from some state on. From there the cluster has to keep the count and the
record of the workload: it answers calls for the workload as a store does, and neither another call,
nor one that fails or is cut short, nor anybody else changes the two.

Main statements: the law, `Cluster.KeepsScale`, which every store satisfies whose others keep the
two (`Cluster.Stores.keepsScale`), and the rules by which a condition on states is carried over a
call (`request_keeps`) and a poll (`wait_keeps`).
-/

namespace PodSwap

open Json Scale

variable [Schema]

/-- What is called for a workload. -/
def Call.isFor (key : WorkloadKey) : Call → Bool
  | .getWorkload kind ns name => (⟨kind, ns, name⟩ : WorkloadKey) = key
  | .patchWorkload kind ns name _ => (⟨kind, ns, name⟩ : WorkloadKey) = key
  | _ => false

/-- Whether two stores say the same about the count and the record of a workload. -/
def Stored.AgreesOn (key : WorkloadKey) (s s' : Stored) : Prop :=
  s'.field key replicasPath = s.field key replicasPath ∧
    s'.field key recordPath = s.field key recordPath

namespace Stored.AgreesOn

variable {key : WorkloadKey} {s s' s'' : Stored}

theorem trans (h : s.AgreesOn key s') (h' : s'.AgreesOn key s'') : s.AgreesOn key s'' :=
  ⟨h'.1.trans h.1, h'.2.trans h.2⟩

theorem of_workloads (h : s'.workloads key = s.workloads key) : s.AgreesOn key s' := by
  unfold AgreesOn field
  rw [h]
  exact ⟨rfl, rfl⟩

/-- A call for something else has no part in the workload. -/
theorem of_answers {c : Call} {a : c.Answer} (hc : c.isFor key = false) (h : s.Answers c a s') :
    s.AgreesOn key s' := by
  apply of_workloads
  cases c with
  | getPod ns name => rw [h.2]
  | listPods ns selector => rw [h.2]
  | createPod wanted => rw [h.2.2.2.2]
  | deletePod ns name =>
    cases a with
    | true => rw [h.2.2.2]
    | false => rw [h.2]
  | getWorkload kind ns name => cases a <;> rw [h.2]
  | patchWorkload kind ns name patch =>
    have hne : key ≠ ⟨kind, ns, name⟩ := fun heq => of_decide_eq_false hc heq.symm
    exact h.2.1 key hne

end Stored.AgreesOn

namespace Cluster

variable {σ β : Type}

/-- The states that a cluster can come to from one of its states, by calls that begin and end. -/
inductive Reaches (cluster : Cluster σ) (w₀ : σ) : σ → Prop
  | refl : Reaches cluster w₀ w₀
  | starts {w : σ} (c : Call) (now : Nat) (h : Reaches cluster w₀ w) :
      Reaches cluster w₀ ((cluster.call c).start now w)
  | finishes {w : σ} (c : Call) (now : Nat) (h : Reaches cluster w₀ w) :
      Reaches cluster w₀ ((cluster.call c).finish now w).world

/-- From a state on, the cluster keeps the count and the record of a workload. -/
structure KeepsScale (cluster : Cluster σ) (key : WorkloadKey) (view : σ → Stored) (w₀ : σ) :
    Prop where
  begins : ∀ c now w, cluster.Reaches w₀ w →
    (view w).AgreesOn key (view ((cluster.call c).start now w))
  fails : ∀ c now w e, cluster.Reaches w₀ w → ((cluster.call c).finish now w).result = .error e →
    (view w).AgreesOn key (view ((cluster.call c).finish now w).world)
  others : ∀ c now w a, cluster.Reaches w₀ w → c.isFor key = false →
    ((cluster.call c).finish now w).result = .ok a →
      (view w).AgreesOn key (view ((cluster.call c).finish now w).world)
  answers : ∀ c now w a, cluster.Reaches w₀ w → c.isFor key = true →
    ((cluster.call c).finish now w).result = .ok a →
      ∃ s s', (view w).AgreesOn key s ∧ s.Answers c a s' ∧
        s'.AgreesOn key (view ((cluster.call c).finish now w).world)

/-! ## Conditions on the states of a cluster -/

section

variable {cluster : Cluster σ} (heed : Heed) {c : Call} {r : Run (σ × List CallEvent)}

/-- A condition that a call keeps where it begins and where it fails, and what holds where it is
answered. -/
theorem guarded_keeps {f : c.Answer → β} {P : σ → Prop} {Q : c.Answer → σ → Prop}
    (hstart : ∀ now w, P w → P ((cluster.call c).start now w))
    (hfail : ∀ now w e, ((cluster.call c).finish now w).result = .error e → P w →
      P ((cluster.call c).finish now w).world)
    (hanswer : ∀ now w a, ((cluster.call c).finish now w).result = .ok a → P w →
      Q a ((cluster.call c).finish now w).world) (hr : P r.world.1) :
    (guarded heed ((cluster.traced.call c).map f)).Ends r fun x r' =>
      match x with
      | .ok b => ∃ a, f a = b ∧ Q a r'.world.1
      | .error _ => P r'.world.1 := by
  refine cluster.guarded_traced_ends heed (fun _ _ => hr) (fun _ _ => hstart _ _ hr) ?_
  intro w due cancelAt hw hdue
  have hstarted := hstart r.now _ hr
  rw [← hw] at hstarted
  cases hres : ((cluster.call c).finish due w).result with
  | ok a => exact ⟨a, rfl, hanswer due w a hres hstarted⟩
  | error e => exact hfail due w e hres hstarted

theorem request_keeps {P : σ → Prop} {Q : c.Answer → σ → Prop}
    (hstart : ∀ now w, P w → P ((cluster.call c).start now w))
    (hfail : ∀ now w e, ((cluster.call c).finish now w).result = .error e → P w →
      P ((cluster.call c).finish now w).world)
    (hanswer : ∀ now w a, ((cluster.call c).finish now w).result = .ok a → P w →
      Q a ((cluster.call c).finish now w).world) (hr : P r.world.1) :
    (cluster.traced.request heed c).Ends r fun x r' =>
      match x with
      | .ok a => Q a r'.world.1
      | .error _ => P r'.world.1 := by
  have h := guarded_keeps heed (f := id) hstart hfail hanswer hr
  rw [Timed.map_id] at h
  refine h.mono fun x r' _ hx => ?_
  cases x with
  | ok a =>
    obtain ⟨b, rfl, hQ⟩ := hx
    exact hQ
  | error e => exact hx

/-- A poll keeps what every check keeps. -/
theorem wait_keeps {f : c.Answer → Option β} {p : Poll} {P : σ → Prop}
    (hstart : ∀ now w, P w → P ((cluster.call c).start now w))
    (hfinish : ∀ now w, P w → P ((cluster.call c).finish now w).world) (hr : P r.world.1) :
    (p.wait heed ((cluster.traced.call c).map f)).Ends r fun _ r' => P r'.world.1 := by
  refine Poll.wait_ends (I := fun r' => P r'.world.1) (J := fun _ r' => P r'.world.1)
    ?_ ?_ ?_ ?_ ?_ hr
  · intro r₁ hr₁
    refine (guarded_keeps heed (Q := fun _ w => P w) hstart
      (fun now w _ _ hw => hfinish now w hw) (fun now w _ _ hw => hfinish now w hw) hr₁).mono ?_
    intro x r₂ _ hx
    cases x with
    | error e => exact hx
    | ok x =>
      obtain ⟨a, -, hP⟩ := hx
      cases x with
      | none => exact hP
      | some b => exact hP
  · exact fun _ _ h _ => h
  · exact fun _ _ _ h _ => h
  · exact fun _ _ h _ => h
  · exact fun _ _ _ h => h

end

/-- Every store keeps the scale of a workload whose count and record others leave alone. -/
theorem Stores.keepsScale {cluster : Cluster σ} {view : σ → Stored}
    {drift : Stored → Stored → Prop} (law : cluster.Stores view drift) {key : WorkloadKey}
    (hdrift : ∀ s s', drift s s' → s.AgreesOn key s') (w₀ : σ) :
    cluster.KeepsScale key view w₀ where
  begins c now w _ := hdrift _ _ (law.begins c now w)
  fails c now w e _ h := hdrift _ _ (law.fails c now w e h)
  others c now w a _ hc h := by
    obtain ⟨s, s', hs, hanswers, hs'⟩ := law.answers c now w a h
    exact ((hdrift _ _ hs).trans (.of_answers hc hanswers)).trans (hdrift _ _ hs')
  answers c now w a _ _ h := by
    obtain ⟨s, s', hs, hanswers, hs'⟩ := law.answers c now w a h
    exact ⟨s, s', hdrift _ _ hs, hanswers, hdrift _ _ hs'⟩

/-! ## Conditions on the count and the record -/

/-- Whether a state that can be come to is one in which the count and the record of the workload are
as a condition says. -/
def Shows (cluster : Cluster σ) (key : WorkloadKey) (view : σ → Stored) (w₀ : σ)
    (F : Option Json → Option Json → Prop) (w : σ) : Prop :=
  cluster.Reaches w₀ w ∧ F ((view w).field key replicasPath) ((view w).field key recordPath)

namespace KeepsScale

variable {cluster : Cluster σ} {key : WorkloadKey} {view : σ → Stored} {w₀ : σ}
  (law : cluster.KeepsScale key view w₀) {F G : Option Json → Option Json → Prop}

include law

theorem shows_start (c : Call) (now : Nat) (w : σ) (h : cluster.Shows key view w₀ F w) :
    cluster.Shows key view w₀ F ((cluster.call c).start now w) := by
  obtain ⟨hcount, hrecord⟩ := law.begins c now w h.1
  refine ⟨h.1.starts c now, ?_⟩
  rw [hcount, hrecord]
  exact h.2

theorem shows_fail (c : Call) (now : Nat) (w : σ) (e : Error)
    (he : ((cluster.call c).finish now w).result = .error e)
    (h : cluster.Shows key view w₀ F w) :
    cluster.Shows key view w₀ F ((cluster.call c).finish now w).world := by
  obtain ⟨hcount, hrecord⟩ := law.fails c now w e h.1 he
  refine ⟨h.1.finishes c now, ?_⟩
  rw [hcount, hrecord]
  exact h.2

theorem shows_other {c : Call} (hc : c.isFor key = false) (now : Nat) (w : σ)
    (h : cluster.Shows key view w₀ F w) :
    cluster.Shows key view w₀ F ((cluster.call c).finish now w).world := by
  cases hres : ((cluster.call c).finish now w).result with
  | error e => exact law.shows_fail c now w e hres h
  | ok a =>
    obtain ⟨hcount, hrecord⟩ := law.others c now w a h.1 hc hres
    refine ⟨h.1.finishes c now, ?_⟩
    rw [hcount, hrecord]
    exact h.2

variable (heed : Heed) {r : Run (σ × List CallEvent)}
  (hr : cluster.Shows key view w₀ F r.world.1)

include hr

theorem wait_shows {c : Call} (hc : c.isFor key = false) {f : c.Answer → Option β} {p : Poll} :
    (p.wait heed ((cluster.traced.call c).map f)).Ends r fun _ r' =>
      cluster.Shows key view w₀ F r'.world.1 :=
  wait_keeps heed (law.shows_start c) (law.shows_other hc) hr

/-- A call for something else keeps the scale of the workload. -/
theorem request_shows {c : Call} (hc : c.isFor key = false) :
    (cluster.traced.request heed c).Ends r fun _ r' => cluster.Shows key view w₀ F r'.world.1 := by
  refine (request_keeps heed (Q := fun _ w => cluster.Shows key view w₀ F w) (law.shows_start c)
    (law.shows_fail c) (fun now w _ _ hw => law.shows_other hc now w hw) hr).mono ?_
  intro x r' _ hx
  cases x <;> exact hx

/-- What is read of the workload has the count and the record that are stored. -/
theorem read_shows {w : Workload} (hkey : w.key = key) :
    (cluster.traced.request heed (.getWorkload w.kind w.ns w.name)).Ends r fun x r' =>
      ∀ found, x = .ok found → cluster.Shows key view w₀ F r'.world.1 ∧
        match found with
        | some current => current.key = key ∧ ∃ d : Json, d.WellFormed ∧
            Workload.ofJson key.kind d = .ok current ∧ F (at? replicasPath d) (at? recordPath d)
        | none => F none none := by
  subst hkey
  refine (request_keeps heed (c := .getWorkload w.kind w.ns w.name)
    (Q := fun found w' => cluster.Shows w.key view w₀ F w' ∧
      match found with
      | some current => current.key = w.key ∧ ∃ d : Json, d.WellFormed ∧
          Workload.ofJson w.key.kind d = .ok current ∧ F (at? replicasPath d) (at? recordPath d)
      | none => F none none)
    (law.shows_start _) (law.shows_fail _) ?_ hr).mono ?_
  · intro now w' found ha hw'
    obtain ⟨s, s', hagrees, hanswers, hagrees'⟩ :=
      law.answers (.getWorkload w.kind w.ns w.name) now w' _ hw'.1 (decide_eq_true rfl) ha
    have hF := hw'.2
    rw [← hagrees.1, ← hagrees.2] at hF
    -- a read leaves what is stored as it is
    have hsame : s' = s := by cases found <;> exact hanswers.2
    subst hsame
    refine ⟨⟨hw'.1.finishes _ now, by rwa [hagrees'.1, hagrees'.2]⟩, ?_⟩
    cases found with
    | none =>
      rw [Stored.field, Stored.field, show s'.workloads w.key = none from hanswers.1] at hF
      exact hF
    | some current =>
      obtain ⟨⟨d, hd, hread⟩, -⟩ := hanswers
      refine ⟨Stored.key_of_read hd hread, d, s'.workload_wellFormed hd, hread, ?_⟩
      have hfield : ∀ path, s'.field w.key path = at? path d := Stored.field_of_workloads hd
      rw [hfield, hfield] at hF
      exact hF
  · intro x r' _ hx found hfound
    cases hfound
    exact hx

/-- A patch of the workload makes of its count and its record what it makes of every stored value
that has them. -/
theorem patch_shows {w : Workload} (hkey : w.key = key) {p : Json}
    (hp : ∀ d : Json, F (at? replicasPath d) (at? recordPath d) →
      G (at? replicasPath (merge d p)) (at? recordPath (merge d p))) :
    (cluster.traced.request heed (.patchWorkload w.kind w.ns w.name p)).Ends r fun x r' =>
      x = .ok () → cluster.Shows key view w₀ G r'.world.1 := by
  subst hkey
  refine (request_keeps heed (c := .patchWorkload w.kind w.ns w.name p)
    (Q := fun _ w' => cluster.Shows w.key view w₀ G w') (law.shows_start _) (law.shows_fail _)
    ?_ hr).mono ?_
  · intro now w' a ha hw'
    obtain ⟨s, s', hagrees, ⟨⟨d, hd, hd'⟩, -⟩, hagrees'⟩ :=
      law.answers (.patchWorkload w.kind w.ns w.name p) now w' _ hw'.1 (decide_eq_true rfl) ha
    have hbefore : ∀ path, s.field w.key path = at? path d := Stored.field_of_workloads hd
    have hafter : ∀ path, s'.field w.key path = at? path (merge d p) :=
      Stored.field_of_workloads hd'
    have hF := hw'.2
    rw [← hagrees.1, ← hagrees.2, hbefore, hbefore] at hF
    refine ⟨hw'.1.finishes _ now, ?_⟩
    rw [hagrees'.1, hagrees'.2, hafter, hafter]
    exact hp d hF
  · intro x r' _ hx hok
    cases hok
    exact hx

end KeepsScale

end Cluster

end PodSwap
