import Mathlib.Logic.Function.Basic
import Mathlib.Logic.Relation
import PodSwap.Proofs.Engine.Slot

/-!
# Clients that scale one workload

Any number of clients work on one workload. Each reads it, and later sends the patch that quiesces
or restores what it read, however long ago that was; in between the others do the same. Since every
such patch names the count and the record together, the workload is always either up, without a
record, or down, with its count recorded.

Main statement: `Clients.up_or_down`, by induction over the steps of all clients from
`Clients.Coherent.step`.
-/

namespace PodSwap

open Json Scale

/-- Clients of a store, each with what it read last of the workload. -/
structure Clients [Schema] (ι : Type) where
  stored : Stored
  held : ι → Option Workload

namespace Clients

/-- Whether a stored workload is up, as it was or by its count, or down with its count recorded. -/
def UpOrDown (n : Int32) (before d : Json) : Prop :=
  (Scaled n .up d ∧ (at? replicasPath d = at? replicasPath before ∨
      at? replicasPath d = some (.int n.toInt))) ∨
    (Scaled n .down d ∧ at? recordPath d = some (.str (recordText n)))

theorem scaled_of_upOrDown {n : Int32} {before d : Json} (h : UpOrDown n before d) :
    ∃ ph, Scaled n ph d := by
  rcases h with ⟨hup, -⟩ | ⟨hdown, -⟩
  · exact ⟨.up, hup⟩
  · exact ⟨.down, hdown⟩

variable [Schema] {ι : Type}

/-- The patches that a client may send for a workload as it read it. -/
def Sends (w : Workload) (p : Json) : Prop :=
  quiescePatch w = some p ∨ restorePatch w = .ok (some p)

/-- What one client does. -/
inductive Step [DecidableEq ι] (key : WorkloadKey) : Clients ι → Clients ι → Prop
  /-- It reads the workload. -/
  | reads {c : Clients ι} {s : Stored} (i : ι) (w : Workload)
      (answer : c.stored.Answers (.getWorkload key.kind key.ns key.name) (some w) s) :
      Step key c ⟨s, Function.update c.held i (some w)⟩
  /-- It sends a patch made from what it read last. -/
  | sends {c : Clients ι} {s : Stored} (i : ι) (w : Workload) (p : Json)
      (read : c.held i = some w) (sent : Sends w p)
      (answer : c.stored.Answers (.patchWorkload w.kind w.ns w.name p) () s) :
      Step key c ⟨s, c.held⟩
  /-- It fails to do either. -/
  | fails {c : Clients ι} (i : ι) : Step key c c

/-- What holds all the time: of the workload, which is compared with what it was before, and of
every client that has read it. -/
structure Coherent (key : WorkloadKey) (n : Int32) (before : Json) (c : Clients ι) : Prop where
  workload : ∃ d, c.stored.workloads key = some d ∧ UpOrDown n before d ∧
    ∀ path, Elsewhere path → at? path d = at? path before
  held : ∀ i w, c.held i = some w → w.key = key ∧ ∃ ph, InPhase n ph w

section

variable {n : Int32} {w : Workload} {p before d : Json}

/-- A patch that a client sends takes a workload down or up, whatever that workload is by then. -/
theorem eq_of_sends (hn : 0 < n) {ph : Phase} (hw : InPhase n ph w) (h : Sends w p) :
    p = scalingPatch (some (recordText n)) 0 ∨ p = scalingPatch none n := by
  cases ph with
  | up =>
    rcases h with h | h
    · rw [quiescePatch_of_up hn hw] at h
      exact .inl (Option.some.inj h).symm
    · rw [restorePatch_of_up hw] at h
      cases h
  | down =>
    rcases h with h | h
    · rw [quiescePatch_of_down hw] at h
      cases h
    · rw [restorePatch_of_down hn hw] at h
      cases h
      exact .inr rfl

theorem upOrDown_of_sends (hn : 0 < n) {ph : Phase} (hw : InPhase n ph w) (h : Sends w p) :
    UpOrDown n before (merge d p) := by
  rcases eq_of_sends hn hw h with rfl | rfl
  · exact .inr ⟨scaled_down_merge hn d, record_merge_scalingPatch _ _ d⟩
  · exact .inl ⟨scaled_up_merge n d, .inr (replicas_merge_scalingPatch _ _ d)⟩

theorem elsewhere_of_sends (hn : 0 < n) {ph : Phase} (hw : InPhase n ph w) (h : Sends w p)
    {path : List String} (hpath : Elsewhere path) : at? path (merge d p) = at? path d := by
  rcases eq_of_sends hn hw h with rfl | rfl <;> exact at?_merge_scalingPatch _ _ hpath d

/-- Restoring a workload does not fail on its record. -/
theorem restorePatch_of_inPhase (hn : 0 < n) {ph : Phase} (hw : InPhase n ph w) :
    ∃ patch, restorePatch w = .ok patch := by
  cases ph with
  | up => exact ⟨none, restorePatch_of_up hw⟩
  | down => exact ⟨_, restorePatch_of_down hn hw⟩

end

variable [DecidableEq ι] {key : WorkloadKey} {n : Int32} {before : Json} {c c' : Clients ι}

/-- No step of a client breaks what holds. -/
theorem Coherent.step (hn : 0 < n) (h : c.Coherent key n before) (hstep : Step key c c') :
    c'.Coherent key n before := by
  obtain ⟨d, hd, hphase, helsewhere⟩ := h.workload
  cases hstep with
  | reads i w answer =>
    obtain ⟨⟨d', hd', hread⟩, rfl⟩ := answer
    have hsame : d' = d := Option.some.inj (hd'.symm.trans hd)
    subst hsame
    have hwf := c.stored.workload_wellFormed hd
    obtain ⟨hname, hns⟩ := c.stored.workload_named hd
    have hkey : w.key = key := by
      rw [Workload.key, Workload.kind_of_read hread, Workload.ns_of_read hwf hread hns,
        Workload.name_of_read hwf hread hname]
    obtain ⟨ph, hscaled⟩ := scaled_of_upOrDown hphase
    refine ⟨⟨d', hd, hphase, helsewhere⟩, fun j w' hj => ?_⟩
    change Function.update c.held i (some w) j = some w' at hj
    by_cases hi : j = i
    · subst hi
      rw [Function.update_self] at hj
      cases hj
      exact ⟨hkey, ph, inPhase_of_read hwf hread hscaled⟩
    · rw [Function.update_of_ne hi] at hj
      exact h.held j w' hj
  | sends i w p read sent answer =>
    obtain ⟨hkey, ph, hw⟩ := h.held i w read
    obtain ⟨⟨d', hd', hmerged⟩, -⟩ := answer
    change c.stored.workloads w.key = some d' at hd'
    change _ = some (merge d' p) at hmerged
    rw [hkey, hd] at hd'
    cases hd'
    refine ⟨⟨merge d p, hkey ▸ hmerged, upOrDown_of_sends hn hw sent, fun path hpath => ?_⟩,
      h.held⟩
    rw [elsewhere_of_sends hn hw sent hpath]
    exact helsewhere path hpath
  | fails i => exact h

/-- Whatever clients do to a workload that is up, in whatever order and on whatever they once read:
it asks for as many pods as before and has no record, or it asks for none and has its count
recorded. All else of it stays, and what any of them read can be restored. -/
theorem up_or_down (hn : 0 < n) (hstored : c.stored.workloads key = some before)
    (hup : Scaled n .up before) (hheld : ∀ i, c.held i = none)
    (hrun : Relation.ReflTransGen (Step key) c c') :
    ((c'.stored.field key recordPath = none ∧
        (c'.stored.field key replicasPath = c.stored.field key replicasPath ∨
          c'.stored.field key replicasPath = some (.int n.toInt))) ∨
      (c'.stored.field key recordPath = some (.str (recordText n)) ∧
        c'.stored.field key replicasPath = some (.int 0))) ∧
    (∀ path, Elsewhere path → c'.stored.field key path = c.stored.field key path) ∧
    ∀ i w, c'.held i = some w → ∃ patch, restorePatch w = .ok patch := by
  have hcoherent : c'.Coherent key n before := by
    induction hrun with
    | refl =>
      refine ⟨⟨before, hstored, .inl ⟨hup, .inl rfl⟩, fun _ _ => rfl⟩, fun i w hi => ?_⟩
      rw [hheld i] at hi
      cases hi
    | tail _ hstep ih => exact ih.step hn hstep
  obtain ⟨d, hd, hphase, helsewhere⟩ := hcoherent.workload
  simp only [Stored.field, hd, hstored, Option.bind_some]
  refine ⟨?_, helsewhere, fun i w hi => ?_⟩
  · rcases hphase with ⟨⟨-, -, hnone⟩, hcount⟩ | ⟨⟨-, hzero, -⟩, hrecord⟩
    · exact .inl ⟨hnone, hcount⟩
    · exact .inr ⟨hrecord, hzero⟩
  · obtain ⟨-, ph, hw⟩ := hcoherent.held i w hi
    exact restorePatch_of_inPhase hn hw

end Clients

namespace Slot

/-- The stateful set without its pod, in a phase. -/
def bare (ph : Phase) : Slot := { phase := ph }

theorem patch_answers {ph ph' : Phase} {p : Json} (h : merge (doc ph) p = doc ph') :
    (bare ph).stored.Answers (.patchWorkload key.kind key.ns key.name p) () (bare ph').stored := by
  refine ⟨⟨doc ph, stored_doc _, ?_⟩, fun key' hne => ?_, rfl⟩
  · rw [h]
    exact stored_doc _
  · exact (if_neg hne).trans (if_neg hne).symm

/-- Two clients read the stateful set while it is up, and then both take it down, the second of them
by a patch that comes late. -/
theorem down_after_stale_patch : ∃ (w : Workload) (c : Clients Bool),
    Relation.ReflTransGen (Clients.Step key) ⟨(bare .up).stored, fun _ => none⟩ c ∧
      Workload.ofJson key.kind (doc .up) = .ok w ∧ c.held false = some w ∧ c.held true = some w ∧
      c.stored.field key recordPath = some (.str (recordText count)) ∧
      c.stored.field key replicasPath = some (.int 0) := by
  obtain ⟨w, hread⟩ : ∃ w, Workload.ofJson key.kind (doc .up) = .ok w := ⟨_, rfl⟩
  have hwf := doc_wellFormed .up
  obtain ⟨hname, hns⟩ := doc_named .up
  have hkind := Workload.kind_of_read hread
  have hns := Workload.ns_of_read hwf hread hns
  have hname := Workload.name_of_read hwf hread hname
  have hquiesce := quiescePatch_of_up (n := count) (by decide)
    (inPhase_of_read hwf hread (scaled_doc .up))
  have hanswer : (bare .up).stored.Answers (.getWorkload key.kind key.ns key.name) (some w)
      (bare .up).stored := ⟨⟨doc .up, stored_doc _, hread⟩, rfl⟩
  let read : Bool → Option Workload :=
    Function.update (Function.update (fun _ => none) false (some w)) true (some w)
  -- the patch takes the stateful set down whatever its phase is by then
  have hsends : ∀ ph i, read i = some w → Clients.Step key ⟨(bare ph).stored, read⟩
      ⟨(bare .down).stored, read⟩ := by
    intro ph i hi
    refine .sends i w (patch .up) hi (.inl hquiesce) ?_
    rw [hkind, hns, hname]
    apply patch_answers
    cases ph <;> rfl
  have hrun : Relation.ReflTransGen (Clients.Step key) ⟨(bare .up).stored, fun _ => none⟩
      ⟨(bare .down).stored, read⟩ :=
    (((Relation.ReflTransGen.single (.reads false w hanswer)).tail (.reads true w hanswer)).tail
      (hsends .up false rfl)).tail (hsends .down true rfl)
  refine ⟨w, _, hrun, hread, rfl, rfl, ?_⟩
  obtain ⟨hphase, -, -⟩ := Clients.up_or_down (n := count) (by decide) (stored_doc (bare .up))
    (scaled_doc .up) (fun _ => rfl) hrun
  rcases hphase with ⟨hnone, -⟩ | hdown
  · cases hnone
  · exact hdown

end Slot

end PodSwap
