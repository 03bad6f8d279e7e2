import PodSwap.Object.Workload
import PodSwap.Proofs.Object.Dated

/-!
# Times in objects

Times stand anywhere in an object: in its own metadata, in that of a claim that a volume makes, in
what is noted of those who manage its fields. They are all written in whole seconds, so of every
type of values it is said what they are without the fractions.

Main statement: `HasTimes`, with an instance for every type that is read and written.
-/

namespace PodSwap

/-- Values in which times may stand. -/
class HasTimes (α : Type) where
  /-- The value with the fractions of seconds left out of its times. -/
  wholeSeconds : α → α
  /-- Whether every time in the value is one of the calendar, in its years. -/
  Dated : α → Prop

export HasTimes (wholeSeconds Dated)

/-- Values without times. -/
class Timeless (α : Type) [HasTimes α] : Prop where
  wholeSeconds_eq : ∀ a : α, wholeSeconds a = a
  dated : ∀ a : α, Dated a

@[simp] theorem wholeSeconds_eq {α : Type} [HasTimes α] [Timeless α] (a : α) :
    wholeSeconds a = a :=
  Timeless.wholeSeconds_eq a

/-! ## Simple values -/

instance : HasTimes Timestamp := ⟨Timestamp.wholeSeconds, Timestamp.Dated⟩

instance : HasTimes Unit := ⟨id, fun _ => True⟩
instance : HasTimes String := ⟨id, fun _ => True⟩
instance : HasTimes Bool := ⟨id, fun _ => True⟩
instance : HasTimes Int32 := ⟨id, fun _ => True⟩
instance : HasTimes Int64 := ⟨id, fun _ => True⟩
instance : HasTimes IntOrText := ⟨id, fun _ => True⟩

instance : Timeless Unit := ⟨fun _ => rfl, fun _ => trivial⟩
instance : Timeless String := ⟨fun _ => rfl, fun _ => trivial⟩
instance : Timeless Bool := ⟨fun _ => rfl, fun _ => trivial⟩
instance : Timeless Int32 := ⟨fun _ => rfl, fun _ => trivial⟩
instance : Timeless Int64 := ⟨fun _ => rfl, fun _ => trivial⟩
instance : Timeless IntOrText := ⟨fun _ => rfl, fun _ => trivial⟩

/-! ## Containers -/

theorem SortedMap.eq_of_toList {α : Type} {m n : SortedMap α} (h : m.toList = n.toList) :
    m = n := by
  cases m
  cases n
  cases h
  rfl

/-- The table with every value changed. -/
def SortedMap.map {α β : Type} (f : α → β) (m : SortedMap α) : SortedMap β :=
  ⟨m.entries.map fun e => (e.1, f e.2), by
    rw [Rising, List.pairwise_map]
    exact m.rising⟩

section

variable {α β : Type} [HasTimes α] [HasTimes β]

instance : HasTimes (Option α) := ⟨Option.map wholeSeconds, fun o => ∀ a ∈ o, Dated a⟩
instance : HasTimes (List α) := ⟨List.map wholeSeconds, fun as => ∀ a ∈ as, Dated a⟩
instance : HasTimes (SortedMap α) := ⟨.map wholeSeconds, fun m => ∀ e ∈ m.toList, Dated e.2⟩
instance : HasTimes (α × β) := ⟨.map wholeSeconds wholeSeconds, fun x => Dated x.1 ∧ Dated x.2⟩

variable [Timeless α] [Timeless β]

instance : Timeless (Option α) where
  wholeSeconds_eq o := by
    show o.map wholeSeconds = o
    rw [funext wholeSeconds_eq]
    exact Option.map_id'
  dated _ a _ := Timeless.dated a

instance : Timeless (List α) where
  wholeSeconds_eq as := by
    show as.map wholeSeconds = as
    rw [funext wholeSeconds_eq]
    exact List.map_id' as
  dated _ a _ := Timeless.dated a

instance : Timeless (SortedMap α) where
  wholeSeconds_eq m := by
    refine SortedMap.eq_of_toList ?_
    show m.toList.map (fun e => (e.1, wholeSeconds e.2)) = m.toList
    rw [funext wholeSeconds_eq]
    exact List.map_id' m.toList
  dated _ e _ := Timeless.dated e.2

end

/-! ## Shapes -/

mutual
@[reducible] def Shape.times : (s : Shape) → HasTimes s.Value
  | .text => inferInstanceAs (HasTimes String)
  | .flag => inferInstanceAs (HasTimes Bool)
  | .int32 => inferInstanceAs (HasTimes Int32)
  | .int64 => inferInstanceAs (HasTimes Int64)
  | .intOrText => inferInstanceAs (HasTimes IntOrText)
  | .instant => inferInstanceAs (HasTimes Timestamp)
  | .list s =>
    have := s.times
    inferInstanceAs (HasTimes (List s.Value))
  | .table s =>
    have := s.times
    inferInstanceAs (HasTimes (SortedMap s.Value))
  | .record ms => ms.times
termination_by structural s => s

@[reducible] def Members.times : (ms : Members) → HasTimes ms.Values
  | .nil => inferInstanceAs (HasTimes Unit)
  | .field _ s rest =>
    have := s.times
    have := rest.times
    inferInstanceAs (HasTimes (Option s.Value × rest.Values))
  | .always _ s rest =>
    have := s.times
    have := rest.times
    inferInstanceAs (HasTimes (s.Value × rest.Values))
  | .constant _ _ rest =>
    have := rest.times
    inferInstanceAs (HasTimes (Unit × rest.Values))
termination_by structural ms => ms
end

instance (s : Shape) : HasTimes s.Value := s.times
instance (ms : Members) : HasTimes ms.Values := ms.times

/-! ## Objects -/

/-- The times of a record are those of its fields. -/
instance {α Fields : Type} [Record α Fields] [HasTimes Fields] : HasTimes α where
  wholeSeconds a := Record.ofFields (wholeSeconds (Record.fields a))
  Dated a := Dated (Record.fields a)

section

variable [Schema]

instance {Spec Status : Type} [HasTimes Spec] [HasTimes Status] :
    HasTimes (Resource Spec Status) where
  wholeSeconds r :=
    { metadata := wholeSeconds r.metadata
      spec := wholeSeconds r.spec
      status := wholeSeconds r.status }
  Dated r := Dated r.metadata ∧ Dated r.spec ∧ Dated r.status

end

end PodSwap
