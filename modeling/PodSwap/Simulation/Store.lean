import PodSwap.Text.Order

/-!
# Stores

Values under keys of several texts, such as a namespace and a name, kept in the order of the keys.

Main statements: what is found after `insert` and `erase` (`get?_insert`, `get?_erase`).
-/

namespace PodSwap.Simulation

/-- Values under keys, of which a smaller one comes first. -/
structure Store (α : Type) where
  entries : List (List String × α) := []
deriving Repr

namespace Store

variable {α : Type}

/-- The value under a key of a list. -/
def find (key : List String) : List (List String × α) → Option α
  | [] => none
  | e :: es => if e.1 = key then some e.2 else find key es

/-- The list with a value under a key. -/
def put (key : List String) (value : α) : List (List String × α) → List (List String × α)
  | [] => [(key, value)]
  | e :: es =>
    if e.1 = key then (key, value) :: es
    else if listBefore key e.1 then (key, value) :: e :: es
    else e :: put key value es

/-- The value under a key. -/
def get? (s : Store α) (key : List String) : Option α := find key s.entries

/-- Whether there is a value under a key. -/
def contains (s : Store α) (key : List String) : Bool := (s.get? key).isSome

/-- The store with a value under a key. -/
def insert (s : Store α) (key : List String) (value : α) : Store α := ⟨put key value s.entries⟩

/-- The store without a value under a key. -/
def erase (s : Store α) (key : List String) : Store α := ⟨s.entries.filter fun e => e.1 ≠ key⟩

/-- The values with their keys, in order. -/
def toList (s : Store α) : List (List String × α) := s.entries

theorem find_put (key key' : List String) (value : α) (es : List (List String × α)) :
    find key' (put key value es) = if key = key' then some value else find key' es := by
  induction es with
  | nil => rfl
  | cons e es ih =>
    by_cases hk : key = key'
    · subst hk
      by_cases he : e.1 = key
      · simp [put, find, he]
      · by_cases hlt : listBefore key e.1 = true
        · simp [put, find, he, hlt]
        · simpa [put, find, he, hlt] using ih
    · by_cases he : e.1 = key
      · simp [put, find, he, hk]
      · by_cases hlt : listBefore key e.1 = true
        · simp [put, find, he, hlt, hk]
        · simp [put, find, he, hlt, ih, hk]

theorem get?_insert (s : Store α) (key key' : List String) (value : α) :
    (s.insert key value).get? key' = if key = key' then some value else s.get? key' :=
  find_put key key' value s.entries

theorem get?_erase (s : Store α) (key key' : List String) :
    (s.erase key).get? key' = if key = key' then none else s.get? key' := by
  unfold get? erase
  induction s.entries with
  | nil => simp [find]
  | cons e es ih =>
    by_cases he : e.1 = key
    · subst he
      by_cases hk : e.1 = key' <;> simp_all [find]
    · by_cases hk : key = key'
      · subst hk
        simp_all [find]
      · simp_all [find]

end Store

end PodSwap.Simulation
