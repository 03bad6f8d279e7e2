import PodSwap.Entries
import PodSwap.Json.Double

/-!
# JSON values

Values with integers kept apart from floating-point numbers. An object is a table of members; the
reader and the operations of this library keep its keys in rising order, which `WellFormed` states
for every level. Two values are the same (`Json.same`) when they agree up to the order of members,
the two floating-point zeros counting as one number.
-/

namespace PodSwap

/-- A number: an integer, or a floating-point number. -/
inductive Number where
  | int (n : Int)
  | double (d : Double)
deriving DecidableEq, Repr, Inhabited

/-- Equality of numbers, where an integer is never a floating-point number. -/
def Number.same : Number → Number → Bool
  | .int a, .int b => a = b
  | .double a, .double b => a.same b
  | _, _ => false

/-- A JSON value. -/
inductive Json where
  | null
  | bool (b : Bool)
  | num (n : Number)
  | str (s : String)
  | arr (items : List Json)
  | obj (members : List (String × Json))
deriving Repr, Inhabited

namespace Json

/-- An integer as a value. -/
def int (n : Int) : Json := .num (.int n)

/-- The members of an object. -/
def members? : Json → Option (List (String × Json))
  | .obj ms => some ms
  | _ => none

/-- The value of a member, for objects that have it. -/
def get? (j : Json) (k : String) : Option Json :=
  j.members?.bind (Entries.get? k)

/-- Whether the value is an object. -/
def isObject (j : Json) : Bool := j.members?.isSome

/-- The text of a string value. -/
def text? : Json → Option String
  | .str s => some s
  | _ => none

/-- The object with the given members, of which the last of a key counts. -/
def object (ms : List (String × Json)) : Json := .obj (Entries.ofList ms)

/-- The object of those members that have a value. -/
def fields (ms : List (String × Option Json)) : Json :=
  object (ms.filterMap fun m => m.2.map (m.1, ·))

/-! ## Well-formed values -/

mutual
/-- The keys of every object rise strictly. -/
def WellFormed : Json → Prop
  | .arr items => WellFormedItems items
  | .obj ms => Rising ms ∧ WellFormedMembers ms
  | _ => True
termination_by structural j => j

/-- Every item is well formed. -/
def WellFormedItems : List Json → Prop
  | [] => True
  | j :: js => WellFormed j ∧ WellFormedItems js
termination_by structural js => js

/-- Every value of a member is well formed. -/
def WellFormedMembers : List (String × Json) → Prop
  | [] => True
  | m :: ms => WellFormedMember m ∧ WellFormedMembers ms
termination_by structural ms => ms

/-- The value of the member is well formed. -/
def WellFormedMember : String × Json → Prop
  | (_, j) => WellFormed j
termination_by structural m => m
end

/-! ## Equality up to the order of members -/

mutual
/-- Whether two values agree up to the order of members. -/
def same : Json → Json → Bool
  | .null, .null => true
  | .bool a, .bool b => a == b
  | .num a, .num b => a.same b
  | .str a, .str b => a == b
  | .arr as, .arr bs => sameItems as bs
  | .obj as, .obj bs => as.length == bs.length && sameMembers as bs
  | _, _ => false
termination_by structural j => j

/-- Whether two lists of items agree in order. -/
def sameItems : List Json → List Json → Bool
  | [], [] => true
  | a :: as, b :: bs => same a b && sameItems as bs
  | _, _ => false
termination_by structural js => js

/-- Whether every member of the first list is found in the second. -/
def sameMembers : List (String × Json) → List (String × Json) → Bool
  | [], _ => true
  | m :: ms, bs => sameMember m bs && sameMembers ms bs
termination_by structural ms => ms

/-- Whether the member is found in the list. -/
def sameMember : String × Json → List (String × Json) → Bool
  | (k, j), bs =>
    match Entries.get? k bs with
    | some b => same j b
    | none => false
termination_by structural m => m
end

instance : BEq Json := ⟨same⟩

end Json

end PodSwap
