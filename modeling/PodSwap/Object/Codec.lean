import PodSwap.Json.Written
import PodSwap.Object.Timestamp
import PodSwap.Power

/-!
# Reading and writing objects

A type with a codec is written as a JSON value and read from what a text writes. Records are written
as objects with their fields by name: an optional field only where it is set, a required one always.
Reading passes over fields it does not know, whatever they hold, and takes `null` as absent; a
required field that is absent has its default. Of a field that occurs again the last value counts,
but the others have to be readable too.

A `Part` of a record is some of its fields, with how they are read and written. What a type needs to
be read and written as a record is to be equal to the values of a part (`Record`).
-/

namespace PodSwap

open Json (Written)

/-- What is wrong with a value that was to be read. -/
abbrev Reading := Except String

/-- Values of the type are written as JSON and read from it. -/
class Codec (α : Type) where
  ofWritten : Written → Reading α
  toJson : α → Json

export Codec (ofWritten toJson)

/-- Reads a value. -/
def ofJson {α : Type} [Codec α] (j : Json) : Reading α := ofWritten j.written

instance : Codec String where
  ofWritten
    | .str (some s) => .ok s
    | _ => .error "expected a string"
  toJson := .str

instance : Codec Bool where
  ofWritten
    | .bool b => .ok b
    | _ => .error "expected a boolean"
  toJson := .bool

instance : Codec Int32 where
  ofWritten
    | .num (some (.int n)) =>
      if -(pow2 31 : Int) ≤ n ∧ n < pow2 31 then .ok (.ofInt n)
      else .error "expected a 32-bit integer"
    | _ => .error "expected a 32-bit integer"
  toJson n := .int n.toInt

instance : Codec Int64 where
  ofWritten
    | .num (some (.int n)) =>
      if -(pow2 63 : Int) ≤ n ∧ n < pow2 63 then .ok (.ofInt n)
      else .error "expected a 64-bit integer"
    | _ => .error "expected a 64-bit integer"
  toJson n := .int n.toInt

instance : Codec Timestamp where
  ofWritten
    | .str (some s) =>
      match Timestamp.ofText? s with
      | some t => .ok t
      | none => .error "expected a timestamp"
    | _ => .error "expected a timestamp"
  toJson t := .str t.text

/-! ## Members -/

/-- Members with the texts of their keys. -/
def keyed : List (Option String × Written) → Reading (List (String × Written))
  | [] => .ok []
  | (some k, w) :: ms => (keyed ms).map ((k, w) :: ·)
  | (none, _) :: _ => .error "half a character in a key"

/-- The members of an object that is to be read. -/
def members : Written → Reading (List (String × Written))
  | .obj ms => keyed ms
  | _ => .error "expected an object"

/-- The values under a key, in order. -/
def valuesUnder (name : String) (ms : List (String × Written)) : List Written :=
  (ms.filter (·.1 = name)).map (·.2)

section Containers

variable {α : Type} [Codec α]

/-- Reads each value of a list. -/
def readItems : List Written → Reading (List α)
  | [] => .ok []
  | w :: ws => do
    let a ← ofWritten w
    let as ← readItems ws
    .ok (a :: as)

/-- Reads the value of each member. -/
def readEntries : List (String × Written) → Reading (List (String × α))
  | [] => .ok []
  | m :: ms => do
    let a ← ofWritten m.2
    let as ← readEntries ms
    .ok ((m.1, a) :: as)

instance : Codec (List α) where
  ofWritten
    | .arr ws => readItems ws
    | _ => .error "expected a list"
  toJson as := .arr (as.map toJson)

instance : Codec (SortedMap α) where
  ofWritten w := do
    let es ← readEntries (← members w)
    .ok (.ofList es)
  toJson m := .obj (m.toList.map fun e => (e.1, toJson e.2))

/-- Reads a value that may be `null`. -/
def readNullable : Written → Reading (Option α)
  | .null => .ok none
  | w => (ofWritten w).map some

/-- What the last of the values under a key says, if any; all of them are read. -/
def readLast (last : Option α) : List Written → Reading (Option α)
  | [] => .ok last
  | w :: ws => do readLast (← readNullable w) ws

/-- The value of an optional field: absent where the object has none or has `null`. -/
def optional (ms : List (String × Written)) (name : String) : Reading (Option α) :=
  readLast none (valuesUnder name ms)

/-- The value of a required field, which has its default where the object has none or `null`. -/
def required [Inhabited α] (ms : List (String × Written)) (name : String) : Reading α :=
  (optional ms name).map (·.getD default)

/-- A field that is written where it is set. -/
def field (name : String) (a : Option α) : String × Option Json := (name, a.map toJson)

/-- A field that is always written. -/
def always (name : String) (a : α) : String × Option Json := (name, some (toJson a))

end Containers

/-- A field that, wherever it is there, has to hold a certain text. -/
def constant (ms : List (String × Written)) (name text : String) : Reading Unit :=
  if (valuesUnder name ms).all (·.text? = some text) then .ok ()
  else .error s!"{name} has to be {text}"

/-! ## Records -/

/-- Some fields of a record: what they are called, how their values are read and how they are
written. -/
structure Part (α : Type) where
  names : List String
  read : List (String × Written) → Reading α
  write : α → List (String × Option Json)

namespace Part

variable {α β : Type}

/-- No fields. -/
def none : Part Unit := ⟨[], fun _ => .ok (), fun _ => []⟩

/-- A field that is written where it is set. -/
def field [Codec α] (name : String) : Part (Option α) :=
  ⟨[name], fun ms => optional ms name, fun a => [PodSwap.field name a]⟩

/-- A field that is always written. -/
def always [Codec α] [Inhabited α] (name : String) : Part α :=
  ⟨[name], fun ms => required ms name, fun a => [PodSwap.always name a]⟩

/-- A field that always has a certain text. -/
def constant (name text : String) : Part Unit :=
  ⟨[name], fun ms => PodSwap.constant ms name text, fun _ => [PodSwap.always name text]⟩

/-- The fields of two parts. -/
def both (p : Part α) (q : Part β) : Part (α × β) where
  names := p.names ++ q.names
  read ms := do
    let a ← p.read ms
    let b ← q.read ms
    .ok (a, b)
  write x := p.write x.1 ++ q.write x.2

/-- Reads the fields of an object and writes an object of them. -/
@[reducible] def codec (p : Part α) : Codec α where
  ofWritten w := do p.read (← members w)
  toJson a := .fields (p.write a)

end Part

/-- Values of the type are records: they are what the values of a part are. -/
class Record (α : Type) (Fields : outParam Type) where
  part : Part Fields
  fields : α → Fields
  ofFields : Fields → α
  ofFields_fields : ∀ a, ofFields (fields a) = a
  fields_ofFields : ∀ x, fields (ofFields x) = x

instance {α Fields : Type} [Record α Fields] : Codec α where
  ofWritten w := ((Record.part α).codec.ofWritten w).map Record.ofFields
  toJson a := (Record.part α).codec.toJson (Record.fields a)

end PodSwap
