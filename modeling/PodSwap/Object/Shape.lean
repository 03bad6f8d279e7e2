import PodSwap.Object.Codec

/-!
# Shapes of values

Most of what an object holds is none of the program's business: it is read, carried along and
written again. What such values are is said by a shape, and how they are read and written follows
from it.
-/

namespace PodSwap

/-- A number or a text. -/
inductive IntOrText where
  | int (n : Int32)
  | text (s : String)
deriving DecidableEq, Repr

instance : Inhabited IntOrText := ⟨.int 0⟩

instance : Codec IntOrText where
  ofWritten
    | .str (some s) => .ok (.text s)
    | w => (ofWritten w).map .int
  toJson
    | .int n => toJson n
    | .text s => toJson s

mutual
/-- What a value may be. -/
inductive Shape where
  | text
  | flag
  | int32
  | int64
  | intOrText
  | instant
  | list (item : Shape)
  | table (value : Shape)
  | record (members : Members)

/-- What the members of a record may be. -/
inductive Members where
  | nil
  /-- A member that is written where it is set. -/
  | field (name : String) (shape : Shape) (rest : Members)
  /-- A member that is always written. -/
  | always (name : String) (shape : Shape) (rest : Members)
  /-- A member that always has a certain text. -/
  | constant (name text : String) (rest : Members)
end

mutual
/-- The values of a shape. -/
def Shape.Value : Shape → Type
  | .text => String
  | .flag => Bool
  | .int32 => Int32
  | .int64 => Int64
  | .intOrText => IntOrText
  | .instant => Timestamp
  | .list s => List s.Value
  | .table s => SortedMap s.Value
  | .record ms => ms.Values
termination_by structural s => s

/-- The values of members. -/
def Members.Values : Members → Type
  | .nil => Unit
  | .field _ s rest => Option s.Value × rest.Values
  | .always _ s rest => s.Value × rest.Values
  | .constant _ _ rest => Unit × rest.Values
termination_by structural ms => ms
end

/-! ## Reading and writing -/

mutual
@[reducible] def Shape.inhabited : (s : Shape) → Inhabited s.Value
  | .text => inferInstanceAs (Inhabited String)
  | .flag => inferInstanceAs (Inhabited Bool)
  | .int32 => inferInstanceAs (Inhabited Int32)
  | .int64 => inferInstanceAs (Inhabited Int64)
  | .intOrText => inferInstanceAs (Inhabited IntOrText)
  | .instant => inferInstanceAs (Inhabited Timestamp)
  | .list s => inferInstanceAs (Inhabited (List s.Value))
  | .table s => inferInstanceAs (Inhabited (SortedMap s.Value))
  | .record ms => ms.inhabited
termination_by structural s => s

@[reducible] def Members.inhabited : (ms : Members) → Inhabited ms.Values
  | .nil => inferInstanceAs (Inhabited Unit)
  | .field _ s rest =>
    have := rest.inhabited
    inferInstanceAs (Inhabited (Option s.Value × rest.Values))
  | .always _ s rest =>
    have := s.inhabited
    have := rest.inhabited
    inferInstanceAs (Inhabited (s.Value × rest.Values))
  | .constant _ _ rest =>
    have := rest.inhabited
    inferInstanceAs (Inhabited (Unit × rest.Values))
termination_by structural ms => ms
end

instance (s : Shape) : Inhabited s.Value := s.inhabited
instance (ms : Members) : Inhabited ms.Values := ms.inhabited

mutual
@[reducible] def Shape.codec : (s : Shape) → Codec s.Value
  | .text => inferInstanceAs (Codec String)
  | .flag => inferInstanceAs (Codec Bool)
  | .int32 => inferInstanceAs (Codec Int32)
  | .int64 => inferInstanceAs (Codec Int64)
  | .intOrText => inferInstanceAs (Codec IntOrText)
  | .instant => inferInstanceAs (Codec Timestamp)
  | .list s =>
    have := s.codec
    inferInstanceAs (Codec (List s.Value))
  | .table s =>
    have := s.codec
    inferInstanceAs (Codec (SortedMap s.Value))
  | .record ms => ms.part.codec
termination_by structural s => s

def Members.part : (ms : Members) → Part ms.Values
  | .nil => .none
  | .field name s rest =>
    have := s.codec
    (Part.field name).both rest.part
  | .always name s rest =>
    have := s.codec
    (Part.always name).both rest.part
  | .constant name text rest => (Part.constant name text).both rest.part
termination_by structural ms => ms
end

instance (s : Shape) : Codec s.Value := s.codec
instance (ms : Members) : Codec ms.Values := ms.part.codec

instance (ms : Members) : Repr ms.Values := ⟨fun x _ => repr (toJson x)⟩

/-! ## Comparing -/

mutual
@[reducible] def Shape.decEq : (s : Shape) → DecidableEq s.Value
  | .text => inferInstanceAs (DecidableEq String)
  | .flag => inferInstanceAs (DecidableEq Bool)
  | .int32 => inferInstanceAs (DecidableEq Int32)
  | .int64 => inferInstanceAs (DecidableEq Int64)
  | .intOrText => inferInstanceAs (DecidableEq IntOrText)
  | .instant => inferInstanceAs (DecidableEq Timestamp)
  | .list s =>
    have := s.decEq
    inferInstanceAs (DecidableEq (List s.Value))
  | .table s =>
    have := s.decEq
    inferInstanceAs (DecidableEq (SortedMap s.Value))
  | .record ms => ms.decEq
termination_by structural s => s

@[reducible] def Members.decEq : (ms : Members) → DecidableEq ms.Values
  | .nil => inferInstanceAs (DecidableEq Unit)
  | .field _ s rest =>
    have := s.decEq
    have := rest.decEq
    inferInstanceAs (DecidableEq (Option s.Value × rest.Values))
  | .always _ s rest =>
    have := s.decEq
    have := rest.decEq
    inferInstanceAs (DecidableEq (s.Value × rest.Values))
  | .constant _ _ rest =>
    have := rest.decEq
    inferInstanceAs (DecidableEq (Unit × rest.Values))
termination_by structural ms => ms
end

instance (s : Shape) : DecidableEq s.Value := s.decEq
instance (ms : Members) : DecidableEq ms.Values := ms.decEq

end PodSwap
