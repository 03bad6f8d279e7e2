import PodSwap.Proofs.Json.Canonical
import PodSwap.Proofs.Json.WellFormed
import PodSwap.Proofs.Object.Times

/-!
# Values are read back as they were written

What is written of a value is read as the value again, with its times in whole seconds, and what is
read has only times of the calendar. That is so of simple values, of lists and tables of them, and
of the fields of a record, one part at a time; so it is of records put together from fields.

What a codec writes is plain: it has rising keys at every level, so a written object agrees with
itself, and no floating-point numbers, so it is told by its canonical text.

Main statements: `LawfulCodec`, `LawfulPart` and `LawfulRecord`, with instances for whatever does
not depend on a schema.
-/

namespace PodSwap

open Json

/-! ## Plain values -/

namespace Json

/-- A plain value is well formed. -/
theorem Plain.wellFormed {j : Json} (h : Plain j) : j.WellFormed := by
  induction h with
  | arr _ ih => exact wellFormedItems_iff.mpr ih
  | obj hrising _ ih => exact ⟨hrising, wellFormedMembers_iff.mpr ih⟩
  | _ => trivial

/-- Whether a field is left out or has a plain value. -/
def FieldPlain (m : String × Option Json) : Prop := ∀ j ∈ m.2, j.Plain

/-- An object put together from plain fields is plain. -/
theorem plain_fields {l : List (String × Option Json)} (h : ∀ m ∈ l, FieldPlain m) :
    (fields l).Plain := by
  refine .obj (Entries.rising_ofList _) fun e he => ?_
  obtain ⟨m, hm, hme⟩ := List.mem_filterMap.mp (mem_ofList he)
  obtain ⟨j, hj, rfl⟩ := Option.map_eq_some_iff.mp hme
  exact h m hm j hj

end Json

/-! ## Laws -/

/-- Values of the type are read back, but for the fractions of seconds, and they are written
plainly. -/
class LawfulCodec (α : Type) [Codec α] [HasTimes α] [Inhabited α] : Prop where
  toJson_ne_null : ∀ a : α, toJson a ≠ .null
  plain_toJson : ∀ a : α, (toJson a).Plain
  toJson_wholeSeconds : ∀ a : α, toJson (wholeSeconds a) = toJson a
  ofJson_toJson : ∀ {a : α}, Dated a → ofJson (toJson a) = .ok (wholeSeconds a)
  dated_of_read : ∀ {w : Written} {a : α}, ofWritten w = .ok a → Dated a
  dated_default : Dated (default : α)

export LawfulCodec (plain_toJson toJson_wholeSeconds)

/-- The same of some fields of a record. Besides, nothing is read but the members of their names,
and of no members their defaults. -/
class LawfulPart {α : Type} (p : Part α) [HasTimes α] [Inhabited α] : Prop where
  names_write : ∀ a : α, (p.write a).map (·.1) = p.names
  plain_write : ∀ a : α, ∀ m ∈ p.write a, FieldPlain m
  write_wholeSeconds : ∀ a : α, p.write (wholeSeconds a) = p.write a
  read_written : ∀ {a : α} {ms : List (String × Written)}, Dated a →
    (∀ m ∈ p.write a, valuesUnder m.1 ms = (m.2.map Json.written).toList) →
    p.read ms = .ok (wholeSeconds a)
  dated_of_read : ∀ {ms : List (String × Written)} {a : α}, p.read ms = .ok a → Dated a
  read_congr : ∀ {ms ms' : List (String × Written)},
    (∀ name ∈ p.names, valuesUnder name ms = valuesUnder name ms') → p.read ms = p.read ms'
  read_nil : p.read [] = .ok default

section

variable {α : Type} [Codec α] [HasTimes α] [Inhabited α] [LawfulCodec α]

theorem wellFormed_toJson (a : α) : (toJson a).WellFormed := (plain_toJson a).wellFormed

@[simp] theorem fieldPlain_field (name : String) (a : Option α) : FieldPlain (field name a) := by
  intro j hj
  obtain ⟨b, -, rfl⟩ := Option.map_eq_some_iff.mp hj
  exact plain_toJson b

@[simp] theorem fieldPlain_always (name : String) (a : α) : FieldPlain (always name a) := by
  intro j hj
  cases hj
  exact plain_toJson a

/-- A value without times is read back as it was. -/
theorem ofJson_toJson [Timeless α] (a : α) : ofJson (toJson a) = .ok a := by
  rw [LawfulCodec.ofJson_toJson (Timeless.dated a), wholeSeconds_eq]

theorem readNullable_toJson [Timeless α] (a : α) :
    readNullable (toJson a).written = .ok (some a) :=
  readNullable_eq (LawfulCodec.toJson_ne_null a) (ofJson_toJson a)

end

/-! ## Simple values -/

instance : LawfulCodec String where
  toJson_ne_null _ := by simp [toJson]
  plain_toJson := .str
  toJson_wholeSeconds _ := rfl
  ofJson_toJson _ := rfl
  dated_of_read _ := trivial
  dated_default := trivial

instance : LawfulCodec Bool where
  toJson_ne_null _ := by simp [toJson]
  plain_toJson := .bool
  toJson_wholeSeconds _ := rfl
  ofJson_toJson _ := rfl
  dated_of_read _ := trivial
  dated_default := trivial

instance : LawfulCodec Int32 where
  toJson_ne_null _ := by simp [toJson, Json.int]
  plain_toJson n := .int n.toInt
  toJson_wholeSeconds _ := rfl
  ofJson_toJson {n} _ := by
    have hlo := n.minValue_le_toInt
    have hhi := n.toInt_lt
    simp only [toJson, Json.int, ofJson, Json.written, ofWritten]
    rw [if_pos ⟨by simpa [pow2] using hlo, by simpa [pow2] using hhi⟩]
    simp
  dated_of_read _ := trivial
  dated_default := trivial

instance : LawfulCodec Int64 where
  toJson_ne_null _ := by simp [toJson, Json.int]
  plain_toJson n := .int n.toInt
  toJson_wholeSeconds _ := rfl
  ofJson_toJson {n} _ := by
    have hlo := n.minValue_le_toInt
    have hhi := n.toInt_lt
    simp only [toJson, Json.int, ofJson, Json.written, ofWritten]
    rw [if_pos ⟨by simpa [pow2] using hlo, by simpa [pow2] using hhi⟩]
    simp
  dated_of_read _ := trivial
  dated_default := trivial

instance : LawfulCodec IntOrText where
  toJson_ne_null
    | .int n => LawfulCodec.toJson_ne_null n
    | .text s => LawfulCodec.toJson_ne_null s
  plain_toJson
    | .int n => plain_toJson n
    | .text s => plain_toJson s
  toJson_wholeSeconds _ := rfl
  ofJson_toJson {a} _ := by
    cases a with
    | int n =>
      show (ofJson (toJson n)).map IntOrText.int = _
      rw [PodSwap.ofJson_toJson]
      rfl
    | text s => rfl
  dated_of_read _ := trivial
  dated_default := trivial

instance : LawfulCodec Timestamp where
  toJson_ne_null _ := by simp [toJson]
  plain_toJson t := .str t.text
  toJson_wholeSeconds t := congrArg Json.str t.text_wholeSeconds
  ofJson_toJson {t} h := by
    show ofWritten (Written.str (some t.text)) = _
    simp only [ofWritten, Timestamp.ofText?_text h]
    rfl
  dated_of_read {w t} h := by
    unfold ofWritten instCodecTimestamp at h
    dsimp only at h
    split at h
    · split at h
      · rename_i ht
        cases h
        exact Timestamp.dated_of_ofText? ht
      · cases h
    · cases h
  dated_default := ⟨⟨by decide, by decide⟩, by decide +kernel, by decide +kernel⟩

/-! ## Lists and tables -/

section

variable {α : Type} [Codec α] [HasTimes α] [Inhabited α] [LawfulCodec α]

theorem readItems_map {as : List α} (h : ∀ a ∈ as, Dated a) :
    readItems ((as.map toJson).map Json.written) = .ok (as.map wholeSeconds) := by
  induction as with
  | nil => rfl
  | cons a as ih =>
    obtain ⟨ha, has⟩ := List.forall_mem_cons.mp h
    have hread : ofWritten (toJson a).written = .ok (wholeSeconds a) := LawfulCodec.ofJson_toJson ha
    simp only [List.map_cons, readItems, hread, ih has, bind, Except.bind]

theorem dated_of_readItems {ws : List Written} {as : List α} (h : readItems ws = .ok as) :
    ∀ a ∈ as, Dated a := by
  induction ws generalizing as with
  | nil =>
    cases h
    exact List.forall_mem_nil _
  | cons w ws ih =>
    obtain ⟨a, ha, h⟩ := bind_eq_ok.mp h
    obtain ⟨as', has, h⟩ := bind_eq_ok.mp h
    cases h
    exact List.forall_mem_cons.mpr ⟨LawfulCodec.dated_of_read ha, ih has⟩

theorem readEntries_map {es : List (String × α)} (h : ∀ e ∈ es, Dated e.2) :
    readEntries (es.map fun e => (e.1, (toJson e.2).written)) =
      .ok (es.map fun e => (e.1, wholeSeconds e.2)) := by
  induction es with
  | nil => rfl
  | cons e es ih =>
    obtain ⟨he, hes⟩ := List.forall_mem_cons.mp h
    have hread : ofWritten (toJson e.2).written = .ok (wholeSeconds e.2) :=
      LawfulCodec.ofJson_toJson he
    simp only [List.map_cons, readEntries, hread, ih hes, bind, Except.bind]

theorem dated_of_readEntries {ms : List (String × Written)} {es : List (String × α)}
    (h : readEntries ms = .ok es) : ∀ e ∈ es, Dated e.2 := by
  induction ms generalizing es with
  | nil =>
    cases h
    exact List.forall_mem_nil _
  | cons m ms ih =>
    obtain ⟨a, ha, h⟩ := bind_eq_ok.mp h
    obtain ⟨es', hes, h⟩ := bind_eq_ok.mp h
    cases h
    exact List.forall_mem_cons.mpr ⟨LawfulCodec.dated_of_read ha, ih hes⟩

instance : LawfulCodec (List α) where
  toJson_ne_null _ := by simp [toJson]
  plain_toJson as := by
    refine .arr fun j hj => ?_
    obtain ⟨a, -, rfl⟩ := List.mem_map.mp hj
    exact plain_toJson a
  toJson_wholeSeconds as := by
    show Json.arr ((as.map wholeSeconds).map toJson) = .arr (as.map toJson)
    rw [List.map_map]
    exact congrArg Json.arr (List.map_congr_left fun a _ => toJson_wholeSeconds a)
  ofJson_toJson h := by
    simp only [ofJson, toJson, Json.written, Json.writtenItems_eq_map, ofWritten, readItems_map h]
    rfl
  dated_of_read {w as} h := by
    cases w with
    | arr ws => exact dated_of_readItems h
    | _ => cases h
  dated_default := fun _ ha => (nomatch ha)

theorem rising_map_values {β γ : Type} (f : β → γ) {es : List (String × β)} (h : Rising es) :
    Rising (es.map fun e => (e.1, f e.2)) :=
  List.pairwise_map.mpr h

instance : LawfulCodec (SortedMap α) where
  toJson_ne_null _ := by simp [toJson]
  plain_toJson m := by
    refine .obj (rising_map_values _ m.rising) fun e he => ?_
    obtain ⟨a, -, rfl⟩ := List.mem_map.mp he
    exact plain_toJson a.2
  toJson_wholeSeconds m := by
    show Json.obj ((m.toList.map fun e => (e.1, wholeSeconds e.2)).map _) = .obj (m.toList.map _)
    rw [List.map_map]
    exact congrArg Json.obj (List.map_congr_left fun e _ =>
      congrArg (e.1, ·) (toJson_wholeSeconds e.2))
  ofJson_toJson {m} h := by
    have hm := members_written (m.toList.map fun e => (e.1, toJson e.2))
    rw [List.map_map] at hm
    have hread : readEntries (m.toList.map ((fun e => (e.1, e.2.written)) ∘
        fun e => (e.1, toJson e.2))) = .ok (m.map wholeSeconds).toList := readEntries_map h
    simp only [ofJson, toJson, ofWritten, hm, bind, Except.bind, hread]
    rw [SortedMap.ofList_toList]
    rfl
  dated_of_read {w m} h := by
    obtain ⟨ms, -, h⟩ := bind_eq_ok.mp h
    obtain ⟨es, hes, h⟩ := bind_eq_ok.mp h
    cases h
    exact fun e he => dated_of_readEntries hes e (mem_ofList he)
  dated_default := fun _ he => (nomatch he)

/-! ## Fields -/

theorem dated_of_readLast {last : Option α} {ws : List Written} {a : Option α}
    (hlast : Dated last) (h : readLast last ws = .ok a) : Dated a := by
  induction ws generalizing last with
  | nil =>
    cases h
    exact hlast
  | cons w ws ih =>
    obtain ⟨b, hb, h⟩ := bind_eq_ok.mp h
    refine ih (fun x hx => ?_) h
    obtain rfl := Option.mem_def.mp hx
    unfold readNullable at hb
    split at hb
    · cases hb
    · obtain ⟨_, hread, heq⟩ := map_eq_ok.mp hb
      cases heq
      exact LawfulCodec.dated_of_read hread

theorem dated_of_optional {ms : List (String × Written)} {name : String} {a : Option α}
    (h : optional ms name = .ok a) : Dated a :=
  dated_of_readLast (show Dated (none : Option α) from fun _ hx => (nomatch hx)) h

/-- An optional field is read as it was written. -/
theorem optional_written {ms : List (String × Written)} {name : String} {a : Option α}
    (ha : Dated a) (h : valuesUnder name ms = ((a.map toJson).map Json.written).toList) :
    optional ms name = .ok (wholeSeconds a) :=
  optional_map_eq LawfulCodec.toJson_ne_null (fun x hx => LawfulCodec.ofJson_toJson (ha x hx)) h

instance (name : String) : LawfulPart (Part.field (α := α) name) where
  names_write _ := rfl
  plain_write a m hm := by
    rw [List.mem_singleton.mp hm]
    exact fieldPlain_field name a
  write_wholeSeconds a := by
    show [(name, (a.map wholeSeconds).map toJson)] = [(name, a.map toJson)]
    rw [Option.map_map]
    exact congrArg (fun f => [(name, a.map f)]) (funext toJson_wholeSeconds)
  read_written {a ms} ha h := optional_written ha (h _ (List.mem_singleton_self _))
  dated_of_read := dated_of_optional
  read_congr {ms ms'} h := by
    show optional ms name = optional ms' name
    rw [optional, optional, h name (List.mem_singleton_self _)]
  read_nil := rfl

instance (name : String) : LawfulPart (Part.always (α := α) name) where
  names_write _ := rfl
  plain_write a m hm := by
    rw [List.mem_singleton.mp hm]
    exact fieldPlain_always name a
  write_wholeSeconds a := congrArg (fun j => [(name, some j)]) (toJson_wholeSeconds a)
  read_written {a ms} ha h := by
    have hread : optional ms name = .ok (wholeSeconds (some a)) :=
      optional_written (fun x hx => Option.mem_some.mp hx ▸ ha) (h _ (List.mem_singleton_self _))
    show (optional ms name).map _ = _
    rw [hread]
    rfl
  dated_of_read {ms a} h := by
    obtain ⟨b, hb, rfl⟩ := map_eq_ok.mp h
    cases b with
    | none => exact LawfulCodec.dated_default
    | some b => exact dated_of_optional hb b rfl
  read_congr {ms ms'} h := by
    show (optional ms name).map _ = (optional ms' name).map _
    rw [optional, optional, h name (List.mem_singleton_self _)]
  read_nil := rfl

end

theorem constant_written {ms : List (String × Written)} {name text : String}
    (h : valuesUnder name ms = ((some (toJson text)).map Json.written).toList) :
    constant ms name text = .ok () := by
  rw [constant, h]
  exact if_pos (by simp [toJson, Json.written, Json.Written.text?])

instance (name text : String) : LawfulPart (Part.constant name text) where
  names_write _ := rfl
  plain_write _ m hm := by
    rw [List.mem_singleton.mp hm]
    exact fieldPlain_always name text
  write_wholeSeconds _ := rfl
  read_written _ h := constant_written (h _ (List.mem_singleton_self _))
  dated_of_read _ := trivial
  read_congr {ms ms'} h := by
    show constant ms name text = constant ms' name text
    rw [constant, constant, h name (List.mem_singleton_self _)]
  read_nil := rfl

instance : LawfulPart Part.none where
  names_write _ := rfl
  plain_write _ _ hm := (nomatch hm)
  write_wholeSeconds _ := rfl
  read_written _ _ := rfl
  dated_of_read _ := trivial
  read_congr _ := rfl
  read_nil := rfl

section

variable {α β : Type} {p : Part α} {q : Part β} [HasTimes α] [Inhabited α]
  [HasTimes β] [Inhabited β]

instance [LawfulPart p] [LawfulPart q] : LawfulPart (p.both q) where
  names_write x := by
    show (p.write x.1 ++ q.write x.2).map (·.1) = p.names ++ q.names
    rw [List.map_append, LawfulPart.names_write, LawfulPart.names_write]
  plain_write x m hm := (List.mem_append.mp hm).elim (LawfulPart.plain_write x.1 m)
    (LawfulPart.plain_write x.2 m)
  write_wholeSeconds x := by
    show p.write (wholeSeconds x.1) ++ q.write (wholeSeconds x.2) = p.write x.1 ++ q.write x.2
    rw [LawfulPart.write_wholeSeconds, LawfulPart.write_wholeSeconds]
  read_written {x ms} hx h := Part.read_both_eq_ok.mpr
    ⟨LawfulPart.read_written hx.1 fun m hm => h m (List.mem_append_left _ hm),
      LawfulPart.read_written hx.2 fun m hm => h m (List.mem_append_right _ hm)⟩
  dated_of_read h := (Part.read_both_eq_ok.mp h).imp LawfulPart.dated_of_read
    LawfulPart.dated_of_read
  read_congr {ms ms'} h := by
    show (p.read ms >>= _) = (p.read ms' >>= _)
    rw [LawfulPart.read_congr fun k hk => h k (List.mem_append_left _ hk),
      LawfulPart.read_congr (p := q) fun k hk => h k (List.mem_append_right _ hk)]
  read_nil := Part.read_both_eq_ok.mpr ⟨LawfulPart.read_nil, LawfulPart.read_nil⟩

/-! ## Records -/

/-- Of an empty object the defaults are read. -/
theorem Part.ofWritten_empty [LawfulPart p] :
    p.codec.ofWritten (Json.obj []).written = .ok default :=
  LawfulPart.read_nil

/-- Fields with different names are read back as an object. -/
theorem Part.lawful_codec [LawfulPart p] (h : p.names.Nodup) : @LawfulCodec α p.codec _ _ :=
  letI := p.codec
  { toJson_ne_null := fun _ => fields_ne_null _
    plain_toJson := fun a => plain_fields (LawfulPart.plain_write a)
    toJson_wholeSeconds := fun a => congrArg Json.fields (LawfulPart.write_wholeSeconds a)
    ofJson_toJson := by
      intro a ha
      obtain ⟨ms, hms, hget⟩ := members_fields (p.write a) (LawfulPart.names_write (p := p) a ▸ h)
      show (members (Json.fields (p.write a)).written >>= p.read) = _
      rw [hms]
      refine LawfulPart.read_written ha fun m hm => ?_
      rw [hget, Entries.get?_of_mem_of_nodup (LawfulPart.names_write (p := p) a ▸ h) hm]
      rfl
    dated_of_read := by
      intro w a hread
      obtain ⟨ms, -, hread⟩ := bind_eq_ok.mp hread
      exact LawfulPart.dated_of_read hread
    dated_default := LawfulPart.dated_of_read (p := p) LawfulPart.read_nil }

end

section

variable {α Fields : Type} [Record α Fields] [HasTimes Fields] [Inhabited Fields] [Inhabited α]

/-- The fields of the record are read back and have different names, and by default they have their
defaults. -/
class LawfulRecord (α : Type) {Fields : Type} [Record α Fields] [HasTimes Fields]
    [Inhabited Fields] [Inhabited α] : Prop where
  part : LawfulPart (Record.part α)
  names : (Record.part α).names.Nodup
  fields_default : Record.fields (default : α) = default

variable [hrecord : LawfulRecord α]

instance : LawfulPart (Record.part α) := hrecord.part

theorem Record.nodup_write (a : α) :
    (((Record.part α).write (Record.fields a)).map (·.1)).Nodup :=
  LawfulPart.names_write (p := Record.part α) (Record.fields a) ▸ hrecord.names

/-- A record is read back if its fields are. -/
instance : LawfulCodec α :=
  have hlawful := Part.lawful_codec hrecord.names
  letI := (Record.part α).codec
  { toJson_ne_null := fun a => hlawful.toJson_ne_null (Record.fields a)
    plain_toJson := fun a => hlawful.plain_toJson (Record.fields a)
    toJson_wholeSeconds := by
      intro a
      show toJson (Record.fields (Record.ofFields (α := α) (wholeSeconds (Record.fields a)))) =
        toJson (Record.fields a)
      rw [Record.fields_ofFields]
      exact hlawful.toJson_wholeSeconds (Record.fields a)
    ofJson_toJson := by
      intro a ha
      show (ofJson (toJson (Record.fields a))).map (Record.ofFields (α := α)) = _
      rw [hlawful.ofJson_toJson ha]
      rfl
    dated_of_read := by
      intro w a h
      obtain ⟨x, hx, rfl⟩ := map_eq_ok.mp h
      show Dated (Record.fields (Record.ofFields (α := α) x))
      rw [Record.fields_ofFields]
      exact hlawful.dated_of_read hx
    dated_default := by
      show Dated (Record.fields (default : α))
      rw [hrecord.fields_default]
      exact hlawful.dated_default }

/-- Of an empty object the default is read. -/
theorem Record.ofWritten_empty : ofWritten (Json.obj []).written = .ok (default : α) :=
  Record.ofWritten_eq_ok.mpr ⟨[], rfl, hrecord.fields_default ▸ LawfulPart.read_nil⟩

end

end PodSwap
