import PodSwap.Text.Hexadecimal

/-!
# The text of tags

A tag may be written with escapes of two hexadecimal digits that stand for bytes. The bytes have to
be laid out as characters are, but what they spell need not be one: a surrogate, a number beyond the
last character or one with more bytes than it needs leaves a gap in the text. A null character ends
a text.

Main statement: characters that are not escaped stand for themselves (`unescape_ofChars`).
-/

namespace PodSwap.Yaml

/-- The text of a tag, with gaps where its bytes spell no character. -/
abbrev TagText := List (Option Char)

namespace TagText

/-- The text of characters. -/
def ofChars (cs : List Char) : TagText := cs.map some

/-- The text up to the first null character. -/
def beforeNull (t : TagText) : TagText := t.takeWhile (· ≠ some '\x00')

/-! ## Escapes -/

/-- The byte of an escape. -/
def takeByte : List Char → Option (Nat × List Char)
  | '%' :: a :: b :: cs => do
    let a ← Text.hexValue? a
    let b ← Text.hexValue? b
    some (16 * a + b, cs)
  | _ => none

/-- What the first byte of a character says: its share of the number and how many bytes follow. -/
def lead? (b : Nat) : Option (Nat × Nat) :=
  if b < 0x80 then some (b, 0)
  else if b < 0xC0 then none
  else if b < 0xE0 then some (b - 0xC0, 1)
  else if b < 0xF0 then some (b - 0xE0, 2)
  else if b < 0xF8 then some (b - 0xF0, 3)
  else none

/-- The least number that needs so many bytes behind the first. -/
def leastWith : Nat → Nat
  | 0 => 0
  | 1 => 0x80
  | 2 => 0x800
  | _ => 0x10000

/-- The character that a number spells with so many bytes behind the first. -/
def spelled? (more n : Nat) : Option Char :=
  if n < leastWith more ∨ (0xD800 ≤ n ∧ n ≤ 0xDFFF) ∨ 0x10FFFF < n then none
  else some (Char.ofNat n)

/-- The number of a character whose first byte is taken already. -/
def takeNumber : Nat → Nat → List Char → Option (Nat × List Char)
  | 0, n, cs => some (n, cs)
  | more + 1, n, cs => do
    let (b, cs) ← takeByte cs
    if 0x80 ≤ b ∧ b < 0xC0 then takeNumber more (n * 64 + (b - 0x80)) cs else none

/-- One character from escapes, or a gap. -/
def takeEscaped (cs : List Char) : Option (Option Char × List Char) := do
  let (b, cs) ← takeByte cs
  let (share, more) ← lead? b
  let (n, cs) ← takeNumber more share cs
  some (spelled? more n, cs)

/-- The text that characters with escapes among them stand for, in a number of steps for which their
count is enough. -/
def unescapeWithin : Nat → List Char → Option TagText
  | _, [] => some []
  | 0, _ => none
  | fuel + 1, c :: cs =>
    if c = '%' then do
      let (x, rest) ← takeEscaped (c :: cs)
      (unescapeWithin fuel rest).map (x :: ·)
    else (unescapeWithin fuel cs).map (some c :: ·)

/-- The text that characters with escapes among them stand for. -/
def unescape (cs : List Char) : Option TagText := unescapeWithin cs.length cs

/-- Characters that are not escaped stand for themselves. -/
theorem unescape_ofChars {cs : List Char} (h : '%' ∉ cs) : unescape cs = some (ofChars cs) := by
  unfold unescape
  induction cs with
  | nil => rfl
  | cons c cs ih =>
    simp only [List.mem_cons, not_or] at h
    simp [unescapeWithin, Ne.symm h.1, ih h.2, ofChars]

/-! ## Meaning -/

/-- The tag of a core type. -/
def core (name : String) : TagText := ofChars ("tag:yaml.org,2002:" ++ name).toList

/-- Whether a tag begins like one of the user's own. -/
def isOwn (t : TagText) : Bool := t.head? = some (some '!')

/-- The name that a tag of the user's own gives to a node: what follows the exclamation mark, if it
has no gaps. -/
def ownName? (t : TagText) : Option String :=
  if t.isOwn then ((t.drop 1).mapM id).map String.ofList else none

end TagText

end PodSwap.Yaml
