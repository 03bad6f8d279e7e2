import PodSwap.Text.Bytes
import PodSwap.Yaml.TagText

/-!
# Tokens of YAML text

The parts a text is cut into before its structure is read: markers of documents, openings and ends
of collections, indicators and scalars. A cursor is a place in a text, with the line and the column
on which indentation depends.
-/

namespace PodSwap.Yaml

/-- How a scalar was written. -/
inductive ScalarStyle where
  | plain
  | singleQuoted
  | doubleQuoted
  | literal
  | folded
deriving DecidableEq, Repr

/-- A part of a text. -/
inductive Token where
  | streamEnd
  | versionDirective (major minor : Nat)
  | tagDirective (handle : String) (uri : TagText)
  | documentStart
  | documentEnd
  | blockSequenceStart
  | blockMappingStart
  | blockEnd
  | flowSequenceStart
  | flowSequenceEnd
  | flowMappingStart
  | flowMappingEnd
  | blockEntry
  | flowEntry
  | key
  | value
  | alias (name : String)
  | anchor (name : String)
  | tag (handle : String) (suffix : TagText)
  | scalar (text : String) (style : ScalarStyle)
deriving DecidableEq, Repr

/-! ## Characters -/

/-- Whether the character ends a line. -/
def isBreak (c : Char) : Bool :=
  c = '\r' || c = '\n' || c = '\x85' || c = '\u2028' || c = '\u2029'

/-- Whether the character is a space or a tab. -/
def isBlank (c : Char) : Bool := c = ' ' || c = '\t'

/-- Whether the character separates words. -/
def isBlankOrBreak (c : Char) : Bool := isBlank c || isBreak c

/-- Whether nothing, a blank or a break comes. -/
def separates (c : Option Char) : Bool :=
  match c with
  | none => true
  | some c => isBlankOrBreak c

/-- Whether the character may occur in the name of an anchor. -/
def isWordChar (c : Char) : Bool :=
  c.isAlphanum || c = '_' || c = '-'

/-- Whether a text may hold the character at all. -/
def isPermitted (c : Char) : Bool :=
  let n := c.toNat
  n = 9 || n = 10 || n = 13 || (0x20 ≤ n && n ≤ 0x7E) || n = 0x85 || (0xA0 ≤ n && n ≤ 0xD7FF) ||
    (0xE000 ≤ n && n ≤ 0xFFFD) || 0x10000 ≤ n

/-! ## Places -/

/-- A place in a text: what comes, and where it is. -/
structure Cursor where
  rest : List Char
  /-- How many bytes came before. -/
  index : Nat := 0
  line : Nat := 0
  column : Nat := 0

namespace Cursor

/-- The next character. -/
def peek (c : Cursor) : Option Char := c.rest.head?

/-- A character further on. -/
def peekAt (c : Cursor) (n : Nat) : Option Char := c.rest[n]?

/-- Whether the next character is the given one. -/
def at? (c : Cursor) (ch : Char) : Bool := c.peek = some ch

/-- Whether the next character is a blank. -/
def atBlank (c : Cursor) : Bool := (c.peek.map isBlank).getD false

/-- Whether the next character is a break. -/
def atBreak (c : Cursor) : Bool := (c.peek.map isBreak).getD false

/-- Some characters on, none of which is a break. -/
def skipMany (c : Cursor) (n : Nat) : Cursor :=
  { c with
    rest := c.rest.drop n
    index := c.index + Text.utf8Length (c.rest.take n)
    column := c.column + n }

/-- One character on, which is no break. -/
def skip (c : Cursor) : Cursor := c.skipMany 1

/-- The next line; a carriage return and a line feed are one break. -/
def skipLine (c : Cursor) : Cursor :=
  match c.rest with
  | '\r' :: '\n' :: rest => { rest, index := c.index + 2, line := c.line + 1, column := 0 }
  | b :: rest =>
    if isBreak b then
      { rest, index := c.index + b.utf8Size, line := c.line + 1, column := 0 }
    else c
  | [] => c

/-- What the coming break adds to a scalar: a line feed, or one of the two separators themselves. -/
def breakChar (c : Cursor) : List Char :=
  match c.peek with
  | none => []
  | some b => if b = '\u2028' ∨ b = '\u2029' then [b] else if isBreak b then ['\n'] else []

/-- Past characters that satisfy a test. -/
def skipWhile (p : Char → Bool) (c : Cursor) : Cursor :=
  c.skipMany (c.rest.takeWhile p).length

/-- Whether a document marker of three equal characters stands at the beginning of the line. -/
def atMarker (c : Cursor) (ch : Char) : Bool :=
  c.column = 0 && c.peekAt 0 = some ch && c.peekAt 1 = some ch && c.peekAt 2 = some ch &&
    separates (c.peekAt 3)

/-- Whether a document begins or ends here. -/
def atDocumentMarker (c : Cursor) : Bool := c.atMarker '-' || c.atMarker '.'

end Cursor

end PodSwap.Yaml
