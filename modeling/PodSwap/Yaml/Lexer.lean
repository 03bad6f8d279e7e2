import PodSwap.Yaml.ScalarText

/-!
# Cutting YAML text into tokens

Block collections are opened and closed by indentation, and a key without a mark of its own is only
known as a key when the colon behind it comes. The lexer therefore remembers where such a key may
have begun, one place for every level of flow collections, and puts the tokens of the key in there
afterwards.
-/

namespace PodSwap.Yaml

/-- A place where a key may have begun. -/
structure KeyPlace where
  /-- Whether the text is malformed if no colon follows. -/
  isRequired : Bool
  /-- How many tokens came before. -/
  token : Nat
  index : Nat
  line : Nat
  column : Nat

/-- What the lexer knows at a place of the text. -/
structure Lexer where
  cursor : Cursor
  tokens : Array Token := #[]
  /-- The places of possible keys, innermost flow collection first; the last is the block level. -/
  keys : List (Option KeyPlace) := [none]
  /-- The indentation of the innermost block collection. -/
  indent : Int := -1
  /-- The indentations of those around it. -/
  outer : List Int := []
  /-- Whether a key may begin here. -/
  keyAllowed : Bool := true

namespace Lexer

/-- Whether the lexer is in a flow collection. -/
def inFlow (l : Lexer) : Bool := !(l.keys.drop 1).isEmpty

/-- The lexer with a token more. -/
def push (t : Token) (l : Lexer) : Lexer := { l with tokens := l.tokens.push t }

/-- The lexer with a token put in at an earlier place. -/
def insertAt (n : Nat) (t : Token) (l : Lexer) : Lexer :=
  { l with tokens := l.tokens.insertIdxIfInBounds n t }

/-! ## Keys and indentation -/

/-- Forgets the place of a possible key on this level; one that is required is missed. -/
def dropKey (l : Lexer) : Option Lexer :=
  match l.keys with
  | some k :: ks => if k.isRequired then none else some { l with keys := none :: ks }
  | _ => some l

/-- Notes that a key may begin here. -/
def noteKey (l : Lexer) : Option Lexer :=
  if l.keyAllowed then do
    let l ← l.dropKey
    let place : KeyPlace :=
      { isRequired := !l.inFlow && l.indent = l.cursor.column
        token := l.tokens.size
        index := l.cursor.index
        line := l.cursor.line
        column := l.cursor.column }
    some { l with keys := some place :: l.keys.drop 1 }
  else some l

/-- Forgets the places of keys that have not had their colon on their line or within 1024
bytes. -/
def dropStaleKeys (l : Lexer) : Option Lexer := do
  let keys ← l.keys.mapM fun k =>
    match k with
    | none => some none
    | some k =>
      if k.line < l.cursor.line ∨ k.index + 1024 < l.cursor.index then
        if k.isRequired then none else some none
      else some (some k)
  some { l with keys }

/-- Opens a block collection at a column if that is deeper, at a place among the tokens. -/
def indentTo (column : Nat) (place : Nat) (t : Token) (l : Lexer) : Lexer :=
  if !l.inFlow && l.indent < column then
    insertAt place t { l with outer := l.indent :: l.outer, indent := column }
  else l

/-- Closes the block collections that are deeper than a column, given the indentations around the
innermost. -/
def closeBlocks (column : Int) : List Int → Lexer → Lexer
  | [], l => l
  | o :: os, l =>
    if column < l.indent then
      closeBlocks column os (push .blockEnd { l with indent := o, outer := os })
    else l

/-- Closes the block collections that are deeper than a column, outside flow collections. -/
def dedentTo (column : Int) (l : Lexer) : Lexer :=
  if l.inFlow then l else closeBlocks column l.outer l

/-! ## Between tokens -/

/-- Past blanks, comments and breaks. A tab counts as a blank only where no key may begin; behind a
break outside flow collections a key may begin. A line may begin with a byte order mark, which takes
up a column. -/
def skipToToken : Nat → Lexer → Lexer
  | 0, l => l
  | fuel + 1, l =>
    let tabs := l.inFlow || !l.keyAllowed
    let c := l.cursor
    let c := if c.column = 0 ∧ c.at? '\ufeff' then c.skip else c
    let c := c.skipWhile fun ch => ch = ' ' || (tabs && ch = '\t')
    let c := if c.at? '#' then c.skipWhile (fun ch => !isBreak ch) else c
    if c.atBreak then
      skipToToken fuel { l with cursor := c.skipLine, keyAllowed := !l.inFlow || l.keyAllowed }
    else { l with cursor := c }

/-! ## Directives and tags -/

/-- The digits of a version, at most nine. -/
def takeVersionNumber (c : Cursor) : Option (Nat × Cursor) :=
  let digits := c.rest.takeWhile Char.isDigit
  if digits.isEmpty ∨ 9 < digits.length then none
  else some (Nat.ofDigitChars 10 digits 0, c.skipMany digits.length)

/-- The handle of a tag: an exclamation mark, and perhaps a word and another one. In a directive
only the bare mark may do without the second. -/
def takeHandle (inDirective : Bool) (c : Cursor) : Option (List Char × Cursor) :=
  if !c.at? '!' then none
  else
    let c := c.skip
    let word := c.rest.takeWhile isWordChar
    let c := c.skipMany word.length
    if c.at? '!' then some ('!' :: word ++ ['!'], c.skip)
    else if inDirective && !word.isEmpty then none
    else some ('!' :: word, c)

/-- Whether a character may occur in a tag. -/
def isUriChar (verbatim : Bool) (c : Char) : Bool :=
  isWordChar c || ";/?:@&=+$.%!~*()".toList.contains c || c = '\x27' ||
    (verbatim && (c = ',' || c = '[' || c = ']'))

/-- The text of a tag, which must not be empty. -/
def takeUri (verbatim : Bool) (c : Cursor) : Option (TagText × Cursor) := do
  let raw := c.rest.takeWhile (isUriChar verbatim)
  let uri ← TagText.unescape raw
  if raw.isEmpty then none else some (uri.beforeNull, c.skipMany raw.length)

/-- A tag, as handle and suffix. A tag written in full has no handle, and neither has the bare
exclamation mark. -/
def takeTag (inFlow : Bool) (c : Cursor) : Option (Token × Cursor) := do
  let (handle, suffix, c) ←
    if c.peekAt 1 = some '<' then do
      let (uri, c) ← takeUri true (c.skipMany 2)
      if c.at? '>' then some ([], uri, c.skip) else none
    else do
      let (handle, c) ← takeHandle false c
      if 2 ≤ handle.length ∧ handle.getLast? = some '!' then do
        let (uri, c) ← takeUri false c
        some (handle, uri, c)
      else do
        let raw := c.rest.takeWhile (isUriChar false)
        let uri ← TagText.unescape raw
        let c := c.skipMany raw.length
        let suffix := TagText.beforeNull (.ofChars (handle.drop 1) ++ uri)
        if suffix.isEmpty then some ([], .ofChars ['!'], c) else some (['!'], suffix, c)
  if separates c.peek || (inFlow && c.at? ',') then some (.tag (String.ofList handle) suffix, c)
  else none

/-- The end of the line of a directive. -/
def finishLine (c : Cursor) : Option Cursor :=
  let c := c.skipWhile isBlank
  let c := if c.at? '#' then c.skipWhile (fun ch => !isBreak ch) else c
  if c.rest.isEmpty || c.atBreak then some c.skipLine else none

/-- A directive: the version of the language, or the meaning of a handle of tags. -/
def takeDirective (c : Cursor) : Option (Token × Cursor) := do
  let c := c.skip
  let name := c.rest.takeWhile isWordChar
  let c := c.skipMany name.length
  if name.isEmpty ∨ ¬ separates c.peek then none
  else if name = "YAML".toList then do
    let (major, c) ← takeVersionNumber (c.skipWhile isBlank)
    if !c.at? '.' then none
    else do
      let (minor, c) ← takeVersionNumber c.skip
      some (.versionDirective major minor, ← finishLine c)
  else if name = "TAG".toList then do
    let (handle, c) ← takeHandle true (c.skipWhile isBlank)
    if !c.atBlank then none
    else do
      let (uri, c) ← takeUri true (c.skipWhile isBlank)
      if !separates c.peek then none
      else some (.tagDirective (String.ofList handle) uri, ← finishLine c)
  else none

/-! ## Tokens -/

/-- Opens a flow collection. -/
def openFlow (t : Token) (l : Lexer) : Option Lexer := do
  let l ← l.noteKey
  some (push t { l with keys := none :: l.keys, keyAllowed := true, cursor := l.cursor.skip })

/-- Closes a flow collection. -/
def closeFlow (t : Token) (l : Lexer) : Option Lexer := do
  let l ← l.dropKey
  let keys := if l.inFlow then l.keys.drop 1 else l.keys
  some (push t { l with keys, keyAllowed := false, cursor := l.cursor.skip })

/-- The comma between items of a flow collection. -/
def flowEntry (l : Lexer) : Option Lexer := do
  let l ← l.dropKey
  some (push .flowEntry { l with keyAllowed := true, cursor := l.cursor.skip })

/-- The dash in front of an item. -/
def blockEntry (l : Lexer) : Option Lexer := do
  if !l.inFlow && !l.keyAllowed then none
  else
    let l := l.indentTo l.cursor.column l.tokens.size .blockSequenceStart
    let l ← l.dropKey
    some (push .blockEntry { l with keyAllowed := true, cursor := l.cursor.skip })

/-- The question mark in front of a key. -/
def explicitKey (l : Lexer) : Option Lexer := do
  if !l.inFlow && !l.keyAllowed then none
  else
    let l := l.indentTo l.cursor.column l.tokens.size .blockMappingStart
    let l ← l.dropKey
    some (push .key { l with keyAllowed := !l.inFlow, cursor := l.cursor.skip })

/-- The colon behind a key. -/
def valueMark (l : Lexer) : Option Lexer :=
  match l.keys with
  | some k :: ks =>
    -- what was read since the noted place turns out to be a key
    let l := l.insertAt k.token .key
    let l := l.indentTo k.column k.token .blockMappingStart
    some (push .value { l with keys := none :: ks, keyAllowed := false, cursor := l.cursor.skip })
  | _ =>
    if !l.inFlow && !l.keyAllowed then none
    else
      let l := l.indentTo l.cursor.column l.tokens.size .blockMappingStart
      some (push .value { l with keyAllowed := !l.inFlow, cursor := l.cursor.skip })

/-- An anchor, or an alias of one. -/
def anchorOrAlias (isAlias : Bool) (l : Lexer) : Option Lexer := do
  let l ← l.noteKey
  let c := l.cursor.skip
  let name := c.rest.takeWhile isWordChar
  let c := c.skipMany name.length
  let closed :=
    separates c.peek || (c.peek.map fun ch => "?:,]\x7d%@\x60".toList.contains ch).getD false
  if name.isEmpty || !closed then none
  else
    let s := String.ofList name
    let token := if isAlias then Token.alias s else .anchor s
    some (push token { l with keyAllowed := false, cursor := c })

/-- A scalar that may be a key. -/
def inlineScalar (style : ScalarStyle) (fuel : Nat) (l : Lexer) : Option Lexer := do
  let l ← l.noteKey
  let l := { l with keyAllowed := false }
  match style with
  | .plain => do
    let (text, broken, c) ← takePlain l.inFlow (l.indent + 1) fuel [] {} l.cursor
    some (push (.scalar (String.ofList text.reverse) style)
      { l with keyAllowed := l.keyAllowed || broken, cursor := c })
  | _ => do
    let (text, c) ← takeQuoted (style = .singleQuoted) fuel [] l.cursor.skip
    some (push (.scalar (String.ofList text.reverse) style) { l with cursor := c })

/-- A block scalar. -/
def blockScalar (style : ScalarStyle) (fuel : Nat) (l : Lexer) : Option Lexer := do
  let l ← l.dropKey
  let (text, c) ← takeBlock (style = .folded) l.indent fuel l.cursor.skip
  let l := { l with keyAllowed := true, cursor := c }
  some (push (.scalar (String.ofList text.reverse) style) l)

/-- The beginning or the end of a document. -/
def documentMarker (t : Token) (l : Lexer) : Option Lexer := do
  let l ← (l.dedentTo (-1)).dropKey
  some (push t { l with keyAllowed := false, cursor := l.cursor.skipMany 3 })

/-- A directive. -/
def directive (l : Lexer) : Option Lexer := do
  let l ← (l.dedentTo (-1)).dropKey
  let (t, c) ← takeDirective l.cursor
  some (push t { l with keyAllowed := false, cursor := c })

/-- The end of the text. -/
def streamEnd (l : Lexer) : Option Lexer := do
  let l ← (l.dedentTo (-1)).dropKey
  some (push .streamEnd { l with keyAllowed := false })

/-- Whether a plain scalar begins with a character in front of another. -/
def beginsPlain (inFlow : Bool) (ch : Char) (next : Option Char) : Bool :=
  let indicator := "-?:,[]\x7b\x7d#&*!|>\x27\"%@\x60".toList.contains ch
  let nextBlank := (next.map isBlank).getD false
  (!isBlankOrBreak ch && !indicator) || (ch = '-' && !nextBlank) ||
    (!inFlow && (ch = '?' || ch = ':') && !separates next)

/-- The token that comes, of which the first character is given, in a number of steps that is enough
for a scalar. -/
def takeToken (fuel : Nat) (ch : Char) (l : Lexer) : Option Lexer :=
  let c := l.cursor
  let next := c.peekAt 1
  -- directives and markers count only at the beginning of a line
  if c.column = 0 ∧ ch = '%' then l.directive
  else if c.atMarker '-' then l.documentMarker .documentStart
  else if c.atMarker '.' then l.documentMarker .documentEnd
  else if ch = '[' then l.openFlow .flowSequenceStart
  else if ch = '\x7b' then l.openFlow .flowMappingStart
  else if ch = ']' then l.closeFlow .flowSequenceEnd
  else if ch = '\x7d' then l.closeFlow .flowMappingEnd
  else if ch = ',' then l.flowEntry
  -- these three are indicators only in front of a blank, two of them always in flow collections
  else if ch = '-' ∧ separates next then l.blockEntry
  else if ch = '?' ∧ (l.inFlow ∨ separates next) then l.explicitKey
  else if ch = ':' ∧ (l.inFlow ∨ separates next) then l.valueMark
  else if ch = '*' then l.anchorOrAlias true
  else if ch = '&' then l.anchorOrAlias false
  else if ch = '!' then do
    let l ← l.noteKey
    let (t, c) ← takeTag l.inFlow l.cursor
    some (push t { l with keyAllowed := false, cursor := c })
  else if ch = '|' ∧ ¬ l.inFlow then l.blockScalar .literal fuel
  else if ch = '>' ∧ ¬ l.inFlow then l.blockScalar .folded fuel
  else if ch = '\x27' then l.inlineScalar .singleQuoted fuel
  else if ch = '"' then l.inlineScalar .doubleQuoted fuel
  else if beginsPlain l.inFlow ch next then l.inlineScalar .plain fuel
  else none

/-- All tokens that come, in a number of steps for which three more than there are characters are
enough: every token takes one of them. -/
def run : Nat → Lexer → Option (List Token)
  | 0, _ => none
  | fuel + 1, l => do
    let l := l.skipToToken fuel
    let l ← l.dropStaleKeys
    let l := l.dedentTo l.cursor.column
    match l.cursor.rest with
    | [] => l.streamEnd.map (·.tokens.toList)
    | ch :: _ => do
      let l ← l.takeToken fuel ch
      run fuel l

end Lexer

/-- The tokens of a text; absent where it is malformed or holds a character it must not. -/
def tokens? (s : String) : Option (List Token) :=
  let cs := s.toList
  if cs.all isPermitted then Lexer.run (cs.length + 3) { cursor := { rest := cs } } else none

end PodSwap.Yaml
