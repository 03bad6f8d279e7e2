import PodSwap.Text.Hexadecimal
import PodSwap.Yaml.Token

/-!
# The texts of scalars

A plain or quoted scalar may run over several lines: one break between two lines becomes a space,
further breaks stay. A block scalar takes the lines that are indented deeply enough; folded, it
joins lines that begin with neither blank.

All functions take a bound on the number of steps, for which two more than there are characters to
come is enough. Every step takes a character, so the steps that are left are enough for the parts of
a scalar too. Texts grow backwards and are turned at the end.
-/

namespace PodSwap.Yaml

/-- The blanks and breaks between two words of a scalar, texts backwards. -/
structure Gap where
  blanks : List Char := []
  first : List Char := []
  more : List Char := []
  broken : Bool := false

namespace Gap

/-- The text with the gap behind it, both backwards. A single break is a space. -/
def append (g : Gap) (text : List Char) : List Char :=
  if g.broken then
    if g.first = ['\n'] then
      if g.more.isEmpty then ' ' :: text else g.more ++ text
    else g.more ++ (g.first ++ text)
  else g.blanks ++ text

/-- Takes blanks and breaks. Where `tabLimit` is given, a tab before that column behind a break is
refused. -/
def take (tabLimit : Option Int) : Nat → Gap → Cursor → Option (Gap × Cursor)
  | 0, g, c => some (g, c)
  | fuel + 1, g, c =>
    match c.peek with
    | none => some (g, c)
    | some ch =>
      if isBlank ch then
        let refused :=
          match tabLimit with
          | some limit => g.broken && ch = '\t' && (c.column : Int) < limit
          | none => false
        if refused then none
        else if g.broken then take tabLimit fuel g c.skip
        else take tabLimit fuel { g with blanks := ch :: g.blanks } c.skip
      else if isBreak ch then
        if g.broken then
          take tabLimit fuel { g with more := c.breakChar ++ g.more } c.skipLine
        else
          let g := { g with blanks := [], first := c.breakChar, broken := true }
          take tabLimit fuel g c.skipLine
      else some (g, c)

end Gap

/-! ## Plain scalars -/

/-- Whether a plain scalar in a flow collection ends at the character. -/
def endsPlainInFlow (c : Char) : Bool := c = ',' || c = '[' || c = ']' || c = '{' || c = '}'

/-- The characters of a word of a plain scalar, backwards. -/
def takePlainWord (inFlow : Bool) : Nat → List Char → Cursor → Option (List Char × Cursor)
  | 0, word, c => some (word, c)
  | fuel + 1, word, c =>
    match c.peek with
    | none => some (word, c)
    | some ch =>
      if isBlankOrBreak ch then some (word, c)
      else
        let next := c.peekAt 1
        -- in a flow collection a colon right in front of an indicator is refused
        let closes := (next.map fun n => endsPlainInFlow n || n = '?').getD false
        if inFlow && ch = ':' && closes then none
        else if ch = ':' && separates next then some (word, c)
        else if inFlow && endsPlainInFlow ch then some (word, c)
        else takePlainWord inFlow fuel (ch :: word) c.skip

/-- A plain scalar, backwards, and whether a break stands behind it. -/
def takePlain (inFlow : Bool) (indent : Int) :
    Nat → List Char → Gap → Cursor → Option (List Char × Bool × Cursor)
  | 0, text, gap, c => some (text, gap.broken, c)
  | fuel + 1, text, gap, c =>
    if c.atDocumentMarker || c.at? '#' then some (text, gap.broken, c)
    else do
      let (word, next) ← takePlainWord inFlow fuel [] c
      if word.isEmpty then some (text, gap.broken, next)
      else
        let text := word ++ gap.append text
        if !(next.atBlank || next.atBreak) then some (text, false, next)
        else do
          let (gap, next) ← Gap.take (some indent) fuel {} next
          if !inFlow && (next.column : Int) < indent then some (text, gap.broken, next)
          else takePlain inFlow indent fuel text gap next

/-! ## Quoted scalars -/

/-- The character of an escape of one letter. -/
def simpleEscape? (c : Char) : Option Char :=
  if c = '0' then some '\x00'
  else if c = 'a' then some '\x07'
  else if c = 'b' then some '\x08'
  else if c = 't' ∨ c = '\t' then some '\t'
  else if c = 'n' then some '\n'
  else if c = 'v' then some '\x0b'
  else if c = 'f' then some '\x0c'
  else if c = 'r' then some '\r'
  else if c = 'e' then some '\x1b'
  else if c = ' ' ∨ c = '"' ∨ c = '/' ∨ c = '\\' then some c
  else if c = 'N' then some '\x85'
  else if c = '_' then some '\xa0'
  else if c = 'L' then some '\u2028'
  else if c = 'P' then some '\u2029'
  else none

/-- How many hexadecimal digits an escape has. -/
def escapeLength? (c : Char) : Option Nat :=
  if c = 'x' then some 2 else if c = 'u' then some 4 else if c = 'U' then some 8 else none

/-- The character that hexadecimal digits name; a surrogate or a number beyond the last character is
refused. -/
def numbered? (digits : List Char) : Option Char := do
  let n ← digits.foldlM (fun acc c => (Text.hexValue? c).map (acc * 16 + ·)) 0
  if (0xD800 ≤ n ∧ n ≤ 0xDFFF) ∨ 0x10FFFF < n then none else some (Char.ofNat n)

/-- The characters of a quoted scalar up to a blank, a break or the closing quote, backwards, and
whether an escaped break ended them. -/
def takeQuotedWord (single : Bool) : Nat → List Char → Cursor → Option (List Char × Bool × Cursor)
  | 0, text, c => some (text, false, c)
  | fuel + 1, text, c =>
    match c.rest with
    | [] => some (text, false, c)
    | ch :: rest =>
      if isBlankOrBreak ch then some (text, false, c)
      else if single then
        match ch, rest with
        | '\x27', '\x27' :: _ => takeQuotedWord single fuel ('\x27' :: text) (c.skipMany 2)
        | '\x27', _ => some (text, false, c)
        | _, _ => takeQuotedWord single fuel (ch :: text) c.skip
      else if ch = '"' then some (text, false, c)
      else if ch = '\\' then
        match rest with
        | [] => none
        | e :: _ =>
          if isBreak e then some (text, true, c.skip.skipLine)
          else
            match escapeLength? e with
            | some n => do
              let digits := (c.rest.drop 2).take n
              if digits.length < n then none
              else
                let made ← numbered? digits
                takeQuotedWord single fuel (made :: text) (c.skipMany (2 + n))
            | none => do
              let made ← simpleEscape? e
              takeQuotedWord single fuel (made :: text) (c.skipMany 2)
      else takeQuotedWord single fuel (ch :: text) c.skip

/-- A quoted scalar behind its opening quote, backwards. -/
def takeQuoted (single : Bool) : Nat → List Char → Cursor → Option (List Char × Cursor)
  | 0, _, _ => none
  | fuel + 1, text, c =>
    if c.atDocumentMarker || c.rest.isEmpty then none
    else do
      let (text, escaped, c) ← takeQuotedWord single fuel text c
      if c.at? (if single then '\x27' else '"') then some (text, c.skip)
      else do
        let (gap, c) ← Gap.take none fuel { broken := escaped } c
        takeQuoted single fuel (gap.append text) c

/-! ## Block scalars -/

/-- What becomes of the breaks at the end of a block scalar. -/
inductive Chomping where
  /-- None stays. -/
  | strip
  /-- One stays. -/
  | clip
  /-- All stay. -/
  | keep
deriving DecidableEq, Repr

/-- The sign of chomping, if it comes. -/
def takeChomping (c : Cursor) : Option Chomping × Cursor :=
  if c.at? '+' then (some .keep, c.skip)
  else if c.at? '-' then (some .strip, c.skip)
  else (none, c)

/-- The digit of indentation, if it comes; zero is refused. -/
def takeIncrement (c : Cursor) : Option (Option Nat × Cursor) :=
  match c.peek with
  | some d =>
    if d.isDigit then
      if d = '0' then none else some (some (d.toNat - '0'.toNat), c.skip)
    else some (none, c)
  | none => some (none, c)

/-- The chomping and the indentation behind the indicator of a block scalar, in either order. -/
def takeBlockHeader (c : Cursor) : Option (Chomping × Option Nat × Cursor) :=
  match takeChomping c with
  | (some chomping, c) => (takeIncrement c).map fun (n, c) => (chomping, n, c)
  | (none, c) => do
    match ← takeIncrement c with
    | (some n, c) =>
      let (chomping, c) := takeChomping c
      some (chomping.getD .clip, some n, c)
    | (none, c) => some (.clip, none, c)

/-- Indentation and empty lines in front of a line of a block scalar: the breaks backwards and the
deepest column met. While the indentation is not known every space counts to it. A tab in place of
indentation is refused. -/
def takeBlockBreaks (indent : Option Int) :
    Nat → List Char → Nat → Cursor → Option (List Char × Nat × Cursor)
  | 0, breaks, deepest, c => some (breaks, deepest, c)
  | fuel + 1, breaks, deepest, c =>
    let shallow (c : Cursor) : Bool :=
      match indent with
      | some n => (c.column : Int) < n
      | none => true
    let spaces := (c.rest.takeWhile (· = ' ')).length
    let room :=
      match indent with
      | some n => min spaces (n - c.column).toNat
      | none => spaces
    let c := c.skipMany room
    let deepest := max deepest c.column
    if shallow c && c.at? '\t' then none
    else if c.atBreak then
      takeBlockBreaks indent fuel (c.breakChar ++ breaks) deepest c.skipLine
    else some (breaks, deepest, c)

/-- The lines of a block scalar, backwards, with the breaks behind the last of them. -/
def takeBlockLines (folded : Bool) (indent : Int) :
    Nat → List Char → List Char → List Char → Bool → Cursor →
    Option (List Char × List Char × List Char × Cursor)
  | 0, text, lead, breaks, _, c => some (text, lead, breaks, c)
  | fuel + 1, text, lead, breaks, blankBefore, c =>
    if (c.column : Int) ≠ indent ∨ c.rest.isEmpty then some (text, lead, breaks, c)
    else
      let blank := c.atBlank
      -- one break between two lines that begin with no blank becomes a space
      let joined :=
        if folded && lead = ['\n'] && !blankBefore && !blank then
          if breaks.isEmpty then ' ' :: text else text
        else lead ++ text
      let line := c.rest.takeWhile fun ch => !isBreak ch
      let text := line.reverse ++ (breaks ++ joined)
      let c := c.skipMany line.length
      let lead := c.breakChar
      match takeBlockBreaks (some indent) fuel [] 0 c.skipLine with
      | none => none
      | some (breaks, _, c) => takeBlockLines folded indent fuel text lead breaks blank c

/-- A block scalar behind its indicator, inside a collection with the given indentation. -/
def takeBlock (folded : Bool) (parent : Int) (fuel : Nat) (c : Cursor) :
    Option (List Char × Cursor) := do
  let (chomping, increment, c) ← takeBlockHeader c
  -- behind the indicator nothing but a comment may stand
  let c := c.skipWhile isBlank
  let c := if c.at? '#' then c.skipWhile (fun ch => !isBreak ch) else c
  if !(c.rest.isEmpty || c.atBreak) then none
  else
    let c := c.skipLine
    let given : Option Int := increment.map fun n => if 0 ≤ parent then parent + n else n
    let (breaks, deepest, c) ← takeBlockBreaks given fuel [] 0 c
    -- where no indentation is given the deepest of the empty lines and the first line decides
    let indent := given.getD (max (max deepest (parent + 1)) 1)
    let (text, lead, breaks, c) ← takeBlockLines folded indent fuel [] [] breaks false c
    let text := if chomping = .strip then text else lead ++ text
    let text := if chomping = .keep then breaks ++ text else text
    some (text, c)

end PodSwap.Yaml
