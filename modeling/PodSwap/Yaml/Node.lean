import PodSwap.Entries
import PodSwap.Yaml.Lexer

/-!
# The tree of a YAML text

Tokens make a tree of scalars, sequences and mappings, by recursive descent. An alias is a node of
its own, which is followed only when the tree is read. It names a node by a number: an anchor gets
as its number how many names of anchors there were before it. A name that is used again makes no
further name, so the next anchor gets the same number; of several nodes under one number all aliases
stand for the one that begins last.
-/

namespace PodSwap.Yaml

/-- A node of a tree. -/
inductive Node where
  | scalar (tag : Option TagText) (style : ScalarStyle) (text : String)
  | sequence (tag : Option TagText) (items : List Node)
  | mapping (tag : Option TagText) (pairs : List (Node × Node))
  /-- Another node of the tree, by the number of its anchor. -/
  | alias (number : Nat)
deriving Inhabited

/-- The scalar that stands where nothing was written. -/
def Node.nothing : Node := .scalar none .plain ""

/-- A node with an anchor. -/
structure Anchored where
  number : Nat
  /-- How many marks of the text came before it. -/
  start : Nat
  node : Node

/-- The tree of a text. -/
structure Tree where
  /-- The node of the document, if there is one. -/
  root : Option Node := none
  anchored : List Anchored := []
  /-- How many marks the text has: one for every scalar and alias, two for every collection. -/
  size : Nat := 1

/-- The node that aliases with a number stand for: of those with the number the one that begins
last. -/
def Tree.node? (t : Tree) (number : Nat) : Option Node :=
  let later (best : Option Anchored) (a : Anchored) : Option Anchored :=
    match best with
    | some b => if b.start < a.start then some a else best
    | none => some a
  ((t.anchored.filter (·.number = number)).foldl later none).map (·.node)

/-- What is known while a tree is assembled: the tokens that come, the handles of tags, the numbers
of anchors and the nodes with anchors, and how many marks there were. -/
structure Assembly where
  tokens : List Token
  handles : List (String × TagText)
  numbers : List (String × Nat) := []
  anchored : List Anchored := []
  size : Nat := 0

namespace Assembly

/-- The token that comes. -/
def peek (c : Assembly) : Token := c.tokens.headD .streamEnd

/-- Past the token that comes. -/
def skip (c : Assembly) : Assembly := { c with tokens := c.tokens.drop 1 }

/-- The assembly with some marks more. -/
def grow (n : Nat) (c : Assembly) : Assembly := { c with size := c.size + n }

/-- What an anchor or a tag says about the node behind it. -/
structure Properties where
  anchor : Option String := none
  tag : Option TagText := none

/-- Whether there are any. -/
def Properties.isGiven (p : Properties) : Bool := p.anchor.isSome || p.tag.isSome

/-- The tag that a handle and a suffix make. -/
def resolveTag (c : Assembly) (handle : String) (suffix : TagText) : Option TagText :=
  if handle.isEmpty then some suffix
  else (c.handles.find? (·.1 = handle)).map fun h => h.2 ++ suffix

/-- The properties in front of a node: an anchor and a tag in either order. -/
def takeProperties (c : Assembly) : Option (Properties × Assembly) :=
  match c.peek with
  | .anchor a =>
    match c.skip.peek with
    | .tag h s => (c.resolveTag h s).map fun t => (⟨some a, some t⟩, c.skip.skip)
    | _ => some (⟨some a, none⟩, c.skip)
  | .tag h s =>
    match c.skip.peek with
    | .anchor a => (c.resolveTag h s).map fun t => (⟨some a, some t⟩, c.skip.skip)
    | _ => (c.resolveTag h s).map fun t => (⟨none, some t⟩, c.skip)
  | _ => some ({}, c)

/-- The assembly once a node has begun: its anchor has a number. -/
def begin (p : Properties) (c : Assembly) : Assembly :=
  match p.anchor with
  | some a => { c with numbers := Entries.insert a c.numbers.length c.numbers }
  | none => c

/-- The assembly once a node is complete that began at an earlier one. -/
def complete (c : Assembly) (p : Properties) (start : Assembly) (n : Node) : Assembly :=
  if p.anchor.isSome then
    { c with anchored := ⟨start.numbers.length, start.size, n⟩ :: c.anchored }
  else c

/-- A node of which nothing but its properties was written. -/
def takeBare (p : Properties) (c : Assembly) : Option (Node × Assembly) :=
  let n := Node.scalar p.tag .plain ""
  if p.isGiven then some (n, ((c.begin p).grow 1).complete p c n) else none

/-- Whether the token is one of those given by a test, for the places where nothing may stand. -/
abbrev Stops := Token → Bool

/-- The tokens before which a node of a block mapping is empty. -/
def endsMappingNode : Stops
  | .key => true
  | .value => true
  | .blockEnd => true
  | _ => false

/-- The tokens before which an item of a block sequence is empty. -/
def endsItem : Stops
  | .blockEntry => true
  | .blockEnd => true
  | _ => false

/-- The tokens before which an item of a sequence without indentation is empty. -/
def endsIndentlessItem : Stops
  | .blockEntry => true
  | .key => true
  | .value => true
  | .blockEnd => true
  | _ => false

/-- The tokens before which a key of a flow collection is empty. -/
def endsFlowKey (closing : Token) : Stops
  | .value => true
  | .flowEntry => true
  | t => t = closing

/-- The tokens before which a value of a flow collection is empty. -/
def endsFlowValue (closing : Token) : Stops
  | .flowEntry => true
  | t => t = closing

mutual
/-- A node. In a block context it may be a block collection, and in `indentless` places a sequence
that is not indented. -/
def takeNode (block indentless : Bool) : Nat → Assembly → Option (Node × Assembly)
  | 0, _ => none
  | fuel + 1, c =>
    match c.peek with
    | .alias a => (Entries.get? a c.numbers).map fun n => (.alias n, c.skip.grow 1)
    | _ => do
      let (p, start) ← c.takeProperties
      let opened := (start.begin p).grow 2
      let done (n : Node) (c : Assembly) : Option (Node × Assembly) :=
        some (n, c.complete p start n)
      match start.peek with
      | .blockEntry =>
        if indentless then do
          let (items, c) ← takeIndentless fuel opened
          done (.sequence p.tag items) c
        else start.takeBare p
      | .scalar s style => done (.scalar p.tag style s) ((start.begin p).skip.grow 1)
      | .flowSequenceStart => do
        let (items, c) ← takeFlowItems true fuel opened.skip
        done (.sequence p.tag items) c
      | .flowMappingStart => do
        let (pairs, c) ← takeFlowPairs true fuel opened.skip
        done (.mapping p.tag pairs) c
      | .blockSequenceStart =>
        if block then do
          let (items, c) ← takeItems fuel opened.skip
          done (.sequence p.tag items) c
        else start.takeBare p
      | .blockMappingStart =>
        if block then do
          let (pairs, c) ← takePairs fuel opened.skip
          done (.mapping p.tag pairs) c
        else start.takeBare p
      | _ => start.takeBare p

/-- A node, or nothing before the tokens where none has to stand. -/
def takeOptional (stops : Stops) (block indentless : Bool) :
    Nat → Assembly → Option (Node × Assembly)
  | 0, _ => none
  | fuel + 1, c =>
    if stops c.peek then some (.nothing, c.grow 1) else takeNode block indentless fuel c

/-- The items of a block sequence. -/
def takeItems : Nat → Assembly → Option (List Node × Assembly)
  | 0, _ => none
  | fuel + 1, c =>
    match c.peek with
    | .blockEntry => do
      let (n, c) ← takeOptional endsItem true false fuel c.skip
      let (ns, c) ← takeItems fuel c
      some (n :: ns, c)
    | .blockEnd => some ([], c.skip)
    | _ => none

/-- The items of a sequence without indentation of its own. -/
def takeIndentless : Nat → Assembly → Option (List Node × Assembly)
  | 0, _ => none
  | fuel + 1, c =>
    match c.peek with
    | .blockEntry => do
      let (n, c) ← takeOptional endsIndentlessItem true false fuel c.skip
      let (ns, c) ← takeIndentless fuel c
      some (n :: ns, c)
    | _ => some ([], c)

/-- The pairs of a block mapping. -/
def takePairs : Nat → Assembly → Option (List (Node × Node) × Assembly)
  | 0, _ => none
  | fuel + 1, c =>
    match c.peek with
    | .blockEnd => some ([], c.skip)
    | .key => do
      let (k, c) ← takeOptional endsMappingNode true true fuel c.skip
      let (v, c) ← takePairValue fuel c
      let (ps, c) ← takePairs fuel c
      some ((k, v) :: ps, c)
    | .value => none
    | _ => none

/-- The value of a pair of a block mapping, if it has one. -/
def takePairValue : Nat → Assembly → Option (Node × Assembly)
  | 0, _ => none
  | fuel + 1, c =>
    match c.peek with
    | .value => takeOptional endsMappingNode true true fuel c.skip
    | _ => some (.nothing, c.grow 1)

/-- The items of a flow sequence, of which an item may be a single pair. -/
def takeFlowItems (first : Bool) : Nat → Assembly → Option (List Node × Assembly)
  | 0, _ => none
  | fuel + 1, c =>
    match c.peek with
    | .flowSequenceEnd => some ([], c.skip)
    | t =>
      if !first && t ≠ .flowEntry then none
      else
        let c := if first then c else c.skip
        match c.peek with
        | .flowSequenceEnd => some ([], c.skip)
        | .key => do
          let c := c.skip.grow 2
          -- a key that is left out takes the token behind it along
          let (k, c) ←
            if endsFlowKey .flowSequenceEnd c.peek then some (.nothing, c.skip.grow 1)
            else takeNode false false fuel c
          let (v, c) ←
            match c.peek with
            | .value => takeOptional (endsFlowValue .flowSequenceEnd) false false fuel c.skip
            | _ => some (.nothing, c.grow 1)
          let (ns, c) ← takeFlowItems false fuel c
          some (.mapping none [(k, v)] :: ns, c)
        | _ => do
          let (n, c) ← takeNode false false fuel c
          let (ns, c) ← takeFlowItems false fuel c
          some (n :: ns, c)

/-- The pairs of a flow mapping. -/
def takeFlowPairs (first : Bool) : Nat → Assembly → Option (List (Node × Node) × Assembly)
  | 0, _ => none
  | fuel + 1, c =>
    match c.peek with
    | .flowMappingEnd => some ([], c.skip)
    | t =>
      if !first && t ≠ .flowEntry then none
      else
        let c := if first then c else c.skip
        match c.peek with
        | .flowMappingEnd => some ([], c.skip)
        | .key => do
          let (k, c) ← takeOptional (endsFlowKey .flowMappingEnd) false false fuel c.skip
          let (v, c) ←
            match c.peek with
            | .value => takeOptional (endsFlowValue .flowMappingEnd) false false fuel c.skip
            | _ => some (.nothing, c.grow 1)
          let (ps, c) ← takeFlowPairs false fuel c
          some ((k, v) :: ps, c)
        | _ => do
          let (k, c) ← takeNode false false fuel c
          let (ps, c) ← takeFlowPairs false fuel (c.grow 1)
          some ((k, .nothing) :: ps, c)
end

/-! ## Documents -/

/-- The handles that need no directive. -/
def defaultHandles : List (String × TagText) := [("!", .ofChars ['!']), ("!!", .core "")]

/-- Takes the directives in front of a document: the version once, each handle once. -/
def takeDirectives : List Token → Bool → List (String × TagText) →
    Option (List (String × TagText) × Bool × List Token)
  | .versionDirective major minor :: ts, seen, handles =>
    if seen ∨ major ≠ 1 ∨ (minor ≠ 1 ∧ minor ≠ 2) then none
    else takeDirectives ts true handles
  | .tagDirective h u :: ts, seen, handles =>
    if handles.any (·.1 = h) then none else takeDirectives ts seen (handles ++ [(h, u)])
  | ts, seen, handles => some (handles, seen || !handles.isEmpty, ts)

/-- The tree of a node behind which the text has to end. -/
def finish (root : Node) (c : Assembly) : Option Tree :=
  match c.tokens.dropWhile (· = .documentEnd) with
  | [.streamEnd] => some { root := some root, anchored := c.anchored, size := c.size }
  | _ => none

/-- The one document of a text: nothing, or a node with markers around it. -/
def document? (ts : List Token) : Option Tree := do
  let (handles, directed, rest) ← takeDirectives ts false []
  let handles := handles ++ defaultHandles.filter fun h => !handles.any (·.1 = h.1)
  let fuel := 4 * rest.length + 4
  match rest with
  | [.streamEnd] => if directed then none else some {}
  | .documentStart :: rest =>
    let c : Assembly := { tokens := rest, handles }
    match c.peek with
    | .versionDirective .. | .tagDirective .. | .documentStart | .documentEnd | .streamEnd =>
      (c.grow 1).finish .nothing
    | _ => do
      let (root, c) ← c.takeNode true false fuel
      c.finish root
  | _ =>
    if directed then none
    else do
      let (root, c) ← takeNode true false fuel { tokens := rest, handles }
      c.finish root

end Assembly

/-- The tree of a text with at most one document. -/
def Tree.ofText? (s : String) : Option Tree := do Assembly.document? (← tokens? s)

end PodSwap.Yaml
