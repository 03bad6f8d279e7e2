import PodSwap.Document
import PodSwap.Power
import PodSwap.Text.Integer
import PodSwap.Yaml.Node

/-!
# What a YAML tree says

Where text is asked for a scalar is its text, however it looks. Where the shape is free a plain
scalar is nothing, a truth value or a number if it looks like one, and otherwise text. Digits behind
a leading zero are text, and an integer beyond 64 bits is refused.
-/

namespace PodSwap.Yaml

/-! ## Plain scalars of free shape -/

/-- Whether a plain scalar stands for nothing. -/
def isNull (s : List Char) : Bool :=
  s = "null".toList || s = "Null".toList || s = "NULL".toList || s = ['~']

/-- The truth value that a scalar names. -/
def truth? (s : List Char) : Option Bool :=
  if s = "true".toList ∨ s = "True".toList ∨ s = "TRUE".toList then some true
  else if s = "false".toList ∨ s = "False".toList ∨ s = "FALSE".toList then some false
  else none

/-- The text without a sign at its beginning. -/
def unsigned (s : List Char) : List Char :=
  match s with
  | '+' :: rest => rest
  | '-' :: rest => rest
  | _ => s

/-- Whether the text begins with a sign. -/
def hasSign (s : List Char) : Bool := s.head? = some '+' || s.head? = some '-'

/-- Whether the text is made of digits of which the first of several is zero. -/
def isZeroPadded (s : List Char) : Bool :=
  let digits := unsigned s
  1 < digits.length && digits.head? = some '0' && (digits.drop 1).all Char.isDigit

/-- The value of digits of a base, of which there is at least one. -/
def digitsOf? (base : Nat) (s : List Char) : Option Nat :=
  if s.isEmpty then none
  else
    s.foldlM (fun acc c => do
      let d ← Text.hexValue? c
      if d < base then some (acc * base + d) else none) 0

/-- Digits of a base behind their mark, or decimal digits. -/
def magnitude? (s : List Char) : Option Nat :=
  match s with
  | '0' :: 'x' :: rest => digitsOf? 16 rest
  | '0' :: 'o' :: rest => digitsOf? 8 rest
  | '0' :: 'b' :: rest => digitsOf? 2 rest
  | _ => if isZeroPadded s then none else digitsOf? 10 s

/-- An integer of any size. -/
def integer? (s : List Char) : Option Int :=
  match s with
  | '+' :: rest => (magnitude? rest).map Int.ofNat
  | '-' :: rest => (magnitude? rest).map fun n => -(n : Int)
  | _ => (magnitude? s).map Int.ofNat

/-- A floating-point number without a sign: digits with a point among them or none, at least one of
them, and perhaps an exponent. One too large is absent. -/
def magnitudeFloat? (s : List Char) : Option Double := do
  let whole := s.takeWhile Char.isDigit
  let s := s.dropWhile Char.isDigit
  let (fraction, s) :=
    match s with
    | '.' :: rest => (rest.takeWhile Char.isDigit, rest.dropWhile Char.isDigit)
    | _ => ([], s)
  if whole.isEmpty && fraction.isEmpty then none
  else
    let e : Int ←
      match s with
      | [] => some 0
      | m :: rest =>
        if m = 'e' ∨ m = 'E' then
          let digits := unsigned rest
          if digits.isEmpty ∨ ¬ digits.all Char.isDigit then none
          else
            let n : Int := Nat.ofDigitChars 10 digits 0
            some (if rest.head? = some '-' then -n else n)
        else none
    let digits := (whole ++ fraction).dropWhile (· = '0')
    let point : Int := e - fraction.length
    if digits.isEmpty then some ⟨0⟩
    -- beyond these powers every number is too large or rounds to zero
    else if (400 : Int) < point + digits.length then none
    else if point + digits.length < -400 then some ⟨0⟩
    else Double.ofDecimal (Nat.ofDigitChars 10 digits 0) point

/-- What a scalar means that is a floating-point number by its looks; the infinities and the
undefined number mean nothing. -/
def float? (s : List Char) : Option Json :=
  let body :=
    match s with
    | '+' :: rest => if hasSign rest then none else some rest
    | _ => some s
  let special (names : List String) (t : List Char) : Bool := names.any fun n => n.toList = t
  match body with
  | none => none
  | some body =>
    if special [".inf", ".Inf", ".INF"] body || special ["-.inf", "-.Inf", "-.INF"] s ||
        special [".nan", ".NaN", ".NAN"] s then some .null
    else
      match body with
      | '-' :: rest => (magnitudeFloat? rest).map fun d => .num (.double d.negate)
      | _ => (magnitudeFloat? body).map fun d => .num (.double d)

/-- The largest magnitude of an integer that is refused for its size and not read as a
floating-point number. -/
def refusedBelow (negative : Bool) : Nat := if negative then pow2 127 + 1 else pow2 128

/-- An integer as a value: absent if the text is none, refused if it does not fit 64 bits. -/
def integerValue (s : List Char) : Option (Option Json) :=
  match integer? s with
  | none => none
  | some n =>
    if -(pow2 63 : Int) ≤ n ∧ n < pow2 64 then some (some (.int n))
    else if n.natAbs < refusedBelow (n < 0) then some none
    -- an integer too large even for 128 bits is taken for a floating-point number
    else none

/-- What a plain scalar means; absent if it is refused. -/
def plainValue (s : List Char) : Option Json :=
  if s.isEmpty || isNull s then some .null
  else
    match truth? s with
    | some b => some (.bool b)
    | none =>
      match integerValue s with
      | some v => v
      | none =>
        if isZeroPadded s then some (.str (String.ofList s))
        else some ((float? s).getD (.str (String.ofList s)))

/-- What a scalar means; absent if it is refused. A tag of a core type asks for that type. One that
begins like a tag of the user's own and still names nothing leaves the scalar as it looks. -/
def scalarValue (tag : Option TagText) (style : ScalarStyle) (text : String) : Option Json :=
  let s := text.toList
  let asItLooks := if style = .plain then plainValue s else some (.str text)
  match tag with
  | none => asItLooks
  | some t =>
    if t.ownName?.isSome then none
    else if t = .core "bool" then (truth? s).map .bool
    else if t = .core "int" then (integerValue s).join
    else if t = .core "float" then float? s
    else if t = .core "null" then (if isNull s then some .null else none)
    else if t.isOwn then asItLooks
    else some (.str text)

/-! ## Branches -/

/-- A place in a tree from which reading goes on. -/
structure Branch where
  tree : Tree
  /-- The node there, absent in a text without a document. -/
  node : Option Node
  /-- How many collections may still be entered, one in another. -/
  depth : Nat

namespace Branch

/-- The deepest nesting of collections. -/
def maxDepth : Nat := 128

/-- The whole of a tree. -/
def ofTree (t : Tree) : Branch := ⟨t, t.root, maxDepth⟩

/-- The branch of a node inside the collection of a branch. -/
def inner (b : Branch) (n : Node) : Branch := { b with node := some n, depth := b.depth - 1 }

/-- The branch itself, or that of the node which an alias stands for. -/
def follow (b : Branch) : Following Branch := do
  match b.node with
  | some (.alias number) =>
    Document.countReference
    match b.tree.node? number with
    | some n => return { b with node := some n }
    | none => throw "the alias of no node"
  | _ => return b

/-- The text of a scalar. -/
def text? (b : Branch) : Option String :=
  match b.node with
  | some (.scalar _ _ s) => some s
  | _ => none

/-- Whether the node was left out: a plain scalar without text, or a text without a document. -/
def isEmpty (b : Branch) : Bool :=
  match b.node with
  | some (.scalar _ style s) => style = .plain && s.isEmpty
  | some _ => false
  | none => true

/-- Whether the node stands for nothing where a value is optional. A plain scalar whose tag says
that it is nothing has to look like it. -/
def isAbsent? (b : Branch) : Option Bool :=
  match b.node with
  | some (.scalar tag .plain s) =>
    match tag with
    | none => some (s.isEmpty || isNull s.toList)
    | some t =>
      if t = .core "null" then (if isNull s.toList then some true else none) else some false
  | some _ => some false
  | none => some true

/-- The items of a sequence; a node that was left out has none. -/
def items? (b : Branch) : Option (List Branch) :=
  match b.node with
  | some (.sequence _ items) => if b.depth = 0 then none else some (items.map b.inner)
  | _ => if b.isEmpty then some [] else none

/-- The pairs of a mapping; a node that was left out has none. -/
def pairs? (b : Branch) : Option (List (Branch × Branch)) :=
  match b.node with
  | some (.mapping _ pairs) =>
    if b.depth = 0 then none else some (pairs.map fun p => (b.inner p.1, b.inner p.2))
  | _ => if b.isEmpty then some [] else none

/-- The choice among alternatives: the text of a scalar, or the name that a tag gives to one that
looks like nothing. -/
def choice? (b : Branch) : Option String :=
  match b.node with
  | some (.scalar tag style s) =>
    match tag.bind TagText.ownName? with
    | none => some s
    | some name =>
      if style = .plain && (s.isEmpty || isNull s.toList) then some name else none
  | _ => none

/-- Whether the node is the user's own by its tag. -/
def isOwn (b : Branch) : Bool :=
  match b.node with
  | some (.sequence tag _) => (tag.bind TagText.ownName?).isSome
  | some (.mapping tag _) => (tag.bind TagText.ownName?).isSome
  | _ => false

/-- The branch as a value of free shape, in a number of steps for which its depth is enough. -/
def valueWithin : Nat → Branch → Following Json
  | 0, _ => throw "a value nests too deep"
  | fuel + 1, b => do
    let b ← b.follow
    if b.isOwn then throw "a value of the user's own"
    else
      match b.node with
      | none => return .null
      | some (.scalar tag style s) =>
        match scalarValue tag style s with
        | some j => return j
        | none => throw "a scalar without meaning"
      | _ =>
        match b.items?, b.pairs? with
        | some bs, _ => return .arr (← bs.mapM (valueWithin fuel))
        | none, some ps =>
          let ms ← ps.mapM fun p => do
            match (← p.1.follow).text? with
            | some key => return (key, ← valueWithin fuel p.2)
            | none => throw "a key that is no scalar"
          return .object ms
        | none, none => throw "a value nests too deep"

end Branch

/-- The tree of a text is a document, in which aliases are followed a hundred times as often as it
has marks. -/
instance : Document Branch where
  follow := Branch.follow
  followLimit b := 100 * b.tree.size
  text? := Branch.text?
  isAbsent? := Branch.isAbsent?
  items? := Branch.items?
  pairs? := Branch.pairs?
  choice? := Branch.choice?
  value b := b.valueWithin (b.depth + 1)

end PodSwap.Yaml
