import Mathlib.Data.List.TakeWhile
import PodSwap.Image.Expression
import PodSwap.Proofs.Image.Grammar

/-!
# What an expression expands to

A placeholder is the word for a part and, in brackets, a name with blanks around it. An expression
is read from left to right: wherever a placeholder begins it is taken whole, and any other character
stands for itself (`Scan`). `pieces` finds just that (`scan_iff`).

Main statement: `resolveExpression_expands`. An expression that is no name of the catalog stands for
an image exactly if all its placeholders do, and is then itself with the parts in their places; else
the first placeholder without an image is named. For a name of at least one character the two
placeholders of its image and its tag come to what the name itself does. Empty brackets are no
placeholder, so an image whose name is empty is not found in this way (`nameless_not_expanded`).
-/

namespace PodSwap.Image

/-! ## Placeholders -/

/-- What stands behind an opening bracket: a name with blanks around it, and the closing bracket. -/
inductive Argument (name : List Char) : List Char → Prop where
  | mk {before after : List Char} (hne : name ≠ []) (hname : ∀ c ∈ name, isNameChar c = true)
    (hbefore : ∀ c ∈ before, Text.isBlank c = true)
    (hafter : ∀ c ∈ after, Text.isBlank c = true) :
    Argument name (before ++ (name ++ (after ++ [')'])))

/-- A placeholder as it is written. -/
inductive Placeholder (part : Part) (name : List Char) : List Char → Prop where
  | mk {arg : List Char} (h : Argument name arg) : Placeholder part name (part.opening ++ arg)

theorem isNameChar_iff {c : Char} : isNameChar c = true ↔ ('A' ≤ c ∧ c ≤ 'Z') ∨
    ('a' ≤ c ∧ c ≤ 'z') ∨ ('0' ≤ c ∧ c ≤ '9') ∨ c = '_' ∨ c = '.' ∨ c = '-' := by
  have hupper : c.isUpper = true ↔ 'A' ≤ c ∧ c ≤ 'Z' := decide_eq_true_iff
  have halphanum : c.isAlphanum = true ↔
      (c.isUpper = true ∨ c.isLower = true) ∨ c.isDigit = true :=
    Bool.or_eq_true_iff.trans (or_congr_left Bool.or_eq_true_iff)
  simp only [isNameChar, Bool.or_eq_true, decide_eq_true_eq, halphanum, hupper, isLower_iff,
    isDigit_iff, or_assoc]

/-- No character of a name is white space. -/
theorem isBlank_of_isNameChar {c : Char} (h : isNameChar c = true) : Text.isBlank c = false := by
  rcases isNameChar_iff.mp h with h | h | h | rfl | rfl | rfl
  · exact Text.isBlank_of_visible (Char.le_trans (by decide) h.1) (Char.le_trans h.2 (by decide))
  · exact Text.isBlank_of_visible (Char.le_trans (by decide) h.1) (Char.le_trans h.2 (by decide))
  · exact Text.isBlank_of_visible (Char.le_trans (by decide) h.1) (Char.le_trans h.2 (by decide))
  all_goals decide

theorem exists_takeWhile (p : Char → Bool) (cs : List Char) :
    ∃ front rest, cs = front ++ rest ∧ cs.takeWhile p = front ∧ cs.drop front.length = rest ∧
      ∀ c ∈ front, p c = true := by
  have hdrop := List.prefix_iff_eq_append.mp (List.takeWhile_prefix (l := cs) p)
  exact ⟨_, _, hdrop.symm, rfl, rfl, fun _ hc => List.mem_takeWhile_imp hc⟩

/-- The reader of what stands behind a bracket finds it where it stands, and nothing else. -/
theorem argument?_eq_some_iff {cs name : List Char} {n : Nat} :
    argument? cs = some (name, n) ↔ ∃ arg, Argument name arg ∧ arg <+: cs ∧ arg.length = n := by
  constructor
  · intro h
    obtain ⟨before, cs₁, rfl, hbefore, hdrop₁, hblank⟩ := exists_takeWhile Text.isBlank cs
    obtain ⟨name', cs₂, rfl, hname, hdrop₂, hchars⟩ := exists_takeWhile isNameChar cs₁
    obtain ⟨after, cs₃, rfl, hafter, hdrop₃, hblank'⟩ := exists_takeWhile Text.isBlank cs₂
    simp only [argument?, hbefore, hdrop₁, hname, hdrop₂, hafter, hdrop₃] at h
    split at h
    · cases h
    rename_i hne
    split at h
    · rename_i hclose
      cases h
      obtain ⟨rest, rfl⟩ := List.head?_eq_some_iff.mp hclose
      refine ⟨_, .mk (fun hnil => hne (List.isEmpty_iff.mpr hnil)) hchars hblank hblank',
        ⟨rest, by simp⟩, ?_⟩
      simp only [List.length_append, List.length_singleton]
      omega
    · cases h
  · rintro ⟨_, @⟨before, after, hne, hname, hbefore, hafter⟩, ⟨rest, rfl⟩, rfl⟩
    -- each of the three runs ends where the next character is of another kind
    have htake₁ : (before ++ (name ++ (after ++ ')' :: rest))).takeWhile Text.isBlank = before := by
      refine Text.takeWhile_append_of_stop hbefore fun c hc => isBlank_of_isNameChar (hname c ?_)
      obtain ⟨d, ds, rfl⟩ := List.exists_cons_of_ne_nil hne
      obtain rfl := Option.some.inj hc
      exact List.mem_cons_self
    have htake₂ : (name ++ (after ++ ')' :: rest)).takeWhile isNameChar = name := by
      refine Text.takeWhile_append_of_stop hname fun c hc => ?_
      cases after with
      | nil =>
        cases hc
        decide
      | cons d ds =>
        obtain rfl := Option.some.inj hc
        refine Bool.eq_false_iff.mpr fun hd => ?_
        exact absurd (hafter d List.mem_cons_self) (by simp [isBlank_of_isNameChar hd])
    have htake₃ : (after ++ ')' :: rest).takeWhile Text.isBlank = after := by
      refine Text.takeWhile_append_of_stop hafter fun c hc => ?_
      cases hc
      decide
    have hcs : before ++ (name ++ (after ++ [')'])) ++ rest =
        before ++ (name ++ (after ++ ')' :: rest)) := by simp
    have hnonempty : ¬ name.isEmpty = true := fun h => hne (List.isEmpty_iff.mp h)
    rw [hcs]
    simp only [argument?, htake₁, htake₂, htake₃, List.drop_left, if_neg hnonempty, List.head?_cons,
      if_true, List.length_append, List.length_singleton, Nat.add_assoc]

theorem placeholderOf?_eq_some_iff {part : Part} {cs name : List Char} {n : Nat} :
    placeholderOf? part cs = some (name, n) ↔
      ∃ source, Placeholder part name source ∧ source <+: cs ∧ source.length = n := by
  constructor
  · intro h
    unfold placeholderOf? at h
    split at h
    · rename_i hopening
      obtain ⟨rest, rfl⟩ := List.isPrefixOf_iff_prefix.mp hopening
      rw [List.drop_left] at h
      obtain ⟨⟨name', m⟩, harg, heq⟩ := Option.map_eq_some_iff.mp h
      cases heq
      obtain ⟨arg, hname, hfront, rfl⟩ := argument?_eq_some_iff.mp harg
      exact ⟨_, .mk hname, (List.prefix_append_right_inj _).mpr hfront, List.length_append⟩
    · cases h
  · rintro ⟨_, @⟨arg, harg⟩, ⟨rest, rfl⟩, rfl⟩
    have hread : argument? (arg ++ rest) = some (name, arg.length) :=
      argument?_eq_some_iff.mpr ⟨arg, harg, List.prefix_append arg rest, rfl⟩
    have hopening : part.opening.isPrefixOf (part.opening ++ (arg ++ rest)) = true :=
      List.isPrefixOf_iff_prefix.mpr (List.prefix_append _ _)
    rw [List.append_assoc, placeholderOf?, if_pos hopening, List.drop_left, hread,
      Option.map_some, List.length_append]

/-- A placeholder begins with the letter of its part. -/
theorem head?_of_placeholder {part : Part} {name source cs : List Char}
    (h : Placeholder part name source) (hfront : source <+: cs) :
    cs.head? = part.opening.head? := by
  obtain ⟨rest, rfl⟩ := hfront
  cases h
  cases part <;> rfl

/-- The reader of placeholders finds one where it begins, and nothing else. -/
theorem placeholder?_eq_some_iff {part : Part} {cs name : List Char} {n : Nat} :
    placeholder? cs = some (part, name, n) ↔
      ∃ source, Placeholder part name source ∧ source <+: cs ∧ source.length = n := by
  rw [← placeholderOf?_eq_some_iff]
  have hclash : ∀ {found found' : List Char × Nat}, placeholderOf? .image cs = some found →
      placeholderOf? .tag cs ≠ some found' := by
    intro found found' himage htag
    obtain ⟨_, himage, hfront, -⟩ := placeholderOf?_eq_some_iff.mp himage
    obtain ⟨_, htag, hfront', -⟩ := placeholderOf?_eq_some_iff.mp htag
    have hhead :=
      (head?_of_placeholder himage hfront).symm.trans (head?_of_placeholder htag hfront')
    exact absurd hhead (by decide)
  unfold placeholder?
  cases himage : placeholderOf? .image cs with
  | some found =>
    cases part with
    | image => simp [himage, Prod.ext_iff]
    | tag => simp [hclash himage]
  | none =>
    cases part with
    | image => simp [himage]
    | tag => simp

/-! ## Reading from left to right -/

/-- What is found in a text that is read from left to right: a placeholder wherever one begins, and
any other character by itself. -/
inductive Scan : List Char → List Piece → Prop where
  | done : Scan [] []
  | placeholder {part : Part} {name source rest : List Char} {ps : List Piece}
    (h : Placeholder part name source) (hrest : Scan rest ps) :
    Scan (source ++ rest) (.placeholder part name source :: ps)
  | literal {c : Char} {rest : List Char} {ps : List Piece}
    (h : ∀ part name source, Placeholder part name source → ¬ source <+: c :: rest)
    (hrest : Scan rest ps) : Scan (c :: rest) (.literal c :: ps)

theorem piecesFrom_eq_drop (skip : Nat) (cs : List Char) :
    piecesFrom skip cs = pieces (cs.drop skip) := by
  induction cs generalizing skip with
  | nil => simp [pieces, piecesFrom]
  | cons c cs ih =>
    cases skip with
    | zero => rfl
    | succ skip => exact ih skip

theorem pieces_append {part : Part} {name source : List Char} (h : Placeholder part name source)
    (rest : List Char) :
    pieces (source ++ rest) = .placeholder part name source :: pieces rest := by
  have hfound : placeholder? (source ++ rest) = some (part, name, source.length) :=
    placeholder?_eq_some_iff.mpr ⟨source, h, List.prefix_append source rest, rfl⟩
  obtain ⟨c, cs, rfl⟩ : ∃ c cs, source = c :: cs := by
    cases h
    cases part <;> exact ⟨_, _, rfl⟩
  rw [List.cons_append] at hfound ⊢
  rw [pieces, piecesFrom, hfound]
  dsimp only
  rw [piecesFrom_eq_drop, List.length_cons, Nat.add_sub_cancel, List.drop_left, List.take_succ_cons,
    List.take_left]

theorem pieces_cons {c : Char} {rest : List Char}
    (h : ∀ part name source, Placeholder part name source → ¬ source <+: c :: rest) :
    pieces (c :: rest) = .literal c :: pieces rest := by
  have hnone : placeholder? (c :: rest) = none := by
    cases hfound : placeholder? (c :: rest) with
    | none => rfl
    | some found =>
      obtain ⟨source, hsource, hfront, -⟩ := placeholder?_eq_some_iff.mp hfound
      exact absurd hfront (h _ _ source hsource)
  rw [pieces, piecesFrom, hnone]
  rfl

theorem Scan.eq_pieces {cs : List Char} {ps : List Piece} (h : Scan cs ps) : ps = pieces cs := by
  induction h with
  | done => rfl
  | placeholder h _ ih => rw [pieces_append h, ih]
  | literal h _ ih => rw [pieces_cons h, ih]

/-- Every text can be read. -/
theorem scan_pieces (cs : List Char) : Scan cs (pieces cs) := by
  -- by the length, since a placeholder takes many characters at once
  induction hn : cs.length using Nat.strong_induction_on generalizing cs with
  | _ n ih =>
    subst hn
    cases cs with
    | nil => exact .done
    | cons c cs =>
      by_cases h : ∃ part name source, Placeholder part name source ∧ source <+: c :: cs
      · obtain ⟨part, name, source, hsource, rest, heq⟩ := h
        rw [← heq, pieces_append hsource]
        refine .placeholder hsource (ih _ ?_ rest rfl)
        have hlength := congrArg List.length heq
        have hpos : 0 < source.length := by
          cases hsource
          cases part <;> exact Nat.zero_lt_succ _
        rw [List.length_append] at hlength
        omega
      · have hnone : ∀ part name source, Placeholder part name source → ¬ source <+: c :: cs :=
          fun part name source hsource hfront => h ⟨part, name, source, hsource, hfront⟩
        rw [pieces_cons hnone]
        exact .literal hnone (ih _ (Nat.lt_succ_self _) cs rfl)

/-- There is one way to read a text, and `pieces` finds it. -/
theorem scan_iff {cs : List Char} {ps : List Piece} : Scan cs ps ↔ ps = pieces cs :=
  ⟨Scan.eq_pieces, fun h => h ▸ scan_pieces cs⟩

/-! ## What takes the places of the pieces -/

/-- The part of an image that takes the place of a placeholder. -/
def Part.text (part : Part) (found : TaggedImage) : String :=
  match part with
  | .image => found.image
  | .tag => found.tag.getD defaultTag

/-- Whether there is something to take the place of a piece: a literal stays, and a placeholder has
to name an image. -/
def Piece.Resolves (c : Catalog) : Piece → Prop
  | .literal _ => True
  | .placeholder _ name _ => c.lookup (String.ofList name) ≠ none

instance (c : Catalog) (p : Piece) : Decidable (p.Resolves c) := by
  cases p <;> unfold Piece.Resolves <;> infer_instance

/-- What takes the place of a piece. -/
def Piece.filled (c : Catalog) : Piece → List Char
  | .literal ch => [ch]
  | .placeholder part name _ =>
    match c.lookup (String.ofList name) with
    | some found => (part.text found).toList
    | none => []

/-- What an expression of some pieces comes to. -/
structure Expansion (c : Catalog) (ps : List Piece) (result : Except Error String) : Prop where
  succeeds : (∃ image, result = .ok image) ↔ ∀ p ∈ ps, p.Resolves c
  filled : ∀ image, result = .ok image → image.toList = ps.flatMap (Piece.filled c)
  fails : ∀ before part name source after, ps = before ++ .placeholder part name source :: after →
    (∀ p ∈ before, p.Resolves c) → c.lookup (String.ofList name) = none →
    result = .error (.imageResolution ("couldn't find imageName " ++ String.ofList name))

section

variable {c : Catalog} {ps : List Piece}

theorem expandPiece_of_resolves {p : Piece} (h : p.Resolves c) :
    expandPiece c p = .ok (p.filled c) := by
  cases p with
  | literal ch => rfl
  | placeholder part name source =>
    obtain ⟨found, hfound⟩ := Option.ne_none_iff_exists'.mp h
    simp only [expandPiece, Catalog.find, Piece.filled, hfound]
    cases part <;> rfl

theorem expandPieces_of_resolves (h : ∀ p ∈ ps, p.Resolves c) :
    expandPieces c ps = .ok (ps.flatMap (Piece.filled c)) := by
  induction ps with
  | nil => rfl
  | cons p ps ih =>
    rw [expandPieces, expandPiece_of_resolves (h p List.mem_cons_self),
      ih fun q hq => h q (List.mem_cons_of_mem p hq)]
    rfl

/-- The first placeholder without an image is the error. -/
theorem expandPieces_of_unresolved {before after : List Piece} {part : Part}
    {name source : List Char} (hbefore : ∀ p ∈ before, p.Resolves c)
    (h : c.lookup (String.ofList name) = none) :
    expandPieces c (before ++ .placeholder part name source :: after) =
      .error (.imageResolution ("couldn't find imageName " ++ String.ofList name)) := by
  induction before with
  | nil =>
    simp only [List.nil_append, expandPieces, expandPiece, Catalog.find, h]
    rfl
  | cons p before ih =>
    rw [List.cons_append, expandPieces, expandPiece_of_resolves (hbefore p List.mem_cons_self),
      ih fun q hq => hbefore q (List.mem_cons_of_mem p hq)]
    rfl

theorem exists_first_unresolved (h : ¬ ∀ p ∈ ps, p.Resolves c) :
    ∃ before part name source after, ps = before ++ .placeholder part name source :: after ∧
      (∀ p ∈ before, p.Resolves c) ∧ c.lookup (String.ofList name) = none := by
  induction ps with
  | nil => exact absurd (fun p hp => absurd hp List.not_mem_nil) h
  | cons p ps ih =>
    by_cases hp : p.Resolves c
    · have hrest : ¬ ∀ q ∈ ps, q.Resolves c := fun hall => h (List.forall_mem_cons.mpr ⟨hp, hall⟩)
      obtain ⟨before, part, name, source, after, rfl, hbefore, hname⟩ := ih hrest
      exact ⟨p :: before, part, name, source, after, rfl, List.forall_mem_cons.mpr ⟨hp, hbefore⟩,
        hname⟩
    · cases p with
      | literal ch => exact absurd trivial hp
      | placeholder part name source =>
        exact ⟨[], part, name, source, ps, rfl, fun q hq => absurd hq List.not_mem_nil,
          not_not.mp hp⟩

/-- What takes the places of the pieces, and when. -/
theorem expansion_expandPieces (c : Catalog) (ps : List Piece) :
    Expansion c ps ((expandPieces c ps).map String.ofList) where
  succeeds := by
    refine ⟨fun ⟨image, himage⟩ => ?_, fun h => ?_⟩
    · by_contra hnot
      obtain ⟨before, part, name, source, after, rfl, hbefore, hname⟩ :=
        exists_first_unresolved hnot
      rw [expandPieces_of_unresolved hbefore hname] at himage
      cases himage
    · rw [expandPieces_of_resolves h]
      exact ⟨_, rfl⟩
  filled image himage := by
    by_cases h : ∀ p ∈ ps, p.Resolves c
    · rw [expandPieces_of_resolves h] at himage
      cases himage
      exact String.toList_ofList
    · obtain ⟨before, part, name, source, after, rfl, hbefore, hname⟩ := exists_first_unresolved h
      rw [expandPieces_of_unresolved hbefore hname] at himage
      cases himage
  fails before part name source after heq hbefore hname := by
    rw [heq, expandPieces_of_unresolved hbefore hname]
    rfl

end

/-! ## Expressions -/

/-- An expression without the blanks around it. -/
def trimmed (expression : String) : String := String.ofList (Text.trim expression.toList)

/-- The expression for an image with its tag by the placeholders for both. -/
def bothParts (name : String) : String := "image(" ++ name ++ "):tag(" ++ name ++ ")"

theorem resolveExpression_of_name {c : Catalog} {expression : String} {found : TaggedImage}
    (h : c.lookup (trimmed expression) = some found) :
    c.resolveExpression expression = .ok (found.image ++ ":" ++ found.tag.getD defaultTag) := by
  unfold trimmed at h
  simp only [Catalog.resolveExpression, h]

theorem resolveExpression_of_pieces {c : Catalog} {expression : String}
    (h : c.lookup (trimmed expression) = none) :
    c.resolveExpression expression =
      (expandPieces c (pieces (trimmed expression).toList)).map String.ofList := by
  unfold trimmed at h ⊢
  simp only [Catalog.resolveExpression, h, String.toList_ofList]

theorem trimmed_of_no_blanks {s : String} (h : ∀ c ∈ s.toList, Text.isBlank c = false) :
    trimmed s = s := by
  rw [trimmed, Text.trim_of_no_blanks h, String.ofList_toList]

/-- Where no placeholder begins, every character stands for itself. -/
theorem pieces_of_no_placeholder {cs : List Char}
    (h : ∀ part name source, Placeholder part name source → ¬ source <:+: cs) :
    pieces cs = cs.map .literal := by
  induction cs with
  | nil => rfl
  | cons c cs ih =>
    rw [pieces_cons fun part name source hsource hfront => h part name source hsource
      hfront.isInfix, ih fun part name source hsource hwithin => h part name source hsource
      (hwithin.trans (List.suffix_cons c cs).isInfix), List.map_cons]

/-- The placeholders for both parts are found, with the colon between them. -/
theorem pieces_bothParts {name : String} (hne : name ≠ "")
    (hname : ∀ c ∈ name.toList, isNameChar c = true) :
    ∃ image tag, pieces (bothParts name).toList =
      [.placeholder .image name.toList image, .literal ':', .placeholder .tag name.toList tag] := by
  have hargument : Argument name.toList ([] ++ (name.toList ++ ([] ++ [')']))) :=
    .mk (fun hnil => hne (String.toList_eq_nil_iff.mp hnil)) hname (List.forall_mem_nil _)
      (List.forall_mem_nil _)
  have hsource : ∀ part : Part,
      Placeholder part name.toList (part.opening ++ (name.toList ++ [')'])) := fun _ =>
    .mk hargument
  have hcolon : ∀ part name source rest, Placeholder part name source →
      ¬ source <+: ':' :: rest := by
    intro part name source rest h hfront
    have hhead : some ':' = part.opening.head? := head?_of_placeholder h hfront
    cases part <;> exact absurd hhead (by decide)
  have htext : (bothParts name).toList = Part.image.opening ++ (name.toList ++ [')']) ++
      ':' :: (Part.tag.opening ++ (name.toList ++ [')']) ++ []) := by
    have hstart : "image(".toList = Part.image.opening := rfl
    have hmiddle : "):tag(".toList = ')' :: ':' :: Part.tag.opening := rfl
    have hend : ")".toList = [')'] := rfl
    simp only [bothParts, String.toList_append, hstart, hmiddle, hend, List.append_assoc,
      List.cons_append, List.nil_append, List.append_nil]
  have hscan := Scan.placeholder (hsource .image)
    (.literal (fun part name source => hcolon part name source _)
      (.placeholder (hsource .tag) .done))
  rw [htext]
  exact ⟨_, _, hscan.eq_pieces.symm⟩

/-- The placeholders for both parts of an image come to what its name comes to. -/
theorem resolveExpression_bothParts {c : Catalog} {name : String} {found : TaggedImage}
    (hne : name ≠ "") (hname : ∀ ch ∈ name.toList, isNameChar ch = true)
    (hfound : c.lookup name = some found) (hno : c.lookup (bothParts name) = none) :
    c.resolveExpression (bothParts name) =
      .ok (found.image ++ ":" ++ found.tag.getD defaultTag) := by
  have hblank : ∀ ch ∈ (bothParts name).toList, Text.isBlank ch = false := by
    have hends : ∀ ch ∈ "image(".toList ++ "):tag(".toList ++ ")".toList,
        Text.isBlank ch = false := by
      have hall : ("image(".toList ++ "):tag(".toList ++ ")".toList).all
          (! Text.isBlank ·) = true := by decide
      exact fun ch hch => by simpa using List.all_eq_true.mp hall ch hch
    intro ch hch
    simp only [bothParts, String.toList_append, List.mem_append] at hch hends
    rcases hch with (((hch | hch) | hch) | hch) | hch
    · exact hends ch (.inl (.inl hch))
    · exact isBlank_of_isNameChar (hname ch hch)
    · exact hends ch (.inl (.inr hch))
    · exact isBlank_of_isNameChar (hname ch hch)
    · exact hends ch (.inr hch)
  obtain ⟨image, tag, hpieces⟩ := pieces_bothParts hne hname
  rw [← trimmed_of_no_blanks hblank] at hno
  rw [resolveExpression_of_pieces hno, trimmed_of_no_blanks hblank, hpieces]
  have hresolves : ∀ p ∈ [Piece.placeholder .image name.toList image, .literal ':',
      .placeholder .tag name.toList tag], p.Resolves c := by
    simp [Piece.Resolves, hfound]
  rw [expandPieces_of_resolves hresolves]
  simp [Except.map, Piece.filled, hfound, Part.text, String.ofList_append, String.append_assoc]

/-- An expression that is no name of the catalog is read from left to right in one way. It comes to
an image exactly if all its placeholders name one, and then to itself with the parts in the places
of the placeholders; else the first placeholder that names none is the error. So it comes to itself
where it has no placeholders. For a name the placeholders of both parts come to what the name
does. -/
theorem resolveExpression_expands (c : Catalog) :
    (∀ expression, c.lookup (trimmed expression) = none →
      ∃ ps, (∀ qs, Scan (trimmed expression).toList qs ↔ qs = ps) ∧
        Expansion c ps (c.resolveExpression expression) ∧
        ((∀ part name source, Placeholder part name source →
            ¬ source <:+: (trimmed expression).toList) →
          c.resolveExpression expression = .ok (trimmed expression))) ∧
    ∀ name, name ≠ "" → (∀ ch ∈ name.toList, isNameChar ch = true) → c.lookup name ≠ none →
      c.lookup (bothParts name) = none →
        ∃ image, c.resolveExpression (bothParts name) = .ok image ∧
          c.resolveExpression name = .ok image := by
  refine ⟨fun expression h => ?_, fun name hne hname hfound hno => ?_⟩
  · refine ⟨pieces (trimmed expression).toList, fun qs => scan_iff, ?_, fun hplain => ?_⟩
    · rw [resolveExpression_of_pieces h]
      exact expansion_expandPieces c _
    · have hresolves : ∀ p ∈ (trimmed expression).toList.map Piece.literal, p.Resolves c := by
        intro p hp
        obtain ⟨ch, -, rfl⟩ := List.mem_map.mp hp
        trivial
      rw [resolveExpression_of_pieces h, pieces_of_no_placeholder hplain,
        expandPieces_of_resolves hresolves]
      simp [Except.map, List.flatMap_map, Piece.filled]
  · obtain ⟨found, hfound⟩ := Option.ne_none_iff_exists'.mp hfound
    have htrimmed : trimmed name = name :=
      trimmed_of_no_blanks fun ch hch => isBlank_of_isNameChar (hname ch hch)
    exact ⟨_, resolveExpression_bothParts hne hname hfound hno,
      resolveExpression_of_name (htrimmed.symm ▸ hfound)⟩

/-- A project with one image, which was built, and a dependency. -/
def shop : Catalog :=
  .mk (.ofList [("web", ⟨"team/web", ["v1"]⟩)]) (.ofList [("web", ⟨"team/web", "a1b2"⟩)])
    [("auth", .mk (.ofList [("api", ⟨"team/auth-api", []⟩)]) .empty [])]

/-- Placeholders next to each other, in each other and with blanks in them. -/
theorem shop_expanded :
    shop.lookup (trimmed " image(image( auth.api )):tag(web)tag(auth.api) ") = none ∧
      shop.resolveExpression " image(image( auth.api )):tag(web)tag(auth.api) " =
        .ok "image(team/auth-api):a1b2latest" ∧
      ∃ image, shop.resolveExpression "image(auth.api):tag(auth.api)" = .ok image ∧
        shop.resolveExpression "auth.api" = .ok image := by
  obtain ⟨hexpands, hboth⟩ := resolveExpression_expands shop
  have hno : shop.lookup (trimmed " image(image( auth.api )):tag(web)tag(auth.api) ") = none := by
    decide +kernel
  refine ⟨hno, ?_, hboth "auth.api" (by decide) (List.all_eq_true.mp (by decide))
    (by decide +kernel) (by decide +kernel)⟩
  obtain ⟨ps, hscan, hexpansion, -⟩ := hexpands _ hno
  obtain rfl := (hscan _).mp (scan_pieces _)
  obtain ⟨image, himage⟩ := hexpansion.succeeds.mpr (by decide +kernel)
  have htext : image.toList = "image(team/auth-api):a1b2latest".toList :=
    (hexpansion.filled image himage).trans (by decide +kernel)
  rw [himage, String.toList_inj.mp htext]

/-- A catalog may have an image whose name is empty. It is found by that name and not by
placeholders, which have no empty names. -/
theorem nameless_not_expanded :
    ∃ c : Catalog, c.lookup "" = some ⟨"team/app", none⟩ ∧ c.lookup (bothParts "") = none ∧
      c.resolveExpression "" = .ok "team/app:latest" ∧
      c.resolveExpression (bothParts "") = .ok "image():tag()" :=
  ⟨.mk (.ofList [("", ⟨"team/app", []⟩)]) .empty [], by decide +kernel⟩

end PodSwap.Image
