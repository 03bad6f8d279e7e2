import Mathlib.Data.List.Chain
import PodSwap.Image.Name

/-!
# The grammar of image names

A component of a path is runs of lower-case letters and digits, joined by a point, one or two
underscores, or any number of dashes. A path is components with slashes between them. A name begins
with a host, or with a component that could be one, and goes on with a path.

The readers of `PodSwap.Image` take one character after the other. What they have read is known from
the place where they stand (`Place.Read`), and a step leads from one such text to the next.

Main statements: the readers accept what the grammar says (`isComponent_iff`, `path_iff`,
`isName_iff`), and a component is a host exactly if it does not double a separator
(`isHost_iff_undoubled`).
-/

namespace PodSwap.Image

/-! ## The steps of the readers -/

/-- What a step of the reader of components can be. -/
inductive ComponentStep : Place → Char → Place → Prop where
  | alnum {p : Place} {c : Char} (h : isAlnum c = true) : ComponentStep p c .run
  | point : ComponentStep .run '.' .gap
  | underscore : ComponentStep .run '_' .underscore
  | secondUnderscore : ComponentStep .underscore '_' .gap
  | dash : ComponentStep .run '-' .dashes
  | anotherDash : ComponentStep .dashes '-' .dashes

theorem componentStep_cases {p q : Place} {c : Char} (h : componentStep p c = some q) :
    ComponentStep p c q := by
  unfold componentStep at h
  split at h
  · rename_i hc
    cases h
    exact .alnum hc
  · cases p with
    | gap => cases h
    | run =>
      dsimp only at h
      split at h
      · rename_i hc
        cases h
        exact hc ▸ .point
      · split at h
        · rename_i hc
          cases h
          exact hc ▸ .underscore
        · split at h
          · rename_i hc
            cases h
            exact hc ▸ .dash
          · cases h
    | underscore =>
      dsimp only at h
      split at h
      · rename_i hc
        cases h
        exact hc ▸ .secondUnderscore
      · cases h
    | dashes =>
      dsimp only at h
      split at h
      · rename_i hc
        cases h
        exact hc ▸ .anotherDash
      · cases h

/-- What a step of the reader of hosts can be. -/
inductive HostStep : Place → Char → Place → Prop where
  | alnum {p : Place} {c : Char} (h : isAlnum c = true) : HostStep p c .run
  | separator {c : Char} (h : c = '.' ∨ c = '_' ∨ c = '-') : HostStep .run c .gap

theorem hostStep_cases {p q : Place} {c : Char} (h : hostStep p c = some q) : HostStep p c q := by
  unfold hostStep at h
  split at h
  · rename_i hc
    cases h
    exact .alnum hc
  · cases p with
    | run =>
      dsimp only at h
      split at h
      · rename_i hc
        cases h
        exact .separator hc
      · cases h
    | _ => cases h

/-! ## Components -/

/-- A run of lower-case letters and digits. -/
def IsRun (cs : List Char) : Prop := cs ≠ [] ∧ ∀ c ∈ cs, isAlnum c = true

/-- What may join two runs of a component. -/
inductive Joint : List Char → Prop where
  | point : Joint ['.']
  | underscore : Joint ['_']
  | underscores : Joint ['_', '_']
  | dashes (n : Nat) : Joint (List.replicate (n + 1) '-')

/-- A component of a path: runs that are joined. -/
inductive Component : List Char → Prop where
  | run {cs : List Char} (h : IsRun cs) : Component cs
  | join {cs joint last : List Char} (h : Component cs) (hjoint : Joint joint)
    (hlast : IsRun last) : Component (cs ++ joint ++ last)

theorem isRun_singleton {c : Char} (hc : isAlnum c = true) : IsRun [c] := by
  refine ⟨List.cons_ne_nil c [], fun d hd => ?_⟩
  rw [List.mem_singleton.mp hd]
  exact hc

theorem IsRun.snoc {cs : List Char} (h : IsRun cs) {c : Char} (hc : isAlnum c = true) :
    IsRun (cs ++ [c]) := by
  refine ⟨by simp, fun d hd => ?_⟩
  rcases List.mem_append.mp hd with hd | hd
  · exact h.2 d hd
  · exact (isRun_singleton hc).2 d hd

theorem Component.snoc {cs : List Char} (h : Component cs) {c : Char} (hc : isAlnum c = true) :
    Component (cs ++ [c]) := by
  cases h with
  | run h => exact .run (h.snoc hc)
  | join h hjoint hlast =>
    rw [List.append_assoc]
    exact .join h hjoint (hlast.snoc hc)

/-- What has been read of a component by a reader that stands at a place. -/
def Place.Read : Place → List Char → Prop
  | .gap, cs => cs = [] ∨ ∃ before joint, cs = before ++ joint ∧ Component before ∧ Joint joint
  | .run, cs => Component cs
  | .underscore, cs => ∃ before, cs = before ++ ['_'] ∧ Component before
  | .dashes, cs => ∃ before n, cs = before ++ List.replicate (n + 1) '-' ∧ Component before

/-- A letter or digit makes a component of whatever was read. -/
theorem Place.Read.component {p : Place} {cs : List Char} (h : p.Read cs) {c : Char}
    (hc : isAlnum c = true) : Component (cs ++ [c]) := by
  have hlast := isRun_singleton hc
  cases p with
  | gap =>
    rcases h with rfl | ⟨before, joint, rfl, hbefore, hjoint⟩
    · exact .run hlast
    · exact .join hbefore hjoint hlast
  | run => exact Component.snoc h hc
  | underscore =>
    obtain ⟨before, rfl, hbefore⟩ := h
    exact .join hbefore .underscore hlast
  | dashes =>
    obtain ⟨before, n, rfl, hbefore⟩ := h
    exact .join hbefore (.dashes n) hlast

/-- A step of the reader. -/
theorem Place.Read.step {p q : Place} {cs : List Char} (h : p.Read cs) {c : Char}
    (hstep : componentStep p c = some q) : q.Read (cs ++ [c]) := by
  cases componentStep_cases hstep with
  | alnum hc => exact h.component hc
  | point => exact .inr ⟨cs, _, rfl, h, .point⟩
  | underscore => exact ⟨cs, rfl, h⟩
  | secondUnderscore =>
    obtain ⟨before, rfl, hbefore⟩ := h
    exact .inr ⟨before, _, List.append_assoc _ _ _, hbefore, .underscores⟩
  | dash => exact ⟨cs, 0, rfl, h⟩
  | anotherDash =>
    obtain ⟨before, n, rfl, hbefore⟩ := h
    refine ⟨before, n + 1, ?_, hbefore⟩
    rw [List.append_assoc, ← List.replicate_succ']

/-- All steps of the reader. -/
theorem Place.Read.steps {p q : Place} {before cs : List Char} (h : p.Read before)
    (hsteps : cs.foldlM componentStep p = some q) : q.Read (before ++ cs) := by
  induction cs generalizing p before with
  | nil =>
    cases hsteps
    rw [List.append_nil]
    exact h
  | cons c cs ih =>
    rw [List.foldlM_cons] at hsteps
    obtain ⟨p', hstep, hsteps⟩ := Option.bind_eq_some_iff.mp hsteps
    have hread := ih (h.step hstep) hsteps
    rwa [List.append_assoc] at hread

theorem IsRun.steps {cs : List Char} (h : IsRun cs) (p : Place) :
    cs.foldlM componentStep p = some .run := by
  obtain ⟨hne, hall⟩ := h
  induction cs generalizing p with
  | nil => exact absurd rfl hne
  | cons c cs ih =>
    have hstep : componentStep p c = some .run := if_pos (hall c List.mem_cons_self)
    rw [List.foldlM_cons, hstep]
    cases cs with
    | nil => rfl
    | cons d cs =>
      exact ih .run (List.cons_ne_nil d cs) fun e he => hall e (List.mem_cons_of_mem c he)

/-- Behind a run a reader gets over what joins it to another. -/
theorem Joint.steps {cs : List Char} (h : Joint cs) :
    ∃ q, cs.foldlM componentStep .run = some q := by
  cases h with
  | point => exact ⟨.gap, rfl⟩
  | underscore => exact ⟨.underscore, rfl⟩
  | underscores => exact ⟨.gap, rfl⟩
  | dashes n =>
    have hdashes : ∀ n, (List.replicate n '-').foldlM componentStep .dashes = some .dashes := by
      intro n
      induction n with
      | zero => rfl
      | succ n ih => exact ih
    exact ⟨.dashes, hdashes n⟩

theorem Component.steps {cs : List Char} (h : Component cs) (p : Place) :
    cs.foldlM componentStep p = some .run := by
  induction h with
  | run h => exact h.steps p
  | join h hjoint hlast ih =>
    -- a joint leads from a run to some place, and a run leads on from every place
    obtain ⟨q, hq⟩ := hjoint.steps
    rw [List.append_assoc, List.foldlM_append, ih]
    show List.foldlM componentStep .run _ = _
    rw [List.foldlM_append, hq]
    exact hlast.steps q

/-- The reader of components accepts just the components. -/
theorem isComponent_iff {cs : List Char} : isComponent cs = true ↔ Component cs := by
  unfold isComponent accepts
  rw [decide_eq_true_eq]
  constructor
  · intro hsteps
    have hread : Place.Read .run ([] ++ cs) := Place.Read.steps (p := .gap) (.inl rfl) hsteps
    exact hread
  · exact fun h => h.steps .gap

/-! ## The characters of a name -/

/-- Whether a character may stand in a component. -/
def isComponentChar (c : Char) : Bool := isAlnum c || c = '.' || c = '_' || c = '-'

/-- Whether a character may stand in an image name without tag and digest. -/
def isImageChar (c : Char) : Bool := isComponentChar c || c = ':' || c = '/'

theorem isImageChar_of_isComponentChar {c : Char} (h : isComponentChar c = true) :
    isImageChar c = true := by
  rw [isImageChar, h]
  rfl

theorem isComponentChar_of_isAlnum {c : Char} (h : isAlnum c = true) :
    isComponentChar c = true := by
  rw [isComponentChar, h]
  rfl

theorem isLower_iff {c : Char} : c.isLower = true ↔ 'a' ≤ c ∧ c ≤ 'z' :=
  Bool.and_eq_true_iff.trans (and_congr decide_eq_true_iff decide_eq_true_iff)

theorem isDigit_iff {c : Char} : c.isDigit = true ↔ '0' ≤ c ∧ c ≤ '9' :=
  Bool.and_eq_true_iff.trans (and_congr decide_eq_true_iff decide_eq_true_iff)

/-- No character of an image name is white space. -/
theorem isBlank_of_isImageChar {c : Char} (h : isImageChar c = true) : Text.isBlank c = false := by
  simp only [isImageChar, isComponentChar, isAlnum, Bool.or_eq_true, decide_eq_true_eq,
    isLower_iff, isDigit_iff] at h
  rcases h with (((((h | h) | rfl) | rfl) | rfl) | rfl) | rfl
  · exact Text.isBlank_of_visible (Char.le_trans (by decide) h.1) (Char.le_trans h.2 (by decide))
  · exact Text.isBlank_of_visible (Char.le_trans (by decide) h.1) (Char.le_trans h.2 (by decide))
  all_goals decide

/-- What a reader reads has only characters that it has a step for. -/
theorem all_of_steps {step : Place → Char → Option Place} (ok : Char → Bool)
    (hstep : ∀ p c q, step p c = some q → ok c = true) {p q : Place} {cs : List Char}
    (h : cs.foldlM step p = some q) : ∀ c ∈ cs, ok c = true := by
  induction cs generalizing p with
  | nil =>
    intro c hc
    cases hc
  | cons d cs ih =>
    rw [List.foldlM_cons] at h
    obtain ⟨p', hd, h⟩ := Option.bind_eq_some_iff.mp h
    intro c hc
    rcases List.mem_cons.mp hc with rfl | hc
    · exact hstep p c p' hd
    · exact ih h c hc

theorem isComponentChar_of_hostStep {p q : Place} {c : Char} (h : hostStep p c = some q) :
    isComponentChar c = true := by
  cases hostStep_cases h with
  | alnum hc => exact isComponentChar_of_isAlnum hc
  | separator hc => rcases hc with rfl | rfl | rfl <;> decide

theorem isComponentChar_of_componentStep {p q : Place} {c : Char}
    (h : componentStep p c = some q) : isComponentChar c = true := by
  cases componentStep_cases h with
  | alnum hc => exact isComponentChar_of_isAlnum hc
  | _ => decide

theorem Component.isComponentChar {cs : List Char} (h : Component cs) :
    ∀ c ∈ cs, isComponentChar c = true :=
  all_of_steps Image.isComponentChar (fun _ _ _ => isComponentChar_of_componentStep) (h.steps .gap)

theorem Component.not_mem {cs : List Char} (h : Component cs) {c : Char}
    (hc : Image.isComponentChar c = false) : c ∉ cs := by
  intro hmem
  rw [h.isComponentChar c hmem] at hc
  cases hc

/-! ## Hosts -/

/-- Whether no underscore follows an underscore, and no dash a dash. -/
def Undoubled (cs : List Char) : Prop := cs.IsChain fun c d => c = d → c ≠ '_' ∧ c ≠ '-'

instance (cs : List Char) : Decidable (Undoubled cs) := by
  unfold Undoubled
  infer_instance

theorem undoubled_cons {c : Char} (hc : c ≠ '_' ∧ c ≠ '-') {cs : List Char} :
    Undoubled (c :: cs) ↔ Undoubled cs := by
  unfold Undoubled
  rw [List.isChain_cons]
  exact ⟨fun h => h.2, fun h => ⟨fun _ _ _ => hc, h⟩⟩

theorem not_sep_of_isAlnum {c : Char} (h : isAlnum c = true) : c ≠ '_' ∧ c ≠ '-' := by
  constructor <;> rintro rfl <;> exact absurd h (by decide)

theorem undoubled_of_isAlnum {cs : List Char} (h : ∀ c ∈ cs, isAlnum c = true) :
    Undoubled cs := by
  induction cs with
  | nil => exact .nil
  | cons c cs ih =>
    rw [undoubled_cons (not_sep_of_isAlnum (h c List.mem_cons_self))]
    exact ih fun d hd => h d (List.mem_cons_of_mem c hd)

/-- In a host letters and digits surround what is none. -/
theorem isChain_of_hostSteps {p q : Place} {cs : List Char} (h : cs.foldlM hostStep p = some q) :
    cs.IsChain (fun c d => isAlnum c = true ∨ isAlnum d = true) ∧
      (p ≠ .run → ∀ c ∈ cs.head?, isAlnum c = true) := by
  induction cs generalizing p with
  | nil => exact ⟨.nil, fun _ c hc => by cases hc⟩
  | cons c cs ih =>
    rw [List.foldlM_cons] at h
    obtain ⟨p', hstep, h⟩ := Option.bind_eq_some_iff.mp h
    obtain ⟨hchain, hhead⟩ := ih h
    rw [List.isChain_cons]
    cases hostStep_cases hstep with
    | alnum hc =>
      refine ⟨⟨fun d _ => .inl hc, hchain⟩, fun _ d hd => ?_⟩
      cases hd
      exact hc
    | separator _ =>
      exact ⟨⟨fun d hd => .inr (hhead (by decide) d hd), hchain⟩, fun hne => absurd rfl hne⟩

theorem undoubled_of_hostSteps {p q : Place} {cs : List Char}
    (h : cs.foldlM hostStep p = some q) : Undoubled cs := by
  refine (isChain_of_hostSteps h).1.imp ?_
  rintro c d (hc | hc) rfl <;> exact not_sep_of_isAlnum hc

theorem isDigit_port {cs host port : List Char} (h : isHost cs = true)
    (hport : Text.splitFirst? ':' cs = some (host, port)) :
    accepts hostStep host = true ∧ ∀ c ∈ port, c.isDigit = true := by
  rw [isHost, hport] at h
  simp only [Bool.and_eq_true] at h
  exact ⟨h.1.1, List.all_eq_true.mp h.2⟩

/-- No separator is doubled in a host, with a port or without. -/
theorem undoubled_of_isHost {cs : List Char} (h : isHost cs = true) : Undoubled cs := by
  cases hport : Text.splitFirst? ':' cs with
  | none =>
    rw [isHost, hport] at h
    exact undoubled_of_hostSteps (of_decide_eq_true h)
  | some parts =>
    obtain ⟨host, port⟩ := parts
    obtain ⟨hhost, hdigits⟩ := isDigit_port h hport
    have hnumber : Undoubled port := undoubled_of_isAlnum fun c hc => by
      rw [isAlnum, hdigits c hc, Bool.or_true]
    have hcolon : Undoubled (':' :: port) := (undoubled_cons (by decide)).mpr hnumber
    rw [Text.eq_of_splitFirst? hport]
    refine List.isChain_append.mpr
      ⟨undoubled_of_hostSteps (of_decide_eq_true hhost), hcolon, ?_⟩
    rintro c - d hd rfl
    cases hd
    decide

/-- Where a reader of hosts stands when one of components stands at a place. -/
def Place.ofHost : Place → Place
  | .run => .run
  | _ => .gap

/-- The separator that must not be doubled when a reader stands at a place. -/
def Place.behind : Place → List Char
  | .underscore => ['_']
  | .dashes => ['-']
  | _ => []

theorem undoubled_behind {p : Place} {c : Char} (hc : isAlnum c = true) {cs : List Char} :
    Undoubled (p.behind ++ c :: cs) ↔ Undoubled cs := by
  have hsep := not_sep_of_isAlnum hc
  have hdoubled : ∀ sep, Undoubled (sep :: c :: cs) ↔ Undoubled (c :: cs) := by
    intro sep
    unfold Undoubled
    rw [List.isChain_cons_cons]
    exact and_iff_right fun heq => heq ▸ hsep
  refine Iff.trans ?_ (undoubled_cons hsep)
  cases p with
  | underscore => exact hdoubled '_'
  | dashes => exact hdoubled '-'
  | _ => exact Iff.rfl

theorem not_undoubled {sep : Char} (hsep : sep = '_' ∨ sep = '-') (cs : List Char) :
    ¬ Undoubled (sep :: sep :: cs) := by
  intro h
  obtain ⟨hunderscore, hdash⟩ := (List.isChain_cons_cons.mp h).1 rfl
  exact hsep.elim hunderscore hdash

/-- A reader of hosts goes along with one of components unless a separator is doubled. -/
theorem hostSteps_iff_undoubled {p : Place} {cs : List Char}
    (h : cs.foldlM componentStep p = some .run) :
    cs.foldlM hostStep p.ofHost = some .run ↔ Undoubled (p.behind ++ cs) := by
  induction cs generalizing p with
  | nil =>
    cases h
    exact iff_of_true rfl .nil
  | cons c cs ih =>
    rw [List.foldlM_cons] at h
    obtain ⟨q, hstep, h⟩ := Option.bind_eq_some_iff.mp h
    have hrest := ih h
    rw [List.foldlM_cons]
    cases componentStep_cases hstep with
    | alnum hc =>
      have hhost : hostStep p.ofHost c = some .run := if_pos hc
      rw [hhost, undoubled_behind hc]
      exact hrest
    | point => exact hrest.trans (undoubled_cons (by decide)).symm
    | underscore => exact hrest
    | dash => exact hrest
    -- here the readers part: one of hosts has no step for a second separator
    | secondUnderscore =>
      refine iff_of_false ?_ (not_undoubled (.inl rfl) cs)
      rintro ⟨⟩
    | anotherDash =>
      refine iff_of_false ?_ (not_undoubled (.inr rfl) cs)
      rintro ⟨⟩

/-- A component is a host exactly if it doubles no separator. -/
theorem isHost_iff_undoubled {cs : List Char} (h : Component cs) :
    isHost cs = true ↔ Undoubled cs := by
  have hcolon : ':' ∉ cs := h.not_mem (by decide)
  rw [isHost, Text.splitFirst?_of_not_mem hcolon]
  show accepts hostStep cs = true ↔ _
  rw [accepts, decide_eq_true_eq]
  exact hostSteps_iff_undoubled (h.steps .gap)

/-- A host has only characters of components, and a colon before its port. -/
theorem isHostChar_of_isHost {cs : List Char} (h : isHost cs = true) :
    ∀ c ∈ cs, isComponentChar c = true ∨ c = ':' := by
  have hsteps : ∀ {cs : List Char}, accepts hostStep cs = true →
      ∀ c ∈ cs, isComponentChar c = true :=
    fun h => all_of_steps isComponentChar (fun _ _ _ => isComponentChar_of_hostStep)
      (of_decide_eq_true h)
  intro c hc
  cases hport : Text.splitFirst? ':' cs with
  | none =>
    rw [isHost, hport] at h
    exact .inl (hsteps h c hc)
  | some parts =>
    obtain ⟨host, port⟩ := parts
    obtain ⟨hhost, hdigits⟩ := isDigit_port h hport
    rw [Text.eq_of_splitFirst? hport] at hc
    rcases List.mem_append.mp hc with hc | hc
    · exact .inl (hsteps hhost c hc)
    · rcases List.mem_cons.mp hc with hc | hc
      · exact .inr hc
      · refine .inl (isComponentChar_of_isAlnum ?_)
        rw [isAlnum, hdigits c hc, Bool.or_true]

/-! ## Paths and names -/

/-- A path: components with slashes between them. -/
inductive Path : List Char → Prop where
  | component {cs : List Char} (h : Component cs) : Path cs
  | cons {cs rest : List Char} (h : Component cs) (hrest : Path rest) : Path (cs ++ '/' :: rest)

/-- The parts between the slashes of a path are its components. -/
theorem path_iff {cs : List Char} : (Text.splitOn '/' cs).all isComponent = true ↔ Path cs := by
  constructor
  · intro h
    have hjoin : ∀ parts : List (List Char), parts ≠ [] → (∀ part ∈ parts, Component part) →
        Path (Text.join ['/'] parts) := by
      intro parts hne hparts
      induction parts with
      | nil => exact absurd rfl hne
      | cons part parts ih =>
        have hpart := hparts part List.mem_cons_self
        cases parts with
        | nil => exact .component hpart
        | cons part' parts =>
          have hrest := ih (List.cons_ne_nil part' parts)
            fun q hq => hparts q (List.mem_cons_of_mem part hq)
          show Path (part ++ ['/'] ++ Text.join ['/'] (part' :: parts))
          rw [List.append_assoc]
          exact .cons hpart hrest
    rw [← Text.join_splitOn '/' cs]
    exact hjoin _ (Text.splitOn_ne_nil '/' cs)
      fun part hpart => isComponent_iff.mp (List.all_eq_true.mp h part hpart)
  · intro h
    induction h with
    | component h =>
      rw [Text.splitOn_of_not_mem (h.not_mem (by decide)), List.all_cons, isComponent_iff.mpr h]
      rfl
    | cons h _ ih =>
      rw [Text.splitOn_append_sep, Text.splitOn_of_not_mem (h.not_mem (by decide)),
        List.singleton_append, List.all_cons, isComponent_iff.mpr h, ih]
      rfl

theorem Component.isImageChar {cs : List Char} (h : Component cs) :
    ∀ c ∈ cs, Image.isImageChar c = true ∧ c ≠ ':' := by
  intro c hc
  have hchar := h.isComponentChar c hc
  refine ⟨isImageChar_of_isComponentChar hchar, ?_⟩
  rintro rfl
  exact absurd hchar (by decide)

theorem Path.isImageChar {cs : List Char} (h : Path cs) :
    ∀ c ∈ cs, Image.isImageChar c = true ∧ c ≠ ':' := by
  induction h with
  | component h => exact h.isImageChar
  | cons h _ ih =>
    intro c hc
    rcases List.mem_append.mp hc with hc | hc
    · exact h.isImageChar c hc
    · rcases List.mem_cons.mp hc with rfl | hc
      · decide
      · exact ih c hc

/-- A name without tag and digest: a host, or a host and a path. -/
inductive Name : List Char → Prop where
  | host {cs : List Char} (h : isHost cs = true) : Name cs
  | path {first rest : List Char} (h : isHost first = true) (hrest : Path rest) :
    Name (first ++ '/' :: rest)

theorem slash_not_mem_of_isHost {cs : List Char} (h : isHost cs = true) : '/' ∉ cs := by
  intro hmem
  exact absurd (isHostChar_of_isHost h '/' hmem) (by decide)

theorem isName_of_single {cs : List Char} (h : '/' ∉ cs) : isName cs = isHost cs := by
  rw [isName, Text.splitOn_of_not_mem h]
  simp

theorem isName_append {first : List Char} (h : '/' ∉ first) (rest : List Char) :
    isName (first ++ '/' :: rest) = (isHost first && (Text.splitOn '/' rest).all isComponent) := by
  rw [isName, Text.splitOn_append_sep, Text.splitOn_of_not_mem h]
  rfl

/-- The reader of names accepts just the names. -/
theorem isName_iff {cs : List Char} : isName cs = true ↔ Name cs := by
  constructor
  · intro h
    by_cases hslash : '/' ∈ cs
    · obtain ⟨first, rest, rfl, hfirst⟩ := List.eq_append_cons_of_mem hslash
      rw [isName_append hfirst, Bool.and_eq_true] at h
      exact .path h.1 (path_iff.mp h.2)
    · rw [isName_of_single hslash] at h
      exact .host h
  · intro h
    cases h with
    | host h =>
      rw [isName_of_single (slash_not_mem_of_isHost h)]
      exact h
    | path h hrest =>
      rw [isName_append (slash_not_mem_of_isHost h), h, path_iff.mpr hrest]
      rfl

theorem isImageChar_of_isHost {cs : List Char} (h : isHost cs = true) :
    ∀ c ∈ cs, isImageChar c = true := by
  intro c hc
  rcases isHostChar_of_isHost h c hc with hc | rfl
  · exact isImageChar_of_isComponentChar hc
  · decide

theorem Name.isImageChar {cs : List Char} (h : Name cs) :
    ∀ c ∈ cs, Image.isImageChar c = true := by
  cases h with
  | host h => exact isImageChar_of_isHost h
  | path h hrest =>
    intro c hc
    rcases List.mem_append.mp hc with hc | hc
    · exact isImageChar_of_isHost h c hc
    · rcases List.mem_cons.mp hc with rfl | hc
      · decide
      · exact (hrest.isImageChar c hc).1

end PodSwap.Image
