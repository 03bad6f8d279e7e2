/-!
# The order of texts

Texts come in the order of the numbers of their characters: the first difference decides, and a
beginning of a text comes before the text.

Main statements: the order is strict (`not_before_self`, `before_trans`) and leaves no two texts
undecided (`eq_of_not_before`).
-/

namespace PodSwap

/-- Whether a text comes before another. -/
def Before (a b : String) : Prop := @LT.lt String String.instLT a b

instance (a b : String) : Decidable (Before a b) := String.decidableLT a b

theorem not_before_self (a : String) : ¬ Before a a := String.lt_irrefl a

theorem before_trans {a b c : String} (h : Before a b) (h' : Before b c) : Before a c :=
  String.lt_trans h h'

/-- Of two texts one comes first, unless they are the same. -/
theorem eq_of_not_before {a b : String} (h : ¬ Before a b) (h' : ¬ Before b a) : a = b :=
  String.le_antisymm h' h

/-- Whether a list of texts comes before another, by the first texts that differ. -/
def listBefore : List String → List String → Bool
  | _, [] => false
  | [], _ :: _ => true
  | a :: as, b :: bs => decide (Before a b) || (a = b && listBefore as bs)

end PodSwap
