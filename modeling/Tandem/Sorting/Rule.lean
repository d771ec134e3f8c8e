/-! # Named comparison relations

The sort takes any relation. These are the ones to try it with: two orders of
the integers, four constant answers, the order of remainders, and a relation
that goes round in a circle. Each compares keys, and each element carries a tag
so that elements with equal keys can be told apart.
-/

namespace Tandem.Sorting

/-- A way to compare two integer keys. -/
inductive Rule where
  /-- The usual order. -/
  | normal
  /-- The usual order backwards. -/
  | reverse
  /-- Every key is less than every other. -/
  | less
  /-- All keys are equal. -/
  | equal
  /-- Every key is greater than every other. -/
  | greater
  /-- No two keys can be compared. -/
  | unordered
  /-- Even keys are equal and less than odd ones. -/
  | parity
  /-- Remainders modulo three, each less than the next one round the circle. -/
  | cyclic

/-- How the first key stands to the second, if they can be compared. -/
def Rule.compare? : Rule → Int → Int → Option Ordering
  | .normal, left, right => some (compare left right)
  | .reverse, left, right => some (compare right left)
  | .less, _, _ => some .lt
  | .equal, _, _ => some .eq
  | .greater, _, _ => some .gt
  | .unordered, _, _ => none
  | .parity, left, right => some (compare (left % 2) (right % 2))
  | .cyclic, left, right =>
    let ahead := (left % 3 - right % 3) % 3
    some (if ahead = 0 then .eq else if ahead = 1 then .gt else .lt)

/-- A key with the position it started from. -/
structure Tagged where
  key : Int
  tag : Nat

/-- Tag each key with its position. -/
def Tagged.number (keys : List Int) : List Tagged :=
  keys.zipIdx.map fun (key, tag) => ⟨key, tag⟩

/-- Whether the first element is less than or equal to the second. -/
def Rule.le (rule : Rule) (left right : Tagged) : Bool :=
  (rule.compare? left.key right.key).any Ordering.isLE

/-- Whether the first element is less than the second. -/
def Rule.lt (rule : Rule) (left right : Tagged) : Bool :=
  (rule.compare? left.key right.key).any Ordering.isLT

end Tandem.Sorting
