/-! # Orders of elements

A comparison of two elements gives both relations that sorting and checking ask
about: `le` for sorting and checking all pairs, `lt` for checking the leading
ones. Comparisons are combined from those of the parts of an element. For the
integers that the demonstration sorts, both relations are given at once.
-/

namespace Tandem.Sorting

universe u v

variable {α : Type u} {β : Type v}

/-- Whether a comparison puts the first element before the second or level with it. -/
def leOf (cmp : α → α → Ordering) (left right : α) : Bool :=
  (cmp left right).isLE

/-- Whether a comparison puts the first element before the second. -/
def ltOf (cmp : α → α → Ordering) (left right : α) : Bool :=
  (cmp left right).isLT

/-- The comparison that puts the greatest element first. -/
def descending (cmp : α → α → Ordering) (left right : α) : Ordering :=
  cmp right left

/-- The comparison under which all elements are level. -/
def level (_ _ : α) : Ordering := .eq

/-- Compare first components, and second components where those are level. -/
def pairwise (first : α → α → Ordering) (second : β → β → Ordering) (left right : α × β) :
    Ordering :=
  (first left.1 right.1).then (second left.2 right.2)

/-- Compare elements by a key alone. -/
def byKey (key : β → α) (cmp : α → α → Ordering) (left right : β) : Ordering :=
  cmp (key left) (key right)

/-- The order of integers. -/
def atMost (left right : Int32) : Bool := left ≤ right

/-- The strict order of integers. -/
def lessThan (left right : Int32) : Bool := left < right

end Tandem.Sorting
