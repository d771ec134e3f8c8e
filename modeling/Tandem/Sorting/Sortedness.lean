/-! # Is a list in order?

Two answers, both found by asking about neighbouring pairs from the front and
stopping at the first pair out of order. `isSortedAll` asks about every pair.
`isSorted` leaves the last pair out, so a list whose last element alone is out
of place still passes it.
-/

namespace Tandem.Sorting

universe u

variable {α : Type u}

/-- Each element of a list paired with the one that follows it. -/
def neighbours (items : List α) : List (α × α) :=
  items.zip items.tail

/-- Pairs to ask about, in order, and the test that each of them has to pass. -/
structure Inspection (α : Type u) where
  pairs : List (α × α)
  passes : α → α → Bool

/-- Whether every pair passes. -/
def Inspection.holds (inspection : Inspection α) : Bool :=
  inspection.pairs.all fun (left, right) => inspection.passes left right

/-- The leading elements that pass a test, and the first one that fails it. -/
def throughFirstFailure {β : Type u} (passes : β → Bool) : List β → List β
  | [] => []
  | item :: rest => if passes item then item :: throughFirstFailure passes rest else [item]

/-- The pairs that are really asked about: none comes after a failure. -/
def Inspection.asked (inspection : Inspection α) : List (α × α) :=
  throughFirstFailure (fun (left, right) => inspection.passes left right) inspection.pairs

/-- Ask of every neighbouring pair whether the first may stand before the second. -/
def inspectAll (le : α → α → Bool) (items : List α) : Inspection α where
  pairs := neighbours items
  passes := le

/-- Ask of every neighbouring pair but the last whether the second is not smaller
than the first. The second is the left operand. -/
def inspectLeading (lt : α → α → Bool) (items : List α) : Inspection α where
  pairs := (neighbours items).dropLast.map Prod.swap
  passes later earlier := !lt later earlier

/-- Whether every neighbouring pair is in order. -/
def isSortedAll (le : α → α → Bool) (items : List α) : Bool :=
  (inspectAll le items).holds

/-- Whether every neighbouring pair but the last is in order. -/
def isSorted (lt : α → α → Bool) (items : List α) : Bool :=
  (inspectLeading lt items).holds

end Tandem.Sorting
