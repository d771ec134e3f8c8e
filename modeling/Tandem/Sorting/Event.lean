/-! # What a sort does, as a stream of events

A sort tells an onlooker about every comparison, every exchange and every
finished partition. An onlooker is a state together with a function that takes
one event into it, so the same sort can count, keep a log, or keep nothing.
-/

namespace Tandem.Sorting

universe u

/-- One thing a sort does. Positions count from the front of the whole array. -/
inductive Event (α : Type u) where
  /-- The element `left`, at position `i`, was asked whether it may stand before
  `right`, at position `j`. -/
  | compared (i j : Nat) (left right : α)
  /-- The elements at two different positions changed places. -/
  | swapped (i j : Nat)
  /-- The window from `low` to `high`, both included, was divided and its pivot
  now stands at `pivot`. -/
  | partitioned (low high pivot : Nat)

/-- The two operands of a comparison, left one first. -/
def Event.comparison? {α : Type u} : Event α → Option (α × α)
  | .compared _ _ left right => some (left, right)
  | .swapped .. | .partitioned .. => none

/-- How many windows a sort divided and how many exchanges moved an element. -/
structure Tally where
  partitions : Nat := 0
  swaps : Nat := 0

/-- Count one event. -/
@[inline]
def Tally.record {α : Type u} (tally : Tally) : Event α → Tally
  | .compared .. => tally
  | .swapped .. => { tally with swaps := tally.swaps + 1 }
  | .partitioned .. => { tally with partitions := tally.partitions + 1 }

/-- A tally together with the number of comparisons. -/
structure Effort where
  tally : Tally := {}
  comparisons : Nat := 0

/-- Count one event, comparisons included. -/
@[inline]
def Effort.record {α : Type u} (effort : Effort) : Event α → Effort
  | .compared .. => { effort with comparisons := effort.comparisons + 1 }
  | event => { effort with tally := effort.tally.record event }

end Tandem.Sorting
