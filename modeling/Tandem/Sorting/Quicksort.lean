import Tandem.Sorting.Partition

/-! # Quicksort in place

A window of two or more elements is divided around its last element, and then
the part before the pivot and the part behind it are sorted in turn. The
comparison is any function to `Bool`: the steps are determined, and the sort
ends, whether or not it is an order.
-/

namespace Tandem.Sorting

universe u v

variable {α : Type u} {σ : Type v}

/-- Sort the elements of one window and leave the others where they are. -/
@[specialize]
def sortWindow {size : Nat} (le : α → α → Bool) (watch : σ → Event α → σ) (window : Window size)
    (items : Vector α size) (seen : σ) : Vector α size × σ :=
  if window.low < window.high then
    let ⟨items, seen, pivot, _, below⟩ := partition le watch window items seen
    let (items, seen) :=
      if inside : window.low < pivot then
        sortWindow le watch (window.before pivot inside below) items seen
      else (items, seen)
    if inside : pivot < window.high then
      sortWindow le watch (window.after pivot inside) items seen
    else (items, seen)
  else (items, seen)
termination_by window.high - window.low
decreasing_by
  · simp only [Window.before]; omega
  · simp only [Window.after]; omega

/-- Sort an array, showing each event to an onlooker in state `seen`. -/
@[specialize]
def sortWatched (le : α → α → Bool) (watch : σ → Event α → σ) (items : Array α) (seen : σ) :
    Array α × σ :=
  if nonempty : 0 < items.size then
    let (sorted, seen) :=
      sortWindow le watch ⟨0, items.size - 1, Nat.zero_le _, by omega⟩ items.toVector seen
    (sorted.toArray, seen)
  else (items, seen)

/-- Sort an array. -/
@[inline]
def sort (le : α → α → Bool) (items : Array α) : Array α :=
  (sortWatched le (fun seen _ => seen) items ()).1

/-- Sort an array and count its partitions and swaps. -/
@[inline]
def sortTallied (le : α → α → Bool) (items : Array α) : Array α × Tally :=
  sortWatched le Tally.record items {}

/-- Sort an array and count its comparisons as well. -/
@[inline]
def sortMeasured (le : α → α → Bool) (items : Array α) : Array α × Effort :=
  sortWatched le Effort.record items {}

/-- Everything that happens when an array is sorted, in order. -/
def events (le : α → α → Bool) (items : Array α) : List (Event α) :=
  (sortWatched le Array.push items #[]).2.toList

/-- The operands of every comparison made when an array is sorted, in order. -/
def comparisons (le : α → α → Bool) (items : Array α) : List (α × α) :=
  (events le items).filterMap Event.comparison?

/-- The most windows that sorting `size` elements can divide. -/
def maxPartitions (size : Nat) : Nat := size - 1

end Tandem.Sorting
