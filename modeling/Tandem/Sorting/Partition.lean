import Tandem.Sorting.Event

/-! # Dividing a window around its last element

A window is scanned from the left. Elements that may stand before the pivot are
gathered at its front, one behind the other, and at the end the pivot takes the
first place behind them. The scan asks about each element once, and never looks
outside the window.
-/

namespace Tandem.Sorting

universe u v

/-- A range of positions, both ends included, in an array of `size` elements. -/
structure Window (size : Nat) where
  low : Nat
  high : Nat
  low_le_high : low ≤ high
  high_lt_size : high < size

/-- The positions of a window before its position `pivot`. -/
def Window.before {size : Nat} (window : Window size) (pivot : Nat)
    (above : window.low < pivot) (within : pivot ≤ window.high) : Window size where
  low := window.low
  high := pivot - 1
  low_le_high := by omega
  high_lt_size := by have := window.high_lt_size; omega

/-- The positions of a window after its position `pivot`. -/
def Window.after {size : Nat} (window : Window size) (pivot : Nat)
    (below : pivot < window.high) : Window size where
  low := pivot + 1
  high := window.high
  low_le_high := below
  high_lt_size := window.high_lt_size

/-- A divided window: the array, what the onlooker has seen, and the position
between the elements that may stand before the pivot and the others. -/
structure Division (α : Type u) (σ : Type v) {size : Nat} (window : Window size) where
  items : Vector α size
  seen : σ
  pivot : Nat
  low_le_pivot : window.low ≤ pivot
  pivot_le_high : pivot ≤ window.high

section

variable {α : Type u} {σ : Type v} {size : Nat}

/-- Ask whether an element may stand before another one, and tell the onlooker that it was
asked. -/
@[inline]
def ask (le : α → α → Bool) (watch : σ → Event α → σ) (seen : σ) (i j : Nat) (left right : α) :
    Bool × σ :=
  (le left right, watch seen (.compared i j left right))

/-- Exchange two elements. Exchanging a position with itself is not an event. -/
@[inline]
def exchange (watch : σ → Event α → σ) (items : Vector α size) (seen : σ) (i j : Nat)
    (validLeft : i < size) (validRight : j < size) : Vector α size × σ :=
  if i = j then (items, seen) else (items.swap i j, watch seen (.swapped i j))

/-- Ask about the `remaining` elements from `position` up to the pivot at the
window's high end. The elements from the window's low end up to `boundary` are
those already found to stand before the pivot. -/
@[specialize]
def scan (le : α → α → Bool) (watch : σ → Event α → σ) (window : Window size) :
    (remaining position boundary : Nat) → window.low ≤ boundary → boundary ≤ position →
      position + remaining = window.high → Vector α size → σ → Division α σ window
  | 0, _, boundary, above, below, last, items, seen =>
    ⟨items, seen, boundary, above, by omega⟩
  | remaining + 1, position, boundary, above, below, last, items, seen =>
    have bound := window.high_lt_size
    let (before, seen) :=
      ask le watch seen position window.high items[position] items[window.high]
    if before then
      let (items, seen) := exchange watch items seen boundary position (by omega) (by omega)
      scan le watch window remaining (position + 1) (boundary + 1) (by omega) (by omega)
        (by omega) items seen
    else
      scan le watch window remaining (position + 1) boundary above (by omega) (by omega) items
        seen

/-- Divide a window around its last element. -/
@[specialize]
def partition (le : α → α → Bool) (watch : σ → Event α → σ) (window : Window size)
    (items : Vector α size) (seen : σ) : Division α σ window :=
  have bound := window.high_lt_size
  have ends := window.low_le_high
  let ⟨items, seen, pivot, above, below⟩ :=
    scan le watch window (window.high - window.low) window.low window.low (Nat.le_refl _)
      (Nat.le_refl _) (by omega) items seen
  let (items, seen) := exchange watch items seen pivot window.high (by omega) bound
  ⟨items, watch seen (.partitioned window.low window.high pivot), pivot, above, below⟩

end

end Tandem.Sorting
