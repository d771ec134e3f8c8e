import Tandem.Proofs.Sorting.Layout

/-! # The sort under guard

The sort once more, on bare positions, with every step guarded
(`Tandem.Sorting.Guarded.sort?`). An element is read or exchanged only inside the
array and inside the window that is being sorted, a position is lowered only
above the low end of its window and raised only up to the size of the array, and
windows nest no deeper than the array has elements. Where a guard fails there is
no result. No guard ever fails, whatever the relation answers: the guarded sort is
the sort (`Tandem.Sorting.Guarded.sort?_eq`).
-/

namespace Tandem.Sorting

universe u v

variable {α : Type u} {σ : Type v}

namespace Guarded

/-- The element at a position, inside the window and the array. -/
def read? (low high : Nat) (items : Array α) (position : Nat) : Option α :=
  if low ≤ position ∧ position ≤ high then items[position]? else none

/-- Exchange the elements at two positions, both inside the window and the array. -/
def exchange? (watch : σ → Event α → σ) (low high : Nat) (items : Array α) (seen : σ)
    (i j : Nat) : Option (Array α × σ) :=
  if inside : (low ≤ i ∧ i ≤ high ∧ i < items.size) ∧ low ≤ j ∧ j ≤ high ∧ j < items.size then
    if i = j then some (items, seen)
    else some (items.swap i j inside.1.2.2 inside.2.2.2, watch seen (.swapped i j))
  else none

/-- The next position, up to the size of the array. -/
def next? (size position : Nat) : Option Nat :=
  if position < size then some (position + 1) else none

/-- The previous position, above the low end of the window. -/
def previous? (low position : Nat) : Option Nat :=
  if low < position then some (position - 1) else none

/-- Ask about the elements at some positions of a window, and gather those that may
stand before the pivot. -/
def scan? (le : α → α → Bool) (watch : σ → Event α → σ) (low high : Nat) :
    List Nat → Nat → Array α → σ → Option (Array α × σ × Nat)
  | [], boundary, items, seen => some (items, seen, boundary)
  | position :: rest, boundary, items, seen =>
    (read? low high items position).bind fun item =>
    (read? low high items high).bind fun pivot =>
    let (before, seen) := ask le watch seen position high item pivot
    if before then
      (exchange? watch low high items seen boundary position).bind fun (items, seen) =>
      (next? items.size boundary).bind fun boundary =>
      scan? le watch low high rest boundary items seen
    else scan? le watch low high rest boundary items seen

/-- Divide a window around its last element. -/
def partition? (le : α → α → Bool) (watch : σ → Event α → σ) (low high : Nat)
    (items : Array α) (seen : σ) : Option (Array α × σ × Nat) :=
  (scan? le watch low high (List.range' low (high - low)) low items seen).bind
    fun (items, seen, boundary) =>
  (exchange? watch low high items seen boundary high).map fun (items, seen) =>
  (items, watch seen (.partitioned low high boundary), boundary)

/-- Sort a window, with at most `depth` windows inside each other. The part behind
the pivot may be empty, and then starts behind its own end. -/
def sortRange? (le : α → α → Bool) (watch : σ → Event α → σ) :
    (depth low high : Nat) → Array α → σ → Option (Array α × σ)
  | 0, _, _, _, _ => none
  | depth + 1, low, high, items, seen =>
    if low < high then
      (partition? le watch low high items seen).bind fun (items, seen, pivot) =>
      (if low < pivot then
        (previous? low pivot).bind fun last => sortRange? le watch depth low last items seen
      else some (items, seen)).bind fun (items, seen) =>
      (next? items.size pivot).bind fun first =>
      sortRange? le watch depth first high items seen
    else some (items, seen)

/-- Sort an array that has a last position. -/
def sort? (le : α → α → Bool) (watch : σ → Event α → σ) (items : Array α) (seen : σ) :
    Option (Array α × σ) :=
  match previous? 0 items.size with
  | some high => sortRange? le watch items.size 0 high items seen
  | none => some (items, seen)

variable {size : Nat} (le : α → α → Bool) (watch : σ → Event α → σ)

/-- A result on an array that does not keep its size in its type. -/
def bare (result : Vector α size × σ) : Array α × σ :=
  (result.1.toArray, result.2)

/-- Reading inside a window of an array gives the element there. -/
theorem read?_eq {window : Window size} (items : Vector α size) {position : Nat}
    (above : window.low ≤ position) (below : position ≤ window.high) (valid : position < size) :
    read? window.low window.high items.toArray position = some items[position] := by
  rw [read?, if_pos ⟨above, below⟩, Vector.getElem?_toArray, Vector.getElem?_eq_getElem valid]

/-- Exchanging inside a window of an array is exchanging. -/
theorem exchange?_eq {window : Window size} (items : Vector α size) (seen : σ) {i j : Nat}
    (aboveLeft : window.low ≤ i) (belowLeft : i ≤ window.high) (validLeft : i < size)
    (aboveRight : window.low ≤ j) (belowRight : j ≤ window.high) (validRight : j < size) :
    exchange? watch window.low window.high items.toArray seen i j =
      some (bare (exchange watch items seen i j validLeft validRight)) := by
  have inside : (window.low ≤ i ∧ i ≤ window.high ∧ i < items.toArray.size) ∧
      window.low ≤ j ∧ j ≤ window.high ∧ j < items.toArray.size := by
    simp only [Vector.size_toArray]
    exact ⟨⟨aboveLeft, belowLeft, validLeft⟩, aboveRight, belowRight, validRight⟩
  rw [exchange?, dif_pos inside, exchange]
  split
  · rfl
  · rfl

/-- A guarded scan is the scan. -/
theorem scan?_eq {window : Window size} {remaining position boundary : Nat}
    (above : window.low ≤ boundary) (below : boundary ≤ position)
    (last : position + remaining = window.high) (items : Vector α size) (seen : σ) :
    let division := scan le watch window remaining position boundary above below last items seen
    scan? le watch window.low window.high (List.range' position remaining) boundary items.toArray
        seen =
      some (division.items.toArray, division.seen, division.pivot) := by
  induction remaining generalizing position boundary items seen with
  | zero =>
      rw [List.range'_zero, scan?, scan]
  | succ remaining ih =>
      have valid := window.high_lt_size
      simp only [List.range'_succ, scan?, scan, ask]
      rw [read?_eq items (by omega) (by omega) (by omega),
        read?_eq items (by omega) (by omega) valid]
      simp only [Option.bind_some]
      by_cases accepted : le items[position] items[window.high]
      · simp only [accepted, ↓reduceIte]
        rw [exchange?_eq watch items _ above (by omega) (by omega) (by omega) (by omega) (by omega)]
        simp only [bare, Option.bind_some, Vector.size_toArray]
        rw [next?, if_pos (by omega)]
        exact ih (by omega) (by omega) (by omega) _ _
      · simp only [accepted, Bool.false_eq_true, ↓reduceIte]
        exact ih above (by omega) (by omega) items _

/-- A guarded partition is the partition. -/
theorem partition?_eq (window : Window size) (items : Vector α size) (seen : σ) :
    let division := partition le watch window items seen
    partition? le watch window.low window.high items.toArray seen =
      some (division.items.toArray, division.seen, division.pivot) := by
  have ends := window.low_le_high
  have valid := window.high_lt_size
  have whole : window.low + (window.high - window.low) = window.high := by omega
  have scanned := scan?_eq le watch (Nat.le_refl window.low) (Nat.le_refl window.low) whole items
    seen
  simp only [partition?, partition, scanned, Option.bind_some]
  generalize scan le watch window (window.high - window.low) window.low window.low _ _ _ items
    seen = division
  have above := division.low_le_pivot
  have below := division.pivot_le_high
  rw [exchange?_eq watch _ _ above below (by omega) ends (Nat.le_refl _) valid]
  rfl

/-- Nothing is done in a window that does not reach beyond its low end. -/
theorem sortRange?_of_high_le {depth low high : Nat} (some_depth : 0 < depth) (short : high ≤ low)
    (items : Array α) (seen : σ) :
    sortRange? le watch depth low high items seen = some (items, seen) := by
  obtain ⟨depth, rfl⟩ := Nat.exists_eq_succ_of_ne_zero (Nat.ne_of_gt some_depth)
  rw [sortRange?, if_neg (Nat.not_lt.mpr short)]

/-- Sorting a window under guard is sorting it, if as many windows may nest as the
window has elements. -/
theorem sortRange?_eq {depth : Nat} (window : Window size) (items : Vector α size) (seen : σ)
    (enough : window.high - window.low < depth) :
    sortRange? le watch depth window.low window.high items.toArray seen =
      some (bare (sortWindow le watch window items seen)) := by
  induction depth generalizing window items seen with
  | zero => omega
  | succ depth ih =>
      have valid := window.high_lt_size
      rw [sortRange?, sortWindow]
      split
      case isFalse => rfl
      case isTrue several =>
        rw [partition?_eq]
        generalize partition le watch window items seen = division
        obtain ⟨divided, after, pivot, above, below⟩ := division
        simp only [Option.bind_some]
        have leading :
            (if window.low < pivot then (previous? window.low pivot).bind fun last =>
              sortRange? le watch depth window.low last divided.toArray after
            else some (divided.toArray, after)) =
              some (bare (if inside : window.low < pivot then
                sortWindow le watch (window.before pivot inside below) divided after
                  else (divided, after))) := by
          by_cases inside : window.low < pivot
          · simp only [inside, ↓reduceIte, ↓reduceDIte, previous?, Option.bind_some]
            exact ih (window.before pivot inside below) divided after
              (by simp only [Window.before]; omega)
          · simp only [inside, ↓reduceIte, ↓reduceDIte, bare]
        rw [leading]
        generalize (if inside : window.low < pivot then
          sortWindow le watch (window.before pivot inside below) divided after
            else (divided, after)) = result
        obtain ⟨sorted, later⟩ := result
        simp only [bare, Option.bind_some, Vector.size_toArray]
        rw [next?, if_pos (by omega), Option.bind_some]
        by_cases inside : pivot < window.high
        · simp only [inside, ↓reduceDIte]
          exact ih (window.after pivot inside) sorted later
            (by simp only [Window.after]; omega)
        · simp only [inside, ↓reduceDIte]
          exact sortRange?_of_high_le le watch (by omega) (by omega) _ _

/-- No guard of the guarded sort ever fails. -/
theorem sort?_eq (items : Array α) (seen : σ) :
    sort? le watch items seen = some (sortWatched le watch items seen) := by
  unfold sort? sortWatched
  by_cases nonempty : 0 < items.size
  · simp only [previous?, nonempty, ↓reduceIte, ↓reduceDIte]
    exact sortRange?_eq le watch ⟨0, items.size - 1, Nat.zero_le _, by omega⟩ items.toVector seen
      (by simp only; omega)
  · simp only [previous?, nonempty, ↓reduceIte, ↓reduceDIte]

end Guarded

/-- **Sorting is safe under every relation.** Whatever the relation answers, the
guarded sort comes to its end with the array and the tally of the sort, so every
element read or exchanged lies in the array and in the window being sorted, and
every position computed stays in range; and no element is lost or added. -/
theorem sortTallied_guarded (le : α → α → Bool) (items : Array α) :
    Guarded.sort? le Tally.record items {} = some (sortTallied le items) ∧
      (sortTallied le items).1.toList.Perm items.toList := by
  constructor
  · exact Guarded.sort?_eq le Tally.record items {}
  · rw [sortTallied, sortWatched_fst]
    exact sort_perm le items

end Tandem.Sorting
