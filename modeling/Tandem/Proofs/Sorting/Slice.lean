import Tandem.Proofs.Sorting.Account

/-! # Sorting a window is sorting its slice

Sorting a window leaves the elements outside it, and arranges those inside it as if
they had been copied out and sorted on their own
(`Tandem.Sorting.sortWindow_refines_arrange`). What an onlooker sees is the same as
well, but for positions, which count from the front of the window instead
(`Tandem.Sorting.course_shift`).
-/

namespace Tandem.Sorting

universe u v

variable {α : Type u} {σ : Type v} {size : Nat}

/-- An event with its positions moved back by some places. -/
def Event.shift (places : Nat) : Event α → Event α
  | .compared i j left right => .compared (places + i) (places + j) left right
  | .swapped i j => .swapped (places + i) (places + j)
  | .partitioned low high pivot => .partitioned (places + low) (places + high) (places + pivot)

/-- Shifting an event keeps what it compares. -/
@[simp]
theorem Event.comparison?_shift (places : Nat) (event : Event α) :
    (event.shift places).comparison? = event.comparison? := by
  cases event with
  | compared => rfl
  | swapped => rfl
  | partitioned => rfl

@[simp]
theorem Event.isPartition_shift (places : Nat) (event : Event α) :
    (event.shift places).isPartition = event.isPartition := by
  cases event with
  | compared => rfl
  | swapped => rfl
  | partitioned => rfl

@[simp]
theorem Event.isSwap_shift (places : Nat) (event : Event α) :
    (event.shift places).isSwap = event.isSwap := by
  cases event with
  | compared => rfl
  | swapped => rfl
  | partitioned => rfl

/-- An exchange between shifted positions is shifted. -/
theorem exchanges_shift (places : Nat) (rejected : List α) (boundary position : Nat) :
    exchanges rejected (places + boundary) (places + position) =
      (exchanges rejected boundary position).map (Event.shift places) := by
  cases rejected with
  | nil => rfl
  | cons displaced rest => rfl

section

variable {le : α → α → Bool} {pivot : α}

/-- Dealing an element in a shifted window reports shifted events. -/
theorem dealEvents_shift (places low high : Nat) (piles : Piles α) (item : α) :
    piles.dealEvents le pivot (places + low) (places + high) item =
      (piles.dealEvents le pivot low high item).map (Event.shift places) := by
  simp only [Piles.dealEvents, Nat.add_assoc places, exchanges_shift, List.map_cons, Event.shift]
  split
  · rfl
  · rfl

/-- Dealing elements in a shifted window reports shifted events. -/
theorem scanEvents_shift (places low high : Nat) (piles : Piles α) (items : List α) :
    piles.scanEvents le pivot (places + low) (places + high) items =
      (piles.scanEvents le pivot low high items).map (Event.shift places) := by
  induction items generalizing piles with
  | nil => rfl
  | cons item rest ih =>
      rw [Piles.scanEvents, Piles.scanEvents, List.map_append, dealEvents_shift, ih]

/-- Dividing a shifted window reports shifted events. -/
theorem divideEvents_shift (places low : Nat) (items : List α) :
    divideEvents le pivot (places + low) items =
      (divideEvents le pivot low items).map (Event.shift places) := by
  simp only [divideEvents, Nat.add_assoc places, scanEvents_shift, exchanges_shift,
    List.map_append, List.map_cons, List.map_nil, Event.shift]

/-- Sorting a list that lies further back reports the same at positions further
back. -/
theorem course_shift (places low : Nat) (items : List α) :
    course le (places + low) items = (course le low items).map (Event.shift places) := by
  induction items using sort_induction le generalizing low with
  | small items small =>
      rw [course_of_length_le_one _ small, course_of_length_le_one _ small]
      rfl
  | concat front pivot nonempty before after =>
      rw [course_concat _ nonempty, course_concat _ nonempty, divideEvents_shift, before,
        Nat.add_assoc places, Nat.add_assoc places, after, List.map_append, List.map_append]

end

/-- The elements of a window, copied out. -/
def Window.slice (window : Window size) (items : Vector α size) : Array α :=
  items.toArray.extract window.low (window.high + 1)

/-- A slice holds the elements between the ends of its window. -/
theorem toList_slice (window : Window size) (items : Vector α size) :
    (window.slice items).toList =
      (items.toList.drop window.low).take (window.high + 1 - window.low) := by
  rw [Window.slice, Array.toList_extract, List.extract_eq_take_drop]
  rfl

/-- Every array is spread around its slices. -/
theorem spread_slice (window : Window size) (items : Vector α size) :
    Spread window items (items.toList.take window.low) (window.slice items).toList
      (items.toList.drop (window.high + 1)) := by
  have ends := window.low_le_high
  have valid := window.high_lt_size
  constructor
  · rw [List.length_take, Vector.length_toList]
    omega
  · rw [toList_slice, List.length_take, List.length_drop, Vector.length_toList]
    omega
  · have behind : items.toList.drop (window.high + 1) =
        (items.toList.drop window.low).drop (window.high + 1 - window.low) := by
      rw [List.drop_drop]
      congr 1
      omega
    rw [toList_slice, behind, List.take_append_drop, List.take_append_drop]

namespace Spread

variable {window : Window size} {items others : Vector α size}
  {front middle otherMiddle back : List α}

/-- The elements of a window are the slice. -/
theorem toList_slice_eq (spread : Spread window items front middle back) :
    (window.slice items).toList = middle := by
  obtain ⟨low, high, layout⟩ := spread
  have count : window.high + 1 - window.low = middle.length := by omega
  rw [toList_slice, layout, count, low, List.drop_left, List.take_left]

/-- Arrays with the same elements before and behind a window agree outside it. -/
theorem getElem_eq (spread : Spread window items front middle back)
    (other : Spread window others front otherMiddle back) {position : Nat}
    (valid : position < size) (outside : position < window.low ∨ window.high < position) :
    items[position] = others[position] := by
  obtain ⟨low, high, layout⟩ := spread
  obtain ⟨-, otherHigh, otherLayout⟩ := other
  have same : items.toList[position]? = others.toList[position]? := by
    rw [layout, otherLayout]
    rcases outside with before | behind
    · rw [List.getElem?_append_left (low ▸ before), List.getElem?_append_left (low ▸ before)]
    · rw [List.getElem?_append_right (by omega), List.getElem?_append_right (by omega),
        List.getElem?_append_right (by omega), List.getElem?_append_right (by omega)]
      congr 1
      omega
  simpa only [Vector.getElem?_toList, Vector.getElem?_eq_getElem valid, Option.some.injEq]
    using same

end Spread

section

variable (le : α → α → Bool) (watch : σ → Event α → σ) (window : Window size)
  (items : Vector α size) (seen : σ)

/-- A sorted window is spread around its arranged slice. -/
theorem spread_sortWindow :
    Spread window (sortWindow le watch window items seen).1 (items.toList.take window.low)
      (arrange le (window.slice items).toList) (items.toList.drop (window.high + 1)) := by
  have spread := spread_slice window items
  constructor
  · exact spread.low_eq
  · rw [(arrange_perm _).length_eq]
    exact spread.high_eq
  · exact (sortWindow_arranged le watch _ seen spread).toList_eq

/-- An onlooker of a window sees what happens when its slice is sorted, further back. -/
theorem sortWindow_seen :
    (sortWindow le watch window items seen).2 =
      ((events le (window.slice items)).map (Event.shift window.low)).foldl watch seen := by
  have spread := spread_slice window items
  have reported := (sortWindow_arranged le watch _ seen spread).seen_eq
  rw [reported, events_eq_course, ← course_shift, ← spread.low_eq]
  rfl

end

/-- **Sorting a window refines sorting a list.** Whatever the relation answers, the
sort of a window leaves the elements outside it where they are and arranges those
inside it. Copying these out and sorting them on their own gives the same elements,
the same events but for the place where the window begins, the same numbers of
partitions and swaps, and the same comparisons in the same order. -/
theorem sortWindow_refines_arrange (le : α → α → Bool) (window : Window size)
    (items : Vector α size) :
    (∀ {σ : Type v} (watch : σ → Event α → σ) (seen : σ),
      (∀ (position : Nat) (_ : position < size),
        position < window.low ∨ window.high < position →
          (sortWindow le watch window items seen).1[position] = items[position]) ∧
      (window.slice (sortWindow le watch window items seen).1).toList =
        arrange le (window.slice items).toList ∧
      window.slice (sortWindow le watch window items seen).1 = sort le (window.slice items) ∧
      (sortWindow le watch window items seen).2 =
        ((events le (window.slice items)).map (Event.shift window.low)).foldl watch seen) ∧
      (∀ tally : Tally,
        (sortWindow le Tally.record window items tally).2 =
          { partitions := tally.partitions + (sortTallied le (window.slice items)).2.partitions
            swaps := tally.swaps + (sortTallied le (window.slice items)).2.swaps }) ∧
      ∀ log : Array (Event α),
        (sortWindow le Array.push window items log).2.toList.filterMap Event.comparison? =
          log.toList.filterMap Event.comparison? ++ comparisons le (window.slice items) := by
  refine ⟨?_, ?_, ?_⟩
  · intro σ watch seen
    have sorted := spread_sortWindow le watch window items seen
    refine ⟨?_, sorted.toList_slice_eq, ?_, sortWindow_seen le watch window items seen⟩
    · intro position valid outside
      exact sorted.getElem_eq (spread_slice window items) valid outside
    · apply Array.toList_inj.mp
      rw [sorted.toList_slice_eq, sort, toList_sortWatched]
  · intro tally
    rw [sortWindow_seen, foldl_record, sortTallied_snd, List.countP_map, List.countP_map]
    simp only [Function.comp_def, Event.isPartition_shift, Event.isSwap_shift]
  · intro log
    rw [sortWindow_seen, toList_foldl_push, List.filterMap_append, List.filterMap_map, comparisons]
    simp only [Function.comp_def, Event.comparison?_shift]

/-- The middle three of five places. -/
def inner : Window 5 := ⟨1, 3, by decide, by decide⟩

/-- Under a relation that never holds, the last element of the window comes first, and
the elements around the window stay. -/
theorem sortWindow_refines_arrange_unordered :
    (sortWindow (fun _ _ => false) Tally.record inner #v['x', 'a', 'b', 'c', 'y'] {}).1[0] = 'x' ∧
      (sortWindow (fun _ _ => false) Tally.record inner #v['x', 'a', 'b', 'c', 'y'] {}).1[4] =
        'y' ∧
      inner.slice (sortWindow (fun _ _ => false) Tally.record inner #v['x', 'a', 'b', 'c', 'y']
        {}).1 = #['c', 'a', 'b'] := by
  obtain ⟨sorts, -, -⟩ := sortWindow_refines_arrange.{0, 0} (fun _ _ : Char => false) inner
    #v['x', 'a', 'b', 'c', 'y']
  obtain ⟨outside, arranged, -, -⟩ := sorts Tally.record {}
  refine ⟨outside 0 (by decide) (.inl (by decide)), outside 4 (by decide) (.inr (by decide)), ?_⟩
  apply Array.toList_inj.mp
  rw [arranged]
  cbv

end Tandem.Sorting
