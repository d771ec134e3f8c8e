import Tandem.Proofs.Sorting.Workload

/-! # What a partition does to its window

A partition divides the elements of its window before the last one around the last one. Read
off the array: it asks about each of these elements once, in their order and at the places
where they stood before (`Tandem.Sorting.filter_isComparison_divideEvents`), although it moves
elements that it has asked about all the while. The accepted elements keep their order, the
pivot comes right behind them, and nothing outside the window moves
(`Tandem.Sorting.partition_divides`).
-/

namespace Tandem.Sorting

universe u v

variable {α : Type u} {σ : Type v} {size : Nat}

/-- Whether an event is a comparison. -/
def Event.isComparison : Event α → Bool
  | .compared .. => true
  | .swapped .. | .partitioned .. => false

section

variable {le : α → α → Bool} {pivot : α}

theorem filter_isComparison_exchanges (rejected : List α) (boundary position : Nat) :
    (exchanges rejected boundary position).filter Event.isComparison = [] := by
  cases rejected with
  | nil => rfl
  | cons displaced rest => rfl

/-- Dealing an element makes the piles longer by one together, so the next element stands one
place further back. -/
theorem length_deal (piles : Piles α) (item : α) :
    (piles.deal le pivot item).accepted.length + (piles.deal le pivot item).rejected.length =
      piles.accepted.length + piles.rejected.length + 1 := by
  unfold Piles.deal
  split
  case isTrue =>
    rw [List.length_append, List.length_singleton, List.length_rotate, Nat.add_right_comm]
  case isFalse => rw [List.length_append, List.length_singleton, Nat.add_assoc]

/-- A scan compares each element once with the pivot, at the positions from left to right. -/
theorem filter_isComparison_scanEvents (low high : Nat) (piles : Piles α) (items : List α) :
    (piles.scanEvents le pivot low high items).filter Event.isComparison =
      (items.zipIdx (low + (piles.accepted.length + piles.rejected.length))).map
        fun entry => .compared entry.2 high entry.1 pivot := by
  induction items generalizing piles with
  | nil => rfl
  | cons item rest ih =>
      have dealt : (piles.dealEvents le pivot low high item).filter Event.isComparison =
          [.compared (low + piles.accepted.length + piles.rejected.length) high item pivot] := by
        rw [Piles.dealEvents, List.filter_cons_of_pos rfl]
        split
        · rw [filter_isComparison_exchanges]
        · rfl
      rw [Piles.scanEvents, List.filter_append, dealt, ih, length_deal, List.zipIdx_cons,
        List.map_cons, List.singleton_append, ← Nat.add_assoc, ← Nat.add_assoc]

/-- A division asks about each element at its first place, in their order. -/
theorem filter_isComparison_divideEvents (low : Nat) (items : List α) :
    (divideEvents le pivot low items).filter Event.isComparison =
      (items.zipIdx low).map fun entry =>
        .compared entry.2 (low + items.length) entry.1 pivot := by
  rw [divideEvents, List.filter_append, List.filter_append, filter_isComparison_scanEvents,
    filter_isComparison_exchanges, List.filter_cons_of_neg (by exact Bool.false_ne_true),
    List.filter_nil, List.append_nil, List.append_nil]
  rfl

/-- Some element is rejected just if there is a first one. -/
theorem any_rejected_iff {items : List α} :
    (items.any fun item => !le item pivot) ↔ fromRejected le pivot items ≠ [] := by
  rw [Ne, fromRejected_eq_nil_iff]
  simp

end

/-- The elements of a window before its high end. -/
def Window.scanned (window : Window size) (items : Vector α size) : List α :=
  (items.toArray.extract window.low window.high).toList

/-- The element at the high end of a window. -/
def Window.pivot (window : Window size) (items : Vector α size) : α :=
  items.get ⟨window.high, window.high_lt_size⟩

/-- The elements between two others are found between their positions. -/
theorem toList_extract_of_toList_eq {items : Vector α size} {front middle back : List α}
    (layout : items.toList = front ++ (middle ++ back)) {start stop : Nat}
    (first : start = front.length) (last : stop = start + middle.length) :
    (items.toArray.extract start stop).toList = middle := by
  subst first last
  rw [Array.toList_extract, List.extract_eq_take_drop, Nat.add_sub_cancel_left]
  change (items.toList.drop front.length).take middle.length = middle
  rw [layout, List.drop_left, List.take_left]

/-- A window holds the elements that a scan looks at, and its pivot behind them. -/
theorem toList_slice_eq_scanned (window : Window size) (items : Vector α size) :
    (window.slice items).toList = window.scanned items ++ [window.pivot items] := by
  have ends := window.low_le_high
  have valid := window.high_lt_size
  have inside : window.high - window.low < (items.toList.drop window.low).length := by
    rw [List.length_drop, Vector.length_toList]
    omega
  have last : (items.toList.drop window.low)[window.high - window.low] = window.pivot items := by
    simp only [List.getElem_drop, Nat.add_sub_cancel' ends, Vector.getElem_toList]
    rfl
  rw [toList_slice, Nat.sub_add_comm ends, List.take_succ_eq_append_getElem inside, last,
    Window.scanned, Array.toList_extract, List.extract_eq_take_drop]
  rfl

/-- Arrays with the same elements before and behind a window have the same elements, or none,
at every place outside it. -/
theorem Spread.getElem?_eq {window : Window size} {items others : Vector α size}
    {front middle otherMiddle back : List α} (spread : Spread window items front middle back)
    (other : Spread window others front otherMiddle back) {position : Nat}
    (outside : position < window.low ∨ window.high < position) :
    items[position]? = others[position]? := by
  by_cases valid : position < size
  · rw [Vector.getElem?_eq_getElem valid, Vector.getElem?_eq_getElem valid,
      spread.getElem_eq other valid outside]
  · rw [Vector.getElem?_eq_none (Nat.le_of_not_lt valid),
      Vector.getElem?_eq_none (Nat.le_of_not_lt valid)]

section

variable (le : α → α → Bool) (watch : σ → Event α → σ) (window : Window size)
  (items : Vector α size) (seen : σ)

/-- A window lies with its pivot last between the elements before and behind it. -/
theorem spread_scanned :
    Spread window items (items.toList.take window.low)
      (window.scanned items ++ [window.pivot items]) (items.toList.drop (window.high + 1)) :=
  toList_slice_eq_scanned window items ▸ spread_slice window items

/-- The pivot stands right behind the scanned elements. -/
theorem low_add_length_scanned : window.low + (window.scanned items).length = window.high := by
  have count := (spread_scanned window items).high_eq
  rw [List.length_append, List.length_singleton, ← Nat.add_assoc] at count
  exact (Nat.succ.inj count).symm

/-- An onlooker of a partition sees the division of the scanned elements. -/
theorem partition_seen :
    (partition le watch window items seen).seen =
      (divideEvents le (window.pivot items) window.low (window.scanned items)).foldl watch seen :=
  (partition_spread le watch seen (spread_scanned window items)).2.2

/-- After a partition the window holds the accepted elements, the pivot and the rejected
elements. -/
theorem spread_partition :
    Spread window (partition le watch window items seen).items (items.toList.take window.low)
      ((divide le (window.pivot items) (window.scanned items)).accepted ++
        window.pivot items :: (divide le (window.pivot items) (window.scanned items)).rejected)
      (items.toList.drop (window.high + 1)) := by
  have spread := spread_scanned window items
  obtain ⟨layout, -, -⟩ := partition_spread le watch seen spread
  refine ⟨spread.low_eq, ?_, ?_⟩
  · have lengths := length_divide le (window.pivot items) (window.scanned items)
    have count := low_add_length_scanned window items
    rw [List.length_append, List.length_cons]
    omega
  · rw [layout, List.append_assoc, List.cons_append]

end

/-- A window divided around its pivot: the elements that may stand before the pivot in their old
order, the pivot, the other elements, and everything outside the window unchanged. -/
structure Division.Divides {window : Window size} (division : Division α σ window)
    (le : α → α → Bool) (items : Vector α size) : Prop where
  pivot_eq : division.pivot =
    window.low + (window.scanned items).countP fun item => le item (window.pivot items)
  pivot_stands : division.items[division.pivot]? = some (window.pivot items)
  accepted : (division.items.toArray.extract window.low division.pivot).toList =
    (window.scanned items).filter fun item => le item (window.pivot items)
  rejected : (division.items.toArray.extract (division.pivot + 1) (window.high + 1)).toList.Perm
    ((window.scanned items).filter fun item => !le item (window.pivot items))
  outside : ∀ position, position < window.low ∨ window.high < position →
    division.items[position]? = items[position]?

/-- A window is divided if it holds the piles of its scanned elements around the pivot. -/
theorem Division.divides_of_spread {window : Window size} {division : Division α σ window}
    {le : α → α → Bool} {items : Vector α size}
    (spread : Spread window division.items (items.toList.take window.low)
      ((divide le (window.pivot items) (window.scanned items)).accepted ++
        window.pivot items :: (divide le (window.pivot items) (window.scanned items)).rejected)
      (items.toList.drop (window.high + 1)))
    (place : division.pivot =
      window.low + (divide le (window.pivot items) (window.scanned items)).accepted.length) :
    division.Divides le items := by
  have kept : (divide le (window.pivot items) (window.scanned items)).accepted = _ :=
    divide_accepted _
  have others : (divide le (window.pivot items) (window.scanned items)).rejected.Perm _ :=
    divide_rejected_perm _
  have low := spread.low_eq
  have high := spread.high_eq
  have layout := spread.toList_eq
  generalize divide le (window.pivot items) (window.scanned items) = piles at *
  -- Three groupings of the array: up to the accepted elements, the pivot, the rejected ones.
  have inFront : division.items.toList = items.toList.take window.low ++ (piles.accepted ++
      (window.pivot items :: (piles.rejected ++ items.toList.drop (window.high + 1)))) := by
    rw [layout, List.append_assoc, List.cons_append]
  have between : division.items.toList = (items.toList.take window.low ++ piles.accepted) ++
      window.pivot items :: (piles.rejected ++ items.toList.drop (window.high + 1)) := by
    rw [inFront, List.append_assoc]
  have behind : division.items.toList =
      (items.toList.take window.low ++ piles.accepted ++ [window.pivot items]) ++
        (piles.rejected ++ items.toList.drop (window.high + 1)) := by
    rw [between, List.append_assoc _ [window.pivot items], List.singleton_append]
  have atPivot : division.pivot = (items.toList.take window.low ++ piles.accepted).length := by
    rw [place, List.length_append, ← low]
  have behindPivot : division.pivot + 1 =
      (items.toList.take window.low ++ piles.accepted ++ [window.pivot items]).length := by
    rw [List.length_append, ← atPivot, List.length_singleton]
  have valid : division.pivot < size :=
    Nat.lt_of_le_of_lt division.pivot_le_high window.high_lt_size
  refine ⟨?_, ?_, ?_, ?_, fun _ => spread.getElem?_eq (spread_scanned window items)⟩
  · rw [place, kept, List.countP_eq_length_filter]
  · rw [Vector.getElem?_eq_getElem valid, getElem_of_toList_eq between atPivot valid]
  · rw [toList_extract_of_toList_eq inFront low place, kept]
  · have last : window.high + 1 = division.pivot + 1 + piles.rejected.length := by
      rw [high, place, List.length_append, List.length_cons]
      omega
    rw [toList_extract_of_toList_eq behind behindPivot last]
    exact others

/-- A partition divides its window. -/
theorem divides_partition (le : α → α → Bool) (watch : σ → Event α → σ) (window : Window size)
    (items : Vector α size) (seen : σ) :
    (partition le watch window items seen).Divides le items :=
  Division.divides_of_spread (spread_partition le watch window items seen)
    (partition_spread le watch seen (spread_scanned window items)).2.1

/-- **A partition divides its window.** Whatever the relation answers, the pivot ends up behind
as many elements of the window as may stand before it. These keep their order, the other ones
come behind the pivot in some order, and the elements outside the window stay. The elements
before the high end are asked about once each, in their order and at their first places, always
as the left operand against the element that was at the high end, and nothing else is asked.
One partition is counted, one swap for each accepted element behind the first rejected one, and
one more swap if an element was rejected. -/
theorem partition_divides (le : α → α → Bool) (window : Window size) (items : Vector α size) :
    (∀ {σ : Type v} (watch : σ → Event α → σ) (seen : σ),
      (partition le watch window items seen).Divides le items) ∧
      (∀ log : Array (Event α),
        (partition le Array.push window items log).seen.toList.filter Event.isComparison =
          log.toList.filter Event.isComparison ++
            ((window.scanned items).zipIdx window.low).map fun entry =>
              .compared entry.2 window.high entry.1 (window.pivot items)) ∧
      ∀ tally : Tally,
        (partition le Tally.record window items tally).seen =
          { partitions := tally.partitions + 1
            swaps := tally.swaps +
              (((window.scanned items).dropWhile fun item => le item (window.pivot items)).countP
                  (fun item => le item (window.pivot items)) +
                if (window.scanned items).any fun item => !le item (window.pivot items)
                  then 1 else 0) } := by
  refine ⟨fun watch seen => divides_partition le watch window items seen, ?_, ?_⟩
  · intro log
    rw [partition_seen, toList_foldl_push, List.filter_append, filter_isComparison_divideEvents,
      low_add_length_scanned]
  · intro tally
    rw [partition_seen, foldl_record, countP_isPartition_divideEvents, countP_isSwap_divideEvents]
    simp only [any_rejected_iff, ite_not]
    rfl

-- Two of four elements may stand before the five: the second of them changes places with the
-- seven, and then the five does.
example :
    let division := partition (fun left right : Nat => decide (left ≤ right)) Tally.record
      ⟨0, 4, by decide, by decide⟩ #v[4, 7, 1, 9, 5] {}
    division.items = #v[4, 1, 5, 9, 7] ∧ division.pivot = 2 ∧ division.seen.swaps = 2 := by
  decide +kernel

end Tandem.Sorting
