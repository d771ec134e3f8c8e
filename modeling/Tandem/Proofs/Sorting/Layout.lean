import Tandem.Proofs.Sorting.Arrangement
import Tandem.Sorting.Quicksort

/-! # Sorting a window arranges its elements

An array is read as the elements before a window, those of the window and those
behind it. A scan deals the elements of its window, a partition divides them
(`Tandem.Sorting.partition_spread`), and the sort arranges them and reports
their course (`Tandem.Sorting.sortWindow_arranged`). The elements before and behind
the window stay what they are.
-/

namespace Tandem.Sorting

universe u v

variable {α : Type u} {σ : Type v} {size : Nat}

/-- An element is found at the place where it stands. -/
theorem getElem_of_toList_eq {items : Vector α size} {front back : List α} {item : α}
    (layout : items.toList = front ++ item :: back) {position : Nat}
    (place : position = front.length) (valid : position < size) : items[position] = item := by
  subst place
  rw [← Vector.getElem_toList (by simpa using valid)]
  simp only [layout, List.getElem_append_right, Nat.le_refl, Nat.sub_self, List.getElem_cons_zero]

/-- Swapping two elements leaves those before, between and behind them. -/
theorem toList_swap_of_toList_eq {items : Vector α size} {front middle back : List α}
    {left right : α} (layout : items.toList = front ++ left :: (middle ++ right :: back))
    {i j : Nat} (first : i = front.length) (second : j = front.length + (middle.length + 1))
    (validLeft : i < size) (validRight : j < size) :
    (items.swap i j).toList = front ++ right :: (middle ++ left :: back) := by
  have atLeft : items[i] = left := getElem_of_toList_eq layout first validLeft
  have regrouped : items.toList = (front ++ left :: middle) ++ right :: back := by
    rw [layout, List.append_assoc, List.cons_append]
  have atRight : items[j] = right := by
    apply getElem_of_toList_eq regrouped
    rw [second, List.length_append, List.length_cons]
  rw [Vector.toList_swap, atLeft, atRight, layout, first, second]
  simp [List.set_append_right]

/-- Exchanging the first rejected element with the one behind the rejected pile
turns the pile. -/
theorem toList_exchange (watch : σ → Event α → σ) {items : Vector α size} (seen : σ)
    {front rejected back : List α} {item : α}
    (layout : items.toList = front ++ (rejected ++ item :: back)) {i j : Nat}
    (first : i = front.length) (second : j = i + rejected.length)
    (validLeft : i < size) (validRight : j < size) :
    (exchange watch items seen i j validLeft validRight).1.toList =
      front ++ item :: (rejected.rotate 1 ++ back) := by
  cases rejected with
  | nil =>
      have same : i = j := by rw [second, List.length_nil, Nat.add_zero]
      simp only [exchange, same, ↓reduceIte, List.rotate_nil, List.nil_append]
      simpa only [List.nil_append] using layout
  | cons displaced rest =>
      rw [List.length_cons] at second
      have different : i ≠ j := by omega
      simp only [exchange, different, ↓reduceIte]
      rw [toList_swap_of_toList_eq layout first (first ▸ second) validLeft validRight]
      simp only [List.rotate_cons_succ, List.rotate_zero, List.append_assoc,
        List.singleton_append]

/-- An exchange over a pile of rejected elements is reported unless the pile is empty. -/
theorem exchange_seen (watch : σ → Event α → σ) (items : Vector α size) (seen : σ)
    (rejected : List α) {i j : Nat} (second : j = i + rejected.length)
    (validLeft : i < size) (validRight : j < size) :
    (exchange watch items seen i j validLeft validRight).2 =
      (exchanges rejected i j).foldl watch seen := by
  cases rejected with
  | nil =>
      have same : i = j := by rw [second, List.length_nil, Nat.add_zero]
      simp only [exchange, same, ↓reduceIte, exchanges, List.isEmpty_nil, List.foldl_nil]
  | cons displaced rest =>
      rw [List.length_cons] at second
      have different : i ≠ j := by omega
      simp only [exchange, different, ↓reduceIte, exchanges, List.isEmpty_cons,
        Bool.false_eq_true, List.foldl_cons, List.foldl_nil]

/-- An array in the middle of a scan: the piles dealt so far lie one behind the
other from the window's low end, then come the elements still to be dealt, and
the pivot at the high end. -/
structure Dealing (window : Window size) (position boundary : Nat) (items : Vector α size)
    (front : List α) (piles : Piles α) (rest : List α) (pivot : α) (back : List α) : Prop where
  low_eq : window.low = front.length
  boundary_eq : boundary = window.low + piles.accepted.length
  position_eq : position = boundary + piles.rejected.length
  high_eq : window.high = position + rest.length
  toList_eq : items.toList =
    front ++ (piles.accepted ++ (piles.rejected ++ (rest ++ pivot :: back)))

namespace Dealing

variable {le : α → α → Bool} {watch : σ → Event α → σ} {window : Window size}
  {position boundary : Nat} {items : Vector α size} {front rest back : List α} {piles : Piles α}
  {item pivot : α}

/-- The next element to be dealt is at the scan's position. -/
theorem getElem_position
    (dealing : Dealing window position boundary items front piles (item :: rest) pivot back)
    (valid : position < size) : items[position] = item := by
  obtain ⟨low, edge, place, -, layout⟩ := dealing
  have regrouped : items.toList =
      (front ++ (piles.accepted ++ piles.rejected)) ++ item :: (rest ++ pivot :: back) := by
    simp only [layout, List.append_assoc, List.cons_append]
  apply getElem_of_toList_eq regrouped
  simp only [List.length_append]
  omega

/-- The pivot stays at the high end of the window. -/
theorem getElem_high
    (dealing : Dealing window position boundary items front piles rest pivot back)
    (valid : window.high < size) : items[window.high] = pivot := by
  obtain ⟨low, edge, place, last, layout⟩ := dealing
  have regrouped : items.toList =
      (front ++ (piles.accepted ++ (piles.rejected ++ rest))) ++ pivot :: back := by
    simp only [layout, List.append_assoc]
  apply getElem_of_toList_eq regrouped
  simp only [List.length_append]
  omega

/-- Accepting an element deals it. -/
theorem accept
    (dealing : Dealing window position boundary items front piles (item :: rest) pivot back)
    (accepted : le item pivot) (seen : σ) (validLeft : boundary < size)
    (validRight : position < size) :
    Dealing window (position + 1) (boundary + 1)
      (exchange watch items seen boundary position validLeft validRight).1 front
      (piles.deal le pivot item) rest pivot back := by
  obtain ⟨low, edge, place, last, layout⟩ := dealing
  have regrouped : items.toList =
      (front ++ piles.accepted) ++ (piles.rejected ++ item :: (rest ++ pivot :: back)) := by
    simp only [layout, List.append_assoc, List.cons_append]
  have moved := toList_exchange watch seen regrouped (by rw [edge, low, List.length_append]) place
    validLeft validRight
  simp only [List.length_cons] at last
  simp only [Piles.deal, accepted, ↓reduceIte]
  constructor
  · exact low
  · simp only [List.length_append, List.length_singleton]
    omega
  · simp only [List.length_rotate]
    omega
  · omega
  · simp only [moved, List.append_assoc, List.cons_append, List.nil_append]

/-- Passing over an element deals it. -/
theorem reject
    (dealing : Dealing window position boundary items front piles (item :: rest) pivot back)
    (rejected : ¬le item pivot) :
    Dealing window (position + 1) boundary items front (piles.deal le pivot item) rest pivot
      back := by
  obtain ⟨low, edge, place, last, layout⟩ := dealing
  simp only [List.length_cons] at last
  simp only [Piles.deal, rejected, Bool.false_eq_true, ↓reduceIte]
  constructor
  · exact low
  · exact edge
  · simp only [List.length_append, List.length_singleton]
    omega
  · omega
  · simp only [layout, List.append_assoc, List.cons_append, List.nil_append]

end Dealing

/-- A scan deals all elements that it has not looked at yet. -/
theorem scan_dealing (le : α → α → Bool) (watch : σ → Event α → σ) {window : Window size}
    {front back : List α} {pivot : α} (rest : List α) :
    ∀ {piles : Piles α} {remaining position boundary : Nat} (above : window.low ≤ boundary)
      (below : boundary ≤ position) (last : position + remaining = window.high)
      {items : Vector α size} (seen : σ),
      Dealing window position boundary items front piles rest pivot back →
      let division := scan le watch window remaining position boundary above below last items seen
      Dealing window window.high division.pivot division.items front
          (rest.foldl (Piles.deal le pivot) piles) [] pivot back ∧
        division.seen =
          (piles.scanEvents le pivot window.low window.high rest).foldl watch seen := by
  induction rest with
  | nil =>
      intro piles remaining position boundary above below last items seen dealing
      have atEnd : window.high = position := by
        simpa only [List.length_nil, Nat.add_zero] using dealing.high_eq
      obtain rfl : remaining = 0 := by omega
      simp only [scan, List.foldl_nil, Piles.scanEvents, and_true]
      rw [atEnd]
      exact dealing
  | cons item rest ih =>
      intro piles remaining position boundary above below last items seen dealing
      have valid := window.high_lt_size
      have count := dealing.high_eq
      rw [List.length_cons] at count
      obtain ⟨remaining, rfl⟩ : ∃ fewer, remaining = fewer + 1 := ⟨rest.length, by omega⟩
      simp only [scan, ask, dealing.getElem_position, dealing.getElem_high]
      have reports : ∀ after : σ,
          after = (piles.dealEvents le pivot window.low window.high item).foldl watch seen →
            ((piles.deal le pivot item).scanEvents le pivot window.low window.high rest).foldl
                watch after =
              (piles.scanEvents le pivot window.low window.high (item :: rest)).foldl watch
                seen := by
        rintro after rfl
        rw [Piles.scanEvents, List.foldl_append]
      have remains : position + 1 + remaining = window.high := by omega
      by_cases accepted : le item pivot
      · simp only [accepted, ↓reduceIte]
        obtain ⟨dealt, reported⟩ := ih (by omega) (by omega) remains _
          (dealing.accept accepted _ (by omega) (by omega))
        refine ⟨dealt, reported.trans (reports _ ?_)⟩
        rw [exchange_seen watch items _ piles.rejected dealing.position_eq]
        simp only [Piles.dealEvents, accepted, ↓reduceIte, ← dealing.boundary_eq,
          ← dealing.position_eq, List.foldl_cons]
      · simp only [accepted, Bool.false_eq_true, ↓reduceIte]
        obtain ⟨dealt, reported⟩ := ih above (by omega) remains _ (dealing.reject accepted)
        refine ⟨dealt, reported.trans (reports _ ?_)⟩
        simp only [Piles.dealEvents, accepted, Bool.false_eq_true, ↓reduceIte,
          ← dealing.boundary_eq, ← dealing.position_eq, List.foldl_cons, List.foldl_nil]

/-- An array with the elements `middle` in a window, `front` before it and `back`
behind it. -/
structure Spread (window : Window size) (items : Vector α size) (front middle back : List α) :
    Prop where
  low_eq : window.low = front.length
  high_eq : window.high + 1 = window.low + middle.length
  toList_eq : items.toList = front ++ (middle ++ back)

/-- A partition divides the elements of its window around the last one. -/
theorem partition_spread (le : α → α → Bool) (watch : σ → Event α → σ) {window : Window size}
    {items : Vector α size} {front elements back : List α} {pivot : α} (seen : σ)
    (spread : Spread window items front (elements ++ [pivot]) back) :
    let division := partition le watch window items seen
    let piles := divide le pivot elements
    division.items.toList = front ++ (piles.accepted ++ pivot :: (piles.rejected ++ back)) ∧
      division.pivot = window.low + piles.accepted.length ∧
      division.seen = (divideEvents le pivot window.low elements).foldl watch seen := by
  obtain ⟨low, high, layout⟩ := spread
  have valid := window.high_lt_size
  simp only [List.length_append, List.length_singleton] at high
  have start : Dealing window window.low window.low items front {} elements pivot back := by
    constructor
    · exact low
    · rfl
    · rfl
    · omega
    · simpa only [List.nil_append, List.append_assoc, List.singleton_append] using layout
  have whole : window.low + (window.high - window.low) = window.high := by omega
  obtain ⟨dealt, reported⟩ :=
    scan_dealing le watch elements (Nat.le_refl _) (Nat.le_refl _) whole seen start
  simp only [partition]
  generalize scan le watch window (window.high - window.low) window.low window.low _ _ _ items
    seen = division at dealt reported ⊢
  obtain ⟨moved, after, boundary, above, below⟩ := division
  obtain ⟨-, edge, place, -, scanned⟩ := dealt
  simp only at edge place scanned reported ⊢
  have regrouped : moved.toList =
      (front ++ (elements.foldl (Piles.deal le pivot) {}).accepted) ++
        ((elements.foldl (Piles.deal le pivot) {}).rejected ++ pivot :: back) := by
    simpa only [List.append_assoc, List.nil_append] using scanned
  have inside : boundary < size := by omega
  have exchanged := toList_exchange watch after regrouped
    (by rw [edge, low, List.length_append]) place inside valid
  have ends : window.low + elements.length = window.high := by omega
  refine ⟨?_, edge, ?_⟩
  · simp only [exchanged, divide, List.append_assoc]
  · rw [exchange_seen watch moved after _ place inside valid, reported]
    simp only [divideEvents, List.foldl_append, ends, ← edge, List.foldl_cons, List.foldl_nil]

/-- The elements `middle` between `front` and `back` have been arranged, and the
onlooker has seen the course of the arrangement. -/
structure Arranged (le : α → α → Bool) (watch : σ → Event α → σ) (front middle back : List α)
    (seen : σ) (result : Vector α size × σ) : Prop where
  toList_eq : result.1.toList = front ++ (arrange le middle ++ back)
  seen_eq : result.2 = (course le front.length middle).foldl watch seen

/-- At most one element is arranged as it stands. -/
theorem Arranged.of_length_le_one {le : α → α → Bool} {watch : σ → Event α → σ}
    {items : Vector α size} {front middle back : List α} (seen : σ)
    (layout : items.toList = front ++ (middle ++ back)) (small : middle.length ≤ 1) :
    Arranged le watch front middle back seen (items, seen) := by
  constructor
  · rw [arrange_of_length_le_one small]
    exact layout
  · rw [course_of_length_le_one _ small]
    rfl

/-- A part of a window that is sorted unless it is empty ends up arranged. -/
theorem Arranged.of_dite {le : α → α → Bool} {watch : σ → Event α → σ} {condition : Prop}
    [Decidable condition] {window : condition → Window size} {items : Vector α size}
    {front middle back : List α} {seen : σ} (layout : items.toList = front ++ (middle ++ back))
    (occupied : ∀ inside, Arranged le watch front middle back seen
      (sortWindow le watch (window inside) items seen))
    (vacant : ¬condition → middle.length = 0) :
    Arranged le watch front middle back seen
      (if inside : condition then sortWindow le watch (window inside) items seen
        else (items, seen)) := by
  split
  case isTrue inside => exact occupied inside
  case isFalse outside => exact .of_length_le_one seen layout (by rw [vacant outside]; omega)

/-- Elements are arranged once they are divided and both piles are arranged, the
accepted one first. -/
theorem Arranged.of_divided {le : α → α → Bool} {watch : σ → Event α → σ}
    {front elements back : List α} {pivot : α} {seen divided later : σ}
    {result : Vector α size × σ} (several : 0 < elements.length)
    (reported : divided = (divideEvents le pivot front.length elements).foldl watch seen)
    (sorted : later =
      (course le front.length (divide le pivot elements).accepted).foldl watch divided)
    (trailing : Arranged le watch
      (front ++ (arrange le (divide le pivot elements).accepted ++ [pivot]))
      (divide le pivot elements).rejected back later result) :
    Arranged le watch front (elements ++ [pivot]) back seen result := by
  obtain ⟨layout, final⟩ := trailing
  have shifted : (front ++ (arrange le (divide le pivot elements).accepted ++ [pivot])).length =
      front.length + (divide le pivot elements).accepted.length + 1 := by
    simp only [List.length_append, (arrange_perm _).length_eq, List.length_singleton]
    omega
  constructor
  · rw [layout, arrange_concat]
    simp only [List.append_assoc, List.cons_append, List.nil_append]
  · rw [final, shifted, sorted, reported, course_concat _ (List.ne_nil_of_length_pos several)]
    simp only [List.foldl_append]

/-- Sorting a window arranges its elements, leaves the others where they are, and
reports the course of the arrangement. -/
theorem sortWindow_arranged (le : α → α → Bool) (watch : σ → Event α → σ) (middle : List α) :
    ∀ {window : Window size} {items : Vector α size} {front back : List α} (seen : σ),
      Spread window items front middle back →
      Arranged le watch front middle back seen (sortWindow le watch window items seen) := by
  induction middle using divide_induction le with
  | nil =>
      intro window items front back seen spread
      have ends := window.low_le_high
      have count := spread.high_eq
      rw [List.length_nil] at count
      omega
  | concat elements pivot sortBefore sortAfter =>
      intro window items front back seen spread
      have low := spread.low_eq
      have count := spread.high_eq
      simp only [List.length_append, List.length_singleton] at count
      rcases Nat.eq_zero_or_pos elements.length with empty | several
      · rw [sortWindow, if_neg (by omega)]
        apply Arranged.of_length_le_one seen spread.toList_eq
        simp only [List.length_append, List.length_singleton]
        omega
      · obtain ⟨layout, place, reported⟩ := partition_spread le watch seen spread
        have lengths := length_divide le pivot elements
        rw [sortWindow, if_pos (by omega)]
        generalize partition le watch window items seen = division at layout place reported ⊢
        obtain ⟨divided, after, boundary, above, below⟩ := division
        simp only at layout place reported ⊢
        have leading := Arranged.of_dite layout
          (fun inside : window.low < boundary =>
            have before : Spread (window.before boundary inside below) divided front _ _ :=
              ⟨low, by simp only [Window.before]; omega, layout⟩
            sortBefore after before) (by omega)
        generalize (if inside : window.low < boundary then
          sortWindow le watch (window.before boundary inside below) divided after
            else (divided, after)) = result at leading ⊢
        obtain ⟨sorted, later⟩ := result
        obtain ⟨sortedLayout, sortedSeen⟩ := leading
        -- The part behind the pivot lies between the arranged front and the same back.
        have regrouped : sorted.toList =
            (front ++ (arrange le (divide le pivot elements).accepted ++ [pivot])) ++
              ((divide le pivot elements).rejected ++ back) := by
          simp only [sortedLayout, List.append_assoc, List.singleton_append]
        rw [low] at reported
        refine .of_divided several reported sortedSeen (.of_dite regrouped ?_ (by omega))
        intro inside
        apply sortAfter later
        constructor
        · simp only [Window.after, List.length_append, (arrange_perm _).length_eq,
            List.length_singleton]
          omega
        · simp only [Window.after]
          omega
        · exact regrouped

/-- The window of a whole array holds all its elements. -/
theorem spread_whole {items : Array α} (nonempty : 0 < items.size) :
    Spread ⟨0, items.size - 1, Nat.zero_le _, Nat.sub_one_lt (Nat.ne_of_gt nonempty)⟩
      items.toVector [] items.toList [] := by
  constructor
  · rfl
  · simp only [Array.length_toList]
    omega
  · rw [List.nil_append, List.append_nil]
    rfl

/-- Sorting an array arranges its elements. -/
theorem toList_sortWatched (le : α → α → Bool) (watch : σ → Event α → σ) (items : Array α)
    (seen : σ) : (sortWatched le watch items seen).1.toList = arrange le items.toList := by
  unfold sortWatched
  split
  case isTrue nonempty =>
    have layout := (sortWindow_arranged le watch _ seen (spread_whole nonempty)).toList_eq
    rw [List.nil_append, List.append_nil] at layout
    exact layout
  case isFalse empty =>
    rw [arrange_of_length_le_one (by simp only [Array.length_toList]; omega)]

/-- An onlooker of a whole sort sees the course of the arrangement. -/
theorem sortWatched_seen (le : α → α → Bool) (watch : σ → Event α → σ) (items : Array α)
    (seen : σ) :
    (sortWatched le watch items seen).2 = (course le 0 items.toList).foldl watch seen := by
  unfold sortWatched
  split
  case isTrue nonempty =>
    exact (sortWindow_arranged le watch _ seen (spread_whole nonempty)).seen_eq
  case isFalse empty =>
    rw [course_of_length_le_one _ (by simp only [Array.length_toList]; omega)]
    rfl

/-- A sort gives the same array whoever watches it. -/
theorem sortWatched_fst (le : α → α → Bool) (watch : σ → Event α → σ) (items : Array α)
    (seen : σ) : (sortWatched le watch items seen).1 = sort le items := by
  apply Array.toList_inj.mp
  simp only [sort, toList_sortWatched]

/-- The sort loses no element and adds none. -/
theorem sort_perm (le : α → α → Bool) (items : Array α) :
    (sort le items).toList.Perm items.toList := by
  rw [sort, toList_sortWatched]
  exact arrange_perm _

end Tandem.Sorting
