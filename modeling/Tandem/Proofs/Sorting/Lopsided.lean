import Mathlib.Data.List.Induction
import Mathlib.Data.Nat.Choose.Basic
import Tandem.Proofs.Sorting.Neighbours
import Tandem.Proofs.Sorting.Ordered
import Tandem.Proofs.Sorting.Workload

/-! # Lists that divide on one side only

A sort is slowest where each division leaves one pile empty
(`Tandem.Sorting.Lopsided`). Such a list takes one partition for each element but one
and a comparison for each two elements, and one swap for each division that rejects
everything (`Tandem.Sorting.Lopsided.sortMeasured_eq`). In an ordered list every division
accepts everything (`Tandem.Sorting.Lopsided.of_pairwise`), and no other list is sorted
without a swap (`Tandem.Sorting.Lopsided.of_countP_isSwap_eq_zero`). In a strictly
decreasing one every second division rejects everything, and the one after it restores the
decreasing order of what is left (`Tandem.Sorting.Lopsided.of_decreasing`).
-/

namespace Tandem.Sorting

universe u

variable {α : Type u} {le : α → α → Bool} {pivot : α} {front items : List α}

/-- If all elements may stand before the pivot, all are accepted. -/
theorem accepted_of_forall_le (all : ∀ item ∈ items, le item pivot) :
    (divide le pivot items).accepted = items := by
  rw [divide_accepted]
  exact List.filter_eq_self.mpr all

/-- If all elements may stand before the pivot, none is rejected. -/
theorem rejected_of_forall_le (all : ∀ item ∈ items, le item pivot) :
    (divide le pivot items).rejected = [] := by
  have lengths := length_divide le pivot items
  rw [accepted_of_forall_le all] at lengths
  apply List.eq_nil_of_length_eq_zero
  omega

/-- If no element may stand before the pivot, none is accepted. -/
theorem accepted_of_forall_not_le (none : ∀ item ∈ items, ¬le item pivot) :
    (divide le pivot items).accepted = [] := by
  rw [divide_accepted]
  exact List.filter_eq_nil_iff.mpr none

/-- If no element may stand before the pivot, the rejected pile takes them in order. -/
theorem Piles.foldl_deal_of_forall_not_le (none : ∀ item ∈ items, ¬le item pivot)
    (piles : Piles α) :
    items.foldl (deal le pivot) piles = { piles with rejected := piles.rejected ++ items } := by
  induction items generalizing piles with
  | nil => simp only [List.foldl_nil, List.append_nil]
  | cons item rest ih =>
      obtain ⟨first, later⟩ := List.forall_mem_cons.mp none
      rw [List.foldl_cons, ih later, deal, if_neg first]
      simp only [List.append_assoc, List.singleton_append]

/-- If no element may stand before the pivot, the first one ends up last. -/
theorem rejected_of_forall_not_le (none : ∀ item ∈ items, ¬le item pivot) :
    (divide le pivot items).rejected = items.rotate 1 := by
  unfold divide
  rw [Piles.foldl_deal_of_forall_not_le none]
  rfl

/-- If no element may stand before the pivot, the first rejected one is the first of all. -/
theorem fromRejected_of_forall_not_le (none : ∀ item ∈ items, ¬le item pivot) :
    fromRejected le pivot items = items := by
  cases items with
  | nil => rfl
  | cons first rest => exact List.dropWhile_cons_of_neg (none first List.mem_cons_self)

/-- Without rejected elements nothing is exchanged. -/
theorem countP_isSwap_of_forall_le (low : Nat) (all : ∀ item ∈ items, le item pivot) :
    (divideEvents le pivot low items).countP Event.isSwap = 0 := by
  rw [countP_isSwap_divideEvents, fromRejected_eq_nil_iff.mpr all]
  rfl

/-- Without accepted elements only the pivot is exchanged. -/
theorem countP_isSwap_of_forall_not_le (low : Nat) (nonempty : items ≠ [])
    (none : ∀ item ∈ items, ¬le item pivot) :
    (divideEvents le pivot low items).countP Event.isSwap = 1 := by
  rw [countP_isSwap_divideEvents, fromRejected_of_forall_not_le none, if_neg nonempty,
    List.countP_eq_zero.mpr none]

theorem course_nil (low : Nat) : course le low [] = [] :=
  course_of_length_le_one low (Nat.zero_le 1)

/-- If all elements may stand before the pivot, they are sorted where they are. -/
theorem countP_course_of_forall_le (counts : Event α → Bool) (low : Nat) (nonempty : front ≠ [])
    (all : ∀ item ∈ front, le item pivot) :
    (course le low (front ++ [pivot])).countP counts =
      (divideEvents le pivot low front).countP counts + (course le low front).countP counts := by
  rw [course_concat low nonempty, accepted_of_forall_le all, rejected_of_forall_le all, course_nil,
    List.append_nil, List.countP_append]

/-- If no element may stand before the pivot, they are sorted behind it. -/
theorem countP_course_of_forall_not_le (counts : Event α → Bool) (low : Nat)
    (nonempty : front ≠ []) (none : ∀ item ∈ front, ¬le item pivot) :
    (course le low (front ++ [pivot])).countP counts =
      (divideEvents le pivot low front).countP counts +
        (course le (low + 1) (front.rotate 1)).countP counts := by
  rw [course_concat low nonempty, accepted_of_forall_not_le none, rejected_of_forall_not_le none,
    course_nil, List.nil_append, List.countP_append, List.length_nil, Nat.add_zero]

/-- A list of which every division leaves one pile empty, with the number of divisions that
reject everything. -/
inductive Lopsided (le : α → α → Bool) : (turns : Nat) → List α → Prop where
  | small {items : List α} (small : items.length ≤ 1) : Lopsided le 0 items
  | accepting {turns : Nat} {front : List α} {pivot : α} (nonempty : front ≠ [])
      (all : ∀ item ∈ front, le item pivot) (before : Lopsided le turns front) :
      Lopsided le turns (front ++ [pivot])
  | rejecting {turns : Nat} {front : List α} {pivot : α} (nonempty : front ≠ [])
      (none : ∀ item ∈ front, ¬le item pivot) (after : Lopsided le turns (front.rotate 1)) :
      Lopsided le (turns + 1) (front ++ [pivot])

namespace Lopsided

variable {turns : Nat}

/-- Each division settles one element and leaves all others to one sort. -/
theorem countP_isPartition (lopsided : Lopsided le turns items) (low : Nat) :
    (course le low items).countP Event.isPartition = items.length - 1 := by
  induction lopsided generalizing low with
  | small small =>
      rw [course_of_length_le_one low small, Nat.sub_eq_zero_of_le small]
      rfl
  | accepting nonempty all before ih =>
      have several := List.length_pos_of_ne_nil nonempty
      rw [countP_course_of_forall_le _ low nonempty all, countP_isPartition_divideEvents, ih,
        List.length_append, List.length_singleton]
      omega
  | rejecting nonempty none after ih =>
      have several := List.length_pos_of_ne_nil nonempty
      rw [countP_course_of_forall_not_le _ low nonempty none, countP_isPartition_divideEvents, ih,
        List.length_rotate, List.length_append, List.length_singleton]
      omega

/-- The only exchanges are those that put a pivot before all others. -/
theorem countP_isSwap (lopsided : Lopsided le turns items) (low : Nat) :
    (course le low items).countP Event.isSwap = turns := by
  induction lopsided generalizing low with
  | small small =>
      rw [course_of_length_le_one low small]
      rfl
  | accepting nonempty all before ih =>
      rw [countP_course_of_forall_le _ low nonempty all, countP_isSwap_of_forall_le low all, ih,
        Nat.zero_add]
  | rejecting nonempty none after ih =>
      rw [countP_course_of_forall_not_le _ low nonempty none,
        countP_isSwap_of_forall_not_le low nonempty none, ih, Nat.add_comm]

/-- Any two elements meet. -/
theorem length_inquiries (lopsided : Lopsided le turns items) :
    (inquiries le items).length = items.length.choose 2 := by
  have step (count : Nat) : count + count.choose 2 = (count + 1).choose 2 := by
    rw [Nat.choose_succ_succ' count 1, Nat.choose_one_right]
  induction lopsided with
  | small small =>
      rw [inquiries, course_of_length_le_one 0 small, Nat.choose_eq_zero_of_lt (by omega)]
      rfl
  | accepting nonempty all before ih =>
      rw [length_inquiries_concat, accepted_of_forall_le all, rejected_of_forall_le all,
        inquiries_nil, ih, List.length_nil, Nat.add_zero, List.length_append, List.length_singleton,
        step]
  | rejecting nonempty none after ih =>
      rw [length_inquiries_concat, accepted_of_forall_not_le none, rejected_of_forall_not_le none,
        inquiries_nil, ih, List.length_nil, Nat.zero_add, List.length_rotate, List.length_append,
        List.length_singleton, step]

/-- A lopsided sort makes all partitions and comparisons there can be, and a swap for each turn. -/
theorem sortMeasured_eq {items : Array α} (lopsided : Lopsided le turns items.toList) :
    (sortMeasured le items).2 =
      { tally := { partitions := maxPartitions items.size, swaps := turns }
        comparisons := items.size * (items.size - 1) / 2 } := by
  rw [sortMeasured_snd, sortTallied_snd, events_eq_course, comparisons_eq_inquiries,
    lopsided.countP_isPartition, lopsided.countP_isSwap, lopsided.length_inquiries,
    Nat.choose_two_right, Array.length_toList]
  rfl

/-- Nothing moves where nothing is rejected. -/
theorem arrange_eq (lopsided : Lopsided le 0 items) : arrange le items = items := by
  generalize count : 0 = turns at lopsided
  induction lopsided with
  | small small => exact arrange_of_length_le_one small
  | accepting nonempty all before ih =>
      rw [arrange_concat, accepted_of_forall_le all, rejected_of_forall_le all, ih count,
        arrange_of_length_le_one (by simp)]
  | rejecting => cases count

/-- A list stays lopsided with a pivot behind it that all may stand before. -/
theorem concat (before : Lopsided le turns front) (all : ∀ item ∈ front, le item pivot) :
    Lopsided le turns (front ++ [pivot]) := by
  rcases eq_or_ne front [] with rfl | nonempty
  · have still := before.countP_isSwap 0
    rw [course_nil, List.countP_nil] at still
    rw [← still]
    exact .small (Nat.le_refl 1)
  · exact .accepting nonempty all before

/-- An ordered list accepts everything. -/
theorem of_pairwise (ordered : items.Pairwise fun left right => le left right) :
    Lopsided le 0 items := by
  induction items using List.reverseRecOn with
  | nil => exact .small (Nat.zero_le 1)
  | append_singleton front pivot ih =>
      obtain ⟨frontOrdered, -, last⟩ := List.pairwise_append.mp ordered
      apply (ih frontOrdered).concat
      intro item member
      exact last item member pivot (List.mem_singleton_self pivot)

/-- A sort without an exchange accepts everything. -/
theorem of_countP_isSwap_eq_zero {low : Nat}
    (still : (course le low items).countP Event.isSwap = 0) : Lopsided le 0 items := by
  induction items using List.reverseRecOn generalizing low with
  | nil => exact .small (Nat.zero_le 1)
  | append_singleton front pivot ih =>
      rcases eq_or_ne front [] with rfl | nonempty
      · exact .small (Nat.le_refl 1)
      · have divided : (divideEvents le pivot low front).countP Event.isSwap = 0 := by
          rw [course_concat low nonempty, List.countP_append] at still
          exact Nat.eq_zero_of_add_eq_zero_right still
        -- The pivot alone is exchanged with the first rejected element, if there is one.
        have all : ∀ item ∈ front, le item pivot := by
          rw [countP_isSwap_divideEvents] at divided
          by_contra some
          rw [← fromRejected_eq_nil_iff] at some
          rw [if_neg some] at divided
          exact Nat.succ_ne_zero _ divided
        rw [countP_course_of_forall_le _ low nonempty all] at still
        exact .accepting nonempty all (ih (Nat.eq_zero_of_add_eq_zero_left still))

/-- A strictly decreasing list turns at every second division. -/
theorem of_decreasing
    (decreasing : items.Pairwise fun left right => ¬le left right ∧ le right left) :
    Lopsided le (items.length / 2) items := by
  induction items using List.bidirectionalRec with
  | nil =>
      rw [List.length_nil, Nat.zero_div]
      exact .small (Nat.zero_le 1)
  | singleton item =>
      rw [List.length_singleton, Nat.div_eq_of_lt (Nat.lt_succ_self 1)]
      exact .small (Nat.le_refl 1)
  | cons_append first middle last ih =>
      obtain ⟨behindFirst, others⟩ := List.pairwise_cons.mp decreasing
      obtain ⟨middleDecreasing, -, beforeLast⟩ := List.pairwise_append.mp others
      have rejected : ∀ item ∈ first :: middle, ¬le item last := by
        refine List.forall_mem_cons.mpr ⟨(behindFirst last (by simp)).1, ?_⟩
        intro item member
        exact (beforeLast item member last (by simp)).1
      have count : (first :: (middle ++ [last])).length / 2 = middle.length / 2 + 1 := by
        simp only [List.length_cons, List.length_append, List.length_nil]
        omega
      rw [count]
      refine .rejecting (List.cons_ne_nil first middle) rejected ?_
      -- The greatest element now stands behind the others and leaves them as they are.
      rw [List.rotate_cons_succ, List.rotate_zero]
      apply (ih middleDecreasing).concat
      intro item member
      exact (behindFirst item (List.mem_append_left _ member)).2

/-- A list that is lopsided without a turn is left as it is. -/
theorem sort_eq {items : Array α} (lopsided : Lopsided le 0 items.toList) :
    sort le items = items := by
  apply Array.toList_inj.mp
  rw [sort, toList_sortWatched, lopsided.arrange_eq]

end Lopsided

/-- Sorting makes no swap just if every division accepts everything. -/
theorem swaps_eq_zero_iff_lopsided (le : α → α → Bool) (items : Array α) :
    (sortTallied le items).2.swaps = 0 ↔ Lopsided le 0 items.toList := by
  rw [sortTallied_snd, events_eq_course]
  constructor
  · intro still
    exact .of_countP_isSwap_eq_zero still
  · intro lopsided
    exact lopsided.countP_isSwap 0

/-- Under a total preorder the lists of which every division accepts everything are the ordered
ones. -/
theorem lopsided_iff_isSortedAll (preorder : TotalPreorder le) {items : List α} :
    Lopsided le 0 items ↔ isSortedAll le items := by
  rw [isSortedAll_iff_pairwise preorder]
  constructor
  · intro lopsided
    have ordered := arrange_pairwise preorder items
    rwa [lopsided.arrange_eq] at ordered
  · intro ordered
    exact .of_pairwise ordered

/-- A sorted list passes the full check. -/
theorem isSortedAll_sort (preorder : TotalPreorder le) (items : Array α) :
    isSortedAll le (sort le items).toList := by
  rw [isSortedAll_iff_pairwise preorder]
  exact sort_pairwise preorder items

/-- **Ordered input is left alone.** Under a total preorder a sort makes no swap just if its
input is in order. Then every element stays where it is, also among level ones, and the sort
takes as many partitions as it may and one comparison for each two elements. So sorting once
more changes nothing and makes no swap. -/
theorem swaps_eq_zero_iff_isSortedAll (preorder : TotalPreorder le) (items : Array α) :
    ((sortTallied le items).2.swaps = 0 ↔ isSortedAll le items.toList) ∧
      (isSortedAll le items.toList →
        (sortTallied le items).1 = items ∧
          (sortTallied le items).2.partitions = maxPartitions items.size ∧
          (comparisons le items).length = items.size * (items.size - 1) / 2) ∧
      (sortTallied le (sortTallied le items).1).1 = (sortTallied le items).1 ∧
      (sortTallied le (sortTallied le items).1).2.swaps = 0 := by
  have sorted (items : Array α) : (sortTallied le items).1 = sort le items :=
    sortWatched_fst le Tally.record items {}
  have again : Lopsided le 0 (sort le items).toList :=
    (lopsided_iff_isSortedAll preorder).mpr (isSortedAll_sort preorder items)
  refine ⟨?_, ?_, ?_, ?_⟩
  · rw [swaps_eq_zero_iff_lopsided, lopsided_iff_isSortedAll preorder]
  · intro ordered
    have lopsided := (lopsided_iff_isSortedAll preorder).mpr ordered
    have effort := lopsided.sortMeasured_eq
    rw [sortMeasured_snd] at effort
    refine ⟨?_, congrArg (·.tally.partitions) effort, congrArg Effort.comparisons effort⟩
    rw [sorted, lopsided.sort_eq]
  · rw [sorted, sorted, again.sort_eq]
  · rw [sorted]
    exact (swaps_eq_zero_iff_lopsided le _).mpr again

/-- Level keys keep their tags in place, and a key that is out of order makes a swap. -/
theorem swaps_eq_zero_iff_isSortedAll_level :
    let byNumber := leOf (byKey Prod.fst (compare : Int → Int → Ordering))
    let ordered := #[((1 : Int), "b"), (1, "a"), (2, "d"), (2, "c")]
    (isSortedAll byNumber ordered.toList ∧ (sortTallied byNumber ordered).1 = ordered ∧
        (sortTallied byNumber ordered).2.partitions = 3 ∧
        (comparisons byNumber ordered).length = 6) ∧
      (sortTallied byNumber #[(1, "a"), (2, "b"), (1, "c")]).2.swaps ≠ 0 := by
  intro byNumber ordered
  have inOrder : isSortedAll byNumber ordered.toList := by decide
  have preorder : TotalPreorder byNumber := .leOf (byKey Prod.fst compare)
  obtain ⟨-, stays, -⟩ := swaps_eq_zero_iff_isSortedAll preorder ordered
  obtain ⟨moves, -⟩ := swaps_eq_zero_iff_isSortedAll preorder #[(1, "a"), (2, "b"), (1, "c")]
  obtain ⟨same, partitions, asked⟩ := stays inOrder
  refine ⟨⟨inOrder, same, partitions, asked.trans (by decide)⟩, ?_⟩
  intro still
  exact absurd (moves.mp still) (by decide)

end Tandem.Sorting
