import Mathlib.Data.List.TakeWhile
import Tandem.Proofs.Sorting.Inquiry

/-! # How much a sort does

An exchange moves a rejected element out of the way, so a division makes one for each
accepted element behind the first rejected one, and one more for the pivot
(`Tandem.Sorting.countP_isSwap_divideEvents`). The first rejected element is itself
asked about without an exchange, so there are no more exchanges than comparisons. A
division settles the place of one element and leaves the others to two smaller sorts,
which bounds the number of divisions from both sides
(`Tandem.Sorting.course_workload`).
-/

namespace Tandem.Sorting

universe u

variable {α : Type u} {le : α → α → Bool} {pivot : α}

theorem countP_isPartition_exchanges (rejected : List α) (boundary position : Nat) :
    (exchanges rejected boundary position).countP Event.isPartition = 0 := by
  cases rejected with
  | nil => rfl
  | cons displaced rest => rfl

/-- An exchange is made if there is a rejected element to exchange with. -/
theorem countP_isSwap_exchanges (rejected : List α) (boundary position : Nat) :
    (exchanges rejected boundary position).countP Event.isSwap =
      if rejected = [] then 0 else 1 := by
  cases rejected with
  | nil => rfl
  | cons displaced rest => rfl

/-- A scan finishes no partition. -/
theorem countP_isPartition_scanEvents (low high : Nat) (piles : Piles α) (items : List α) :
    (piles.scanEvents le pivot low high items).countP Event.isPartition = 0 := by
  induction items generalizing piles with
  | nil => rfl
  | cons item rest ih =>
      rw [Piles.scanEvents, List.countP_append, ih, Piles.dealEvents,
        List.countP_cons_of_neg (by exact Bool.false_ne_true)]
      split
      · rw [countP_isPartition_exchanges]
      · rfl

/-- Dividing a list is one partition. -/
theorem countP_isPartition_divideEvents (low : Nat) (items : List α) :
    (divideEvents le pivot low items).countP Event.isPartition = 1 := by
  rw [divideEvents, List.countP_append, List.countP_append, countP_isPartition_scanEvents,
    countP_isPartition_exchanges]
  rfl

/-- The elements from the first rejected one on. -/
def fromRejected (le : α → α → Bool) (pivot : α) (items : List α) : List α :=
  items.dropWhile fun item => le item pivot

/-- There is no first rejected element just if all are accepted. -/
theorem fromRejected_eq_nil_iff {items : List α} :
    fromRejected le pivot items = [] ↔ ∀ item ∈ items, le item pivot :=
  List.dropWhile_eq_nil_iff

/-- A scan makes an exchange for each accepted element behind a rejected one. -/
theorem countP_isSwap_scanEvents (low high : Nat) (piles : Piles α) (items : List α) :
    (piles.scanEvents le pivot low high items).countP Event.isSwap =
      (if piles.rejected = [] then fromRejected le pivot items else items).countP
        fun item => le item pivot := by
  induction items generalizing piles with
  | nil =>
      unfold fromRejected
      split
      · rfl
      · rfl
  | cons item rest ih =>
      rw [Piles.scanEvents, List.countP_append, ih, Piles.dealEvents,
        List.countP_cons_of_neg (by exact Bool.false_ne_true)]
      by_cases accepted : le item pivot
      · by_cases none : piles.rejected = []
        · simp [Piles.deal, accepted, none, countP_isSwap_exchanges, fromRejected]
        · simp [Piles.deal, accepted, none, countP_isSwap_exchanges, Nat.add_comm]
      · -- A rejected element is not dropped, whether or not it is the first one.
        have kept : fromRejected le pivot (item :: rest) = item :: rest :=
          List.dropWhile_cons_of_neg accepted
        simp [Piles.deal, accepted, kept]

/-- Nothing is rejected if there is no first rejected element. -/
theorem foldl_deal_rejected_eq_nil_iff (items : List α) :
    (items.foldl (Piles.deal le pivot) {}).rejected = [] ↔ fromRejected le pivot items = [] := by
  rw [← List.length_eq_zero_iff, (Piles.foldl_deal_rejected_perm {} items).length_eq,
    List.nil_append, List.length_eq_zero_iff, List.filter_eq_nil_iff, fromRejected,
    List.dropWhile_eq_nil_iff]
  simp only [Bool.not_eq_true', Bool.not_eq_false]

/-- A division makes an exchange for each accepted element behind the first rejected one,
and one to put the pivot before the rejected ones. -/
theorem countP_isSwap_divideEvents (low : Nat) (items : List α) :
    (divideEvents le pivot low items).countP Event.isSwap =
      (fromRejected le pivot items).countP (fun item => le item pivot) +
        if fromRejected le pivot items = [] then 0 else 1 := by
  simp only [divideEvents, List.countP_append, countP_isSwap_scanEvents, ↓reduceIte,
    countP_isSwap_exchanges, foldl_deal_rejected_eq_nil_iff]
  rfl

/-- A division makes no more exchanges than comparisons. -/
theorem countP_isSwap_divideEvents_le (low : Nat) (items : List α) :
    (divideEvents le pivot low items).countP Event.isSwap ≤ items.length := by
  rw [countP_isSwap_divideEvents]
  have shorter : (fromRejected le pivot items).length ≤ items.length :=
    (List.dropWhile_sublist _).length_le
  have rejected := List.head?_dropWhile_not (fun item => le item pivot) items
  rw [← fromRejected] at rejected
  cases behind : fromRejected le pivot items with
  | nil => exact Nat.zero_le _
  | cons first rest =>
      rw [behind] at shorter rejected
      rw [List.countP_cons_of_neg (by simpa using rejected), if_neg (List.cons_ne_nil first rest)]
      exact Nat.le_trans (Nat.succ_le_succ List.countP_le_length) shorter

/-- How the numbers of partitions, swaps and comparisons of a sort are bounded. -/
structure Workload (size partitions swaps comparisons : Nat) : Prop where
  half_le_partitions : size / 2 ≤ partitions
  partitions_le_pred : partitions ≤ size - 1
  partitions_le_comparisons : partitions ≤ comparisons
  swaps_le_comparisons : swaps ≤ comparisons

/-- A sort that does nothing is that of at most one element. -/
theorem Workload.none {size : Nat} (small : size ≤ 1) : Workload size 0 0 0 where
  half_le_partitions := by omega
  partitions_le_pred := Nat.zero_le _
  partitions_le_comparisons := Nat.le_refl 0
  swaps_le_comparisons := Nat.le_refl 0

/-- One division and the sorts of both piles. -/
theorem Workload.divided {accepted rejected swaps partitionsBefore swapsBefore askedBefore
    partitionsAfter swapsAfter askedAfter : Nat}
    (before : Workload accepted partitionsBefore swapsBefore askedBefore)
    (after : Workload rejected partitionsAfter swapsAfter askedAfter)
    (several : 0 < accepted + rejected) (exchanged : swaps ≤ accepted + rejected) :
    Workload (accepted + rejected + 1) (1 + (partitionsBefore + partitionsAfter))
      (swaps + (swapsBefore + swapsAfter))
      (accepted + rejected + (askedBefore + askedAfter)) := by
  obtain ⟨halfBefore, predBefore, dividedBefore, exchangedBefore⟩ := before
  obtain ⟨halfAfter, predAfter, dividedAfter, exchangedAfter⟩ := after
  constructor
  · omega
  · omega
  · omega
  · omega

/-- The work of a sort is bounded, whatever the relation answers. -/
theorem course_workload (le : α → α → Bool) (low : Nat) (items : List α) :
    Workload items.length ((course le low items).countP Event.isPartition)
      ((course le low items).countP Event.isSwap) (inquiries le items).length := by
  induction items using sort_induction le generalizing low with
  | small items small =>
      rw [inquiries, course_of_length_le_one _ small, course_of_length_le_one _ small]
      exact .none small
  | concat front pivot nonempty before after =>
      have lengths := length_divide le pivot front
      have several := List.length_pos_of_ne_nil nonempty
      have exchanged : (divideEvents le pivot low front).countP Event.isSwap ≤ front.length :=
        countP_isSwap_divideEvents_le low front
      rw [← lengths] at several exchanged
      rw [course_concat low nonempty, length_inquiries_concat, List.length_append,
        List.length_singleton, ← lengths]
      simp only [List.countP_append, countP_isPartition_divideEvents]
      exact (before low).divided (after _) several exchanged

/-- **A sort does a bounded amount of work.** Whatever the relation answers, sorting
divides at least half as many windows as there are elements and at most one less than
there are elements, and it neither divides nor swaps more often than it compares. -/
theorem sort_workload (le : α → α → Bool) (items : Array α) :
    (sortMeasured le items).2 =
        { tally := (sortTallied le items).2, comparisons := (comparisons le items).length } ∧
      items.size / 2 ≤ (sortTallied le items).2.partitions ∧
      (sortTallied le items).2.partitions ≤ maxPartitions items.size ∧
      (sortTallied le items).2.partitions ≤ (comparisons le items).length ∧
      (sortTallied le items).2.swaps ≤ (comparisons le items).length := by
  have work := course_workload le 0 items.toList
  rw [Array.length_toList, ← comparisons_eq_inquiries, ← events_eq_course] at work
  rw [sortMeasured_snd, sortTallied_snd]
  exact ⟨rfl, work.half_le_partitions, work.partitions_le_pred, work.partitions_le_comparisons,
    work.swaps_le_comparisons⟩

end Tandem.Sorting
