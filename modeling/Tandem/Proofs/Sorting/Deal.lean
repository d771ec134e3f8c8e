import Mathlib.Data.List.Rotate
import Tandem.Sorting.Event

/-! # Dealing elements around a pivot

A list is dealt from the front onto two piles: elements that may stand before
the pivot and the others (`Tandem.Sorting.Piles.deal`). An element that is
accepted after a rejected one takes that one's place, and the displaced element
goes behind the other rejected ones, so the rejected pile is turned by one. This
is what a scan does to the elements of a window, written without positions. The
accepted pile keeps the order of the list (`Tandem.Sorting.divide_accepted`); the
rejected one only keeps its elements (`Tandem.Sorting.divide_rejected_perm`).
-/

namespace Tandem.Sorting

universe u

variable {α : Type u}

/-- Elements that may stand before a pivot, and elements that may not. -/
structure Piles (α : Type u) where
  accepted : List α := []
  rejected : List α := []

/-- The exchange that puts an element before the rejected ones. There is nothing
to exchange if there are none. -/
def exchanges (rejected : List α) (boundary position : Nat) : List (Event α) :=
  if rejected.isEmpty then [] else [.swapped boundary position]

variable (le : α → α → Bool) (pivot : α)

/-- Deal one element. -/
def Piles.deal (piles : Piles α) (item : α) : Piles α :=
  if le item pivot then
    { accepted := piles.accepted ++ [item], rejected := piles.rejected.rotate 1 }
  else { piles with rejected := piles.rejected ++ [item] }

/-- What dealing one element reports when the piles lie one behind the other from
position `low` and the pivot stands at position `high`. -/
def Piles.dealEvents (low high : Nat) (piles : Piles α) (item : α) : List (Event α) :=
  let boundary := low + piles.accepted.length
  let position := boundary + piles.rejected.length
  .compared position high item pivot ::
    if le item pivot then exchanges piles.rejected boundary position else []

/-- What dealing several elements reports. -/
def Piles.scanEvents (low high : Nat) : Piles α → List α → List (Event α)
  | _, [] => []
  | piles, item :: rest =>
    piles.dealEvents le pivot low high item ++ scanEvents low high (piles.deal le pivot item) rest

/-- Deal a list around a pivot, and turn the rejected pile once more to make room
for the pivot before it. -/
def divide (items : List α) : Piles α :=
  let piles := items.foldl (Piles.deal le pivot) {}
  { piles with rejected := piles.rejected.rotate 1 }

/-- What dividing a list that starts at position `low` reports, the pivot standing
right behind the list. -/
def divideEvents (low : Nat) (items : List α) : List (Event α) :=
  let high := low + items.length
  let piles := items.foldl (Piles.deal le pivot) {}
  let boundary := low + piles.accepted.length
  Piles.scanEvents le pivot low high {} items ++
    (exchanges piles.rejected boundary high ++ [.partitioned low high boundary])

variable {le pivot}

/-- Dealing adds the accepted elements in their order. -/
theorem Piles.foldl_deal_accepted (piles : Piles α) (items : List α) :
    (items.foldl (deal le pivot) piles).accepted =
      piles.accepted ++ items.filter fun item => le item pivot := by
  induction items generalizing piles with
  | nil => simp only [List.foldl_nil, List.filter_nil, List.append_nil]
  | cons item rest ih =>
      rw [List.foldl_cons, ih]
      by_cases accepted : le item pivot
      · simp only [deal, accepted, ↓reduceIte, List.filter_cons_of_pos, List.append_assoc,
          List.singleton_append]
      · simp only [deal, accepted, Bool.false_eq_true, ↓reduceIte, not_false_eq_true,
          List.filter_cons_of_neg]

/-- Dealing adds the rejected elements in some order. -/
theorem Piles.foldl_deal_rejected_perm (piles : Piles α) (items : List α) :
    (items.foldl (deal le pivot) piles).rejected.Perm
      (piles.rejected ++ items.filter fun item => !le item pivot) := by
  induction items generalizing piles with
  | nil => simp only [List.foldl_nil, List.filter_nil, List.append_nil, List.Perm.refl]
  | cons item rest ih =>
      rw [List.foldl_cons]
      refine (ih (piles.deal le pivot item)).trans ?_
      by_cases accepted : le item pivot
      · simp only [deal, accepted, ↓reduceIte, Bool.not_true, Bool.false_eq_true,
          not_false_eq_true, List.filter_cons_of_neg]
        exact (List.rotate_perm _ _).append_right _
      · simp only [deal, accepted, Bool.false_eq_true, ↓reduceIte, Bool.not_false,
          List.filter_cons_of_pos, List.append_assoc, List.singleton_append, List.Perm.refl]

/-- The accepted elements of a divided list are those that may stand before the
pivot, in their order. -/
theorem divide_accepted (items : List α) :
    (divide le pivot items).accepted = items.filter fun item => le item pivot := by
  simp only [divide, Piles.foldl_deal_accepted, List.nil_append]

/-- The rejected elements of a divided list are the others. -/
theorem divide_rejected_perm (items : List α) :
    (divide le pivot items).rejected.Perm (items.filter fun item => !le item pivot) := by
  refine (List.rotate_perm _ _).trans ?_
  simpa only [List.nil_append] using Piles.foldl_deal_rejected_perm {} items

/-- Dividing loses no element and adds none. -/
theorem divide_perm (items : List α) :
    ((divide le pivot items).accepted ++ (divide le pivot items).rejected).Perm items := by
  rw [divide_accepted]
  exact ((divide_rejected_perm items).append_left _).trans (List.filter_append_perm _ items)

/-- Dividing a list accepts elements of the list only. -/
theorem accepted_subset (le : α → α → Bool) (pivot : α) (items : List α) :
    (divide le pivot items).accepted ⊆ items := by
  intro item member
  exact (divide_perm items).subset (List.mem_append_left _ member)

/-- Dividing a list rejects elements of the list only. -/
theorem rejected_subset (le : α → α → Bool) (pivot : α) (items : List α) :
    (divide le pivot items).rejected ⊆ items := by
  intro item member
  exact (divide_perm items).subset (List.mem_append_right _ member)

/-- The piles of a divided list have as many elements as the list. -/
theorem length_divide (le : α → α → Bool) (pivot : α) (items : List α) :
    (divide le pivot items).accepted.length + (divide le pivot items).rejected.length =
      items.length := by
  rw [← List.length_append]
  exact (divide_perm items).length_eq

/-- Accepted elements may stand before the pivot. -/
theorem le_of_mem_accepted {items : List α} {item : α}
    (member : item ∈ (divide le pivot items).accepted) : le item pivot := by
  rw [divide_accepted] at member
  exact (List.mem_filter.mp member).2

/-- Rejected elements may not stand before the pivot. -/
theorem not_le_of_mem_rejected {items : List α} {item : α}
    (member : item ∈ (divide le pivot items).rejected) : ¬le item pivot := by
  have rejected := (List.mem_filter.mp ((divide_rejected_perm items).mem_iff.mp member)).2
  simpa only [Bool.not_eq_true', Bool.not_eq_true] using rejected

end Tandem.Sorting
