import Tandem.Proofs.Sorting.Deal

/-! # Sorting a list without positions

`Tandem.Sorting.arrange` sorts a list by dealing all but its last element around
the last one and arranging both piles. `Tandem.Sorting.course` lists what sorting
the same elements in place reports. Both follow the division of a list, so facts
about them are proved by `Tandem.Sorting.divide_induction`.
-/

namespace Tandem.Sorting

open scoped List

universe u

variable {α : Type u}

/-- The accepted pile of a list without its last element is shorter than the list. -/
theorem length_accepted_lt {le : α → α → Bool} {pivot : α} {items : List α}
    (large : 1 < items.length) :
    (divide le pivot items.dropLast).accepted.length < items.length := by
  have lengths := length_divide le pivot items.dropLast
  rw [List.length_dropLast] at lengths
  omega

/-- The rejected pile of a list without its last element is shorter than the list. -/
theorem length_rejected_lt {le : α → α → Bool} {pivot : α} {items : List α}
    (large : 1 < items.length) :
    (divide le pivot items.dropLast).rejected.length < items.length := by
  have lengths := length_divide le pivot items.dropLast
  rw [List.length_dropLast] at lengths
  omega

variable (le : α → α → Bool)

/-- Sort a list around its last element. -/
def arrange (items : List α) : List α :=
  if large : 1 < items.length then
    let pivot := items.getLast (List.ne_nil_of_length_pos (by omega))
    let piles := divide le pivot items.dropLast
    arrange piles.accepted ++ pivot :: arrange piles.rejected
  else items
termination_by items.length
decreasing_by
  · exact length_accepted_lt large
  · exact length_rejected_lt large

/-- What sorting a list in place reports when the list starts at position `low`. -/
def course (low : Nat) (items : List α) : List (Event α) :=
  if large : 1 < items.length then
    let pivot := items.getLast (List.ne_nil_of_length_pos (by omega))
    let piles := divide le pivot items.dropLast
    divideEvents le pivot low items.dropLast ++
      (course low piles.accepted ++ course (low + piles.accepted.length + 1) piles.rejected)
  else []
termination_by items.length
decreasing_by
  · exact length_accepted_lt large
  · exact length_rejected_lt large

variable {le}

/-- A list of at most one element is arranged. -/
theorem arrange_of_length_le_one {items : List α} (small : items.length ≤ 1) :
    arrange le items = items := by
  rw [arrange, dif_neg (by omega)]

/-- Arranging a list puts its last element between the arranged piles. -/
theorem arrange_concat (front : List α) (pivot : α) :
    arrange le (front ++ [pivot]) =
      arrange le (divide le pivot front).accepted ++
        pivot :: arrange le (divide le pivot front).rejected := by
  rcases front with _ | ⟨first, rest⟩
  · rw [arrange_of_length_le_one (by simp)]
    simp [divide, arrange_of_length_le_one]
  · rw [arrange, dif_pos (by simp)]
    simp only [List.getLast_append_singleton, List.dropLast_concat]

/-- Sorting at most one element reports nothing. -/
theorem course_of_length_le_one {items : List α} (low : Nat) (small : items.length ≤ 1) :
    course le low items = [] := by
  rw [course, dif_neg (by omega)]

/-- Sorting a list reports its division, then the sorting of both piles. -/
theorem course_concat {front : List α} (low : Nat) (nonempty : front ≠ []) (pivot : α) :
    course le low (front ++ [pivot]) =
      divideEvents le pivot low front ++
        (course le low (divide le pivot front).accepted ++
          course le (low + (divide le pivot front).accepted.length + 1)
            (divide le pivot front).rejected) := by
  have large : 1 < (front ++ [pivot]).length := by
    have := List.length_pos_of_ne_nil nonempty
    simp only [List.length_append, List.length_singleton]
    omega
  rw [course, dif_pos large]
  simp only [List.getLast_append_singleton, List.dropLast_concat]

/-- What holds of the empty list, and of a list whenever it holds of the piles of
its division around its last element, holds of every list. -/
theorem divide_induction {motive : List α → Prop} (le : α → α → Bool) (nil : motive [])
    (concat : ∀ front pivot, motive (divide le pivot front).accepted →
      motive (divide le pivot front).rejected → motive (front ++ [pivot]))
    (items : List α) : motive items := by
  induction count : items.length using Nat.strong_induction_on generalizing items with
  | _ count ih =>
      subst count
      rcases List.eq_nil_or_concat items with rfl | ⟨front, pivot, rfl⟩
      · exact nil
      · rw [List.concat_eq_append] at ih ⊢
        have lengths := length_divide le pivot front
        rw [List.length_append, List.length_singleton] at ih
        apply concat
        · exact ih _ (by omega) _ rfl
        · exact ih _ (by omega) _ rfl

/-- The same for what is said apart of lists with no element or one. -/
theorem sort_induction {motive : List α → Prop} (le : α → α → Bool)
    (small : ∀ items : List α, items.length ≤ 1 → motive items)
    (concat : ∀ front pivot, front ≠ [] → motive (divide le pivot front).accepted →
      motive (divide le pivot front).rejected → motive (front ++ [pivot]))
    (items : List α) : motive items := by
  induction items using divide_induction le with
  | nil => exact small [] (by simp)
  | concat front pivot before after =>
      cases front with
      | nil => exact small [pivot] (by simp)
      | cons first rest => exact concat _ pivot (List.cons_ne_nil first rest) before after

/-- Arranging a list loses no element and adds none. -/
theorem arrange_perm (items : List α) : (arrange le items).Perm items := by
  induction items using divide_induction le with
  | nil => rw [arrange_of_length_le_one (by simp)]
  | concat front pivot before after =>
      rw [arrange_concat]
      calc arrange le (divide le pivot front).accepted ++
            pivot :: arrange le (divide le pivot front).rejected
          ~ pivot :: (arrange le (divide le pivot front).accepted ++
              arrange le (divide le pivot front).rejected) := List.perm_middle
        _ ~ pivot :: ((divide le pivot front).accepted ++ (divide le pivot front).rejected) :=
            (before.append after).cons _
        _ ~ pivot :: front := (divide_perm front).cons _
        _ ~ front ++ [pivot] := (List.perm_append_singleton pivot front).symm

end Tandem.Sorting
