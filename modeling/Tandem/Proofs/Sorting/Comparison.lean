import Tandem.Sorting.Order

/-! # Comparisons that order their elements

A sort that is to put elements in order needs a relation that compares any two of
them and carries over (`Tandem.Sorting.TotalPreorder`). Lawful comparisons give
such a relation (`Tandem.Sorting.TotalPreorder.leOf`), also when they look at a
key only, and no two different elements stand level under it when the comparison
tells all elements apart (`Tandem.Sorting.leOf_antisymm`).
-/

namespace Tandem.Sorting

universe u v

variable {α : Type u} {β : Type v}

/-- A relation that compares any two elements and carries over. Different elements
may stand level under it. -/
structure TotalPreorder (le : α → α → Bool) : Prop where
  total : ∀ left right, le left right ∨ le right left
  trans : ∀ {first second third}, le first second → le second third → le first third

/-- What may not stand before an element may stand behind it. -/
theorem TotalPreorder.le_of_not_le {le : α → α → Bool} (preorder : TotalPreorder le)
    {left right : α} (out : ¬le left right) : le right left :=
  (preorder.total left right).resolve_left out

/-- A lawful comparison gives a total preorder. -/
theorem TotalPreorder.leOf (cmp : α → α → Ordering) [Std.TransCmp cmp] :
    TotalPreorder (leOf cmp) where
  total left right := by
    have swapped : cmp right left = (cmp left right).swap := Std.OrientedCmp.eq_swap
    simp only [Sorting.leOf, swapped]
    cases cmp left right
    · exact .inl rfl
    · exact .inl rfl
    · exact .inr rfl
  trans := Std.TransCmp.isLE_trans

/-- Under a lawful comparison that tells all elements apart, elements that may stand
in either order are the same. -/
theorem leOf_antisymm (cmp : α → α → Ordering) [Std.TransCmp cmp] [Std.LawfulEqCmp cmp]
    (left right : α) (forward : leOf cmp left right) (backward : leOf cmp right left) :
    left = right :=
  Std.LawfulEqCmp.eq_of_compare (Std.OrientedCmp.isLE_antisymm forward backward)

/-- One element is before another under a comparison unless the other may stand before it. -/
theorem ltOf_eq_not_leOf (cmp : α → α → Ordering) [Std.OrientedCmp cmp] (left right : α) :
    ltOf cmp left right = !leOf cmp right left := by
  have swapped : cmp right left = (cmp left right).swap := Std.OrientedCmp.eq_swap
  simp only [ltOf, leOf, swapped]
  cases cmp left right
  · rfl
  · rfl
  · rfl

/-- Comparing by a key is lawful if comparing the keys is. -/
instance transCmp_byKey (key : β → α) (cmp : α → α → Ordering) [Std.TransCmp cmp] :
    Std.TransCmp (byKey key cmp) where
  eq_swap {left right} := by
    change cmp (key left) (key right) = (cmp (key right) (key left)).swap
    exact Std.OrientedCmp.eq_swap
  isLE_trans {first second third} forward further := by
    change (cmp (key first) (key third)).isLE
    exact Std.TransCmp.isLE_trans forward further

/-- Comparing pairs is comparing by both components in turn. -/
theorem pairwise_eq_compareLex (first : α → α → Ordering) (second : β → β → Ordering) :
    pairwise first second = compareLex (byKey Prod.fst first) (byKey Prod.snd second) :=
  rfl

/-- Comparing pairs is lawful if comparing their components is. -/
instance transCmp_pairwise (first : α → α → Ordering) (second : β → β → Ordering)
    [Std.TransCmp first] [Std.TransCmp second] : Std.TransCmp (pairwise first second) := by
  rw [pairwise_eq_compareLex]
  infer_instance

/-- Comparing pairs tells them apart if comparing their components does. -/
instance lawfulEqCmp_pairwise (first : α → α → Ordering) (second : β → β → Ordering)
    [Std.LawfulEqCmp first] [Std.LawfulEqCmp second] :
    Std.LawfulEqCmp (pairwise first second) where
  compare_self {pair} := by
    simp only [pairwise, Std.ReflCmp.compare_self, Ordering.then_eq]
  eq_of_compare {left right} level := by
    obtain ⟨firsts, seconds⟩ := Ordering.then_eq_eq.mp level
    exact Prod.ext (Std.LawfulEqCmp.eq_of_compare firsts) (Std.LawfulEqCmp.eq_of_compare seconds)

end Tandem.Sorting
