import Tandem.Proofs.Sorting.Comparison
import Tandem.Proofs.Sorting.Layout

/-! # The sort puts elements in order

Under a total preorder the arranged list is in order
(`Tandem.Sorting.arrange_pairwise`), so the sort returns an ordered permutation
of its input, whoever watches it. If no two different elements stand level, there
is only one, and the order in which the elements were given makes no difference
(`Tandem.Sorting.sort_ordered_permutation`).
-/

namespace Tandem.Sorting

universe u v

variable {α : Type u} {le : α → α → Bool}

/-- Ordered piles make an ordered list around a pivot if accepted elements may stand
before the pivot and the pivot before rejected ones. -/
theorem pairwise_around_pivot (preorder : TotalPreorder le) {before after : List α} {pivot : α}
    (beforeOrdered : before.Pairwise fun left right => le left right)
    (afterOrdered : after.Pairwise fun left right => le left right)
    (accepted : ∀ item ∈ before, le item pivot) (rejected : ∀ item ∈ after, le pivot item) :
    (before ++ pivot :: after).Pairwise fun left right => le left right := by
  refine List.pairwise_append.mpr
    ⟨beforeOrdered, List.pairwise_cons.mpr ⟨rejected, afterOrdered⟩, ?_⟩
  intro left leftMember right rightMember
  rcases List.mem_cons.mp rightMember with rfl | behind
  · exact accepted left leftMember
  · exact preorder.trans (accepted left leftMember) (rejected right behind)

/-- Under a total preorder an arranged list is in order. -/
theorem arrange_pairwise (preorder : TotalPreorder le) (items : List α) :
    (arrange le items).Pairwise fun left right => le left right := by
  induction items using divide_induction le with
  | nil =>
      rw [arrange_of_length_le_one (by simp)]
      exact .nil
  | concat elements pivot before after =>
      rw [arrange_concat]
      apply pairwise_around_pivot preorder before after
      · intro item member
        exact le_of_mem_accepted ((arrange_perm _).mem_iff.mp member)
      · intro item member
        exact preorder.le_of_not_le
          (not_le_of_mem_rejected ((arrange_perm _).mem_iff.mp member))

/-- Under a total preorder the sort puts its elements in order. -/
theorem sort_pairwise (preorder : TotalPreorder le) (items : Array α) :
    (sort le items).toList.Pairwise fun left right => le left right := by
  rw [sort, toList_sortWatched]
  exact arrange_pairwise preorder _

/-- If no two different elements stand level, an ordered array is what sorting any
permutation of it gives. -/
theorem eq_sort_of_perm (preorder : TotalPreorder le)
    (antisymm : ∀ left right, le left right → le right left → left = right)
    {ordered items : Array α} (perm : ordered.toList.Perm items.toList)
    (pairwise : ordered.toList.Pairwise fun left right => le left right) :
    ordered = sort le items := by
  apply Array.toList_inj.mp
  exact List.Perm.eq_of_pairwise (fun left right _ _ => antisymm left right) pairwise
    (sort_pairwise preorder items) (perm.trans (sort_perm le items).symm)

/-- **The sort returns an ordered permutation.** Under a total preorder the result
of a sort does not depend on its onlooker, is a permutation of the input and has
every element before those it may not stand behind. If no two different elements
stand level it is the only ordered permutation, so all permutations of the input
have the same result. -/
theorem sort_ordered_permutation (preorder : TotalPreorder le) (items : Array α) :
    (∀ {σ : Type v} (watch : σ → Event α → σ) (seen : σ),
        (sortWatched le watch items seen).1 = sort le items) ∧
      (sort le items).toList.Perm items.toList ∧
      (∀ (i j : Nat) (_ : i < j) (_ : j < (sort le items).size),
        le (sort le items)[i] (sort le items)[j]) ∧
      ((∀ left right, le left right → le right left → left = right) →
        (∀ other : Array α, other.toList.Perm items.toList →
          other.toList.Pairwise (fun left right => le left right) → other = sort le items) ∧
        ∀ other : Array α, other.toList.Perm items.toList → sort le other = sort le items) := by
  refine ⟨fun watch seen => sortWatched_fst le watch items seen, sort_perm le items, ?_, ?_⟩
  · intro i j before valid
    exact List.pairwise_iff_getElem.mp (sort_pairwise preorder items) i j
      (Nat.lt_trans before valid) valid before
  · intro antisymm
    constructor
    · intro other perm ordered
      exact eq_sort_of_perm preorder antisymm perm ordered
    · intro other perm
      exact eq_sort_of_perm preorder antisymm ((sort_perm le other).trans perm)
        (sort_pairwise preorder other)

/-- Tagged keys with ties, and one order without ties for each kind of element:
machine integers, integers, texts, lists, options and pairs. -/
theorem sort_ordered_permutation_kinds :
    (sort (leOf (byKey Prod.fst compare)) #[((1 : Int), "a"), (0, "b"), (1, "c")]).toList.Perm
        [(1, "a"), (0, "b"), (1, "c")] ∧
      #[-5, 3, 3, 2147483647] = sort (leOf compare) (#[3, 2147483647, -5, 3] : Array Int32) ∧
      #[-170141183460469231731687303715884105728, 0, 7] =
        sort (leOf compare) (#[7, -170141183460469231731687303715884105728, 0] : Array Int) ∧
      #["", "a", "ab", "b"] = sort (leOf compare) #["b", "ab", "", "a"] ∧
      #[[], [1], [1, 0], [2]] = sort (leOf compare) (#[[2], [1, 0], [], [1]] : Array (List Int)) ∧
      #[none, some (-1), some 3] =
        sort (leOf compare) (#[some 3, none, some (-1)] : Array (Option Int)) ∧
      #[(0, "c"), (1, "a"), (1, "b")] =
        sort (leOf (pairwise compare compare)) #[((1 : Int), "b"), (0, "c"), (1, "a")] :=
  have unique {α : Type} [Ord α] [Std.TransOrd α] [Std.LawfulEqOrd α] (items : Array α) :=
    ((sort_ordered_permutation.{0, 0} (.leOf compare) items).2.2.2 (leOf_antisymm compare)).1
  ⟨(sort_ordered_permutation.{0, 0} (.leOf _) _).2.1, unique _ _ (by decide) (by decide),
    unique _ _ (by decide) (by decide), unique _ _ (by decide) (by decide),
    unique _ _ (by decide) (by decide), unique _ _ (by decide) (by decide),
    ((sort_ordered_permutation.{0, 0} (.leOf _) _).2.2.2 (leOf_antisymm _)).1 _ (by decide)
      (by decide)⟩

end Tandem.Sorting
