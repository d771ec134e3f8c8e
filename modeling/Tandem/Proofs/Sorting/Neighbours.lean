import Mathlib.Data.List.Chain
import Tandem.Proofs.Sorting.Comparison
import Tandem.Sorting.Sortedness

/-! # Neighbours in a list

What holds of each element of a list and the next one is said of its neighbours
(`Tandem.Sorting.isChain_iff_forall_mem_neighbours`). All neighbours of a list pass the
check just if the relation holds along the list
(`Tandem.Sorting.isSortedAll_iff_isChain`).
-/

namespace Tandem.Sorting

universe u v

variable {α : Type u} {β : Type v}

/-- Neighbours are elements of the list. -/
theorem mem_of_mem_neighbours {items : List α} {pair : α × α} (beside : pair ∈ neighbours items) :
    pair.1 ∈ items ∧ pair.2 ∈ items := by
  obtain ⟨left, right⟩ := List.of_mem_zip beside
  exact ⟨left, List.mem_of_mem_tail right⟩

/-- A chain is a list whose neighbours are all related. -/
theorem isChain_iff_forall_mem_neighbours {relation : α → α → Prop} {items : List α} :
    items.IsChain relation ↔ ∀ pair ∈ neighbours items, relation pair.1 pair.2 := by
  induction items with
  | nil => simp [neighbours]
  | cons first rest ih =>
      cases rest with
      | nil => simp [neighbours]
      | cons second rest =>
          rw [List.isChain_cons_cons, ih]
          simp only [neighbours, List.tail_cons, List.zip_cons_cons, List.forall_mem_cons]

/-- The full check passes just the chains of its relation. -/
theorem isSortedAll_iff_isChain {le : α → α → Bool} {items : List α} :
    isSortedAll le items ↔ items.IsChain fun left right => le left right := by
  rw [isChain_iff_forall_mem_neighbours, isSortedAll, Inspection.holds, List.all_eq_true]
  rfl

/-- Under a total preorder a list that passes the check is in order throughout. -/
theorem isSortedAll_iff_pairwise {le : α → α → Bool} (preorder : TotalPreorder le)
    {items : List α} :
    isSortedAll le items ↔ items.Pairwise fun left right => le left right := by
  have : IsTrans α fun left right => le left right := ⟨fun _ _ _ => preorder.trans⟩
  rw [isSortedAll_iff_isChain, List.isChain_iff_pairwise]

/-- A list that passes the check of all pairs passes that of the leading ones, if no pair in
order is also in the strict order backwards. -/
theorem isSorted_of_isSortedAll {le lt : α → α → Bool}
    (strict : ∀ earlier later, le earlier later → lt later earlier = false) {items : List α}
    (ordered : isSortedAll le items) : isSorted lt items := by
  rw [isSortedAll_iff_isChain, isChain_iff_forall_mem_neighbours] at ordered
  unfold isSorted Inspection.holds
  rw [List.all_eq_true]
  intro pair leading
  obtain ⟨⟨earlier, later⟩, member, rfl⟩ := List.mem_map.mp leading
  have inOrder := strict earlier later (ordered _ (List.dropLast_subset _ member))
  exact (congrArg Bool.not inOrder).trans rfl

/-- Neighbours are renamed with their list. -/
theorem neighbours_map (rename : α → β) (items : List α) :
    neighbours (items.map rename) = (neighbours items).map (Prod.map rename rename) := by
  rw [neighbours, neighbours, ← List.map_tail, List.zip_map]

end Tandem.Sorting
