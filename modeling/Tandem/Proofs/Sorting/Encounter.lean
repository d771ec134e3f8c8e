import Tandem.Proofs.Sorting.Inquiry
import Tandem.Proofs.Sorting.Neighbours
import Tandem.Proofs.Sorting.Renaming
import Tandem.Sorting.Rule

/-! # Which elements meet

Elements may be equal, so they are told apart by the positions that they start from.
Sorting numbered elements under a relation that does not look at the numbers is
sorting the elements (`Tandem.Sorting.map_origins`, `Tandem.Sorting.map_encounters`),
and shows between which of them each comparison is made. Under every relation no two
elements meet twice (`Tandem.Sorting.encounters_once`), and elements that end up
beside each other meet once, with the answer that puts them in this order
(`Tandem.Sorting.sort_neighbours_met_once`).
-/

namespace Tandem.Sorting

universe u

variable {α : Type u}

/-- Ask about numbered elements without looking at the numbers. -/
def unnumbered (le : α → α → Bool) (left right : α × Nat) : Bool :=
  le left.1 right.1

variable (le : α → α → Bool) (items : Array α)

/-- The positions that the elements of a sorted array start from. -/
def origins : List Nat :=
  (sort (unnumbered le) items.zipIdx).toList.map Prod.snd

/-- The comparisons made by a sort, with each element named by the position that it
starts from. -/
def encounters : List (Nat × Nat) :=
  (comparisons (unnumbered le) items.zipIdx).map (Prod.map Prod.snd Prod.snd)

/-- The comparisons of two elements with each other, in either order. -/
def meetings (i j : Nat) : List (Nat × Nat) :=
  (encounters le items).filter fun pair => s(pair.1, pair.2) = s(i, j)

/-- Comparing numbered elements is comparing them without their numbers. -/
theorem mirrors_unnumbered (numbered : List (α × Nat)) :
    Mirrors (unnumbered le) le Prod.fst numbered :=
  fun _ _ _ _ => rfl

/-- An element stands at the position that it is numbered with. -/
theorem getElem?_of_mem_numbered {numbered : α × Nat} (member : numbered ∈ items.zipIdx.toList) :
    items[numbered.2]? = some numbered.1 :=
  Array.mem_zipIdx_iff_getElem?.mp (Array.mem_toList_iff.mp member)

/-- An element carries the position it started from through the sort. -/
theorem getElem?_of_mem_sort {numbered : α × Nat}
    (member : numbered ∈ (sort (unnumbered le) items.zipIdx).toList) :
    items[numbered.2]? = some numbered.1 :=
  getElem?_of_mem_numbered items ((sort_perm _ _).subset member)

/-- The elements at the origins are the sorted ones. -/
theorem map_origins :
    (origins le items).map (items[·]?) = (sort le items).toList.map some := by
  have erased := sort_map (mirrors_unnumbered le items.zipIdx.toList)
  rw [Array.zipIdx_map_fst] at erased
  rw [origins, erased, Array.toList_map, List.map_map, List.map_map]
  apply List.map_congr_left
  intro numbered member
  exact getElem?_of_mem_sort le items member

/-- Every position is the origin of one element of the result. -/
theorem origins_perm : (origins le items).Perm (List.range items.size) := by
  have numbers := (sort_perm (unnumbered le) items.zipIdx).map Prod.snd
  rwa [Array.toList_zipIdx, List.zipIdx_map_snd, ← List.range_eq_range',
    Array.length_toList] at numbers

/-- The elements of the encounters are the compared ones. -/
theorem map_encounters :
    (encounters le items).map (Prod.map (items[·]?) (items[·]?)) =
      (comparisons le items).map (Prod.map some some) := by
  have erased := comparisons_map (mirrors_unnumbered le items.zipIdx.toList)
  rw [Array.zipIdx_map_fst] at erased
  rw [encounters, erased, List.map_map, List.map_map]
  apply List.map_congr_left
  intro pair asked
  rw [comparisons_eq_inquiries] at asked
  obtain ⟨left, right⟩ := mem_of_mem_inquiries asked
  simp only [Function.comp_apply, Prod.map_apply', getElem?_of_mem_numbered items left,
    getElem?_of_mem_numbered items right]

/-- The comparisons counted are the questions asked. -/
theorem sortMeasured_comparisons :
    (sortMeasured le items).2.comparisons = (inquiries le items.toList).length := by
  rw [sortMeasured_snd, comparisons_eq_inquiries]

/-- There are as many encounters as comparisons. -/
theorem length_encounters :
    (encounters le items).length = (sortMeasured le items).2.comparisons := by
  have lengths := congrArg List.length (map_encounters le items)
  rw [List.length_map, List.length_map] at lengths
  rw [lengths, sortMeasured_snd]

/-- No two elements start from the same position. -/
theorem nodup_numbers : (items.zipIdx.toList.map Prod.snd).Nodup := by
  rw [Array.toList_zipIdx, List.zipIdx_map_snd]
  exact List.nodup_range'

/-- No two elements meet twice, in either order. -/
theorem encounters_nodup : ((encounters le items).map fun pair => s(pair.1, pair.2)).Nodup := by
  rw [encounters, comparisons_eq_inquiries, List.map_map]
  exact inquiries_nodup (nodup_numbers items)

/-- An entry is the only one of its kind in a log without repetitions. -/
theorem filter_eq_singleton {β γ : Type*} [DecidableEq γ] {kind : β → γ} {log : List β}
    (nodup : (log.map kind).Nodup) {entry : β} (member : entry ∈ log) :
    (log.filter fun other => kind other = kind entry) = [entry] := by
  induction log with
  | nil => exact absurd member List.not_mem_nil
  | cons first rest ih =>
      obtain ⟨fresh, later⟩ := List.nodup_cons.mp nodup
      rcases List.mem_cons.mp member with rfl | member
      · rw [List.filter_cons_of_pos (by simp), List.filter_eq_nil_iff.mpr]
        intro other inRest same
        exact fresh (of_decide_eq_true same ▸ List.mem_map_of_mem inRest)
      · rw [List.filter_cons_of_neg, ih later member]
        intro same
        exact fresh (of_decide_eq_true same ▸ List.mem_map_of_mem member)

/-- Elements that end up beside each other have met. -/
theorem met_of_mem_neighbours {i j : Nat} (beside : (i, j) ∈ neighbours (origins le items)) :
    ∃ left right, items[i]? = some left ∧ items[j]? = some right ∧
      ((i, j) ∈ encounters le items ∧ le left right ∨
        (j, i) ∈ encounters le items ∧ ¬le right left) := by
  have chain := arrange_isChain (unnumbered le) items.zipIdx.toList
  rw [← comparisons_eq_inquiries, isChain_iff_forall_mem_neighbours] at chain
  have arranged : (sort (unnumbered le) items.zipIdx).toList =
      arrange (unnumbered le) items.zipIdx.toList := toList_sortWatched ..
  rw [origins, neighbours_map] at beside
  obtain ⟨⟨left, right⟩, member, same⟩ := List.mem_map.mp beside
  obtain ⟨rfl, rfl⟩ := Prod.mk.inj same
  obtain ⟨leftMember, rightMember⟩ := mem_of_mem_neighbours member
  refine ⟨left.1, right.1, getElem?_of_mem_sort le items leftMember,
    getElem?_of_mem_sort le items rightMember, ?_⟩
  rw [arranged] at member
  rcases chain _ member with ⟨asked, before⟩ | ⟨asked, notBefore⟩
  · exact .inl ⟨List.mem_map_of_mem asked, before⟩
  · exact .inr ⟨List.mem_map_of_mem asked, notBefore⟩

/-- Two elements that meet have no other meeting. -/
theorem meetings_eq_singleton {i j : Nat} (met : (i, j) ∈ encounters le items) :
    meetings le items i j = [(i, j)] :=
  filter_eq_singleton (encounters_nodup le items) met

theorem meetings_comm (i j : Nat) : meetings le items i j = meetings le items j i := by
  rw [meetings, meetings, Sym2.eq_swap]

/-- **No two elements are compared twice.** Whatever the relation answers, a sort
compares each two elements at most once, in whichever order, and never an element with
itself. It makes at least one comparison for each element but one, and at most one for
each two elements. -/
theorem encounters_once :
    (encounters le items).map (Prod.map (items[·]?) (items[·]?)) =
        (comparisons le items).map (Prod.map some some) ∧
      ((encounters le items).map fun pair => s(pair.1, pair.2)).Nodup ∧
      (∀ pair ∈ encounters le items, pair.1 ≠ pair.2) ∧
      (encounters le items).length = (sortMeasured le items).2.comparisons ∧
      items.size - 1 ≤ (sortMeasured le items).2.comparisons ∧
      (sortMeasured le items).2.comparisons ≤ items.size * (items.size - 1) / 2 := by
  refine ⟨map_encounters le items, encounters_nodup le items, ?_, length_encounters le items,
    ?_, ?_⟩
  · intro pair member
    obtain ⟨numbered, asked, rfl⟩ := List.mem_map.mp member
    rw [comparisons_eq_inquiries] at asked
    exact inquiries_ne (nodup_numbers items) asked
  · rw [sortMeasured_comparisons, ← Array.length_toList]
    exact pred_length_le_length_inquiries le items.toList
  · have bound := length_inquiries_le le items.toList
    rw [sortMeasured_comparisons, ← Array.length_toList, Nat.le_div_iff_mul_le Nat.two_pos,
      Nat.mul_sub_one]
    omega

/-- Five tagged keys, two of them twice. -/
def fiveKeys : Array Tagged :=
  (Tagged.number [0, 1, 2, 0, 2]).toArray

/-- Five keys under a relation that goes round in a circle. -/
theorem encounters_once_cyclic :
    encounters Rule.cyclic.le fiveKeys = [(0, 4), (1, 4), (2, 4), (3, 4), (1, 2), (3, 0)] ∧
      [s(0, 4), s(1, 4), s(2, 4), s(3, 4), s(1, 2), s(3, 0)].Nodup ∧ 3 ≠ 0 ∧
      (sortMeasured Rule.cyclic.le fiveKeys).2.comparisons = 6 ∧
      (sortMeasured Rule.cyclic.le fiveKeys).2.comparisons ≤ 10 := by
  have log : encounters Rule.cyclic.le fiveKeys =
      [(0, 4), (1, 4), (2, 4), (3, 4), (1, 2), (3, 0)] := by decide +kernel
  obtain ⟨-, once, apart, count, -, most⟩ := encounters_once Rule.cyclic.le fiveKeys
  rw [log] at once apart count
  exact ⟨log, once, apart (3, 0) (by decide), count.symm, most⟩

/-- **Neighbours have met.** Whatever the relation answers, elements that a sort leaves
beside each other were compared with each other once: the first was found to stand
before the second, or the second was found not to stand before the first. So all
neighbours are in order under a relation that compares any two elements, even if it does
not carry over. -/
theorem sort_neighbours_met_once :
    (origins le items).map (items[·]?) = (sort le items).toList.map some ∧
      (origins le items).Perm (List.range items.size) ∧
      (encounters le items).map (Prod.map (items[·]?) (items[·]?)) =
        (comparisons le items).map (Prod.map some some) ∧
      (∀ i j, (i, j) ∈ neighbours (origins le items) →
        ∃ left right, items[i]? = some left ∧ items[j]? = some right ∧
          (le left right ∧ meetings le items i j = [(i, j)] ∨
            ¬le right left ∧ meetings le items i j = [(j, i)])) ∧
      ((∀ left right, le left right ∨ le right left) → isSortedAll le (sort le items).toList) := by
  refine ⟨map_origins le items, origins_perm le items, map_encounters le items, ?_, ?_⟩
  · intro i j beside
    obtain ⟨left, right, atLeft, atRight, met⟩ := met_of_mem_neighbours le items beside
    refine ⟨left, right, atLeft, atRight, ?_⟩
    rcases met with ⟨asked, before⟩ | ⟨asked, notBefore⟩
    · exact .inl ⟨before, meetings_eq_singleton le items asked⟩
    · rw [meetings_comm]
      exact .inr ⟨notBefore, meetings_eq_singleton le items asked⟩
  · intro total
    rw [isSortedAll_iff_isChain, sort, toList_sortWatched]
    refine (arrange_isChain le items.toList).imp fun left right settled => ?_
    rcases settled with ⟨-, before⟩ | ⟨-, notBefore⟩
    · exact before
    · exact (total left right).resolve_right notBefore

/-- Of two places on the circle, one is level with the other or right behind it. -/
theorem Rule.cyclic_total (left right : Tagged) :
    Rule.cyclic.le left right ∨ Rule.cyclic.le right left := by
  by_cases ahead : (left.key % 3 - right.key % 3) % 3 = 1
  · have behind : (right.key % 3 - left.key % 3) % 3 = 2 := by omega
    right
    simp only [Rule.le, Rule.compare?, behind, Int.reduceEq, ↓reduceIte, Option.any_some,
      Ordering.isLE]
  · left
    unfold Rule.le Rule.compare?
    by_cases level : (left.key % 3 - right.key % 3) % 3 = 0
    · simp only [level, ↓reduceIte, Option.any_some, Ordering.isLE]
    · simp only [level, ahead, ↓reduceIte, Option.any_some, Ordering.isLE]

/-- The last two of the sorted keys are level, and were asked about in this order. -/
theorem sort_neighbours_met_once_cyclic :
    (3, 0) ∈ neighbours (origins Rule.cyclic.le fiveKeys) ∧
      meetings Rule.cyclic.le fiveKeys 3 0 = [(3, 0)] ∧
      isSortedAll Rule.cyclic.le (sort Rule.cyclic.le fiveKeys).toList := by
  obtain ⟨-, -, -, met, inOrder⟩ := sort_neighbours_met_once Rule.cyclic.le fiveKeys
  have beside : (3, 0) ∈ neighbours (origins Rule.cyclic.le fiveKeys) := by
    have order : origins Rule.cyclic.le fiveKeys = [1, 2, 4, 3, 0] := by decide +kernel
    rw [order]
    decide
  obtain ⟨left, right, atLeft, atRight, outcome⟩ := met 3 0 beside
  obtain rfl : ⟨0, 3⟩ = left := Option.some.inj atLeft
  obtain rfl : ⟨0, 0⟩ = right := Option.some.inj atRight
  refine ⟨beside, ?_, inOrder Rule.cyclic_total⟩
  rcases outcome with ⟨-, once⟩ | ⟨notBefore, -⟩
  · exact once
  · exact absurd (by decide) notBefore

end Tandem.Sorting
