import Tandem.Proofs.Sorting.Guarded
import Tandem.Proofs.Sorting.Neighbours

/-! # What the checks of a list ask

Both checks go through neighbouring pairs from the front and stop at the first pair out of
order (`Tandem.Sorting.Inspection.AsksInTurn`). The same checks are written once more on bare
places with every step guarded, and no guard fails
(`Tandem.Sorting.Inspection.Covers.inspect?_eq`), also on lists that are too short to have a
pair. The check of the leading pairs is the check of all pairs on the list without its last
element (`Tandem.Sorting.isSorted_eq_isSortedAll_dropLast`), so the last pair alone tells them
apart.
-/

namespace Tandem.Sorting

universe u

variable {α : Type u}

/-- Stopping at a failure leaves the beginning of a list. -/
theorem prefix_throughFirstFailure (passes : α → Bool) (items : List α) :
    throughFirstFailure passes items <+: items := by
  induction items with
  | nil => exact List.prefix_rfl
  | cons item rest ih =>
      rw [throughFirstFailure]
      split
      · exact (List.prefix_cons_inj item).mpr ih
      · exact (List.prefix_cons_inj item).mpr List.nil_prefix

/-- An element is looked at just if all elements before it pass. -/
theorem lt_length_throughFirstFailure_iff {passes : α → Bool} {items : List α} {number : Nat} :
    number < (throughFirstFailure passes items).length ↔
      number < items.length ∧ ∀ item ∈ items.take number, passes item := by
  induction items generalizing number with
  | nil => simp [throughFirstFailure]
  | cons item rest ih =>
      cases number with
      | zero =>
          have nonempty : throughFirstFailure passes (item :: rest) ≠ [] := by
            rw [throughFirstFailure]
            split
            · exact List.cons_ne_nil _ _
            · exact List.cons_ne_nil _ _
          simp [List.length_pos_iff.mpr nonempty]
      | succ number =>
          by_cases passing : passes item
          · simp [throughFirstFailure, passing, ih]
          · simp [throughFirstFailure, passing]

/-- The element at a place may stand before the next one, if there are both. -/
def InOrderAt (le : α → α → Bool) (items : List α) (place : Nat) : Prop :=
  ∀ left right, items[place]? = some left → items[place + 1]? = some right → le left right

/-- Two elements beside each other are in order if the relation says so. -/
theorem inOrderAt_iff {le : α → α → Bool} {items : List α} {place : Nat} {left right : α}
    (atPlace : items[place]? = some left) (behind : items[place + 1]? = some right) :
    InOrderAt le items place ↔ le left right := by
  constructor
  · intro inOrder
    exact inOrder left right atPlace behind
  · intro ordered earlier later atEarlier atLater
    cases atPlace.symm.trans atEarlier
    cases behind.symm.trans atLater
    exact ordered

namespace Inspection

variable {inspection : Inspection α} {items : List α} {places : Nat → Nat × Nat} {limit : Nat}
  {inOrder : Nat → Prop}

/-- The pairs that an inspection would ask about are those at `limit` places of a list, and pass
where the list is in order. -/
structure Covers (inspection : Inspection α) (items : List α) (places : Nat → Nat × Nat)
    (limit : Nat) (inOrder : Nat → Prop) : Prop where
  reads : inspection.pairs.map (Prod.map some some) =
    (List.range limit).map fun number => (items[(places number).1]?, items[(places number).2]?)
  passes_iff : ∀ number left right, items[(places number).1]? = some left →
    items[(places number).2]? = some right → (inspection.passes left right ↔ inOrder number)

/-- An inspection asks about the pairs at some places of a list, in their order, and about no
pair behind the first one out of order. -/
structure AsksInTurn (inspection : Inspection α) (items : List α) (places : Nat → Nat × Nat)
    (limit : Nat) (inOrder : Nat → Prop) : Prop where
  operands : inspection.asked.map (Prod.map some some) =
    (List.range inspection.asked.length).map fun number =>
      (items[(places number).1]?, items[(places number).2]?)
  asks_iff : ∀ number, number < inspection.asked.length ↔
    number < limit ∧ ∀ earlier < number, inOrder earlier

namespace Covers

/-- An inspection covers as many pairs as its limit says. -/
theorem length_pairs (covers : inspection.Covers items places limit inOrder) :
    inspection.pairs.length = limit := by
  have lengths := congrArg List.length covers.reads
  rwa [List.length_map, List.length_map, List.length_range] at lengths

/-- The elements of a pair stand at the places that the inspection reads. -/
theorem getElem?_pairs (covers : inspection.Covers items places limit inOrder) {number : Nat}
    (within : number < limit) :
    ∃ pair, inspection.pairs[number]? = some pair ∧ items[(places number).1]? = some pair.1 ∧
      items[(places number).2]? = some pair.2 := by
  have found := congrArg (fun pairs : List (Option α × Option α) => pairs[number]?) covers.reads
  simp only [List.getElem?_map, List.getElem?_range within, Option.map_some] at found
  obtain ⟨pair, there, same⟩ := Option.map_eq_some_iff.mp found
  exact ⟨pair, there, (congrArg Prod.fst same).symm, (congrArg Prod.snd same).symm⟩

/-- The first pairs pass just if their places are in order. -/
theorem forall_mem_take_iff (covers : inspection.Covers items places limit inOrder) {count : Nat}
    (within : count ≤ limit) :
    (∀ pair ∈ inspection.pairs.take count, inspection.passes pair.1 pair.2) ↔
      ∀ number < count, inOrder number := by
  constructor
  · intro passing number bound
    obtain ⟨pair, there, left, right⟩ := covers.getElem?_pairs (Nat.lt_of_lt_of_le bound within)
    rw [← covers.passes_iff number _ _ left right]
    apply passing
    apply List.mem_of_getElem?
    rw [List.getElem?_take_of_lt bound, there]
  · intro ordered pair member
    obtain ⟨number, found⟩ := List.mem_iff_getElem?.mp member
    rw [List.getElem?_take, Option.ite_none_right_eq_some] at found
    obtain ⟨bound, found⟩ := found
    obtain ⟨other, there, left, right⟩ := covers.getElem?_pairs (Nat.lt_of_lt_of_le bound within)
    cases there.symm.trans found
    exact (covers.passes_iff number _ _ left right).mpr (ordered number bound)

/-- An inspection holds just if all places that it covers are in order. -/
theorem holds_iff (covers : inspection.Covers items places limit inOrder) :
    inspection.holds ↔ ∀ number < limit, inOrder number := by
  have all := covers.forall_mem_take_iff (Nat.le_refl limit)
  rw [← covers.length_pairs, List.take_length] at all
  rw [← covers.length_pairs, ← all, holds, List.all_eq_true]

/-- The pairs asked about are the first ones of those covered. -/
theorem asksInTurn (covers : inspection.Covers items places limit inOrder) :
    inspection.AsksInTurn items places limit inOrder := by
  constructor
  · have leading : inspection.asked = inspection.pairs.take inspection.asked.length :=
      List.prefix_iff_eq_take.mp (prefix_throughFirstFailure _ _)
    have within : inspection.asked.length ≤ limit := by
      rw [← covers.length_pairs]
      exact (prefix_throughFirstFailure _ _).length_le
    rw [leading, List.map_take, covers.reads, ← List.map_take, List.take_range, ← leading,
      Nat.min_eq_left within]
  · intro number
    rw [asked, lt_length_throughFirstFailure_iff, covers.length_pairs]
    exact and_congr_right fun within => covers.forall_mem_take_iff (Nat.le_of_lt within)

end Covers

end Inspection

namespace Guarded

/-- Go through some positions, and ask about the elements at the two places that belong to each
of them, up to the first pair that fails. The answer comes with the places asked about. There is
no result if a position has no places, or if a place has no element. -/
def inspect? (places? : Nat → Option (Nat × Nat)) (passes : α → α → Bool) (items : List α) :
    List Nat → Option (Bool × List (Nat × Nat))
  | [] => some (true, [])
  | position :: rest =>
    (places? position).bind fun places =>
    (items[places.1]?).bind fun left =>
    (items[places.2]?).bind fun right =>
    if passes left right then
      (inspect? places? passes items rest).map fun result => (result.1, places :: result.2)
    else some (false, [places])

/-- Ask of each element but the first and the last whether it is not smaller than the one
before. -/
def isSorted? (lt : α → α → Bool) (items : List α) : Option (Bool × List (Nat × Nat)) :=
  inspect? (fun position => (previous? 0 position).map fun earlier => (position, earlier))
    (fun later earlier => !lt later earlier) items (List.range' 1 (items.length - 1 - 1))

/-- Ask of each element but the last whether it may stand before the next one. -/
def isSortedAll? (le : α → α → Bool) (items : List α) : Option (Bool × List (Nat × Nat)) :=
  inspect? (fun position => (next? items.length position).map fun later => (position, later))
    le items (List.range (items.length - 1))

/-- Reading pairs one by one, each at its places, comes to the answer of the inspection and has
asked what it asks. -/
theorem inspect?_eq {places? : Nat → Option (Nat × Nat)} {passes : α → α → Bool}
    {items : List α} {places : Nat → Nat × Nat} {first : Nat} (pairs : List (α × α))
    (finds : ∀ number pair, pairs[number]? = some pair →
      places? (first + number) = some (places number) ∧
        items[(places number).1]? = some pair.1 ∧ items[(places number).2]? = some pair.2) :
    inspect? places? passes items (List.range' first pairs.length) =
      some ((Inspection.mk pairs passes).holds,
        (List.range (Inspection.mk pairs passes).asked.length).map places) := by
  induction pairs generalizing first places with
  | nil => rfl
  | cons pair rest ih =>
      obtain ⟨here, left, right⟩ := finds 0 pair rfl
      have further : ∀ number pair, rest[number]? = some pair →
          places? (first + 1 + number) = some (places (number + 1)) ∧
            items[(places (number + 1)).1]? = some pair.1 ∧
            items[(places (number + 1)).2]? = some pair.2 := by
        intro number pair found
        rw [Nat.add_assoc, Nat.add_comm 1]
        exact finds (number + 1) pair found
      rw [Nat.add_zero] at here
      rw [List.length_cons, List.range'_succ, inspect?, here, Option.bind_some, left,
        Option.bind_some, right, Option.bind_some, ih further]
      by_cases passing : passes pair.1 pair.2
      · simp [Inspection.holds, Inspection.asked, throughFirstFailure, passing,
          List.range_succ_eq_map, Function.comp_def]
      · simp [Inspection.holds, Inspection.asked, throughFirstFailure, passing]

end Guarded

/-- No guard fails in an inspection of the places that it covers. -/
theorem Inspection.Covers.inspect?_eq {inspection : Inspection α} {items : List α}
    {places : Nat → Nat × Nat} {limit : Nat} {inOrder : Nat → Prop}
    (covers : inspection.Covers items places limit inOrder)
    {places? : Nat → Option (Nat × Nat)} {first : Nat}
    (given : ∀ number < limit, places? (first + number) = some (places number)) :
    Guarded.inspect? places? inspection.passes items (List.range' first limit) =
      some (inspection.holds, (List.range inspection.asked.length).map places) := by
  rw [← covers.length_pairs]
  apply Guarded.inspect?_eq
  intro number pair found
  obtain ⟨bound, -⟩ := List.getElem?_eq_some_iff.mp found
  rw [covers.length_pairs] at bound
  obtain ⟨other, there, left, right⟩ := covers.getElem?_pairs bound
  cases there.symm.trans found
  exact ⟨given number bound, left, right⟩

section Checks

variable {le lt : α → α → Bool}

/-- Neighbours stand at a position and the next one. -/
theorem map_some_neighbours (items : List α) :
    (neighbours items).map (Prod.map some some) =
      (List.range (items.length - 1)).map fun number => (items[number]?, items[number + 1]?) := by
  apply List.ext_getElem
  · simp [neighbours]
  · intro number bound _
    have inside : number + 1 < items.length := by
      simp only [neighbours, List.length_map, List.length_zip, List.length_tail] at bound
      omega
    simp [neighbours, inside, Nat.lt_of_succ_lt inside]

/-- The full check covers all neighbouring pairs, left element first. -/
theorem inspectAll_covers (le : α → α → Bool) (items : List α) :
    (inspectAll le items).Covers items (fun number => (number, number + 1)) (items.length - 1)
      (InOrderAt le items) where
  reads := map_some_neighbours items
  passes_iff _ _ _ atPlace behind := (inOrderAt_iff atPlace behind).symm

/-- The short check covers all neighbouring pairs but the last, right element first. -/
theorem inspectLeading_covers (strict : ∀ left right, lt left right = !le right left)
    (items : List α) :
    (inspectLeading lt items).Covers items (fun number => (number + 1, number))
      (items.length - 1 - 1) (InOrderAt le items) where
  reads := by
    have swapped : ∀ pairs : List (α × α), (pairs.dropLast.map Prod.swap).map (Prod.map some some) =
        ((pairs.map (Prod.map some some)).dropLast).map Prod.swap := by
      intro pairs
      rw [← List.map_dropLast, List.map_map, List.map_map]
      rfl
    rw [inspectLeading, swapped, map_some_neighbours, ← List.map_dropLast, List.map_map,
      List.dropLast_eq_take, List.length_range, List.take_range, Nat.min_eq_left (Nat.sub_le _ _)]
    rfl
  passes_iff number later earlier behind atPlace := by
    change (!lt later earlier) = true ↔ _
    rw [strict, Bool.not_not, inOrderAt_iff atPlace behind]

/-- Without the last element there is one pair less. -/
theorem neighbours_dropLast (items : List α) :
    neighbours items.dropLast = (neighbours items).dropLast := by
  induction items with
  | nil => rfl
  | cons first rest ih =>
      cases rest with
      | nil => rfl
      | cons second rest =>
          cases rest with
          | nil => rfl
          | cons third rest =>
              have several : neighbours (second :: third :: rest) ≠ [] :=
                List.cons_ne_nil (second, third) _
              change (first, second) :: neighbours (second :: third :: rest).dropLast =
                ((first, second) :: neighbours (second :: third :: rest)).dropLast
              rw [ih, List.dropLast_cons_of_ne_nil several]

/-- The check of the leading pairs leaves out the last element. -/
theorem isSorted_eq_isSortedAll_dropLast (strict : ∀ left right, lt left right = !le right left)
    (items : List α) : isSorted lt items = isSortedAll le items.dropLast := by
  rw [isSorted, isSortedAll, Inspection.holds, Inspection.holds, inspectLeading, inspectAll,
    neighbours_dropLast, List.all_map]
  congr 1
  funext pair
  simp only [Function.comp_apply, strict, Bool.not_not]
  rfl

/-- The two checks differ if the last pair is out of order and no other one is. -/
theorem isSorted_ne_isSortedAll_iff (strict : ∀ left right, lt left right = !le right left)
    (items : List α) :
    isSorted lt items ≠ isSortedAll le items ↔
      ∃ last, last + 2 = items.length ∧
        ∀ place, place + 1 < items.length → (InOrderAt le items place ↔ place ≠ last) := by
  have leading : isSorted lt items ↔ _ := (inspectLeading_covers strict items).holds_iff
  have all : isSortedAll le items ↔ _ := (inspectAll_covers le items).holds_iff
  constructor
  · intro differ
    have fails : ¬isSortedAll le items := by
      intro ordered
      have passes := leading.mpr fun number bound => all.mp ordered number (by omega)
      exact differ (passes.trans ordered.symm)
    have passes : isSorted lt items := by
      by_contra stopped
      exact differ ((Bool.eq_false_iff.mpr stopped).trans (Bool.eq_false_iff.mpr fails).symm)
    rw [leading] at passes
    simp only [all, not_forall] at fails
    obtain ⟨last, bound, outOfOrder⟩ := fails
    have ends : last + 2 = items.length := by
      by_contra inside
      exact outOfOrder (passes last (by omega))
    refine ⟨last, ends, fun place within => ⟨?_, ?_⟩⟩
    · rintro inOrder rfl
      exact outOfOrder inOrder
    · intro different
      exact passes place (by omega)
  · intro ⟨last, ends, onlyLast⟩ same
    have outOfOrder : ¬InOrderAt le items last := by
      rw [onlyLast last (by omega)]
      exact not_not_intro rfl
    have passes : isSorted lt items := by
      rw [leading]
      intro number bound
      exact (onlyLast number (by omega)).mpr (by omega)
    rw [same, all] at passes
    exact outOfOrder (passes last (by omega))

end Checks

/-- **The checks find the first pair out of order.** Under a total preorder the check of all
pairs holds just if every element may stand before every later one. The check of the leading
pairs is that check on the list without its last element, and the two differ just if the last
pair is out of order and no other one is. Neither reaches outside the list or below its front.
The first asks about the elements at places 1 and 0, then 2 and 1 and so on, with the later
element on the left, and the second about those at places 0 and 1, then 1 and 2 and so on; each
asks about a pair just if all pairs before it are in order. -/
theorem checks_find_first_disorder {le lt : α → α → Bool} (preorder : TotalPreorder le)
    (strict : ∀ left right, lt left right = !le right left) (items : List α) :
    (isSortedAll le items ↔ ∀ (i j : Nat) (_ : i < items.length) (_ : j < items.length),
        i < j → le items[i] items[j]) ∧
      isSorted lt items = isSortedAll le items.dropLast ∧
      (isSorted lt items ≠ isSortedAll le items ↔
        ∃ last, last + 2 = items.length ∧
          ∀ place, place + 1 < items.length → (InOrderAt le items place ↔ place ≠ last)) ∧
      Guarded.isSorted? lt items =
        some (isSorted lt items,
          (List.range (inspectLeading lt items).asked.length).map
            fun number => (number + 1, number)) ∧
      Guarded.isSortedAll? le items =
        some (isSortedAll le items,
          (List.range (inspectAll le items).asked.length).map
            fun number => (number, number + 1)) ∧
      (inspectLeading lt items).AsksInTurn items (fun number => (number + 1, number))
        (items.length - 2) (InOrderAt le items) ∧
      (inspectAll le items).AsksInTurn items (fun number => (number, number + 1))
        (items.length - 1) (InOrderAt le items) := by
  have leading := inspectLeading_covers strict items
  have all := inspectAll_covers le items
  refine ⟨?_, isSorted_eq_isSortedAll_dropLast strict items,
    isSorted_ne_isSortedAll_iff strict items, ?_, ?_, leading.asksInTurn, all.asksInTurn⟩
  · rw [isSortedAll_iff_pairwise preorder, List.pairwise_iff_getElem]
  · apply leading.inspect?_eq
    intro number _
    rw [Nat.add_comm 1, Guarded.previous?, if_pos (Nat.succ_pos number)]
    rfl
  · rw [Guarded.isSortedAll?, List.range_eq_range']
    apply all.inspect?_eq
    intro number bound
    rw [Nat.zero_add, Guarded.next?, if_pos (by omega)]
    rfl

/-- Elements in order by their numbers but for the last two, the first two level. -/
def almostSorted : List (Nat × Char) :=
  [(1, 'a'), (1, 'b'), (4, 'c'), (3, 'd')]

/-- The check of the leading pairs passes such a list after two questions; the check of all
pairs asks a third one and fails. -/
theorem checks_find_first_disorder_last_pair :
    Guarded.isSorted? (ltOf (byKey Prod.fst compare)) almostSorted =
        some (true, [(1, 0), (2, 1)]) ∧
      Guarded.isSortedAll? (leOf (byKey Prod.fst compare)) almostSorted =
        some (false, [(0, 1), (1, 2), (2, 3)]) ∧
      isSortedAll (leOf (byKey Prod.fst compare)) almostSorted.dropLast ∧
      ∃ last, last + 2 = 4 ∧ ∀ place, place + 1 < 4 →
        (InOrderAt (leOf (byKey Prod.fst compare)) almostSorted place ↔ place ≠ last) := by
  obtain ⟨-, shortened, differ, guarded, guardedAll, -, -⟩ :=
    checks_find_first_disorder (TotalPreorder.leOf (byKey Prod.fst compare))
      (ltOf_eq_not_leOf (byKey Prod.fst compare)) almostSorted
  have passes : isSorted (ltOf (byKey Prod.fst compare)) almostSorted = true := by decide
  have fails : isSortedAll (leOf (byKey Prod.fst compare)) almostSorted = false := by decide
  refine ⟨guarded.trans (by decide), guardedAll.trans (by decide), shortened ▸ passes,
    differ.mp ?_⟩
  rw [passes, fails]
  exact Bool.false_ne_true.symm

end Tandem.Sorting
