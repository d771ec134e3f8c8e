import Tandem.Proofs.Sorting.Renaming
import Tandem.Sorting.Benchmark
import Tandem.Sorting.Rule

/-! # Sorting elements that count

Whatever an onlooker makes of a sort, it makes of the sort of replaced elements as
well (`Tandem.Sorting.sortWatched_map`). Elements that count their comparisons are
such replacements, so they are sorted as the elements themselves are, and their
counter goes up by the number of comparisons (`Tandem.Sorting.sortCounted_eq`). A
measurement therefore reports the work of the sort without counters
(`Tandem.Sorting.measure_eq`).
-/

namespace Tandem.Sorting

universe u v w

variable {α : Type u} {β : Type v} {σ : Type w} {le : α → α → Bool} {other : β → β → Bool}
  {rename : α → β}

/-- Renaming elements so that the relation answers alike renames the sorted array, and the
onlooker sees the renamed events. -/
theorem sortWatched_map {items : Array α} (mirrors : Mirrors le other rename items.toList)
    (watch : σ → Event β → σ) (seen : σ) :
    sortWatched other watch (items.map rename) seen =
      Prod.map (Array.map rename) id
        (sortWatched le (fun seen event => watch seen (event.map rename)) items seen) := by
  apply Prod.ext
  · rw [Prod.map_fst, sortWatched_fst, sortWatched_fst, sort_map mirrors]
  · rw [Prod.map_snd, sortWatched_seen, sortWatched_seen, Array.toList_map, course_map mirrors,
      List.foldl_map]
    rfl

/-- A tally does not look at elements. -/
theorem Tally.record_map (rename : α → β) (tally : Tally) (event : Event α) :
    tally.record (event.map rename) = tally.record event := by
  cases event with
  | compared => rfl
  | swapped => rfl
  | partitioned => rfl

/-- Renaming elements so that the relation answers alike changes no count. -/
theorem sortTallied_map {items : Array α} (mirrors : Mirrors le other rename items.toList) :
    sortTallied other (items.map rename) =
      Prod.map (Array.map rename) id (sortTallied le items) := by
  unfold sortTallied
  rw [sortWatched_map mirrors]
  simp only [Tally.record_map]

/-- Counted elements are compared as the elements themselves. -/
theorem mirrors_counted (le : α → α → Bool) (counter : Nat) (items : List α) :
    Mirrors le (Counted.le le) (Counted.on counter) items :=
  fun _ _ _ _ => rfl

/-- A counter that goes up twice goes up by the sum. -/
theorem modify_add_modify_add (counters : Array Nat) (counter first second : Nat) :
    (counters.modify counter (· + first)).modify counter (· + second) =
      counters.modify counter (· + (first + second)) := by
  apply Array.toList_inj.mp
  simp only [Array.toList_modify, List.modify_modify_eq]
  congr 1
  funext count
  exact Nat.add_assoc count first second

theorem modify_add_zero (counters : Array Nat) (counter : Nat) :
    counters.modify counter (· + 0) = counters := by
  apply Array.toList_inj.mp
  rw [Array.toList_modify]
  exact List.modify_id counter counters.toList

/-- A meter tallies partitions and exchanges, and has its elements' counter count the
comparisons. -/
theorem foldl_record_counted (counter : Nat) (events : List (Event α)) (meter : Meter) :
    events.foldl (fun meter event => meter.record (event.map (Counted.on counter))) meter =
      { tally := events.foldl Tally.record meter.tally
        counters := meter.counters.modify counter
          (· + (events.filterMap Event.comparison?).length) } := by
  induction events generalizing meter with
  | nil =>
      rw [List.filterMap_nil, List.length_nil, modify_add_zero]
      rfl
  | cons event rest ih =>
      rw [List.foldl_cons, List.foldl_cons, ih]
      cases event with
      | compared i j left right =>
          have count : ((Event.compared i j left right :: rest).filterMap
              Event.comparison?).length = 1 + (rest.filterMap Event.comparison?).length :=
            Nat.add_comm _ 1
          rw [count, ← modify_add_modify_add]
          rfl
      | swapped i j => rfl
      | partitioned low high pivot => rfl

/-- Elements that count on one counter are sorted as the elements themselves are. The
counter goes up by the number of comparisons, and no other counter changes. -/
theorem sortCounted_eq (le : α → α → Bool) (items : Array α) (counter : Nat)
    (counters : Array Nat) :
    sortCounted le (items.map (Counted.on counter)) counters =
      ((sort le items).map (Counted.on counter),
        { tally := (sortTallied le items).2
          counters := counters.modify counter (· + (comparisons le items).length) }) := by
  unfold sortCounted
  rw [sortWatched_map (mirrors_counted le counter items.toList)]
  apply Prod.ext
  · rw [Prod.map_fst, sortWatched_fst]
  · rw [Prod.map_snd, sortWatched_seen, foldl_record_counted, sortTallied, sortWatched_seen,
      comparisons, events_eq_course]
    rfl

/-- Counting does not change the elements. -/
theorem map_item_on (counter : Nat) (items : Array α) :
    (items.map (Counted.on counter)).map Counted.item = items := by
  rw [Array.map_map]
  exact Array.map_id items

/-- A measurement reports the work of sorting its input, and checks the sorted input. -/
theorem measure_eq (kind : InputKind) (size : Nat) (words : Nat → UInt32) :
    measure kind size words =
      { kind
        size
        effort := (sortMeasured atMost (kind.input size words)).2
        verified := isSortedAll atMost (sort atMost (kind.input size words)).toList } := by
  have counted : (#[0].modify 0 (· + (comparisons atMost (kind.input size words)).length)).getD 0 0 =
      (comparisons atMost (kind.input size words)).length := by
    simp
  simp only [measure, sortCounted_eq, map_item_on, sortMeasured_snd, counted]

/-- **A sort knows its elements only by the answers of its relation.** Where other elements
give the same answers, they are arranged in the same way, with the same numbers of partitions
and swaps and the corresponding comparisons. So elements that count their comparisons can be
sorted in place of the elements: the result and the tally stay what they are, and the counter
goes up by the number of comparisons. -/
theorem sort_follows_answers (le : α → α → Bool) (items : Array α) :
    (∀ {β : Type v} (other : β → β → Bool) (rename : α → β),
      (∀ left ∈ items.toList, ∀ right ∈ items.toList,
        other (rename left) (rename right) = le left right) →
      (sortTallied other (items.map rename)).1 = (sortTallied le items).1.map rename ∧
        (sortTallied other (items.map rename)).2 = (sortTallied le items).2 ∧
        comparisons other (items.map rename) =
          (comparisons le items).map (Prod.map rename rename)) ∧
      ∀ (counter : Nat) (counters : Array Nat),
        let counted := sortCounted le (items.map (Counted.on counter)) counters
        counted.1.map Counted.item = (sortTallied le items).1 ∧
          counted.2.tally = (sortTallied le items).2 ∧
          counted.2.counters = counters.modify counter (· + (comparisons le items).length) := by
  constructor
  · intro β other rename mirrors
    rw [sortTallied_map mirrors]
    exact ⟨rfl, rfl, comparisons_map mirrors⟩
  · intro counter counters
    rw [sortCounted_eq]
    refine ⟨?_, rfl, rfl⟩
    rw [map_item_on, sortTallied, sortWatched_fst]

/-- A key moved on by a whole turn of the circle of remainders. -/
def wholeTurn (element : Tagged) : Tagged :=
  { element with key := element.key + 3 }

/-- Moving keys by a whole turn changes no answer on the circle. The second of two counters
counts the comparisons. -/
theorem sort_follows_answers_whole_turn :
    let items := (Tagged.number [2, 0, 1, 0]).toArray
    (sortTallied Rule.cyclic.le (items.map wholeTurn)).1 =
        (sortTallied Rule.cyclic.le items).1.map wholeTurn ∧
      (sortTallied Rule.cyclic.le (items.map wholeTurn)).2 = (sortTallied Rule.cyclic.le items).2 ∧
      (comparisons Rule.cyclic.le items).length = 4 ∧
      (sortCounted Rule.cyclic.le (items.map (Counted.on 1)) #[7, 0]).2.counters = #[7, 4] := by
  intro items
  have asked : (comparisons Rule.cyclic.le items).length = 4 := by decide +kernel
  obtain ⟨renamed, counted⟩ := sort_follows_answers Rule.cyclic.le items
  obtain ⟨arranged, tallied, -⟩ := renamed Rule.cyclic.le wholeTurn (by decide)
  obtain ⟨-, -, counters⟩ := counted 1 #[7, 0]
  rw [asked] at counters
  exact ⟨arranged, tallied, asked, counters⟩

end Tandem.Sorting
