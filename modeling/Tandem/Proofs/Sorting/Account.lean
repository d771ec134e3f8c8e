import Tandem.Proofs.Sorting.Layout

/-! # What onlookers of a sort make of its events

The events of a sort are the course of the arrangement of its elements
(`Tandem.Sorting.events_eq_course`). A tally adds the numbers of partitions and of
exchanges among them (`Tandem.Sorting.foldl_record`), so what a sort adds to a tally
does not depend on what was counted before. A measurement adds the number of
comparisons beside it (`Tandem.Sorting.sortMeasured_snd`).
-/

namespace Tandem.Sorting

universe u

variable {α : Type u}

/-- Whether an event is a finished partition. -/
def Event.isPartition : Event α → Bool
  | .partitioned .. => true
  | .compared .. | .swapped .. => false

/-- Whether an event is an exchange. -/
def Event.isSwap : Event α → Bool
  | .swapped .. => true
  | .compared .. | .partitioned .. => false

/-- A tally counts partitions and exchanges. -/
theorem foldl_record (events : List (Event α)) (tally : Tally) :
    events.foldl Tally.record tally =
      { partitions := tally.partitions + events.countP Event.isPartition
        swaps := tally.swaps + events.countP Event.isSwap } := by
  induction events generalizing tally with
  | nil => rfl
  | cons event rest ih =>
      rw [List.foldl_cons, ih, List.countP_cons, List.countP_cons]
      cases event with
      | compared i j left right => rfl
      | swapped i j =>
          simp only [Tally.record, Event.isPartition, Event.isSwap, Bool.false_eq_true, ↓reduceIte,
            Nat.add_zero, Nat.add_assoc, Nat.add_comm 1]
      | partitioned low high pivot =>
          simp only [Tally.record, Event.isPartition, Event.isSwap, Bool.false_eq_true, ↓reduceIte,
            Nat.add_zero, Nat.add_assoc, Nat.add_comm 1]

/-- A measurement counts comparisons beside its tally. -/
theorem foldl_record_effort (events : List (Event α)) (effort : Effort) :
    events.foldl Effort.record effort =
      { tally := events.foldl Tally.record effort.tally
        comparisons := effort.comparisons + (events.filterMap Event.comparison?).length } := by
  induction events generalizing effort with
  | nil => rfl
  | cons event rest ih =>
      rw [List.foldl_cons, ih, List.foldl_cons]
      cases event with
      | compared i j left right =>
          simp only [Effort.record, Tally.record, Event.comparison?, List.filterMap_cons,
            List.length_cons, Nat.add_assoc, Nat.add_comm 1]
      | swapped i j => rfl
      | partitioned low high pivot => rfl

/-- A log keeps every event. -/
theorem toList_foldl_push (events : List (Event α)) (log : Array (Event α)) :
    (events.foldl Array.push log).toList = log.toList ++ events := by
  rw [show events.foldl Array.push log = log ++ events.toArray from List.foldl_push_eq_append',
    Array.toList_append]

variable (le : α → α → Bool) (items : Array α)

/-- The events of a sort are the course of the arrangement. -/
theorem events_eq_course : events le items = course le 0 items.toList := by
  rw [events, sortWatched_seen, toList_foldl_push]
  rfl

/-- The tally of a sort counts its events. -/
theorem sortTallied_snd :
    (sortTallied le items).2 =
      { partitions := (events le items).countP Event.isPartition
        swaps := (events le items).countP Event.isSwap } := by
  rw [sortTallied, sortWatched_seen, foldl_record, events_eq_course]
  simp only [Nat.zero_add]

/-- A measured sort has the tally of the sort and the number of its comparisons. -/
theorem sortMeasured_snd :
    (sortMeasured le items).2 =
      { tally := (sortTallied le items).2, comparisons := (comparisons le items).length } := by
  rw [sortMeasured, sortWatched_seen, foldl_record_effort, sortTallied, sortWatched_seen,
    comparisons, events_eq_course, Nat.zero_add]

end Tandem.Sorting
