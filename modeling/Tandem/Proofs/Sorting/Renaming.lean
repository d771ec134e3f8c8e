import Tandem.Proofs.Sorting.Account

/-! # Sorting under a renaming

A sort knows its elements only by the answers of its relation. Where elements are
replaced by others about which a second relation gives the same answers
(`Tandem.Sorting.Mirrors`), the sort arranges the replacements in the same way
(`Tandem.Sorting.arrange_map`) and reports the same events among them
(`Tandem.Sorting.course_map`).
-/

namespace Tandem.Sorting

universe u v

variable {α : Type u} {β : Type v}

/-- An event among replaced elements. -/
def Event.map (rename : α → β) : Event α → Event β
  | .compared i j left right => .compared i j (rename left) (rename right)
  | .swapped i j => .swapped i j
  | .partitioned low high pivot => .partitioned low high pivot

/-- A renamed event compares the renamed elements. -/
@[simp]
theorem Event.comparison?_map (rename : α → β) (event : Event α) :
    (event.map rename).comparison? = event.comparison?.map (Prod.map rename rename) := by
  cases event with
  | compared => rfl
  | swapped => rfl
  | partitioned => rfl

/-- The relation `other` answers about replaced elements what `le` answers about the
elements. -/
def Mirrors (le : α → α → Bool) (other : β → β → Bool) (rename : α → β) (items : List α) : Prop :=
  ∀ left ∈ items, ∀ right ∈ items, other (rename left) (rename right) = le left right

/-- Piles of replaced elements. -/
def Piles.map (rename : α → β) (piles : Piles α) : Piles β where
  accepted := piles.accepted.map rename
  rejected := piles.rejected.map rename

variable {le : α → α → Bool} {other : β → β → Bool} {rename : α → β} {pivot : α}

/-- Relations that answer alike about a list do so about a part of it. -/
theorem Mirrors.mono {items fewer : List α} (mirrors : Mirrors le other rename items)
    (subset : fewer ⊆ items) : Mirrors le other rename fewer :=
  fun left leftMember right rightMember =>
    mirrors left (subset leftMember) right (subset rightMember)

theorem Mirrors.front {front : List α} (mirrors : Mirrors le other rename (front ++ [pivot])) :
    Mirrors le other rename front :=
  mirrors.mono (List.subset_append_left front [pivot])

/-- What is answered about the elements before the last one and the last one. -/
theorem Mirrors.last {front : List α}
    (mirrors : Mirrors le other rename (front ++ [pivot])) :
    ∀ item ∈ front, other (rename item) (rename pivot) = le item pivot :=
  fun item member => mirrors item (List.mem_append_left _ member) pivot (by simp)

/-- A renamed element is dealt to the same pile. -/
theorem Piles.deal_map (piles : Piles α) {item : α}
    (same : other (rename item) (rename pivot) = le item pivot) :
    (piles.map rename).deal other (rename pivot) (rename item) =
      (piles.deal le pivot item).map rename := by
  unfold deal
  rw [same]
  split
  · simp only [map, List.map_append, List.map_rotate, List.map_cons, List.map_nil]
  · simp only [map, List.map_append, List.map_cons, List.map_nil]

/-- Renamed elements are dealt to the same piles. -/
theorem Piles.foldl_deal_map {items : List α}
    (same : ∀ item ∈ items, other (rename item) (rename pivot) = le item pivot)
    (piles : Piles α) :
    (items.map rename).foldl (deal other (rename pivot)) (piles.map rename) =
      (items.foldl (deal le pivot) piles).map rename := by
  induction items generalizing piles with
  | nil => rfl
  | cons item rest ih =>
      obtain ⟨first, later⟩ := List.forall_mem_cons.mp same
      rw [List.map_cons, List.foldl_cons, List.foldl_cons, deal_map piles first, ih later]

/-- A renamed list is divided alike. -/
theorem divide_map {items : List α}
    (same : ∀ item ∈ items, other (rename item) (rename pivot) = le item pivot) :
    divide other (rename pivot) (items.map rename) = (divide le pivot items).map rename := by
  have dealt := Piles.foldl_deal_map same {}
  simp only [Piles.map, List.map_nil] at dealt
  simp only [divide, dealt, Piles.map, List.map_rotate]

/-- Exchanges do not depend on the elements. -/
theorem exchanges_map (rejected : List α) (boundary position : Nat) :
    exchanges (rejected.map rename) boundary position =
      (exchanges rejected boundary position).map (Event.map rename) := by
  cases rejected with
  | nil => rfl
  | cons displaced rest => rfl

/-- Dealing a renamed element reports the renamed events. -/
theorem Piles.dealEvents_map (low high : Nat) (piles : Piles α) {item : α}
    (same : other (rename item) (rename pivot) = le item pivot) :
    (piles.map rename).dealEvents other (rename pivot) low high (rename item) =
      (piles.dealEvents le pivot low high item).map (Event.map rename) := by
  simp only [dealEvents, same, map, List.length_map, exchanges_map, List.map_cons, Event.map]
  split
  · rfl
  · rfl

/-- Dealing renamed elements reports the renamed events. -/
theorem Piles.scanEvents_map (low high : Nat) {items : List α}
    (same : ∀ item ∈ items, other (rename item) (rename pivot) = le item pivot)
    (piles : Piles α) :
    (piles.map rename).scanEvents other (rename pivot) low high (items.map rename) =
      (piles.scanEvents le pivot low high items).map (Event.map rename) := by
  induction items generalizing piles with
  | nil => rfl
  | cons item rest ih =>
      obtain ⟨first, later⟩ := List.forall_mem_cons.mp same
      rw [List.map_cons, scanEvents, scanEvents, dealEvents_map low high piles first,
        deal_map piles first, ih later, List.map_append]

/-- Dividing a renamed list reports the renamed events. -/
theorem divideEvents_map (low : Nat) {items : List α}
    (same : ∀ item ∈ items, other (rename item) (rename pivot) = le item pivot) :
    divideEvents other (rename pivot) low (items.map rename) =
      (divideEvents le pivot low items).map (Event.map rename) := by
  have dealt := Piles.foldl_deal_map same {}
  have scanned := Piles.scanEvents_map low (low + items.length) same {}
  simp only [Piles.map, List.map_nil] at dealt scanned
  simp only [divideEvents, dealt, scanned, List.length_map, exchanges_map, List.map_append,
    List.map_cons, List.map_nil, Event.map]

/-- Replaced elements are arranged as the elements are. -/
theorem arrange_map {items : List α} (mirrors : Mirrors le other rename items) :
    arrange other (items.map rename) = (arrange le items).map rename := by
  induction items using divide_induction le with
  | nil =>
      rw [arrange_of_length_le_one (by simp), arrange_of_length_le_one (by simp)]
  | concat front pivot before after =>
      rw [List.map_append, List.map_singleton, arrange_concat, arrange_concat,
        divide_map mirrors.last, List.map_append, List.map_cons]
      simp only [Piles.map]
      rw [before (mirrors.front.mono (accepted_subset le pivot front)),
        after (mirrors.front.mono (rejected_subset le pivot front))]

/-- Sorting replaced elements reports what sorting the elements does. -/
theorem course_map {items : List α} (mirrors : Mirrors le other rename items) (low : Nat) :
    course other low (items.map rename) = (course le low items).map (Event.map rename) := by
  induction items using sort_induction le generalizing low with
  | small items small =>
      rw [course_of_length_le_one _ small, course_of_length_le_one _ (by simpa using small)]
      rfl
  | concat front pivot nonempty before after =>
      have renamed : front.map rename ≠ [] := fun none => nonempty (List.map_eq_nil_iff.mp none)
      rw [List.map_append, List.map_singleton, course_concat _ renamed, course_concat _ nonempty,
        divideEvents_map low mirrors.last, divide_map mirrors.last, List.map_append,
        List.map_append]
      simp only [Piles.map, List.length_map]
      rw [before (mirrors.front.mono (accepted_subset le pivot front)),
        after (mirrors.front.mono (rejected_subset le pivot front))]

section

variable {items : Array α} (mirrors : Mirrors le other rename items.toList)

include mirrors

/-- The sorted array is renamed with the array. -/
theorem sort_map : sort other (items.map rename) = (sort le items).map rename := by
  apply Array.toList_inj.mp
  simp only [sort, toList_sortWatched, Array.toList_map]
  exact arrange_map mirrors

/-- The events are renamed with the array. -/
theorem events_map :
    events other (items.map rename) = (events le items).map (Event.map rename) := by
  rw [events_eq_course, events_eq_course, Array.toList_map]
  exact course_map mirrors 0

/-- The comparisons are renamed with the array. -/
theorem comparisons_map :
    comparisons other (items.map rename) =
      (comparisons le items).map (Prod.map rename rename) := by
  rw [comparisons, comparisons, events_map mirrors, List.filterMap_map, List.map_filterMap]
  simp only [Function.comp_def, Event.comparison?_map]

end

end Tandem.Sorting
