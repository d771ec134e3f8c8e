import Mathlib.Data.Sym.Sym2
import Mathlib.Tactic.Linarith
import Tandem.Proofs.Sorting.Slice

/-! # What a sort asks

A division asks about each element once, always against the pivot
(`Tandem.Sorting.comparisons_divideEvents`). So a sort asks about all elements
against the last one, and then what it asks about the piles
(`Tandem.Sorting.inquiries_concat`). The piles have no element in common and the
pivot is in neither of them, so two elements never meet again
(`Tandem.Sorting.inquiries_nodup`), and elements that end up beside each other have
met, since one of them was the pivot between the piles of a division
(`Tandem.Sorting.arrange_isChain`). No law of the relation is used.
-/

namespace Tandem.Sorting

universe u v

variable {α : Type u} {ι : Type v} {le : α → α → Bool} {pivot : α}

/-- An exchange compares nothing. -/
theorem comparisons_exchanges (rejected : List α) (boundary position : Nat) :
    (exchanges rejected boundary position).filterMap Event.comparison? = [] := by
  cases rejected with
  | nil => rfl
  | cons displaced rest => rfl

/-- A scan compares each of its elements with the pivot. -/
theorem comparisons_scanEvents (low high : Nat) (piles : Piles α) (items : List α) :
    (piles.scanEvents le pivot low high items).filterMap Event.comparison? =
      items.map (·, pivot) := by
  induction items generalizing piles with
  | nil => rfl
  | cons item rest ih =>
      have dealt : (piles.dealEvents le pivot low high item).filterMap Event.comparison? =
          [(item, pivot)] := by
        simp only [Piles.dealEvents, List.filterMap_cons, Event.comparison?]
        split
        · rw [comparisons_exchanges]
        · rfl
      rw [Piles.scanEvents, List.filterMap_append, dealt, ih, List.map_cons,
        List.singleton_append]

/-- A division asks about each element once, in order, against the pivot. -/
theorem comparisons_divideEvents (low : Nat) (items : List α) :
    (divideEvents le pivot low items).filterMap Event.comparison? = items.map (·, pivot) := by
  rw [divideEvents, List.filterMap_append, List.filterMap_append, comparisons_scanEvents,
    comparisons_exchanges, List.filterMap_cons_none rfl, List.filterMap_nil, List.append_nil,
    List.append_nil]

/-- The operands of the comparisons made when a list is sorted, in order. -/
def inquiries (le : α → α → Bool) (items : List α) : List (α × α) :=
  (course le 0 items).filterMap Event.comparison?

/-- A sort of an array asks what a sort of its list asks. -/
theorem comparisons_eq_inquiries (le : α → α → Bool) (items : Array α) :
    comparisons le items = inquiries le items.toList := by
  rw [comparisons, events_eq_course, inquiries]

/-- What a sort asks does not depend on where the list starts. -/
theorem comparisons_course (low : Nat) (items : List α) :
    (course le low items).filterMap Event.comparison? = inquiries le items := by
  rw [← Nat.add_zero low, course_shift, List.filterMap_map, inquiries]
  simp only [Function.comp_def, Event.comparison?_shift]

theorem inquiries_nil : inquiries le [] = [] := by
  rw [inquiries, course_of_length_le_one _ (by simp)]
  rfl

/-- A sort asks about all elements against the last one, and then about the piles. -/
theorem inquiries_concat (front : List α) (pivot : α) :
    inquiries le (front ++ [pivot]) =
      front.map (·, pivot) ++
        (inquiries le (divide le pivot front).accepted ++
          inquiries le (divide le pivot front).rejected) := by
  cases front with
  | nil =>
      have alone : inquiries le [pivot] = [] := by
        rw [inquiries, course_of_length_le_one _ (by simp)]
        rfl
      simp [divide, inquiries_nil, alone]
  | cons first rest =>
      rw [inquiries, course_concat _ (List.cons_ne_nil first rest), List.filterMap_append,
        List.filterMap_append, comparisons_divideEvents, comparisons_course, comparisons_course]

section Distinct

variable {tag : α → ι}

/-- The two elements of a comparison, without their order, by what they are tagged with. -/
def unordered (tag : α → ι) (pair : α × α) : Sym2 ι :=
  s(tag pair.1, tag pair.2)

/-- A sort asks only about elements of its list. -/
theorem mem_of_mem_inquiries {items : List α} {pair : α × α} (asked : pair ∈ inquiries le items) :
    pair.1 ∈ items ∧ pair.2 ∈ items := by
  induction items using divide_induction le with
  | nil =>
      rw [inquiries_nil] at asked
      exact absurd asked List.not_mem_nil
  | concat front pivot before after =>
      rw [inquiries_concat, List.mem_append, List.mem_append] at asked
      have inFront {item : α} : item ∈ front → item ∈ front ++ [pivot] := List.mem_append_left _
      rcases asked with now | later | later
      · obtain ⟨item, member, rfl⟩ := List.mem_map.mp now
        exact ⟨inFront member, List.mem_append_right _ (List.mem_singleton_self pivot)⟩
      · obtain ⟨left, right⟩ := before later
        exact ⟨inFront (accepted_subset le pivot front left),
          inFront (accepted_subset le pivot front right)⟩
      · obtain ⟨left, right⟩ := after later
        exact ⟨inFront (rejected_subset le pivot front left),
          inFront (rejected_subset le pivot front right)⟩

/-- Questions are about elements of the list only. -/
theorem mem_tags_of_mem_inquiries {items : List α} {encounter : Sym2 ι} {label : ι}
    (asked : encounter ∈ (inquiries le items).map (unordered tag)) (member : label ∈ encounter) :
    label ∈ items.map tag := by
  obtain ⟨pair, inLog, rfl⟩ := List.mem_map.mp asked
  obtain ⟨left, right⟩ := mem_of_mem_inquiries inLog
  rcases Sym2.mem_iff.mp member with rfl | rfl
  · exact List.mem_map_of_mem left
  · exact List.mem_map_of_mem right

/-- Elements with different tags still have different tags on the piles, and the pivot's
tag is on neither pile. -/
structure DistinctPiles (le : α → α → Bool) (tag : α → ι) (front : List α) (pivot : α) : Prop where
  accepted_nodup : ((divide le pivot front).accepted.map tag).Nodup
  rejected_nodup : ((divide le pivot front).rejected.map tag).Nodup
  disjoint : ∀ label ∈ (divide le pivot front).accepted.map tag,
    label ∉ (divide le pivot front).rejected.map tag
  front_nodup : (front.map tag).Nodup
  pivot_not_mem : tag pivot ∉ front.map tag

/-- Elements that can be told apart can be told apart in the piles too. -/
theorem DistinctPiles.of_nodup {front : List α} {pivot : α}
    (distinct : ((front ++ [pivot]).map tag).Nodup) : DistinctPiles le tag front pivot := by
  rw [List.map_append, List.map_singleton] at distinct
  obtain ⟨frontDistinct, -, apart⟩ := List.nodup_append.mp distinct
  have dealt : ((divide le pivot front).accepted.map tag ++
      (divide le pivot front).rejected.map tag).Nodup := by
    rw [← List.map_append]
    exact ((divide_perm front).map tag).nodup_iff.mpr frontDistinct
  obtain ⟨accepted, rejected, disjoint⟩ := List.nodup_append.mp dealt
  refine ⟨accepted, rejected, ?_, frontDistinct, ?_⟩
  · intro label onAccepted onRejected
    exact disjoint label onAccepted label onRejected rfl
  · intro inFront
    exact apart _ inFront _ (List.mem_singleton_self _) rfl

/-- Once its list is divided, the pivot is not asked about again. -/
theorem DistinctPiles.not_mem_inquiries {front : List α} {pivot : α}
    (distinct : DistinctPiles le tag front pivot) {encounter : Sym2 ι}
    (asked : encounter ∈ (inquiries le (divide le pivot front).accepted).map (unordered tag) ∨
      encounter ∈ (inquiries le (divide le pivot front).rejected).map (unordered tag)) :
    tag pivot ∉ encounter := by
  intro member
  apply distinct.pivot_not_mem
  rcases asked with asked | asked
  · exact List.map_subset tag (accepted_subset le pivot front)
      (mem_tags_of_mem_inquiries asked member)
  · exact List.map_subset tag (rejected_subset le pivot front)
      (mem_tags_of_mem_inquiries asked member)

/-- No two elements meet twice. -/
theorem inquiries_nodup {items : List α} (distinct : (items.map tag).Nodup) :
    ((inquiries le items).map (unordered tag)).Nodup := by
  induction items using divide_induction le with
  | nil =>
      rw [inquiries_nil]
      exact List.nodup_nil
  | concat front pivot before after =>
      have piles : DistinctPiles le tag front pivot := .of_nodup distinct
      rw [inquiries_concat, List.map_append, List.map_append, List.map_map]
      refine List.nodup_append'.mpr ⟨?_, List.nodup_append'.mpr ⟨?_, ?_, ?_⟩, ?_⟩
      · -- All meet the same pivot, and each of them is met once.
        have met := piles.front_nodup.map (f := fun label => s(label, tag pivot))
          fun _ _ same => Sym2.congr_left.mp same
        rwa [List.map_map] at met
      · exact before piles.accepted_nodup
      · exact after piles.rejected_nodup
      · intro encounter onAccepted onRejected
        obtain ⟨pair, -, rfl⟩ := List.mem_map.mp onAccepted
        have member : tag pair.1 ∈ unordered tag pair := Sym2.mem_mk_left _ _
        exact piles.disjoint _ (mem_tags_of_mem_inquiries onAccepted member)
          (mem_tags_of_mem_inquiries onRejected member)
      · intro encounter now later
        obtain ⟨item, -, rfl⟩ := List.mem_map.mp now
        exact piles.not_mem_inquiries (List.mem_append.mp later) (Sym2.mem_mk_right _ _)

/-- No element meets itself. -/
theorem inquiries_ne {items : List α} (distinct : (items.map tag).Nodup) {pair : α × α}
    (asked : pair ∈ inquiries le items) : tag pair.1 ≠ tag pair.2 := by
  induction items using divide_induction le with
  | nil =>
      rw [inquiries_nil] at asked
      exact absurd asked List.not_mem_nil
  | concat front pivot before after =>
      have piles : DistinctPiles le tag front pivot := .of_nodup distinct
      rw [inquiries_concat, List.mem_append, List.mem_append] at asked
      rcases asked with now | later | later
      · obtain ⟨item, member, rfl⟩ := List.mem_map.mp now
        intro same
        exact piles.pivot_not_mem (same ▸ List.mem_map_of_mem member)
      · exact before piles.accepted_nodup later
      · exact after piles.rejected_nodup later

end Distinct

/-- The first element was found to stand before the second, or the second was found not
to stand before the first. -/
def Settled (le : α → α → Bool) (asked : List (α × α)) (left right : α) : Prop :=
  (left, right) ∈ asked ∧ le left right ∨ (right, left) ∈ asked ∧ ¬le right left

theorem Settled.mono {asked more : List (α × α)} (subset : asked ⊆ more) {left right : α}
    (settled : Settled le asked left right) : Settled le more left right :=
  settled.imp (.imp_left (subset ·)) (.imp_left (subset ·))

/-- Elements that are arranged beside each other have met. -/
theorem arrange_isChain (le : α → α → Bool) (items : List α) :
    (arrange le items).IsChain (Settled le (inquiries le items)) := by
  induction items using divide_induction le with
  | nil =>
      rw [arrange_of_length_le_one (by simp)]
      exact .nil
  | concat front pivot before after =>
      have now : front.map (·, pivot) ⊆ inquiries le (front ++ [pivot]) := by
        rw [inquiries_concat]
        exact List.subset_append_left _ _
      have onAccepted : inquiries le (divide le pivot front).accepted ⊆
          inquiries le (front ++ [pivot]) := by
        rw [inquiries_concat]
        exact List.subset_append_of_subset_right _ (List.subset_append_left _ _)
      have onRejected : inquiries le (divide le pivot front).rejected ⊆
          inquiries le (front ++ [pivot]) := by
        rw [inquiries_concat]
        exact List.subset_append_of_subset_right _ (List.subset_append_right _ _)
      rw [arrange_concat]
      refine List.isChain_append.mpr ⟨before.imp fun _ _ => .mono onAccepted,
        List.isChain_cons.mpr ⟨?_, after.imp fun _ _ => .mono onRejected⟩, ?_⟩
      · intro right first
        have member := (arrange_perm _).subset (List.mem_of_head? first)
        have met : (right, pivot) ∈ front.map (·, pivot) :=
          List.mem_map_of_mem (f := (·, pivot)) (rejected_subset le pivot front member)
        exact .inr ⟨now met, not_le_of_mem_rejected member⟩
      · intro left last right first
        obtain rfl : pivot = right := by simpa using first
        have member := (arrange_perm _).subset (List.mem_of_getLast? last)
        have met : (left, pivot) ∈ front.map (·, pivot) :=
          List.mem_map_of_mem (f := (·, pivot)) (accepted_subset le pivot front member)
        exact .inl ⟨now met, le_of_mem_accepted member⟩

/-- Sorting asks about each element but the pivot, and then sorts both piles. -/
theorem length_inquiries_concat (front : List α) (pivot : α) :
    (inquiries le (front ++ [pivot])).length =
      front.length + ((inquiries le (divide le pivot front).accepted).length +
        (inquiries le (divide le pivot front).rejected).length) := by
  rw [inquiries_concat, List.length_append, List.length_append, List.length_map]

/-- A sort asks about every element but the last. -/
theorem pred_length_le_length_inquiries (le : α → α → Bool) (items : List α) :
    items.length - 1 ≤ (inquiries le items).length := by
  rcases List.eq_nil_or_concat items with rfl | ⟨front, pivot, rfl⟩
  · exact Nat.zero_le _
  · rw [List.concat_eq_append, length_inquiries_concat, List.length_append, List.length_singleton]
    omega

/-- A sort asks at most once for each two elements. -/
theorem length_inquiries_le (le : α → α → Bool) (items : List α) :
    2 * (inquiries le items).length + items.length ≤ items.length * items.length := by
  induction items using divide_induction le with
  | nil => simp [inquiries_nil]
  | concat front pivot before after =>
      have lengths := length_divide le pivot front
      rw [length_inquiries_concat, List.length_append, List.length_singleton, ← lengths]
      generalize (divide le pivot front).accepted.length = accepted at before lengths ⊢
      generalize (divide le pivot front).rejected.length = rejected at after lengths ⊢
      have squares : accepted * accepted + rejected * rejected ≤
          (accepted + rejected) * (accepted + rejected) := by nlinarith
      nlinarith

end Tandem.Sorting
