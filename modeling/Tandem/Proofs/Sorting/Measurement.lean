import Tandem.Proofs.Sorting.Demonstration
import Tandem.Proofs.Sorting.Lopsided
import Tandem.Proofs.Sorting.Metering

/-! # What measurements report

Counting up gives an ordered list and counting down a strictly decreasing one, as long as
the numbers fit (`Tandem.Sorting.ascending_pairwise`). So both divide on one side only, and
their measurements are known in advance. A random input is made of the words that it takes,
and of no others (`Tandem.Sorting.InputKind.input_eq_iff`).
-/

namespace Tandem.Sorting

namespace InputKind

/-- A size counts by its low 32 bits, unless they stand for a negative number. -/
theorem countable_eq (size : Nat) :
    countable size = if size % 2 ^ 32 < 2 ^ 31 then size % 2 ^ 32 else 0 := by
  have width : (Int32.size : Int) = 2 ^ 32 := rfl
  unfold countable
  rw [Int32.toInt_ofNat', Int.bmod_def, width]
  split
  · rw [if_pos (by omega)]
    omega
  · rw [if_neg (by omega)]
    omega

/-- A size within the signed range counts as it is. -/
theorem countable_of_lt {size : Nat} (fits : size < 2 ^ 31) : countable size = size := by
  rw [countable_eq, Nat.mod_eq_of_lt (by omega), if_pos fits]

/-- No input counts up beyond the signed range. -/
theorem countable_lt (size : Nat) : countable size < 2 ^ 31 := by
  rw [countable_eq]
  split
  · assumption
  · decide

/-- An input is made of the words that it takes, and of no others. -/
theorem input_eq_iff (kind : InputKind) (size : Nat) (words others : Nat → UInt32) :
    kind.input size words = kind.input size others ↔
      ∀ index < kind.wordsTaken size, words index = others index := by
  cases kind with
  | sorted => exact ⟨fun _ _ none => absurd none (Nat.not_lt_zero _), fun _ => rfl⟩
  | reversed => exact ⟨fun _ _ none => absurd none (Nat.not_lt_zero _), fun _ => rfl⟩
  | random =>
      have injective (left right : UInt32) : left.toInt32 = right.toInt32 ↔ left = right := by
        constructor
        · intro same
          rw [← left.toUInt32_toInt32, ← right.toUInt32_toInt32, same]
        · exact congrArg UInt32.toInt32
      simp only [input, wordsTaken, Array.map_inj_left, Array.mem_range, injective]

end InputKind

/-- Counting up within the signed range goes up at each step. -/
theorem ascending_pairwise {count : Nat} (fits : count ≤ 2 ^ 31) :
    (ascending count).toList.Pairwise (· < ·) := by
  unfold ascending
  rw [Array.toList_map, Array.toList_range, List.pairwise_map]
  refine List.pairwise_lt_range.imp_of_mem ?_
  intro left right leftMember rightMember below
  have leftFits := List.mem_range.mp leftMember
  have rightFits := List.mem_range.mp rightMember
  rw [Int32.lt_iff_toInt_lt, Int32.toInt_ofNat_of_lt (by omega), Int32.toInt_ofNat_of_lt (by omega)]
  exact Int.ofNat_lt.mpr below

theorem atMost_of_lt {left right : Int32} (below : left < right) : atMost left right :=
  decide_eq_true (Int32.le_of_lt below)

theorem not_atMost_of_lt {left right : Int32} (below : left < right) : ¬atMost right left :=
  fun inOrder => Int32.not_le.mpr below (of_decide_eq_true inOrder)

theorem size_ascending (count : Nat) : (ascending count).size = count := by
  rw [ascending, Array.size_map, Array.size_range]

/-- An ascending input is lopsided without a turn. -/
theorem lopsided_ascending {count : Nat} (fits : count ≤ 2 ^ 31) :
    Lopsided atMost 0 (ascending count).toList :=
  .of_pairwise ((ascending_pairwise fits).imp atMost_of_lt)

/-- A descending input is lopsided with a turn at every other element. -/
theorem lopsided_descending {count : Nat} (fits : count ≤ 2 ^ 31) :
    Lopsided atMost (count / 2) (ascending count).reverse.toList := by
  have decreasing : (ascending count).reverse.toList.Pairwise fun left right =>
      ¬atMost left right ∧ atMost right left := by
    rw [Array.toList_reverse, List.pairwise_reverse]
    refine (ascending_pairwise fits).imp ?_
    intro left right below
    exact ⟨not_atMost_of_lt below, atMost_of_lt below⟩
  have lopsided := Lopsided.of_decreasing decreasing
  rwa [Array.length_toList, Array.size_reverse, size_ascending] at lopsided

/-- The work on an ascending input. -/
theorem measure_sorted_effort (size : Nat) (words : Nat → UInt32) :
    (measure .sorted size words).effort =
      { tally := { partitions := maxPartitions (InputKind.countable size), swaps := 0 }
        comparisons := InputKind.countable size * (InputKind.countable size - 1) / 2 } := by
  have fits := Nat.le_of_lt (InputKind.countable_lt size)
  rw [measure_eq]
  have effort := (lopsided_ascending fits).sortMeasured_eq
  rwa [size_ascending] at effort

/-- The work on a descending input. -/
theorem measure_reversed_effort (size : Nat) (words : Nat → UInt32) :
    (measure .reversed size words).effort =
      { tally :=
          { partitions := maxPartitions (InputKind.countable size)
            swaps := InputKind.countable size / 2 }
        comparisons := InputKind.countable size * (InputKind.countable size - 1) / 2 } := by
  have fits := Nat.le_of_lt (InputKind.countable_lt size)
  rw [measure_eq]
  have effort := (lopsided_descending fits).sortMeasured_eq
  rwa [Array.size_reverse, size_ascending] at effort

/-- Every measurement finds its result in order. -/
theorem measure_verified (kind : InputKind) (size : Nat) (words : Nat → UInt32) :
    (measure kind size words).verified := by
  rw [measure_eq]
  exact isSortedAll_sort atMost_totalPreorder _

/-- A word stands for the signed number with the same remainder. -/
theorem toInt_toInt32 (word : UInt32) : word.toInt32.toInt = (word.toNat : Int).bmod (2 ^ 32) :=
  BitVec.toInt_eq_toNat_bmod word.toBitVec

/-- A random input holds the signed numbers of its words in turn. -/
theorem map_toInt_random (size : Nat) (words : Nat → UInt32) :
    (InputKind.random.input size words).toList.map Int32.toInt =
      (List.range size).map fun index => ((words index).toNat : Int).bmod (2 ^ 32) := by
  simp only [InputKind.input, Array.toList_map, Array.toList_range, List.map_map,
    Function.comp_def, toInt_toInt32]

/-- **What a measurement reports.** Every measurement finds its result in order. With `count` the
low 32 bits of the size as a signed number, or zero if that is negative, counting up to it takes
no swap and counting down from it takes one for each two elements; both take as many partitions
as they may, a comparison for each two elements, and no word. A random input takes as many words
as its size says, and the work is that of sorting them as signed numbers. -/
theorem measurements_foretold (kind : InputKind) (size : Nat) (words : Nat → UInt32) :
    let count := InputKind.countable size
    (count = if size % 2 ^ 32 < 2 ^ 31 then size % 2 ^ 32 else 0) ∧
      (size < 2 ^ 31 → count = size) ∧
      (measure kind size words).verified ∧
      (measure .sorted size words).effort =
        { tally := { partitions := maxPartitions count, swaps := 0 }
          comparisons := count * (count - 1) / 2 } ∧
      (measure .reversed size words).effort =
        { tally := { partitions := maxPartitions count, swaps := count / 2 }
          comparisons := count * (count - 1) / 2 } ∧
      (∃ values : Array Int32,
        (values.toList.map Int32.toInt =
          (List.range size).map fun index => ((words index).toNat : Int).bmod (2 ^ 32)) ∧
        (measure .random size words).effort = (sortMeasured atMost values).2) ∧
      (InputKind.sorted.wordsTaken size = 0 ∧ InputKind.reversed.wordsTaken size = 0 ∧
        InputKind.random.wordsTaken size = size) ∧
      ∀ others : Nat → UInt32,
        kind.input size words = kind.input size others ↔
          ∀ index < kind.wordsTaken size, words index = others index := by
  intro count
  refine ⟨InputKind.countable_eq size, InputKind.countable_of_lt, measure_verified kind size words,
    measure_sorted_effort size words, measure_reversed_effort size words,
    ⟨InputKind.random.input size words, map_toInt_random size words, ?_⟩, ⟨rfl, rfl, rfl⟩,
    kind.input_eq_iff size words⟩
  rw [measure_eq]

/-- A size of which only the low bits count, one that counts in full, and a random input that is
not changed by the words behind those it takes. -/
theorem measurements_foretold_low_bits :
    (measure .reversed (2 ^ 32 + 5) fun _ => 0).effort =
        { tally := { partitions := 4, swaps := 2 }, comparisons := 10 } ∧
      InputKind.countable 7 = 7 ∧
      InputKind.random.input 2 (fun index => if index < 2 then 4294967295 else 1) =
        InputKind.random.input 2 fun _ => 4294967295 := by
  obtain ⟨low, -, -, -, reversed, -⟩ := measurements_foretold .reversed (2 ^ 32 + 5) fun _ => 0
  obtain ⟨-, whole, -⟩ := measurements_foretold .sorted 7 fun _ => 0
  obtain ⟨-, -, -, -, -, -, -, taken⟩ := measurements_foretold .random 2 fun index =>
    if index < 2 then 4294967295 else 1
  have five : InputKind.countable (2 ^ 32 + 5) = 5 := low.trans (by decide)
  rw [five] at reversed
  refine ⟨reversed, whole (by decide), (taken fun _ => 4294967295).mpr ?_⟩
  intro index within
  exact if_pos within

end Tandem.Sorting
