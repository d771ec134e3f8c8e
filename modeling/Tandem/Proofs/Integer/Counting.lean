import Mathlib.Logic.Function.Iterate
import Tandem.Integer.Bounded

/-! # Counting up without overflow

Counting up to an end is a loop. At each turn it compares the number it has come to with the
end, and either puts that number out and goes to the next one, or ends
(`Tandem.Integer.Counter.turn`). The greatest number of a width has no next number, and a loop
that needs one overflows. None does: a number below the end has a next one, which is at most
the end (`Tandem.Integer.Bounded.next?_of_lt`). So the loop takes one turn for each number of
the range and one more to end (`Tandem.Integer.Counter.afterTurns_of_lt`), also where the end
is the greatest number of its width.
-/

namespace Tandem.Integer

variable {width : Width}

/-- Every width holds a number. -/
theorem Width.minimum_le_maximum (width : Width) : width.minimum ≤ width.maximum := by
  have positive := capacity_pos width.bits
  rw [maximum_eq]
  omega

namespace Bounded

@[ext]
theorem ext {left right : Bounded width} (same : left.value = right.value) : left = right := by
  cases left
  cases right
  cases same
  rfl

/-- The next number, if the width can hold it. -/
def next? (number : Bounded width) : Option (Bounded width) :=
  ofInt? width (number.value + 1)

/-- A width holds an integer as the number with that value. -/
theorem ofInt?_eq_some_iff {value : Int} {number : Bounded width} :
    ofInt? width value = some number ↔ number.value = value := by
  unfold ofInt?
  constructor
  · intro found
    split at found
    · cases found
      rfl
    · cases found
  · rintro rfl
    rw [dif_pos ⟨number.minimum_le, number.le_maximum⟩]

/-- Only the greatest number of a width has no next number. -/
theorem next?_eq_none_iff {number : Bounded width} :
    number.next? = none ↔ number.value = width.maximum := by
  have lower := number.minimum_le
  have upper := number.le_maximum
  rw [next?, ofInt?, dite_eq_right_iff]
  simp only [reduceCtorEq, imp_false]
  omega

/-- Below another number of the same width, the next number fits the width. -/
theorem next?_of_lt {number other : Bounded width} (below : number.value < other.value) :
    number.next? = some number.succ :=
  ofInt?_eq_some_iff.mpr (value_succ_of_lt below)

/-- A range has as many numbers as its ends are apart. -/
theorem length_range (start stop : Bounded width) :
    (range start stop).length = (stop.value - start.value).toNat := by
  fun_induction range start stop with
  | case1 start below ih =>
      rw [List.length_cons, ih, value_succ_of_lt below]
      omega
  | case2 start reached =>
      rw [List.length_nil]
      omega

/-- The numbers of a range go up by one. -/
theorem value_getElem_range (start stop : Bounded width) (k : Nat)
    (within : k < (range start stop).length) :
    (range start stop)[k].value = start.value + k := by
  fun_induction range start stop generalizing k with
  | case1 start below ih =>
      cases k with
      | zero => exact (Int.add_zero start.value).symm
      | succ k =>
          rw [List.getElem_cons_succ, ih, value_succ_of_lt below]
          omega
  | case2 start reached => exact absurd within (Nat.not_lt_zero k)

end Bounded

/-- A loop that counts up. It has put out some numbers, and has come to another one, or has
ended, or needs a number that the width cannot hold. -/
inductive Counter (width : Width) where
  | counting (numbers : List (Bounded width)) (number : Bounded width)
  | ended (numbers : List (Bounded width))
  | overflowed

namespace Counter

open Bounded (range)

variable {start stop number : Bounded width}

/-- One turn of a loop that counts up to an end. A loop that is over stays as it is. -/
def turn (stop : Bounded width) : Counter width → Counter width
  | counting numbers number =>
    if number.value < stop.value then
      number.next?.elim overflowed (counting (numbers ++ [number]))
    else ended numbers
  | ended numbers => ended numbers
  | overflowed => overflowed

/-- The counter after some turns of the loop. -/
def afterTurns (start stop : Bounded width) (turns : Nat) : Counter width :=
  (turn stop)^[turns] (counting [] start)

/-- Below the stop a turn adds a number and goes on to the next. -/
theorem turn_of_lt (numbers : List (Bounded width)) (below : number.value < stop.value) :
    turn stop (counting numbers number) = counting (numbers ++ [number]) number.succ := by
  rw [turn, if_pos below, Bounded.next?_of_lt below, Option.elim_some]

/-- At the stop or above it a turn ends the loop. -/
theorem turn_of_le (numbers : List (Bounded width)) (reached : stop.value ≤ number.value) :
    turn stop (counting numbers number) = ended numbers := by
  rw [turn, if_neg (Int.not_lt.mpr reached)]

theorem afterTurns_succ (start stop : Bounded width) (turns : Nat) :
    afterTurns start stop (turns + 1) = turn stop (afterTurns start stop turns) :=
  Function.iterate_succ_apply' (turn stop) turns _

/-- As long as there are numbers left, each turn puts out the next one of the range. -/
theorem afterTurns_of_le {turns : Nat} (within : turns ≤ (range start stop).length) :
    ∃ number : Bounded width, number.value = start.value + turns ∧
      afterTurns start stop turns = counting ((range start stop).take turns) number := by
  induction turns with
  | zero => exact ⟨start, (Int.add_zero start.value).symm, rfl⟩
  | succ turns ih =>
      obtain ⟨number, counted, reached⟩ := ih (Nat.le_of_succ_le within)
      have length := Bounded.length_range start stop
      -- A number of the range is left, so this one is below the end and its next one fits.
      have below : number.value < stop.value := by omega
      have here : (range start stop)[turns] = number := by
        ext
        rw [Bounded.value_getElem_range, counted]
      refine ⟨number.succ, ?_, ?_⟩
      · rw [Bounded.value_succ_of_lt below, counted, Int.natCast_succ, Int.add_assoc]
      · rw [afterTurns_succ, reached, turn_of_lt _ below, List.take_succ_eq_append_getElem within,
          here]

/-- After one turn for each number of the range and one more, the loop has ended. -/
theorem afterTurns_of_lt {turns : Nat} (beyond : (range start stop).length < turns) :
    afterTurns start stop turns = ended (range start stop) := by
  induction turns with
  | zero => exact absurd beyond (Nat.not_lt_zero _)
  | succ turns ih =>
      rw [afterTurns_succ]
      -- The loop has ended before this turn, or finds in it that no number is left.
      cases Nat.lt_or_eq_of_le (Nat.le_of_lt_succ beyond) with
      | inl earlier =>
          rw [ih earlier]
          rfl
      | inr last =>
          obtain ⟨number, counted, reached⟩ := afterTurns_of_le (Nat.le_of_eq last.symm)
          have length := Bounded.length_range start stop
          rw [reached, turn_of_le _ (by omega), ← last, List.take_length]

end Counter

namespace Bounded

open Counter (afterTurns)

/-- **Counting up is exact at every width.** For as many turns as `stop` is above `start`, none
if it is not, the loop puts out one number of the range a turn and goes on to the exact next one;
with one more turn it ends, and its numbers are the range. So it never needs a number that the
width cannot hold, whatever its two ends are. The range has as many numbers as there are such
turns, and the number at place `k` is `start + k`. -/
theorem range_counts_exactly (start stop : Bounded width) :
    (∀ turns : Nat, turns ≤ max 0 (stop.value - start.value) →
      ∃ number : Bounded width, number.value = start.value + turns ∧
        afterTurns start stop turns = .counting ((range start stop).take turns) number) ∧
      (∀ turns : Nat, max 0 (stop.value - start.value) < turns →
        afterTurns start stop turns = .ended (range start stop)) ∧
      (range start stop).length = max 0 (stop.value - start.value) ∧
      ∀ (k : Nat) (_ : k < (range start stop).length),
        (range start stop)[k].value = start.value + k := by
  have length : ((range start stop).length : Int) = max 0 (stop.value - start.value) := by
    rw [length_range, Int.toNat_eq_max, Int.max_comm]
  refine ⟨?_, ?_, length, value_getElem_range start stop⟩
  · intro turns within
    rw [← length] at within
    exact Counter.afterTurns_of_le (Int.ofNat_le.mp within)
  · intro turns beyond
    rw [← length] at beyond
    exact Counter.afterTurns_of_lt (Int.ofNat_lt.mp beyond)

/-- The least number of a width. -/
def least (width : Width) : Bounded width :=
  ⟨width.minimum, Int.le_refl _, width.minimum_le_maximum⟩

/-- The greatest number of a width. -/
def greatest (width : Width) : Bounded width :=
  ⟨width.maximum, width.minimum_le_maximum, Int.le_refl _⟩

/-- From the least number of 32 signed bits up to the greatest one, which has no next number, the
loop ends, with more numbers than a number of that width can tell. -/
theorem range_counts_exactly_whole_width :
    (greatest .signed32).next? = none ∧
      afterTurns (least .signed32) (greatest .signed32) (capacity 32) =
        .ended (range (least .signed32) (greatest .signed32)) ∧
      (range (least .signed32) (greatest .signed32)).length = (capacity 32 : Int) - 1 ∧
      Width.signed32.maximum < (capacity 32 : Int) - 1 := by
  obtain ⟨-, ends, length, -⟩ := range_counts_exactly (least .signed32) (greatest .signed32)
  have whole : max 0 ((greatest .signed32).value - (least .signed32).value) =
      (capacity 32 : Int) - 1 := by
    decide
  refine ⟨next?_eq_none_iff.mpr rfl, ends (capacity 32) ?_, length.trans whole, by decide⟩
  rw [whole]
  omega

end Bounded

end Tandem.Integer
