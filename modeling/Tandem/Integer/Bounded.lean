/-! # Integers of a fixed width

A width says how many bits a number has and whether one of them is a sign. The
numbers of a width wrap around: the one after the greatest is the least.
-/

namespace Tandem.Integer

/-- A signed or unsigned number of bits. -/
structure Width where
  signed : Bool
  bits : Nat
  bits_pos : 0 < bits := by decide

/-- How many numbers so many bits can tell apart. -/
def capacity (bits : Nat) : Nat := Nat.pow 2 bits

theorem capacity_pos (bits : Nat) : 0 < capacity bits :=
  Nat.pow_pos (by decide)

theorem capacity_succ (bits : Nat) : capacity (bits + 1) = 2 * capacity bits :=
  Nat.pow_succ'

/-- The least number of a width. -/
def Width.minimum (width : Width) : Int :=
  if width.signed then -capacity (width.bits - 1) else 0

/-- The greatest number of a width. -/
def Width.maximum (width : Width) : Int :=
  if width.signed then capacity (width.bits - 1) - 1 else capacity width.bits - 1

/-- A width holds as many numbers as its bits can tell apart. -/
theorem Width.maximum_eq (width : Width) :
    width.maximum = width.minimum + capacity width.bits - 1 := by
  have halves : capacity width.bits = 2 * capacity (width.bits - 1) := by
    rw [← capacity_succ, Nat.sub_add_cancel width.bits_pos]
  unfold maximum minimum
  split
  · omega
  · omega

/-- Signed numbers of 32 bits. -/
def Width.signed32 : Width := { signed := true, bits := 32 }

/-- An integer that a width can hold. -/
structure Bounded (width : Width) where
  value : Int
  minimum_le : width.minimum ≤ value
  le_maximum : value ≤ width.maximum

namespace Bounded

variable {width : Width}

/-- The number itself, if the width can hold it. -/
def ofInt? (width : Width) (value : Int) : Option (Bounded width) :=
  if fits : width.minimum ≤ value ∧ value ≤ width.maximum then
    some ⟨value, fits.1, fits.2⟩
  else none

/-- The number that an integer wraps around to. -/
def wrap (width : Width) (value : Int) : Bounded width where
  value := width.minimum + (value - width.minimum) % capacity width.bits
  minimum_le := by
    have positive := capacity_pos width.bits
    have remainder := Int.emod_nonneg (value - width.minimum) (b := capacity width.bits) (by omega)
    omega
  le_maximum := by
    have positive := capacity_pos width.bits
    have remainder := Int.emod_lt_of_pos (value - width.minimum) (b := capacity width.bits)
      (by omega)
    rw [width.maximum_eq]
    omega

/-- The next number. -/
def succ (number : Bounded width) : Bounded width :=
  wrap width (number.value + 1)

/-- Below another number of the same width, the next number is one more. -/
theorem value_succ_of_lt {number other : Bounded width} (below : number.value < other.value) :
    number.succ.value = number.value + 1 := by
  have lower := number.minimum_le
  have upper := other.le_maximum
  rw [width.maximum_eq] at upper
  simp only [succ, wrap]
  rw [Int.emod_eq_of_lt (by omega) (by omega)]
  omega

/-- The numbers from `start` up to, but not including, `stop`. -/
def range (start stop : Bounded width) : List (Bounded width) :=
  if _ : start.value < stop.value then start :: range start.succ stop else []
termination_by (stop.value - start.value).toNat
decreasing_by
  rw [value_succ_of_lt ‹_›]
  omega

end Bounded

end Tandem.Integer
