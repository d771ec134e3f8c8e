import Tandem.Sorting.Order
import Tandem.Sorting.Quicksort
import Tandem.Sorting.Sortedness
import Tandem.Integer.Decimal

/-! # Lists to sort, and measuring the sort

There is the built-in list of the sorting demonstration, and lists that show what the
sort does at its extremes.

A measurement sorts one input of a given kind and size and reports how much work
it was. Its elements count their comparisons themselves, on a counter that they
share. Random inputs are drawn from a stream of 32-bit words, so a measurement is
determined by its kind, its size and the stream. The time it took is written in the
largest unit it fills, with as many places as it needs.
-/

namespace Tandem.Sorting

open Integer

universe u

/-- One hundred integers in no particular order; some of them occur twice. -/
def sample : Array Int32 :=
  #[413, 1, 322, 175, 12, 81, 433, 365, 116, 342,
    324, 435, 204, 4, 8, 199, 256, 266, 316, 57,
    454, 191, 10, 97, 80, 28, 339, 382, 444, 236,
    450, 110, 105, 442, 489, 492, 167, 280, 295, 78,
    355, 436, 269, 156, 458, 278, 331, 79, 301, 132,
    389, 353, 260, 240, 69, 315, 246, 314, 337, 329,
    194, 114, 292, 290, 72, 33, 177, 434, 244, 369,
    328, 405, 268, 117, 410, 397, 367, 363, 246, 424,
    8, 137, 263, 447, 321, 159, 488, 257, 193, 303,
    143, 202, 322, 282, 250, 55, 80, 240, 290, 34]

/-- The numbers from zero up to, but not including, `count`. -/
def ascending (count : Nat) : Array Int32 :=
  (Array.range count).map Int32.ofNat

/-- Lists worth sorting, by name. -/
def specimens : List (String × Array Int32) :=
  [("random", sample),
   ("empty", #[]),
   ("single", #[7]),
   ("sorted", ascending 100),
   ("reversed", (ascending 100).reverse),
   ("repeated", Array.replicate 50 5),
   ("negatives", #[0, -3, 2147483647, 12, -2147483648, -3, 8, -1])]

section

variable {α : Type u}

/-- An element that names a counter. The counter goes up each time the element is
asked whether it may stand before another one. -/
structure Counted (α : Type u) where
  item : α
  counter : Nat

/-- Have an element count on a counter. -/
def Counted.on (counter : Nat) (item : α) : Counted α :=
  { item, counter }

/-- Ask about counted elements without looking at their counters. -/
@[inline]
def Counted.le (le : α → α → Bool) (left right : Counted α) : Bool :=
  le left.item right.item

/-- A tally, and counters by their numbers. -/
structure Meter where
  tally : Tally := {}
  counters : Array Nat

/-- Take one event among counted elements into a meter. -/
@[inline]
def Meter.record (meter : Meter) : Event (Counted α) → Meter
  | .compared _ _ left _ =>
    { meter with counters := meter.counters.modify left.counter (· + 1) }
  | event => { meter with tally := meter.tally.record event }

/-- Sort counted elements. -/
@[inline]
def sortCounted (le : α → α → Bool) (items : Array (Counted α)) (counters : Array Nat) :
    Array (Counted α) × Meter :=
  sortWatched (Counted.le le) Meter.record items { counters }

end

/-- The shape of an input. -/
inductive InputKind where
  /-- Zero, one, two and so on. -/
  | sorted
  /-- The same numbers from the last down to zero. -/
  | reversed
  /-- Any numbers. -/
  | random

namespace InputKind

/-- The kinds in the order they are measured. -/
def all : List InputKind := [sorted, reversed, random]

/-- The name of a kind. -/
def label : InputKind → String
  | sorted => "Sorted"
  | reversed => "Reversed"
  | random => "Random"

/-- How many numbers from zero an input of a given size counts up: the low 32 bits
of the size as a signed number, and none if that is negative. -/
def countable (size : Nat) : Nat :=
  (Int32.ofNat size).toInt.toNat

/-- The input of a kind and size. A random one takes a word for each element. -/
def input (kind : InputKind) (size : Nat) (words : Nat → UInt32) : Array Int32 :=
  match kind with
  | sorted => ascending (countable size)
  | reversed => (ascending (countable size)).reverse
  | random => (Array.range size).map fun index => (words index).toInt32

/-- How many words an input takes. -/
def wordsTaken (kind : InputKind) (size : Nat) : Nat :=
  match kind with
  | sorted | reversed => 0
  | random => size

end InputKind

/-- The work of sorting one input. -/
structure Measurement where
  kind : InputKind
  size : Nat
  effort : Effort
  /-- Whether every neighbouring pair of the result is in order. -/
  verified : Bool

/-- Sort an input whose elements share one counter, and report the work. -/
def measure (kind : InputKind) (size : Nat) (words : Nat → UInt32) : Measurement :=
  let counted := (kind.input size words).map (Counted.on 0)
  let (sorted, meter) := sortCounted atMost counted #[0]
  { kind
    size
    effort := { tally := meter.tally, comparisons := meter.counters.getD 0 0 }
    verified := isSortedAll atMost (sorted.map Counted.item).toList }

/-- The places of a fraction of `unit`, a power of ten, without trailing zeros. -/
def places (fraction unit : Nat) : List Char :=
  let written := (Decimal.digits (unit + fraction)).tail
  (written.reverse.dropWhile (· == '0')).reverse

/-- A number of nanoseconds in units of `unit` nanoseconds. -/
def inUnits (nanoseconds unit : Nat) : String :=
  let fraction := places (nanoseconds % unit) unit
  Decimal.ofNat (nanoseconds / unit) ++
    if fraction.isEmpty then "" else "." ++ String.ofList fraction

/-- A number of nanoseconds as text. -/
def elapsedText (nanoseconds : Nat) : String :=
  if 1000000000 ≤ nanoseconds then inUnits nanoseconds 1000000000 ++ "s"
  else if 1000000 ≤ nanoseconds then inUnits nanoseconds 1000000 ++ "ms"
  else if 1000 ≤ nanoseconds then inUnits nanoseconds 1000 ++ "µs"
  else Decimal.ofNat nanoseconds ++ "ns"

/-- The sizes that are measured. -/
def measuredSizes : List Nat := [0, 1, 100, 1000, 10000]

/-- The sizes that are measured, up to a greatest one. -/
def sizesUpTo (greatest : Nat) : List Nat :=
  measuredSizes.filter (· ≤ greatest)

namespace Measurement

/-- The line above the measurements of one size. -/
def title (size : Nat) : String :=
  "List Size ->  " ++ Decimal.ofNat size

/-- The headings of a table of measurements. -/
def headings : List String :=
  ["Input", "Comparisons Made", "Effective Swaps", "Partitions", "Time Taken", "Verified"]

/-- A measurement as a row of a table, with the time it took as text. -/
def cells (measurement : Measurement) (elapsed : String) : List String :=
  [measurement.kind.label,
   Decimal.ofNat measurement.effort.comparisons,
   Decimal.ofNat measurement.effort.tally.swaps,
   Decimal.ofNat measurement.effort.tally.partitions,
   elapsed,
   if measurement.verified then "yes" else "NO"]

end Measurement

end Tandem.Sorting
