import Tandem.Output.Console
import Tandem.Sorting.Benchmark

/-! # The sorting demonstration

Tells whether a list is in order, sorts it, tells it again, and writes the
sorted values, each on a line.
-/

namespace Tandem.Sorting

open Integer Output

/-- A tally with the log entries that the partitions leave. -/
structure Journal where
  tally : Tally := {}
  entries : Array Log.Entry := #[]

/-- The log entry of a partition. -/
def partitionEntry (low high pivot : Nat) : Log.Entry where
  level := .trace
  source := .quicksort
  message := "partitioned"
  fields := [("low", Decimal.ofNat low), ("high", Decimal.ofNat high),
    ("pivot_index", Decimal.ofNat pivot)]

/-- Take one event into the journal. -/
def Journal.record {α : Type} (journal : Journal) (event : Event α) : Journal where
  tally := journal.tally.record event
  entries :=
    match event with
    | .partitioned low high pivot => journal.entries.push (partitionEntry low high pivot)
    | .compared .. | .swapped .. => journal.entries

/-- The log entry at the end of a sort. -/
def Tally.entry (tally : Tally) (size : Nat) : Log.Entry where
  level := .debug
  source := .quicksort
  message := "lomuto quicksort finished"
  fields := [("len", Decimal.ofNat size), ("partitions", Decimal.ofNat tally.partitions),
    ("swaps", Decimal.ofNat tally.swaps)]

/-- A truth value as text. -/
def verdict (holds : Bool) : String :=
  if holds then "true" else "false"

/-- Run the demonstration on a list. -/
def demonstrate (items : Array Int32) : Writing Error Unit := do
  let (sorted, journal) := sortWatched atMost Journal.record items {}
  journal.entries.toList.forM log
  log (journal.tally.entry items.size)
  writeLine (verdict (isSorted lessThan items.toList))
  writeLine (verdict (isSorted lessThan sorted.toList))
  sorted.toList.forM fun value => writeLine (Decimal.ofInt value.toInt)

/-- A reader that went away has seen enough: that failure counts as success. -/
def endOfOutput (step : Writing Error Unit) : Writing Error Unit :=
  tryCatch step fun error =>
    if error.kind = .brokenPipe then
      log { level := .debug, source := .sorting, message := "stdout closed early" }
    else throw error

end Tandem.Sorting
