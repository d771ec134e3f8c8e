import Tandem.Integer.Bounded
import Tandem.Sorting.Benchmark

/-! # Working on one list

Steps that sort or check a stretch of a list, or change the list between such
steps. A stretch runs from its first position up to, but not including, its
last.
-/

namespace Tandem.Sorting.Workbench

open Integer

/-- Something to do with the list at hand. -/
inductive Step where
  | sort (first last : Nat)
  | check (first last : Nat)
  | push (value : Int32)
  | set (position : Nat) (value : Int32)
  /-- Append the numbers from `start` up to, but not including, `stop`. -/
  | extend (start stop : Int32)
  | reverse

/-- What a step reports. -/
inductive Answer where
  | tally (tally : Tally)
  /-- Whether all neighbouring pairs but the last, and whether all of them, are in
  order. -/
  | order (leading all : Bool)
  | done

/-- Sort a stretch in place. -/
def sortStretch (items : Array Int32) (first last : Nat) (within : last ≤ items.size) :
    Array Int32 × Tally :=
  if nonempty : first < last then
    let (sorted, tally) :=
      sortWindow atMost Tally.record ⟨first, last - 1, by omega, by omega⟩ items.toVector {}
    (sorted.toArray, tally)
  else (items, {})

/-- The list after a step and the step's report, unless the step names a position
that the list does not have. -/
def Step.perform? (items : Array Int32) : Step → Option (Array Int32 × Answer)
  | .sort first last =>
    if within : first ≤ last ∧ last ≤ items.size then
      let (items, tally) := sortStretch items first last within.2
      some (items, .tally tally)
    else none
  | .check first last =>
    if first ≤ last ∧ last ≤ items.size then
      let stretch := (items.extract first last).toList
      some (items, .order (isSorted lessThan stretch) (isSortedAll atMost stretch))
    else none
  | .push value => some (items.push value, .done)
  | .set position value =>
    if within : position < items.size then some (items.set position value, .done) else none
  | .extend start stop =>
    let numbers := Bounded.range (.wrap .signed32 start.toInt) (.wrap .signed32 stop.toInt)
    some (items ++ (numbers.map fun number => Int32.ofInt number.value).toArray, .done)
  | .reverse => some (items.reverse, .done)

/-- The list and the report after each of several steps. -/
def run? (items : Array Int32) : List Step → Option (List (Array Int32 × Answer))
  | [] => some []
  | step :: rest => do
    let (items, answer) ← step.perform? items
    let later ← run? items rest
    return (items, answer) :: later

end Tandem.Sorting.Workbench
