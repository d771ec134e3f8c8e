import Tandem.Proofs.Output.Emission
import Tandem.Proofs.Sorting.Neighbours
import Tandem.Proofs.Sorting.Ordered
import Tandem.Sorting.Demo

/-! # What the sorting demonstration writes

The demonstration writes whether its list is in order, whether the sorted list is, and the
sorted values (`Tandem.Sorting.demonstrate_emits`). By the order of the integers the second
line always tells that the list is in order (`Tandem.Sorting.isSorted_sort`).
-/

namespace Tandem.Sorting

open Integer Output

/-- The order of the integers is a total preorder. -/
theorem atMost_totalPreorder : TotalPreorder atMost where
  total left right := by
    simp only [atMost, decide_eq_true_eq]
    exact Int32.le_total left right
  trans := by
    intro first second third lower upper
    simp only [atMost, decide_eq_true_eq] at *
    exact Int32.le_trans lower upper

/-- Once it is sorted, the demonstration finds its list in order. -/
theorem isSorted_sort (items : Array Int32) : isSorted lessThan (sort atMost items).toList := by
  apply @isSorted_of_isSortedAll _ atMost
  · intro earlier later inOrder
    simp only [atMost, decide_eq_true_eq] at inOrder
    simp only [lessThan, decide_eq_false_iff_not, Int32.not_lt]
    exact inOrder
  · rw [isSortedAll_iff_isChain]
    exact (sort_pairwise atMost_totalPreorder items).isChain

/-- The lines of the demonstration on a list. -/
def demonstrationLines (items : Array Int32) : List String :=
  (if isSorted lessThan items.toList then "true" else "false") ::
    (if isSorted lessThan (sort atMost items).toList then "true" else "false") ::
    (sort atMost items).toList.map fun value => Decimal.ofInt value.toInt

/-- Log entries are not written, however many there are. -/
theorem forM_log_emits (entries : List Log.Entry) :
    Emits (entries.forM log) id "" (.ok ()) := by
  induction entries with
  | nil => exact Emits.done id
  | cons entry rest ih => exact (Emits.log entry id).after ih

/-- The demonstration writes its lines. -/
theorem demonstrate_emits (items : Array Int32) :
    Emits (demonstrate items) id (lined (demonstrationLines items)) (.ok ()) := by
  unfold demonstrate demonstrationLines
  rw [← sortWatched_fst atMost Journal.record items {}]
  rcases sortWatched atMost Journal.record items {} with ⟨sorted, journal⟩
  have values : Emits (sorted.toList.forM fun value => writeLine (Decimal.ofInt value.toInt)) id
      (lined (sorted.toList.map fun value => Decimal.ofInt value.toInt)) (.ok ()) := by
    unfold lined
    rw [List.map_map]
    exact Emits.forM fun value => Emits.writeLine _
  refine (forM_log_emits _).after ((Emits.log _ id).after ?_)
  rw [lined_cons, lined_cons]
  exact (Emits.writeLine _).bind ((Emits.writeLine _).bind values)

/-- At the end of output a failure counts as success just if the reader went away; nothing
else changes, and nothing more is written. -/
theorem on_endOfOutput (step : Writing Error Unit) (console : Console) :
    ((endOfOutput step).on console).2.sink = (step.on console).2.sink ∧
      ((endOfOutput step).on console).1 =
        match (step.on console).1 with
        | none => none
        | some (.ok ()) => some (.ok ())
        | some (.error error) =>
          some (if error.kind = .brokenPipe then .ok () else .error error) := by
  unfold endOfOutput
  rw [Writing.on_tryCatch]
  rcases step.on console with ⟨_ | (error | ⟨⟩), later⟩
  · exact ⟨rfl, rfl⟩
  · by_cases closed : error.kind = .brokenPipe
    · simp only [closed, ↓reduceIte]
      exact ⟨rfl, rfl⟩
    · simp only [closed, ↓reduceIte]
      exact ⟨rfl, rfl⟩
  · exact ⟨rfl, rfl⟩

end Tandem.Sorting
