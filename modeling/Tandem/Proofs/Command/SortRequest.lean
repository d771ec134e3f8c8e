import Tandem.Proofs.Command.Course
import Tandem.Proofs.Command.NumberList
import Tandem.Proofs.Command.Reading

/-! # Asking for a list to be sorted

A command line that asks for a list to be sorted gives it as a text
(`Tandem.Command.SortRequest`). It is read as that list if the text is one, and otherwise
refused for its value (`Tandem.Command.SortRequest.read_eq`). The answer tells whether the
list is in order and gives the same numbers in order
(`Tandem.Command.answers_demonstrationLines`).
-/

namespace Tandem.Command

open Integer Output Sorting

/-- The words that ask for a list to be sorted, with or without a bar that shows the
progress. -/
inductive SortRequest (text : String) : (progress : Bool) → (words : List String) → Prop where
  | plain : SortRequest text false ["sort", "run", "--input=" ++ text]
  | progressBefore : SortRequest text true ["sort", "run", "--progress", "--input=" ++ text]
  | progressBehind : SortRequest text true ["sort", "run", "--input=" ++ text, "--progress"]

/-- The lines that answer such a request: whether the numbers are in order, that they are after
sorting, and numerals of the same numbers in order, as numbers are shown in general. -/
inductive Answers (values : List Int32) : List String → Prop where
  | intro {sorted : List Int32} {numerals : List String} (perm : sorted.Perm values)
      (ordered : sorted.Pairwise (· ≤ ·))
      (written : List.Forall₂ (fun numeral value => Numeral numeral.toList value.toInt)
        numerals sorted)
      (shown : numerals = sorted.map fun value => toString value.toInt) :
      Answers values
        ((if isSorted (fun left right => left < right) values then "true" else "false") ::
          "true" :: numerals)

/-- The options known where a list is sorted. -/
abbrev sortSwitches : List (Switch (Given SortOptions)) :=
  helpSwitch :: verboseSwitch :: [inputSwitch, progressSwitch].map Switch.lift

/-- An input option carries its list behind the equals sign. -/
theorem Word.ofText_input (text : String) :
    ofText ("--input=" ++ text).toList = .long "input".toList (some text.toList) := by
  rw [String.toList_append]
  rfl

/-- The option for the bar has no value. -/
theorem Word.ofText_progress : ofText "--progress".toList = .long "progress".toList none :=
  rfl

/-- An input option adds its numbers, or is refused for its value. -/
theorem readWords_input (text : String) (words : List String) (given : Given SortOptions) :
    Reading.readWords sortSwitches (("--input=" ++ text) :: words) { given } =
      match readList? text.toList with
      | some values => Reading.readWords sortSwitches words { given := { given with options :=
          { given.options with input := some (given.options.input.getD [] ++ values) } } }
      | none => .error .invalidValue := by
  have accepted := @Reading.accept_lift_value _ inputSwitch _ _ rfl text.toList given
  rw [Reading.readWords_cons_long _ (Word.ofText_input text)]
  change (Reading.accept { given } inputSwitch.lift.effect (some text.toList) >>= _) = _
  rw [accepted]
  cases readList? text.toList with
  | none => rfl
  | some values => rfl

/-- The bar may be asked for once. -/
theorem readWords_progress (words : List String) {given : Given SortOptions}
    (first : given.options.progress = false) :
    Reading.readWords sortSwitches ("--progress" :: words) { given } =
      Reading.readWords sortSwitches words
        { given := { given with options := { given.options with progress := true } } } := by
  have accepted := @Reading.accept_lift_flag _ progressSwitch _ rfl given
  rw [Reading.readWords_cons_long _ Word.ofText_progress]
  change (Reading.accept { given } progressSwitch.lift.effect none >>= _) = _
  rw [accepted, first]
  rfl

/-- The first two words choose how the others are read. -/
theorem read_sort_run (words : List String) :
    Invocation.read ("sort" :: "run" :: words) = readSortList words := by
  unfold Invocation.read
  rw [readSubcommand_cons [] _ rfl (by decide) rfl, readSubcommand_cons _ [] rfl (by decide) rfl]

/-- A request is read as its list, or refused for its value. -/
theorem SortRequest.read_eq {text : String} {progress : Bool} {words : List String}
    (request : SortRequest text progress words) :
    Invocation.read words =
      match readList? text.toList with
      | some values => .ok ⟨0, .demonstrate (.sortList (some values) progress)⟩
      | none => .error .invalidValue := by
  cases request with
  | plain =>
      simp only [read_sort_run, readSortList, readOptions, readWords_input]
      cases readList? text.toList with
      | none => rfl
      | some values => rfl
  | progressBefore =>
      simp only [read_sort_run, readSortList, readOptions, readWords_progress, readWords_input]
      cases readList? text.toList with
      | none => rfl
      | some values => rfl
  | progressBehind =>
      simp only [read_sort_run, readSortList, readOptions, readWords_input]
      cases readList? text.toList with
      | none => rfl
      | some values =>
          simp only [readWords_progress]
          rfl

/-- The demonstration answers. -/
theorem answers_demonstrationLines (values : List Int32) :
    Answers values (demonstrationLines values.toArray) := by
  unfold demonstrationLines
  rw [isSorted_sort]
  refine .intro (sort_perm atMost values.toArray) ?_ ?_ ?_
  · refine (sort_pairwise atMost_totalPreorder values.toArray).imp ?_
    intro left right inOrder
    exact of_decide_eq_true inOrder
  · rw [List.forall₂_map_left_iff]
    exact List.forall₂_same.mpr fun value _ => Decimal.numeral_ofInt value.toInt
  · simp only [Decimal.ofInt_eq_toString]

/-- **A list on the command line.** It is read just if all its pieces are numerals in range.
Then the program ends with status zero on every output that takes the answer, and the answer is
all it writes there. That goes for every setting of the log that can be taken apart; any other
one ends the program before it does anything. Any other list is refused for its value with
status two, and nothing is written. Every list of numbers that is not empty can be given in
decimal. -/
theorem sort_request_answered {text : String} {progress : Bool} {words : List String}
    (request : SortRequest text progress words) :
    ((∃ invocation, Invocation.read words = .ok invocation) ↔ IsNumberList text.toList) ∧
      (IsNumberList text.toList → ∃ values lines, Lists text.toList values ∧ Answers values lines ∧
        Invocation.read words = .ok ⟨0, .demonstrate (.sortList (some values) progress)⟩ ∧
        ∀ (surroundings : Surroundings) (sink : Sink),
          (surroundings.LogReadable →
            sink.allowance.Admits (lined lines).toUTF8.data.toList →
            ∃ outcome, Course.ofWords surroundings words sink = .ended outcome ∧
              outcome.exitCode = 0 ∧
              outcome.sink.taken.toList =
                sink.taken.toList ++ (lined lines).toUTF8.data.toList) ∧
          (¬surroundings.LogReadable →
            Course.ofWords surroundings words sink = .ended (.aborted sink))) ∧
      (¬IsNumberList text.toList → Invocation.read words = .error .invalidValue ∧
        ∀ (surroundings : Surroundings) (sink : Sink),
          Course.ofWords surroundings words sink =
            .ended ⟨2, sink, [Stop.invalidValue.message]⟩) ∧
      ∀ values, values ≠ [] → text = decimalList values →
        Invocation.read words = .ok ⟨0, .demonstrate (.sortList (some values) progress)⟩ := by
  have accepts {values : List Int32} (lists : Lists text.toList values) :
      Invocation.read words = .ok ⟨0, .demonstrate (.sortList (some values) progress)⟩ := by
    rw [request.read_eq, readList?_eq_some_iff.mpr lists]
  have refuses (invalid : ¬IsNumberList text.toList) :
      Invocation.read words = .error .invalidValue := by
    rw [request.read_eq]
    cases read : readList? text.toList with
    | none => rfl
    | some values =>
        have lists := readList?_eq_some_iff.mp read
        exact absurd (exists_lists_iff.mp ⟨values, lists⟩) invalid
  refine ⟨⟨?_, ?_⟩, ?_, ?_, ?_⟩
  · rintro ⟨invocation, read⟩
    by_contra invalid
    rw [refuses invalid] at read
    cases read
  · intro valid
    obtain ⟨values, lists⟩ := exists_lists_iff.mpr valid
    exact ⟨_, accepts lists⟩
  · intro valid
    obtain ⟨values, lists⟩ := exists_lists_iff.mpr valid
    refine ⟨values, demonstrationLines values.toArray, lists, answers_demonstrationLines values,
      accepts lists, fun surroundings sink => ⟨?_, ?_⟩⟩
    · exact Course.ofWords_sortList (accepts lists) surroundings sink
    · exact fun unreadable => Course.ofWords_of_not_logReadable (accepts lists) unreadable sink
  · intro invalid
    refine ⟨refuses invalid, fun surroundings sink => ?_⟩
    exact Course.ofWords_of_error (refuses invalid) (by decide) surroundings sink
  · rintro values nonempty rfl
    exact accepts (lists_decimalList nonempty)

/-- The bounds of the range and a number with a plus sign and leading zeros, with the bar asked
for behind them; and a list with an empty piece. -/
theorem sort_request_answered_bounds :
    (∃ outcome,
      Course.ofWords {}
          ["sort", "run", "--input=2147483647,-2147483648,+007", "--progress"] {} =
        .ended outcome ∧
      outcome.exitCode = 0 ∧
      outcome.sink.text? = some "false\ntrue\n-2147483648\n7\n2147483647\n") ∧
      ∃ outcome, Course.ofWords {} ["sort", "run", "--input=1,,2"] {} = .ended outcome ∧
        outcome.exitCode = 2 ∧ outcome.sink.taken = #[] := by
  have bounds : readList? "2147483647,-2147483648,+007".toList =
      some [2147483647, -2147483648, 7] := by decide +kernel
  have gap : readList? "1,,2".toList = none := by decide +kernel
  obtain ⟨-, answered, -, -⟩ := sort_request_answered
    (.progressBehind : SortRequest "2147483647,-2147483648,+007" true _)
  obtain ⟨-, -, refused, -⟩ := sort_request_answered (.plain : SortRequest "1,,2" false _)
  refine ⟨?_, ⟨_, (refused ?_).2 {} {}, rfl, rfl⟩⟩
  · obtain ⟨values, lines, lists, answers, -, ran⟩ :=
      answered (exists_lists_iff.mp ⟨_, readList?_eq_some_iff.mp bounds⟩)
    cases bounds.symm.trans (readList?_eq_some_iff.mpr lists)
    obtain ⟨outcome, ended, status, taken⟩ := (ran {} {}).1
      (Surroundings.logReadable_of_none rfl) (Allowance.admits_of_unlimited _)
    refine ⟨outcome, ended, status, ?_⟩
    obtain ⟨perm, ordered, -, rfl⟩ := answers
    -- There is only one way to put numbers in order.
    have inOrder : ([-2147483648, 7, 2147483647] : List Int32).Pairwise (· ≤ ·) := by decide
    obtain rfl := List.Perm.eq_of_pairwise (fun _ _ _ _ => Int32.le_antisymm) ordered inOrder
      (perm.trans (by decide))
    exact Sink.text?_eq_some (taken.trans (by decide +kernel))
  · intro valid
    obtain ⟨values, lists⟩ := exists_lists_iff.mpr valid
    cases gap.symm.trans (readList?_eq_some_iff.mpr lists)

end Tandem.Command
