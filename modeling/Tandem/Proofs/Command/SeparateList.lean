import Tandem.Proofs.Command.SortRequest

/-! # A list as a word of its own

The list to sort may be given in the word of its option or in the word behind it. The word
behind an option is its value if it is a plain word or a negative number, and an option
otherwise. A list that begins with a negative number is itself a negative number only if
nothing follows (`Tandem.Command.isNumber_digits`, `Tandem.Command.not_isNumber_digits_comma`).
So a longer list that begins with one is refused as a word of its own, and every other list is
read alike in both places (`Tandem.Command.separate_list_read`).
-/

namespace Tandem.Command

open Integer Output Sorting

/-- The digits at the beginning of a text end where no digit follows. -/
theorem span_digits {digits : List Char} (valid : IsDigits digits) {rest : List Char}
    (ends : rest.takeWhile Char.isDigit = []) :
    (digits ++ rest).span Char.isDigit = (digits, rest) := by
  have kept : rest.dropWhile Char.isDigit = rest := by
    have split := List.takeWhile_append_dropWhile (p := Char.isDigit) (l := rest)
    rwa [ends, List.nil_append] at split
  rw [List.span_eq_takeWhile_dropWhile, List.takeWhile_append_of_pos valid.isDigit,
    List.dropWhile_append_of_pos valid.isDigit, ends, kept, List.append_nil]

/-- Digits are a number. -/
theorem isNumber_digits {digits : List Char} (valid : IsDigits digits) : isNumber digits := by
  have scanned := span_digits valid (List.takeWhile_nil (p := Char.isDigit))
  rw [List.append_nil] at scanned
  simp only [isNumber, scanned]
  simpa using valid.nonempty

/-- With a comma behind its digits a text is no number. -/
theorem not_isNumber_digits_comma {digits : List Char} (valid : IsDigits digits)
    (rest : List Char) : isNumber (digits ++ ',' :: rest) = false := by
  have ends : (',' :: rest).takeWhile Char.isDigit = [] :=
    List.takeWhile_cons_of_neg (by decide)
  simp only [isNumber, span_digits valid ends]
  exact Bool.and_false _

/-- A number in decimal is its digits, behind a minus sign if it is negative. -/
theorem toList_ofInt (value : Int) :
    (Decimal.ofInt value).toList =
      if value < 0 then '-' :: Decimal.digits value.natAbs else Decimal.digits value.natAbs := by
  unfold Decimal.ofInt
  rw [String.toList_ofList]

/-- What follows the first number of a list. -/
def behindFirst (rest : List Int32) : List Char :=
  if rest = [] then [] else ',' :: (decimalList rest).toList

/-- A list in decimal is its first number and what follows it. -/
theorem toList_decimalList_cons (first : Int32) (rest : List Int32) :
    (decimalList (first :: rest)).toList =
      (Decimal.ofInt first.toInt).toList ++ behindFirst rest := by
  unfold decimalList behindFirst
  rw [String.toList_intercalate]
  cases rest with
  | nil => simp
  | cons second rest =>
      rw [if_neg (List.cons_ne_nil second rest), decimalList, String.toList_intercalate]
      simp only [List.map_cons, List.intercalate_cons_cons, List.append_assoc]
      rfl

/-- A text that begins with digits begins with a digit. -/
theorem exists_digits_append {digits : List Char} (valid : IsDigits digits) (rest : List Char) :
    ∃ first later, digits ++ rest = first :: later ∧ first.isDigit := by
  obtain ⟨first, later, rfl⟩ := List.exists_cons_of_ne_nil valid.nonempty
  exact ⟨first, later ++ rest, rfl, valid.isDigit first List.mem_cons_self⟩

theorem ne_minus_of_isDigit {c : Char} (digit : c.isDigit) : c ≠ '-' := by
  rintro rfl
  exact absurd digit (by decide)

/-- A word that begins with a digit is plain. -/
theorem Word.ofText_digits {digits : List Char} (valid : IsDigits digits) (rest : List Char) :
    ofText (digits ++ rest) = .plain := by
  obtain ⟨first, later, text, digit⟩ := exists_digits_append valid rest
  have other := ne_minus_of_isDigit digit
  rw [text]
  unfold ofText
  split
  case h_1 same => exact absurd (List.cons.inj same).1 other
  case h_2 same => exact absurd (List.cons.inj same).1 other
  case h_3 same => exact absurd (List.cons.inj same).1 other
  case h_4 => rfl

/-- A word that begins with a minus sign and a digit is a cluster of short options. -/
theorem Word.ofText_minus_digits {digits : List Char} (valid : IsDigits digits)
    (rest : List Char) : ofText ('-' :: (digits ++ rest)) = .short (digits ++ rest) := by
  obtain ⟨first, later, text, digit⟩ := exists_digits_append valid rest
  have other := ne_minus_of_isDigit digit
  rw [text]
  unfold ofText
  split
  case h_1 same => exact absurd (List.cons.inj (List.cons.inj same).2).1 other
  case h_2 same => exact absurd (List.cons.inj (List.cons.inj same).2).1 other
  case h_3 same => rw [(List.cons.inj same).2]
  case h_4 unmatched => exact absurd rfl (unmatched first later)

/-- The input option may stand without its list. -/
theorem Word.ofText_inputName : ofText "--input".toList = .long "input".toList none :=
  rfl

theorem find?_input :
    (sortSwitches.find? fun switch => switch.long.toList == "input".toList) =
      some inputSwitch.lift :=
  rfl

/-- A plain word or a negative number behind the input option is its list. -/
theorem readSortList_separate {text : String}
    (value : Word.ofText text.toList = .plain ∨
      ∃ letters, Word.ofText text.toList = .short letters ∧ isNumber letters) :
    readSortList ["--input", text] = readSortList ["--input=" ++ text] := by
  unfold readSortList
  rw [readOptions_separate find?_input rfl Word.ofText_inputName {} (Word.ofText_input text)]
  rcases value with plain | ⟨letters, short, number⟩
  · exact Reading.awaits_of_plain _ _ _ plain
  · rw [Reading.awaits_short _ _ _ short, number]
    rfl

/-- No option of sorting a list is a digit. -/
theorem find?_short_of_isDigit {letter : Char} (digit : letter.isDigit) :
    (sortSwitches.find? fun switch => switch.short == some letter) = none := by
  have other {name : Char} (plain : ¬name.isDigit) : ¬(some name == some letter) := by
    intro same
    rw [Option.some.inj (eq_of_beq same)] at plain
    exact plain digit
  apply List.find?_eq_none.mpr
  refine List.forall_mem_cons.mpr ⟨other (by decide), ?_⟩
  refine List.forall_mem_cons.mpr ⟨other (by decide), ?_⟩
  refine List.forall_mem_cons.mpr ⟨other (by decide), ?_⟩
  exact List.forall_mem_singleton.mpr Bool.false_ne_true

/-- A cluster that begins with a digit and is no number is refused behind the input option. -/
theorem readSortList_separate_refused {text : String} {letter : Char} {letters : List Char}
    (short : Word.ofText text.toList = .short (letter :: letters)) (digit : letter.isDigit)
    (more : isNumber (letter :: letters) = false) :
    readSortList ["--input", text] = .error .unknownArgument := by
  unfold readSortList
  rw [readOptions_separate_unknown find?_input rfl Word.ofText_inputName {} _ short
    (find?_short_of_isDigit digit)]
  · rfl
  · rw [Reading.awaits_short _ _ _ short, more]
    rfl

/-- A list is read alike in both places unless it begins with a negative number and goes on. -/
theorem readSortList_decimalList_cons (first : Int32) (rest : List Int32) :
    readSortList ["--input", decimalList (first :: rest)] =
      if first.toInt < 0 ∧ rest ≠ [] then .error .unknownArgument
      else readSortList ["--input=" ++ decimalList (first :: rest)] := by
  have valid := Decimal.isDigits_digits first.toInt.natAbs
  have text := toList_decimalList_cons first rest
  rw [toList_ofInt] at text
  by_cases negative : first.toInt < 0
  · rw [if_pos negative, List.cons_append] at text
    have short : Word.ofText (decimalList (first :: rest)).toList =
        .short (Decimal.digits first.toInt.natAbs ++ behindFirst rest) := by
      rw [text, Word.ofText_minus_digits valid]
    by_cases single : rest = []
    · rw [if_neg (fun both => both.2 single)]
      refine readSortList_separate (.inr ⟨_, short, ?_⟩)
      rw [behindFirst, if_pos single, List.append_nil]
      exact isNumber_digits valid
    · rw [if_pos ⟨negative, single⟩]
      obtain ⟨letter, letters, cluster, digit⟩ := exists_digits_append valid (behindFirst rest)
      rw [cluster] at short
      refine readSortList_separate_refused short digit ?_
      rw [← cluster, behindFirst, if_neg single]
      exact not_isNumber_digits_comma valid _
  · rw [if_neg negative] at text
    rw [if_neg (fun both => negative both.1)]
    refine readSortList_separate (.inl ?_)
    rw [text, Word.ofText_digits valid]

/-- A list does not begin with a negative number that is followed by another one just if its
first number is not negative or its only one. -/
theorem nonneg_or_single_iff {first : Int32} {rest : List Int32} :
    (0 ≤ first ∨ (first :: rest).length = 1) ↔ ¬(first.toInt < 0 ∧ rest ≠ []) := by
  have sign : 0 ≤ first ↔ ¬first.toInt < 0 := by
    rw [Int32.le_iff_toInt_le, Int.not_lt]
    rfl
  have single : (first :: rest).length = 1 ↔ rest = [] := by
    rw [List.length_cons, Nat.add_eq_right, List.length_eq_zero_iff]
  rw [sign, single, not_and_or, not_not]

/-- A list in decimal is read in the word of its option. -/
theorem read_attached {values : List Int32} (nonempty : values ≠ []) :
    Invocation.read ["sort", "run", "--input=" ++ decimalList values] =
      .ok ⟨0, .demonstrate (.sortList (some values) false)⟩ := by
  rw [SortRequest.plain.read_eq, readList?_eq_some_iff.mpr (lists_decimalList nonempty)]

/-- **A list in the word behind its option.** Every list of numbers that is not empty is read in
the word of its option, and then answered with status zero on every output that takes the
answer. In the word behind the option the same list is read alike, and leads to the same
course of the program, if it does not begin with a negative number or has no second number. Any
other list is refused there as an unknown argument, with status two, and nothing is written. -/
theorem separate_list_read {values : List Int32} (nonempty : values ≠ []) :
    let attached := ["sort", "run", "--input=" ++ decimalList values]
    let separate := ["sort", "run", "--input", decimalList values]
    Invocation.read attached = .ok ⟨0, .demonstrate (.sortList (some values) false)⟩ ∧
      Invocation.read separate =
        (if 0 ≤ values.head nonempty ∨ values.length = 1 then Invocation.read attached
          else .error .unknownArgument) ∧
      (∃ lines, Answers values lines ∧
        ∀ (surroundings : Surroundings) (sink : Sink), surroundings.LogReadable →
          sink.allowance.Admits (lined lines).toUTF8.data.toList →
          ∃ outcome, Course.ofWords surroundings attached sink = .ended outcome ∧
            outcome.exitCode = 0 ∧
            outcome.sink.taken.toList =
              sink.taken.toList ++ (lined lines).toUTF8.data.toList) ∧
      ∀ (surroundings : Surroundings) (sink : Sink),
        Course.ofWords surroundings separate sink =
          if 0 ≤ values.head nonempty ∨ values.length = 1 then
            Course.ofWords surroundings attached sink
          else .ended ⟨2, sink, [Stop.unknownArgument.message]⟩ := by
  intro attached separate
  have alike : Invocation.read separate =
      if 0 ≤ values.head nonempty ∨ values.length = 1 then Invocation.read attached
      else .error .unknownArgument := by
    obtain ⟨first, rest, rfl⟩ := List.exists_cons_of_ne_nil nonempty
    simp only [separate, attached, read_sort_run, readSortList_decimalList_cons, List.head_cons,
      nonneg_or_single_iff, ite_not]
  refine ⟨read_attached nonempty, alike, ?_, ?_⟩
  · refine ⟨demonstrationLines values.toArray, answers_demonstrationLines values, ?_⟩
    intro surroundings sink readable admits
    exact Course.ofWords_sortList (read_attached nonempty) surroundings sink readable admits
  · intro surroundings sink
    split
    case isTrue same =>
      rw [if_pos same] at alike
      unfold Course.ofWords
      rw [alike]
    case isFalse other =>
      rw [if_neg other] at alike
      exact Course.ofWords_of_error alike (by decide) surroundings sink

/-- The least number alone, and a negative number behind another one. -/
theorem separate_list_read_least :
    Invocation.read ["sort", "run", "--input", decimalList [-2147483648]] =
        .ok ⟨0, .demonstrate (.sortList (some [-2147483648]) false)⟩ ∧
      Invocation.read ["sort", "run", "--input", decimalList [0, -2147483648]] =
        .ok ⟨0, .demonstrate (.sortList (some [0, -2147483648]) false)⟩ ∧
      Invocation.read ["sort", "run", "--input", decimalList [-2147483648, 0]] =
        .error .unknownArgument ∧
      Course.ofWords {} ["sort", "run", "--input", decimalList [-2147483648, 0]] {} =
        .ended ⟨2, {}, [Stop.unknownArgument.message]⟩ := by
  obtain ⟨least, alone, -⟩ := separate_list_read (List.cons_ne_nil (-2147483648 : Int32) [])
  obtain ⟨behind, second, -⟩ := separate_list_read (List.cons_ne_nil (0 : Int32) [-2147483648])
  obtain ⟨-, refused, -, course⟩ := separate_list_read (List.cons_ne_nil (-2147483648 : Int32) [0])
  refine ⟨?_, ?_, ?_, ?_⟩
  · rw [alone, if_pos (.inr rfl), least]
  · rw [second, if_pos (.inl (by decide)), behind]
  · rw [refused, if_neg (by decide)]
  · rw [course, if_neg (by decide)]

/-- Three negative numbers are read in the word of the option only. -/
theorem negative_list_refused :
    decimalList [-3, -1, -2] = "-3,-1,-2" ∧
      Invocation.read ["sort", "run", "--input", "-3,-1,-2"] = .error .unknownArgument ∧
      Invocation.read ["sort", "run", "--input=" ++ "-3,-1,-2"] =
        .ok ⟨0, .demonstrate (.sortList (some [-3, -1, -2]) false)⟩ ∧
      Course.ofWords {} ["sort", "run", "--input", "-3,-1,-2"] {} =
        .ended ⟨2, {}, [Stop.unknownArgument.message]⟩ ∧
      ∃ outcome, Course.ofWords {} ["sort", "run", "--input=" ++ "-3,-1,-2"] {} = .ended outcome ∧
        outcome.exitCode = 0 ∧ outcome.sink.text? = some "true\ntrue\n-3\n-2\n-1\n" := by
  have written : decimalList [-3, -1, -2] = "-3,-1,-2" := by decide +kernel
  have separate :
      Invocation.read ["sort", "run", "--input", "-3,-1,-2"] = .error .unknownArgument := by
    rw [← written, read_sort_run, readSortList_decimalList_cons, if_pos (by decide)]
  have attached : Invocation.read ["sort", "run", "--input=" ++ "-3,-1,-2"] =
      .ok ⟨0, .demonstrate (.sortList (some [-3, -1, -2]) false)⟩ := by
    rw [← written]
    exact read_attached (List.cons_ne_nil _ _)
  obtain ⟨outcome, ended, status, taken⟩ := Course.ofWords_sortList attached {} {}
    (Surroundings.logReadable_of_none rfl) (Allowance.admits_of_unlimited _)
  have lines : demonstrationLines #[-3, -1, -2] = ["true", "true", "-3", "-2", "-1"] := by
    decide +kernel
  refine ⟨written, separate, attached, Course.ofWords_of_error separate (by decide) {} {},
    outcome, ended, status, Sink.text?_eq_some (taken.trans ?_)⟩
  rw [lines]
  decide +kernel

end Tandem.Command
