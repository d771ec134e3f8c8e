import Mathlib.Data.Nat.Digits.Defs
import Tandem.Integer.Decimal

/-! # Numerals

A numeral is one or more digits behind an optional sign, and stands for an integer
(`Tandem.Integer.Numeral`). Reading accepts just the numerals, each as its integer
(`Tandem.Integer.Decimal.readInt?_eq_some_iff`), and as a number of 32 bits just those in
range (`Tandem.Integer.Decimal.readInt32?_eq_some_iff`). Writing an integer gives a numeral
of it (`Tandem.Integer.Decimal.numeral_ofInt`), the one it is shown with in general
(`Tandem.Integer.Decimal.ofInt_eq_toString`).
-/

namespace Tandem.Integer

/-- The value of a digit. -/
def digitValue (c : Char) : Nat :=
  c.toNat - '0'.toNat

/-- The number that digits stand for, highest first. -/
def magnitude (digits : List Char) : Nat :=
  Nat.ofDigits 10 (digits.map digitValue).reverse

/-- One or more of the digits `0` to `9`. -/
structure IsDigits (text : List Char) : Prop where
  nonempty : text ≠ []
  isDigit : ∀ c ∈ text, c.isDigit

/-- A text that stands for an integer. -/
inductive Numeral : List Char → Int → Prop where
  | unsigned {digits : List Char} (valid : IsDigits digits) : Numeral digits (magnitude digits)
  | plus {digits : List Char} (valid : IsDigits digits) :
      Numeral ('+' :: digits) (magnitude digits)
  | minus {digits : List Char} (valid : IsDigits digits) :
      Numeral ('-' :: digits) (-magnitude digits)

/-- Digits can be added up from the highest one. -/
theorem magnitude_eq_foldl (digits : List Char) :
    magnitude digits = digits.foldl (fun value c => 10 * value + digitValue c) 0 := by
  unfold magnitude
  rw [Nat.ofDigits_eq_foldr, List.foldr_reverse, List.foldl_map]
  congr 1
  funext value c
  exact Nat.add_comm _ _

/-- A further digit multiplies the others by ten. -/
theorem magnitude_concat (digits : List Char) (last : Char) :
    magnitude (digits ++ [last]) = 10 * magnitude digits + digitValue last := by
  rw [magnitude_eq_foldl, magnitude_eq_foldl, List.foldl_append]
  rfl

/-- A numeral holds nothing but digits and a sign. -/
theorem Numeral.not_mem {text : List Char} {value : Int} (numeral : Numeral text value)
    {c : Char} (sign : c ≠ '+' ∧ c ≠ '-') (other : ¬c.isDigit) : c ∉ text := by
  cases numeral with
  | unsigned valid => exact fun member => other (valid.isDigit c member)
  | plus valid =>
      rw [List.mem_cons, not_or]
      exact ⟨sign.1, fun member => other (valid.isDigit c member)⟩
  | minus valid =>
      rw [List.mem_cons, not_or]
      exact ⟨sign.2, fun member => other (valid.isDigit c member)⟩

namespace Decimal

/-- Reading on adds up digits, and accepts nothing else. -/
theorem readRest?_eq_some_iff {start value : Nat} {text : List Char} :
    readRest? start text = some value ↔
      (∀ c ∈ text, c.isDigit) ∧
        text.foldl (fun value c => 10 * value + digitValue c) start = value := by
  induction text generalizing start with
  | nil => simp [readRest?]
  | cons c rest ih =>
      rw [readRest?, List.foldl_cons, List.forall_mem_cons]
      by_cases digit : c.isDigit
      · rw [if_pos digit, ih, and_assoc, and_iff_right digit]
        rfl
      · rw [if_neg digit]
        simp [digit]

/-- Reading digits accepts one or more of them. -/
theorem readDigits?_eq_some_iff {text : List Char} {value : Nat} :
    readDigits? text = some value ↔ IsDigits text ∧ magnitude text = value := by
  rw [magnitude_eq_foldl]
  cases text with
  | nil =>
      constructor
      · intro read
        cases read
      · intro valid
        exact absurd rfl valid.1.nonempty
  | cons c rest =>
      constructor
      · intro read
        obtain ⟨digits, same⟩ := readRest?_eq_some_iff.mp read
        exact ⟨⟨List.cons_ne_nil c rest, digits⟩, same⟩
      · intro valid
        exact readRest?_eq_some_iff.mpr ⟨valid.1.isDigit, valid.2⟩

/-- Digits are read as the number they stand for. -/
theorem readDigits?_of_isDigits {text : List Char} (valid : IsDigits text) :
    readDigits? text = some (magnitude text) :=
  readDigits?_eq_some_iff.mpr ⟨valid, rfl⟩

/-- Digits without a sign are read as a number that is not negative. -/
theorem readInt?_of_isDigits {text : List Char} (valid : IsDigits text) :
    readInt? text = some (magnitude text : Int) := by
  have unsigned : ∀ sign rest, text = sign :: rest → sign.isDigit := by
    rintro sign rest rfl
    exact valid.isDigit sign List.mem_cons_self
  unfold readInt?
  split
  case h_1 rest => exact absurd (unsigned '-' rest rfl) (by decide)
  case h_2 =>
      unfold readNat?
      split
      case h_1 rest _ => exact absurd (unsigned '+' rest rfl) (by decide)
      case h_2 => rw [readDigits?_of_isDigits valid]; rfl

/-- Digits behind a minus sign are read as the opposite number. -/
theorem readInt?_minus (rest : List Char) :
    readInt? ('-' :: rest) = (readDigits? rest).map fun size : Nat => -(size : Int) := by
  change Option.map _ (Option.bind (readDigits? rest) _) = _
  cases readDigits? rest with
  | none => rfl
  | some size => rfl

/-- Reading accepts the numerals, each as its integer. -/
theorem readInt?_eq_some_iff {text : List Char} {value : Int} :
    readInt? text = some value ↔ Numeral text value := by
  constructor
  · intro read
    unfold readInt? at read
    split at read
    case h_1 rest =>
        change readInt? ('-' :: rest) = some value at read
        rw [readInt?_minus] at read
        obtain ⟨size, digits, rfl⟩ := Option.map_eq_some_iff.mp read
        obtain ⟨valid, rfl⟩ := readDigits?_eq_some_iff.mp digits
        exact .minus valid
    case h_2 =>
        obtain ⟨size, digits, rfl⟩ := Option.map_eq_some_iff.mp read
        unfold readNat? at digits
        split at digits
        case h_1 rest _ =>
            obtain ⟨valid, rfl⟩ := readDigits?_eq_some_iff.mp digits
            exact .plus valid
        case h_2 =>
            obtain ⟨valid, rfl⟩ := readDigits?_eq_some_iff.mp digits
            exact .unsigned valid
  · intro numeral
    cases numeral with
    | unsigned valid => exact readInt?_of_isDigits valid
    | plus valid =>
        change (readDigits? _).map Int.ofNat = _
        rw [readDigits?_of_isDigits valid]
        rfl
    | minus valid =>
        rw [readInt?_minus, readDigits?_of_isDigits valid]
        rfl

/-- The numerals of the numbers of 32 bits. -/
theorem readInt32?_eq_some_iff {text : List Char} {value : Int32} :
    readInt32? text = some value ↔ Numeral text value.toInt := by
  unfold readInt32?
  rw [Option.bind_eq_some_iff]
  constructor
  · rintro ⟨read, found, kept⟩
    split at kept
    case isTrue range =>
        cases kept
        rw [Int32.toInt_ofInt_of_le range.1 (Int.lt_add_one_of_le range.2)]
        exact readInt?_eq_some_iff.mp found
    case isFalse => cases kept
  · intro numeral
    refine ⟨value.toInt, readInt?_eq_some_iff.mpr numeral, ?_⟩
    rw [if_pos ⟨Int32.minValue_le_toInt value, value.toInt_le⟩, Int32.ofInt_toInt]

/-- The texts that read as numbers of 32 bits. -/
theorem exists_readInt32?_iff {text : List Char} :
    (∃ value, readInt32? text = some value) ↔
      ∃ value, Numeral text value ∧ -2 ^ 31 ≤ value ∧ value < 2 ^ 31 := by
  simp only [readInt32?_eq_some_iff]
  constructor
  · rintro ⟨value, numeral⟩
    exact ⟨value.toInt, numeral, value.le_toInt, value.toInt_lt⟩
  · rintro ⟨value, numeral, lower, upper⟩
    refine ⟨Int32.ofInt value, ?_⟩
    rw [Int32.toInt_ofInt_of_le lower upper]
    exact numeral

/-- The digit of a number has that number as its value. -/
theorem digit_spec {value : Nat} (small : value < 10) :
    (digit value).isDigit ∧ digitValue (digit value) = value := by
  revert value
  decide

/-- A number is written with digits. -/
theorem isDigits_digits (value : Nat) : IsDigits (digits value) := by
  fun_induction digits value with
  | case1 value small =>
      refine ⟨List.cons_ne_nil _ _, ?_⟩
      intro c member
      rw [List.mem_singleton.mp member]
      exact (digit_spec small).1
  | case2 value _ ih =>
      refine ⟨List.append_ne_nil_of_left_ne_nil ih.nonempty _, ?_⟩
      intro c member
      cases List.mem_append.mp member with
      | inl earlier => exact ih.isDigit c earlier
      | inr last =>
          rw [List.mem_singleton.mp last]
          exact (digit_spec (Nat.mod_lt value (by decide))).1

/-- The digits of a number stand for it. -/
theorem magnitude_digits (value : Nat) : magnitude (digits value) = value := by
  fun_induction digits value with
  | case1 value small =>
      rw [← List.nil_append [_], magnitude_concat, (digit_spec small).2]
      exact Nat.zero_add value
  | case2 value _ ih =>
      rw [magnitude_concat, ih, (digit_spec (Nat.mod_lt value (by decide))).2]
      exact Nat.div_add_mod value 10

/-- The digits are those that numbers are shown with in general. -/
theorem digits_eq_toDigits (value : Nat) : digits value = Nat.toDigits 10 value := by
  have same {value : Nat} (small : value < 10) : digit value = value.digitChar := by
    revert value
    decide
  fun_induction digits value with
  | case1 value small => rw [Nat.toDigits_of_lt_base small, same small]
  | case2 value large ih =>
      rw [Nat.toDigits_of_base_le (by decide) (Nat.le_of_not_lt large), ih,
        same (Nat.mod_lt value (by decide))]

/-- An integer is written as it is shown in general. -/
theorem ofInt_eq_toString (value : Int) : ofInt value = toString value := by
  unfold ofInt
  rw [Int.toString_eq_repr, digits_eq_toDigits]
  cases value with
  | ofNat size => rfl
  | negSucc size =>
      rw [if_pos (Int.negSucc_lt_zero size), String.ofList_cons]
      rfl

/-- Writing an integer gives a numeral of it. -/
theorem numeral_ofInt (value : Int) : Numeral (ofInt value).toList value := by
  have valid := isDigits_digits value.natAbs
  have size := magnitude_digits value.natAbs
  unfold ofInt
  rw [String.toList_ofList]
  by_cases negative : value < 0
  · have same : -(magnitude (digits value.natAbs) : Int) = value := by omega
    rw [if_pos negative]
    nth_rewrite 2 [← same]
    exact .minus valid
  · have same : (magnitude (digits value.natAbs) : Int) = value := by omega
    rw [if_neg negative]
    nth_rewrite 2 [← same]
    exact .unsigned valid

end Decimal

end Tandem.Integer
