import Mathlib.Data.List.Forall2
import Tandem.Command.Invocation
import Tandem.Proofs.Integer.Numeral

/-! # Lists of numbers

A list of numbers is read from the numerals between its commas
(`Tandem.Command.readList?_eq_some_iff`), so a text is refused just if one of the pieces is no
numeral in range (`Tandem.Command.exists_lists_iff`). A list that was written in decimal is
read back unchanged (`Tandem.Command.lists_decimalList`).
-/

namespace Tandem

open Integer

/-- The parts of a text are those it is split into. -/
theorem Text.parts_eq_splitOn (separator : Char) (text : List Char) :
    parts separator text = text.splitOn separator := by
  unfold List.splitOn
  induction text with
  | nil => rfl
  | cons c rest ih =>
      rw [parts, List.splitOnP_cons_eq_if_modifyHead, ih]
      by_cases same : c = separator
      · simp only [same, beq_self_eq_true, ↓reduceIte]
      · simp only [same, beq_iff_eq, ↓reduceIte]
        cases pieces : rest.splitOnP (· == separator) with
        | nil => exact absurd pieces (List.splitOnP_ne_nil _ rest)
        | cons first later => rfl

namespace Command

/-- The pieces of a text between commas are numerals of these numbers, in order. -/
def Lists (text : List Char) (values : List Int32) : Prop :=
  List.Forall₂ (fun piece value => Numeral piece value.toInt) (text.splitOn ',') values

/-- Every piece of a text between commas is a numeral in the range of 32 bits. -/
def IsNumberList (text : List Char) : Prop :=
  ∀ piece ∈ text.splitOn ',', ∃ value, Numeral piece value ∧ -2 ^ 31 ≤ value ∧ value < 2 ^ 31

/-- Numbers in decimal with commas between them. -/
def decimalList (values : List Int32) : String :=
  ",".intercalate (values.map fun value => Decimal.ofInt value.toInt)

/-- All items can be read just if each has a value. -/
theorem mapM_eq_some_iff {α β : Type} {read : α → Option β} {items : List α} {values : List β} :
    items.mapM read = some values ↔
      List.Forall₂ (fun item value => read item = some value) items values := by
  induction items generalizing values with
  | nil =>
      rw [List.mapM_nil, List.forall₂_nil_left_iff]
      exact ⟨fun same => (Option.some.inj same).symm, fun same => congrArg some same.symm⟩
  | cons item rest ih =>
      rw [List.mapM_cons, List.forall₂_cons_left_iff]
      simp only [Option.bind_eq_bind, Option.bind_eq_some_iff, Option.pure_def,
        Option.some.injEq, ih]
      constructor
      · rintro ⟨value, first, values, others, rfl⟩
        exact ⟨value, values, first, others, rfl⟩
      · rintro ⟨value, values, first, others, rfl⟩
        exact ⟨value, first, values, others, rfl⟩

/-- A text is read as the numbers that its pieces stand for. -/
theorem readList?_eq_some_iff {text : List Char} {values : List Int32} :
    readList? text = some values ↔ Lists text values := by
  unfold readList? Lists
  rw [Text.parts_eq_splitOn, mapM_eq_some_iff]
  simp only [Decimal.readInt32?_eq_some_iff]

/-- Values for all items can be chosen one by one. -/
theorem exists_forall₂_iff {α β : Type} {relation : α → β → Prop} {items : List α} :
    (∃ values, List.Forall₂ relation items values) ↔
      ∀ item ∈ items, ∃ value, relation item value := by
  induction items with
  | nil => exact ⟨fun _ => nofun, fun _ => ⟨[], .nil⟩⟩
  | cons item rest ih =>
      rw [List.forall_mem_cons, ← ih]
      constructor
      · rintro ⟨_, related⟩
        cases related with
        | cons first others => exact ⟨⟨_, first⟩, ⟨_, others⟩⟩
      · rintro ⟨⟨_, first⟩, ⟨_, others⟩⟩
        exact ⟨_, .cons first others⟩

/-- A text lists some numbers just if each piece is a numeral in range. -/
theorem exists_lists_iff {text : List Char} :
    (∃ values, Lists text values) ↔ IsNumberList text := by
  unfold Lists IsNumberList
  rw [exists_forall₂_iff]
  simp only [← Decimal.readInt32?_eq_some_iff, Decimal.exists_readInt32?_iff]

/-- A list in decimal lists its numbers. -/
theorem lists_decimalList {values : List Int32} (nonempty : values ≠ []) :
    Lists (decimalList values).toList values := by
  have numeral (value : Int32) := Decimal.numeral_ofInt value.toInt
  unfold Lists decimalList
  rw [String.toList_intercalate, List.map_map]
  change List.Forall₂ _ (List.splitOn ',' ([','].intercalate _)) values
  rw [List.splitOn_intercalate]
  · rw [List.forall₂_map_left_iff]
    exact List.forall₂_same.mpr fun value _ => numeral value
  · intro piece member
    obtain ⟨value, -, rfl⟩ := List.mem_map.mp member
    exact (numeral value).not_mem (by decide) (by decide)
  · exact fun empty => nonempty (List.map_eq_nil_iff.mp empty)

end Command

end Tandem
