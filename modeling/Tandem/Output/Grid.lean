/-! # Styled text and text in ruled columns

A style is set by an escape sequence before the text and ended by one behind it.
Without colour the text stands alone.

A grid sets rows of cells under each other. Every column is as wide as its
widest cell, every cell stands between blanks and is filled up on its right, and
a rule follows every row. Escape sequences that set a colour or style take one
column each.
-/

namespace Tandem.Output

/-- How a text stands out. -/
inductive Style where
  /-- Bold, underlined and blue. -/
  | heading
  /-- Bold. -/
  | strong
  /-- Green. -/
  | good
  /-- Red. -/
  | bad

/-- The parameters of a style's escape sequence. -/
def Style.parameters : Style → String
  | heading => "1;4;34"
  | strong => "1"
  | good => "32"
  | bad => "31"

/-- A text in a style, or as it is without colour. -/
def Style.paint (style : Style) (colour : Bool) (text : String) : String :=
  if colour then "\x1b[" ++ style.parameters ++ "m" ++ text ++ "\x1b[0m" else text

/-- What takes up columns in a text: every character outside escape sequences, and
the `m` that ends each of them. -/
def visible : (inSequence : Bool) → List Char → List Char
  | _, [] => []
  | false, '\x1b' :: rest => visible true rest
  | false, c :: rest => c :: visible false rest
  | true, 'm' :: rest => 'm' :: visible false rest
  | true, _ :: rest => visible true rest

/-- The columns that a line of text takes. -/
def width (line : String) : Nat :=
  (visible false line.toList).length

namespace Grid

/-- A cell is one or more lines of text. -/
abbrev Cell := List String

/-- The width of a column: that of its widest line. -/
def columnWidth (cells : List Cell) : Nat :=
  (cells.flatten.map width).foldl max 0

/-- The widths of the columns of some rows. -/
def columnWidths : (columns : Nat) → List (List Cell) → List Nat
  | 0, _ => []
  | columns + 1, rows =>
    columnWidth (rows.filterMap List.head?) :: columnWidths columns (rows.map List.tail)

/-- A line of text filled up to a width. -/
def pad (columns : Nat) (line : String) : String :=
  line ++ String.ofList (List.replicate (columns - width line) ' ')

/-- The rule between rows. -/
def rule (widths : List Nat) : String :=
  "+" ++ String.join (widths.map fun columns =>
    String.ofList (List.replicate (columns + 2) '-') ++ "+")

/-- One line of a row. -/
def rowLine (widths : List Nat) (texts : List String) : String :=
  let cell (columns : Nat) (text : String) : String := " " ++ pad columns text ++ " |"
  "|" ++ String.join (List.zipWith cell widths texts)

/-- A row, as high as its highest cell. -/
def row (widths : List Nat) (cells : List Cell) : List String :=
  let height := (cells.map List.length).foldl max 1
  (List.range height).map fun index => rowLine widths (cells.map fun cell => cell.getD index "")

/-- The lines of a grid. -/
def lines (rows : List (List Cell)) : List String :=
  let columns := (rows.map List.length).foldl max 0
  let widths := columnWidths columns rows
  rule widths :: rows.flatMap fun cells => row widths cells ++ [rule widths]

end Grid

end Tandem.Output
