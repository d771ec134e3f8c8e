import Tandem.Pattern.Basic
import Tandem.Text.Classes

/-! # Reading the parts of a pattern

Each reader takes a part from the front of a text, and gives what is left behind it.
Where blanks are ignored, so are comments.
-/

namespace Tandem.Pattern

/-- Repeat a step until it gives a result. A step that takes nothing from the text and
gives no result has failed. -/
def iterate {σ β : Type} (step : σ → List Char → Option ((σ ⊕ β) × List Char)) (state : σ)
    (text : List Char) : Option (β × List Char) :=
  match step state text with
  | none => none
  | some (.inr result, rest) => some (result, rest)
  | some (.inl next, rest) =>
    if rest.length < text.length then iterate step next rest else none
termination_by text.length

/-- A text without the blanks and comments before it. A comment ends with its line. -/
def dropComments (inComment : Bool) : List Char → List Char
  | [] => []
  | c :: rest =>
    if inComment then dropComments (c != '\n') rest
    else if Text.isBlank c then dropComments false rest
    else if c = '#' then dropComments true rest
    else c :: rest

/-- A text without what is ignored before it. -/
def skip (ignoring : Bool) (text : List Char) : List Char :=
  if ignoring then dropComments false text else text

/-- The next character that counts. Of a comment only its mark is passed over. -/
def peek? (ignoring : Bool) (text : List Char) : Option Char :=
  if ignoring then
    match text.dropWhile Text.isBlank with
    | '#' :: rest => (rest.dropWhile Text.isBlank).head?
    | rest => rest.head?
  else text.head?

/-- The value of a hexadecimal digit. -/
def hexDigit? (c : Char) : Option Nat :=
  if c.isDigit then some (c.toNat - '0'.toNat)
  else if 'a' ≤ c ∧ c ≤ 'f' then some (c.toNat - 'a'.toNat + 10)
  else if 'A' ≤ c ∧ c ≤ 'F' then some (c.toNat - 'A'.toNat + 10)
  else none

/-- Read a number of hexadecimal digits behind a value already read. -/
def readHex? (ignoring : Bool) : Nat → Nat → List Char → Option (Nat × List Char)
  | 0, value, text => some (value, skip ignoring text)
  | count + 1, value, text =>
    match skip ignoring text with
    | [] => none
    | c :: rest =>
      (hexDigit? c).bind fun digit => readHex? ignoring count (16 * value + digit) rest

/-- Read a character by its number in hexadecimal. -/
def readNumbered? (ignoring : Bool) (digits : Nat) (isByte : Bool) (text : List Char) :
    Option (Pattern × List Char) := do
  let (value, rest) ← readHex? ignoring digits 0 text
  if value.isValidChar then return (.literal { char := Char.ofNat value, isByte }, rest) else none

/-- The character that a letter or a mark behind a backslash stands for. -/
def escaped? : Char → Option Char
  | 'a' => some '\x07'
  | 'f' => some '\x0c'
  | 'n' => some '\n'
  | 'r' => some '\r'
  | 't' => some '\t'
  | 'v' => some '\x0b'
  | c =>
    if c.toNat < 0x80 ∧ !c.isAlphanum ∧ c ≠ '<' ∧ c ≠ '>' then some c else none

/-- Read what stands behind a backslash. -/
def readEscape? (ignoring : Bool) : List Char → Option (Pattern × List Char)
  | [] => none
  | 'x' :: rest => readNumbered? ignoring 2 true rest
  | 'u' :: rest => readNumbered? ignoring 4 false rest
  | 'U' :: rest => readNumbered? ignoring 8 false rest
  | c :: rest =>
    if ['d', 's', 'w'].contains c then some (.shorthand false, rest)
    else if ['D', 'S', 'W'].contains c then some (.shorthand true, rest)
    else if ['A', 'z'].contains c then some (.anchor, rest)
    else if ['b', 'B', '<', '>'].contains c then some (.wordBoundary, rest)
    else (escaped? c).map fun char => (.literal { char }, rest)

/-- Read flags up to the character that ends them, which is left. -/
def readFlags? (flags : Flags) (negated dangling : Bool) :
    List Char → Option (Flags × List Char)
  | [] => none
  | c :: rest =>
    if c = ':' ∨ c = ')' then if dangling then none else some (flags, c :: rest)
    else if c = '-' then if negated then none else readFlags? flags true true rest
    else
      match Flag.ofLetter? c with
      | some flag =>
        if (flags.lookup flag).isSome then none
        else readFlags? (flags ++ [(flag, !negated)]) negated false rest
      | none => none

end Tandem.Pattern
