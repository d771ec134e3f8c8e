/-! # Words of a command line

By its first characters a word is the separator `--`, a long option, a cluster of
short options, or none of these.
-/

namespace Tandem.Command

/-- A word by its kind. -/
inductive Word where
  /-- The word `--`, behind which no word is an option. -/
  | separator
  /-- A name behind `--`, with what follows its first `=`. -/
  | long (name : List Char) (value : Option (List Char))
  /-- One or more letters behind `-`. -/
  | short (letters : List Char)
  /-- Any other word, `-` and the empty word among them. -/
  | plain

/-- The name of a long option, and what follows the first `=`. -/
def Word.ofLong (text : List Char) : Word :=
  match text.span (· != '=') with
  | (name, _ :: value) => .long name (some value)
  | (name, []) => .long name none

/-- The kind of a word. -/
def Word.ofText : List Char → Word
  | ['-', '-'] => .separator
  | '-' :: '-' :: text => ofLong text
  | '-' :: letter :: letters => .short (letter :: letters)
  | _ => .plain

/-- Whether a text is digits with an optional fraction and an optional exponent. -/
def isNumber (text : List Char) : Bool :=
  let (whole, rest) := text.span Char.isDigit
  let rest :=
    match rest with
    | '.' :: fraction => fraction.dropWhile Char.isDigit
    | _ => rest
  !whole.isEmpty &&
    match rest with
    | [] => true
    | mark :: power => (mark == 'e' || mark == 'E') && !power.isEmpty && power.all Char.isDigit

end Tandem.Command
