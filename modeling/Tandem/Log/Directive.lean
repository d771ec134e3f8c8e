import Tandem.Log.Threshold
import Tandem.Pattern.Reader
import Tandem.Text.Pieces

/-! # Directives about log entries

A directive sets a threshold for some entries. It is written as the beginning of
their paths, followed by brackets with a field in braces that they must have,
followed by `=` and the threshold:

* `info` is a threshold for every entry;
* `duet_sort=info` is one for the paths with that beginning;
* `duet_sort[{len}]=info` is one for those of them with a field `len`.

Without a threshold, everything there is written. Brackets may also name a span
of work, and braces a value of its field, which is a number or else a pattern for
its text; such a directive is about the entries made inside a span. This program
opens none, so it covers no entry.

A directive is looked through without the blanks around it. Its pieces are then cut
out of the text as it was given, at the places that they have in the text without
blanks. So blanks before a directive shift its pieces.
-/

namespace Tandem.Log

/-- Whether a text is an exponent, or nothing. -/
def isExponent : List Char → Bool
  | [] => true
  | mark :: rest =>
    let digits :=
      match rest with
      | '+' :: digits | '-' :: digits => digits
      | digits => digits
    (mark == 'e' || mark == 'E') && !digits.isEmpty && digits.all Char.isDigit

/-- Whether a text is a number without a sign: digits with an optional fraction and an
optional exponent, or the name of a value that is no finite number. -/
def isUnsigned (text : List Char) : Bool :=
  let (whole, rest) := text.span Char.isDigit
  let (fraction, rest) :=
    match rest with
    | '.' :: rest => rest.span Char.isDigit
    | _ => ([], rest)
  (!(whole ++ fraction).isEmpty && isExponent rest) ||
    ["inf", "infinity", "nan"].contains (String.ofList (text.map Char.toLower))

/-- Whether a text is a number. -/
def isNumeral : List Char → Bool
  | '+' :: text | '-' :: text => isUnsigned text
  | text => isUnsigned text

/-- Whether a text may be asked for as a value. -/
def isFieldValue (text : List Char) : Bool :=
  isNumeral text || (Pattern.read? text).any Pattern.usable

/-- Why directives cannot be read. -/
inductive Fault where
  /-- One of them does not have the form of a directive. -/
  | malformed
  /-- A piece would begin or end inside a character. -/
  | splitCharacter

/-- The entries that a directive is about. -/
inductive Scope where
  /-- Those whose path has a beginning, and which have a field if one is named. -/
  | entries (beginning : List Char) (field : Option String)
  /-- No entry. -/
  | nothing

namespace Scope

/-- Every entry. -/
def everything : Scope := entries [] none

/-- Whether an entry is one of those that a directive is about. -/
def covers (scope : Scope) (entry : Entry) : Bool :=
  match scope with
  | entries beginning field =>
    beginning.isPrefixOf entry.source.path.toList && field.all entry.hasField
  | nothing => false

/-- The length of the beginning that a path must have. -/
def depth : Scope → Nat
  | entries beginning _ => beginning.length
  | nothing => 0

/-- The field that an entry must have. -/
def field? : Scope → Option String
  | entries _ field => field
  | nothing => none

/-- Whether another scope is at least as narrow: by the length of the beginning first,
then by naming a field, then by that field's place in the alphabet. -/
def yieldsTo (scope other : Scope) : Bool :=
  ((compare scope.depth other.depth).then (compare scope.field? other.field?)).isLE

/-- The scope of a directive with a field: the field is named, or a value of it is
asked for behind `=`. Anything behind a second `=` is left out. -/
def ofField (beginning : List Char) (text : List Char) : Except Fault Scope :=
  match text.span (· != '=') with
  | (name, []) => .ok (.entries beginning (some (String.ofList name)))
  | (_, _ :: value) =>
    if isFieldValue (value.takeWhile (· != '=')) then .ok .nothing else .error .malformed

end Scope

/-- A threshold for the entries in a scope. -/
structure Directive where
  scope : Scope
  threshold : Threshold

/-- A directive as it is written: its scope, and the text behind `=` if there is one. -/
structure Clause where
  scope : Scope
  level : Option (List Char) := none

namespace Clause

/-- The piece of a text between two places. -/
def cut (text : List Char) (start stop : Nat) : Except Fault (List Char) :=
  match Text.cut? text start stop with
  | some piece => .ok piece
  | none => .error .splitCharacter

/-- The piece of a text from a place to its end. -/
def cutFrom (text : List Char) (start : Nat) : Except Fault (List Char) :=
  cut text start (Text.byteLength text)

/-- Whether a path may begin with a character. -/
def opensPath (c : Char) : Bool :=
  c == '-' || c == ':' || c == '_' || Text.isAlphanumeric c

variable (whole : List Char)

/-- Read what stands behind brackets, at a place: a level behind `=`, or nothing. -/
def readEnd (scope : Scope) (place : Nat) : List Char → Except Fault Clause
  | [] => .ok { scope }
  | '=' :: _ => do return { scope, level := some (← cutFrom whole (place + 1)) }
  | _ => .error .malformed

/-- Read what stands behind an opening brace, at a place. -/
def readBraces (beginning : List Char) (named : Bool) (place : Nat) (text : List Char) :
    Except Fault Clause := do
  let (field, rest) := text.span (· != '\x7d')
  match rest with
  | [] => .error .malformed
  | _ :: rest =>
    let stop := place + Text.byteLength field
    let piece ← cut whole place stop
    if piece.isEmpty then .error .malformed
    let scope ← Scope.ofField beginning piece
    match rest with
    | ']' :: rest => readEnd whole (if named then .nothing else scope) (stop + 2) rest
    | _ => .error .malformed

/-- Read what stands behind an opening bracket, at a place. -/
def readBrackets (beginning : List Char) (place : Nat) (text : List Char) :
    Except Fault Clause := do
  let (span, rest) := text.span fun c => c != ']' && c != '\x7b'
  match rest with
  | [] => .error .malformed
  | mark :: rest =>
    let stop := place + Text.byteLength span
    let piece ← cut whole place stop
    if mark = ']' then readEnd whole .nothing (stop + 1) rest
    else readBraces whole beginning (!piece.isEmpty) (stop + 1) rest

/-- Read a clause. The beginning of a path ends at the first `=` or `[`. -/
def read : Except Fault Clause :=
  match Text.trim whole with
  | [] => .error .malformed
  | '[' :: rest => readBrackets whole [] 1 rest
  | first :: rest => do
    if !opensPath first then .error .malformed
    let (beginning, rest) := (first :: rest).span fun c => c != '=' && c != '['
    let stop := Text.byteLength beginning
    match rest with
    | [] => return { scope := .entries whole none }
    | mark :: rest =>
      let piece ← cut whole 0 stop
      if mark = '=' then readEnd whole (.entries piece none) stop (mark :: rest)
      else readBrackets whole piece (stop + 1) rest

end Clause

namespace Directive

/-- Read a threshold behind `=`; none at all writes everything. -/
def readLevel : List Char → Except Fault Threshold
  | [] => .ok (some .trace)
  | level =>
    match Threshold.read? level with
    | some threshold => .ok threshold
    | none => .error .malformed

/-- Read a directive. A threshold may stand alone. -/
def read (text : List Char) : Except Fault Directive := do
  let { scope, level } ← Clause.read text
  match level, Threshold.read? text with
  | some level, _ => return { scope, threshold := ← readLevel level }
  | none, some threshold => return { scope := .everything, threshold }
  | none, none => return { scope, threshold := some .trace }

end Directive

end Tandem.Log
