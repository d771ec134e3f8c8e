import Tandem.Command.Word

/-! # Reading options

Options are read one word at a time into the options given so far. An option that
takes a value and comes without one waits for the next word. A value that comes
as a word of its own is looked at only when the next known option is read, or at
the end, so a word that is no option at all is reported first.
-/

namespace Tandem.Command

/-- Why a command line names nothing to do. -/
inductive Stop where
  /-- Help was asked for. -/
  | help
  /-- The version was asked for. -/
  | version
  /-- Nothing was given, so help is shown. -/
  | nothingGiven
  /-- Options, but no subcommand. -/
  | missingSubcommand
  /-- A word where a subcommand was expected is none. -/
  | unknownSubcommand
  /-- A word or an option that has no place there. -/
  | unknownArgument
  /-- An option without its value. -/
  | missingValue
  /-- A value that does not read as what the option takes. -/
  | invalidValue
  /-- An option that may be given once, given again. -/
  | repeatedArgument
  /-- A value for an option that takes none. -/
  | unexpectedValue

/-- The status with which the program ends: asking for help or the version is no
failure. -/
def Stop.exitCode : Stop → UInt8
  | help | version => 0
  | nothingGiven | missingSubcommand | unknownSubcommand | unknownArgument | missingValue
  | invalidValue | repeatedArgument | unexpectedValue => 2

/-- What an option does to the options given so far. -/
inductive Effect (σ : Type) where
  /-- It takes no value. -/
  | flag (update : σ → Except Stop σ)
  /-- It takes a value. With `negatives`, a negative number may follow it as a word of
  its own. -/
  | value (negatives : Bool) (update : List Char → σ → Except Stop σ)

/-- An option by its names. -/
structure Switch (σ : Type) where
  long : String
  short : Option Char := none
  effect : Effect σ

/-- An option that takes a value, at most once. -/
def Switch.once {σ β : Type} (long : String) (short : Char) (negatives : Bool)
    (read : List Char → Option β) (get : σ → Option β) (set : β → σ → σ) : Switch σ where
  long := long
  short := some short
  effect := .value negatives fun text given =>
    if (get given).isSome then .error .repeatedArgument
    else
      match read text with
      | some value => .ok (set value given)
      | none => .error .invalidValue

/-- An option whose value, as a word of its own, is awaited or not yet looked at. -/
structure Pending (σ : Type) where
  negatives : Bool
  update : List Char → σ → Except Stop σ
  value : Option (List Char) := none

/-- The options given so far. -/
structure Reading (σ : Type) where
  given : σ
  pending : Option (Pending σ) := none

/-- What is left of a command line behind the options. -/
inductive Remainder where
  | nothing
  /-- A word, and those behind it. -/
  | plain (word : String) (words : List String)
  /-- The first word behind a separator. -/
  | separated (word : String)

namespace Reading

variable {σ : Type}

/-- Look at the value of the option that is pending. -/
def settle (reading : Reading σ) : Except Stop σ :=
  match reading.pending with
  | none => .ok reading.given
  | some { value := none, .. } => .error .missingValue
  | some { value := some text, update, .. } => update text reading.given

/-- Whether a word is the value that an option waits for. -/
def awaits (reading : Reading σ) (word : List Char) : Bool :=
  match reading.pending with
  | some { value := none, negatives, .. } =>
    match Word.ofText word with
    | .plain => true
    | .short letters => negatives && isNumber letters
    | .separator | .long .. => false
  | _ => false

/-- Give the waiting option its value. -/
def supply (reading : Reading σ) (word : List Char) : Reading σ :=
  { reading with pending := reading.pending.map fun waiting => { waiting with value := some word } }

/-- Read an option, with the value attached to it if there is one. -/
def accept (reading : Reading σ) (effect : Effect σ) (attached : Option (List Char)) :
    Except Stop (Reading σ) :=
  match effect, attached with
  | .flag _, some _ => .error .unexpectedValue
  | .flag update, none => do
    let given ← reading.settle
    return { given := ← update given }
  | .value _ update, some text => do
    let given ← reading.settle
    return { given := ← update text given }
  | .value negatives update, none => do
    let given ← reading.settle
    return { given, pending := some { negatives, update } }

/-- Read a long option. -/
def acceptLong (switches : List (Switch σ)) (name : List Char) (attached : Option (List Char))
    (reading : Reading σ) : Except Stop (Reading σ) :=
  match switches.find? fun switch => switch.long.toList == name with
  | some switch => reading.accept switch.effect attached
  | none => .error .unknownArgument

/-- The value attached to a short option: the rest of the word, without a leading
`=`. -/
def attached : List Char → Option (List Char)
  | [] => none
  | '=' :: text => some text
  | text => some text

/-- Read a cluster of short options. The first one that takes a value takes the rest
of the cluster. -/
def acceptShort (switches : List (Switch σ)) : List Char → Reading σ → Except Stop (Reading σ)
  | [], reading => .ok reading
  | letter :: letters, reading =>
    match switches.find? fun switch => switch.short == some letter with
    | some { effect := .flag update, .. } => do
      acceptShort switches letters (← reading.accept (.flag update) none)
    | some { effect := .value negatives update, .. } =>
      reading.accept (.value negatives update) (attached letters)
    | none => .error .unknownArgument

/-- Read options up to the first word that is neither an option nor a value. -/
def readWords (switches : List (Switch σ)) :
    List String → Reading σ → Except Stop (Reading σ × Remainder)
  | [], reading => .ok (reading, .nothing)
  | word :: words, reading =>
    if reading.awaits word.toList then readWords switches words (reading.supply word.toList)
    else
      match Word.ofText word.toList with
      | .separator => .ok (reading, (words.head?.map Remainder.separated).getD .nothing)
      | .long name value => do
        readWords switches words (← reading.acceptLong switches name value)
      | .short letters => do
        readWords switches words (← reading.acceptShort switches letters)
      | .plain => .ok (reading, .plain word words)

end Reading

end Tandem.Command
