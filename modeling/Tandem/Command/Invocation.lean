import Tandem.Command.Switch
import Tandem.Integer.Decimal
import Tandem.Text.Pieces

/-! # Reading a command line

The first word names a demonstration and the second one what to do with it.
Options may stand before, between and behind these words. Requests for more
detail are accepted everywhere, and the deepest place that has any counts.
-/

namespace Tandem.Command

open Integer

/-- A demonstration to run, with its options. -/
inductive Demonstration where
  /-- Call the handles with an argument. -/
  | callHandles (argument : Int32)
  /-- Show which method each handle reaches. -/
  | explainHandles
  /-- Sort a list, by default the built-in one. A bar that shows the progress may be
  asked for; it is not part of the output. -/
  | sortList (input : Option (List Int32)) (progress : Bool)

/-- What a command line asks for. -/
inductive Task where
  | demonstrate (demonstration : Demonstration)
  /-- Measure the sort at sizes up to a greatest one. -/
  | measure (maxSize : UInt64)

/-- A task and the number of requests for more detail. -/
structure Invocation where
  verbosity : Nat
  task : Task

/-- Options of one level of the command line, requests for more detail apart. -/
structure Given (σ : Type) where
  verbosity : Nat := 0
  options : σ

/-- Ask for help. -/
def helpSwitch {σ : Type} : Switch σ where
  long := "help"
  short := some 'h'
  effect := .flag fun _ => .error .help

/-- Ask for the version. -/
def versionSwitch {σ : Type} : Switch σ where
  long := "version"
  short := some 'V'
  effect := .flag fun _ => .error .version

/-- Ask for more detail, up to 255 times. -/
def verboseSwitch {σ : Type} : Switch (Given σ) where
  long := "verbose"
  short := some 'v'
  effect := .flag fun given => .ok { given with verbosity := min 255 (given.verbosity + 1) }

/-- An option that is not about detail. -/
def Switch.lift {σ : Type} (switch : Switch σ) : Switch (Given σ) where
  long := switch.long
  short := switch.short
  effect :=
    match switch.effect with
    | .flag update => .flag fun given => do
      return { given with options := ← update given.options }
    | .value negatives update => .value negatives fun text given => do
      return { given with options := ← update text given.options }

/-- Read the options of a command that takes no further words. -/
def readOptions {σ : Type} (switches : List (Switch σ)) (options : σ) (words : List String) :
    Except Stop (Given σ) := do
  let known := helpSwitch :: verboseSwitch :: switches.map Switch.lift
  match ← Reading.readWords known words { given := { options } } with
  | (reading, .nothing) => reading.settle
  | (_, .plain ..) | (_, .separated _) => .error .unknownArgument

/-- The words that may follow a request for help at the top. -/
def helpTopics : List (List String) :=
  [[], ["help"],
   ["dispatch"], ["dispatch", "run"], ["dispatch", "explain"], ["dispatch", "help"],
   ["sort"], ["sort", "run"], ["sort", "bench"], ["sort", "help"]]

/-- Help about a topic, if there is one. -/
def helpAbout (topic : List String) : Stop :=
  if helpTopics.contains topic then .help else .unknownSubcommand

/-- Read a subcommand and what stands behind it, below the commands `path`. A
subcommand may not stand behind a separator. -/
def readSubcommand (path : List String) (switches : List (Switch (Given Unit)))
    (subcommands : List (String × (List String → Except Stop Invocation)))
    (words : List String) : Except Stop Invocation := do
  let known := helpSwitch :: verboseSwitch :: switches
  let (reading, rest) ← Reading.readWords known words { given := { options := () } }
  let { verbosity, .. } ← reading.settle
  match rest with
  | .nothing => .error (if verbosity = 0 then .nothingGiven else .missingSubcommand)
  | .plain word words =>
    if word = "help" then .error (helpAbout (path ++ words))
    else
      match subcommands.lookup word with
      | none => .error .unknownSubcommand
      | some read => do
        let inner ← read words
        return if inner.verbosity = 0 then { inner with verbosity } else inner
  | .separated word =>
    if word = "help" || (subcommands.lookup word).isSome then .error .unknownArgument
    else .error .unknownSubcommand

/-- Read a list of integers between commas. -/
def readList? (text : List Char) : Option (List Int32) :=
  (Text.parts ',' text).mapM Decimal.readInt32?

/-- Read the options of calling the handles. -/
def readCallHandles (words : List String) : Except Stop Invocation := do
  let argument : Switch (Option Int32) :=
    .once "arg" 'a' true Decimal.readInt32? id fun value _ => some value
  let given ← readOptions [argument] none words
  return ⟨given.verbosity, .demonstrate (.callHandles (given.options.getD 1))⟩

/-- Read the options of explaining the handles. -/
def readExplainHandles (words : List String) : Except Stop Invocation := do
  let given ← readOptions [] () words
  return ⟨given.verbosity, .demonstrate .explainHandles⟩

/-- The options of sorting a list. -/
structure SortOptions where
  input : Option (List Int32) := none
  progress : Bool := false

/-- Give numbers to sort. Those of several such options stand behind each other. -/
def inputSwitch : Switch SortOptions where
  long := "input"
  short := some 'i'
  effect := .value true fun text given =>
    match readList? text with
    | some values => .ok { given with input := some (given.input.getD [] ++ values) }
    | none => .error .invalidValue

/-- Ask for a bar that shows the progress. -/
def progressSwitch : Switch SortOptions where
  long := "progress"
  effect := .flag fun given =>
    if given.progress then .error .repeatedArgument else .ok { given with progress := true }

/-- Read the options of sorting a list. -/
def readSortList (words : List String) : Except Stop Invocation := do
  let given ← readOptions [inputSwitch, progressSwitch] {} words
  return ⟨given.verbosity, .demonstrate (.sortList given.options.input given.options.progress)⟩

/-- Read the options of measuring the sort. -/
def readMeasure (words : List String) : Except Stop Invocation := do
  let maxSize : Switch (Option UInt64) :=
    .once "max-size" 'm' false Decimal.readUInt64? id fun value _ => some value
  let given ← readOptions [maxSize] none words
  return ⟨given.verbosity, .measure (given.options.getD 10000)⟩

/-- Read a command line. -/
def Invocation.read (words : List String) : Except Stop Invocation :=
  readSubcommand [] [versionSwitch]
    [("dispatch", readSubcommand ["dispatch"] []
        [("run", readCallHandles), ("explain", readExplainHandles)]),
     ("sort", readSubcommand ["sort"] []
        [("run", readSortList), ("bench", readMeasure)])]
    words

end Tandem.Command
