import Tandem.Command.Failure
import Tandem.Command.Invocation
import Tandem.Dispatch.Program
import Tandem.Sorting.Benchmark
import Tandem.Sorting.Demo

/-! # Running the program

What the program makes of its words: what it writes, what it tells on the side, and the
status it ends with.
-/

namespace Tandem.Command

open Integer Output

/-- The forms of the command line. -/
def usage : String :=
  "Usage: duet [-v]... dispatch run [-a <ARG>]\n" ++
  "       duet [-v]... dispatch explain\n" ++
  "       duet [-v]... sort run [-i <INPUT>]... [--progress]\n" ++
  "       duet [-v]... sort bench [-m <MAX_SIZE>]"

/-- What is said when a command line names nothing to do, without the last line end. -/
def Stop.message : Stop → String
  | help | nothingGiven => usage
  | version => "duet 0.1.0"
  | missingSubcommand => "error: a subcommand is required but none was given\n\n" ++ usage
  | unknownSubcommand => "error: unrecognized subcommand\n\n" ++ usage
  | unknownArgument => "error: unexpected argument\n\n" ++ usage
  | missingValue => "error: a value is required but none was given\n\n" ++ usage
  | invalidValue => "error: invalid value\n\n" ++ usage
  | repeatedArgument => "error: an argument cannot be used multiple times\n\n" ++ usage
  | unexpectedValue => "error: unexpected value\n\n" ++ usage

/-- The filter for log entries: the setting, if there is one and it is well formed, or
else the one that the requests for more detail ask for. There is none if the setting
cannot be taken apart. -/
def Invocation.filter? (invocation : Invocation) (setting : Option String) :
    Option Log.Filter :=
  match setting.map Log.Filter.read with
  | some (.ok filter) => some filter
  | some (.error .splitCharacter) => none
  | some (.error .malformed) | none => some (.ofVerbosity invocation.verbosity)

/-- Fail for the reason that a call or an assignment fails. -/
def dispatching {α : Type} (step : Writing Dispatch.Error α) : Writing Failure α :=
  ExceptT.adapt (fun error => { cause := .dispatch error }) step

/-- The steps of a demonstration. -/
def Demonstration.steps (colour : Bool) : Demonstration → Writing Failure Unit
  | .callHandles argument =>
    dispatching do (← liftExcept Dispatch.Program.demo).run argument
  | .explainHandles =>
    dispatching do (← liftExcept Dispatch.Program.demo).explain colour
  | .sortList input _ => do
    let items := (input.map List.toArray).getD Sorting.sample
    log {
      level := .info
      source := .sorting
      message := "sorting list"
      fields := [("len", Decimal.ofNat items.size)] }
    ExceptT.adapt
      (fun error => Failure.within "Unable to print the sorted list" { cause := .output error })
      (Sorting.endOfOutput (Sorting.demonstrate items))

/-- How a run of the program ends: its status, the sink it wrote to, and the lines
it showed on the side. -/
structure Outcome where
  exitCode : UInt8
  sink : Sink
  shown : List String

/-- The notes made about a failure. -/
def Failure.notes (failure : Failure) : Array Note :=
  #[.line ("Error: " ++ failure.shown),
    .entry {
      level := .debug
      source := .commandLine
      message := "exiting after error"
      fields := [("code", Decimal.ofNat failure.exitCode.toNat)] }]

/-- The status of a program that cannot go on. -/
def abortCode : UInt8 := 101

/-- How the program ends if the setting for its log cannot be taken apart. -/
def Outcome.aborted (sink : Sink) : Outcome :=
  ⟨abortCode, sink, ["the log filter cannot be cut inside a character"]⟩

/-- The sizes at which the sort is measured up to a greatest one, with a table for each
on the sink. A sink that refuses the title of a table ends the program. -/
def sizesShown? (sink : Sink) (maxSize : UInt64) : Option (List Nat) :=
  let sizes := Sorting.sizesUpTo maxSize.toNat
  let titles := sizes.map fun size => Sorting.Measurement.title size ++ "\n"
  match (sink.write (bytes (String.join titles))).1 with
  | some (.ok ()) => some sizes
  | some (.error _) | none => none

/-- What the program finds besides its words: the setting for its log, and whether to
write in colour. -/
structure Surroundings where
  setting : Option String := none
  colour : Bool := false

/-- Where the program's words lead. -/
inductive Course where
  /-- The program ends. -/
  | ended (outcome : Outcome)
  /-- It measures the sort up to a greatest size, which takes a clock and random words. -/
  | measuring (maxSize : UInt64)
  /-- It never gets done with writing to its sink. -/
  | stuck (sink : Sink)

namespace Course

/-- Say why there is nothing to run: on the sink if that was asked for, or else on the
side. A sink that refuses the text changes nothing about the status. -/
def ofStop (stop : Stop) (sink : Sink) : Course :=
  if stop.exitCode = 0 then
    match sink.write (bytes (stop.message ++ "\n")) with
    | (some _, sink) => .ended ⟨0, sink, []⟩
    | (none, sink) => .stuck sink
  else .ended ⟨stop.exitCode, sink, [stop.message]⟩

/-- Run steps on a sink. -/
def ofSteps (steps : Writing Failure Unit) (sink : Sink) (filter : Log.Filter) : Course :=
  match steps.on { sink } with
  | (some (.ok ()), console) => .ended ⟨0, console.sink, console.shown filter⟩
  | (some (.error failure), console) =>
    let console := { console with notes := console.notes ++ failure.notes }
    .ended ⟨failure.exitCode, console.sink, console.shown filter⟩
  | (none, console) => .stuck console.sink

/-- Run what an invocation asks for. -/
def ofInvocation (surroundings : Surroundings) (invocation : Invocation) (sink : Sink) : Course :=
  match invocation.filter? surroundings.setting, invocation.task with
  | none, _ => .ended (.aborted sink)
  | some _, .measure maxSize => .measuring maxSize
  | some filter, .demonstrate demonstration =>
    ofSteps (demonstration.steps surroundings.colour) sink filter

/-- Run the program on its words. -/
def ofWords (surroundings : Surroundings) (words : List String) (sink : Sink) : Course :=
  match Invocation.read words with
  | .error stop => ofStop stop sink
  | .ok invocation => ofInvocation surroundings invocation sink

/-- The outcome of a course that ends. -/
def outcome? : Course → Option Outcome
  | ended outcome => some outcome
  | measuring _ | stuck _ => none

end Course

end Tandem.Command
