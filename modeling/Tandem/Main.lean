import Tandem.Command.Outcome
import Tandem.Output.Grid

/-! # The command line

Reads the arguments and the environment, runs what they ask for, and writes what
comes out of it.
-/

namespace Tandem.Command

open Output Sorting

/-- The environment variable that sets the log filter. -/
def logVariable : String := "RUST_LOG"

/-- Whether to write in colour: on a terminal, unless the environment forbids it. -/
def colourWanted : IO Bool := do
  if (← IO.getEnv "NO_COLOR").isSome then return false
  (← IO.getStdout).isTty

/-- Write lines on the side. -/
def tell (lines : List String) : IO Unit := do
  let stderr ← IO.getStderr
  for line in lines do stderr.putStrLn line

/-- An error of the system by its description and number. -/
def systemText (details : String) (code : UInt32) : String :=
  details ++ " (os error " ++ Integer.Decimal.ofNat code.toNat ++ ")"

/-- The failure of an output that an error of the system amounts to. -/
def systemFailure (error : IO.Error) : Output.Error :=
  match error with
  | .resourceVanished code details => ⟨.brokenPipe, systemText details code⟩
  | .resourceExhausted _ code details => ⟨.storageFull, systemText details code⟩
  | .permissionDenied _ code details => ⟨.permissionDenied, systemText details code⟩
  | _ => ⟨.other, toString error⟩

/-- Write an outcome. If its output is refused, it is what the same course comes to on
a sink that refuses everything. -/
def present (course : Sink → Course) (outcome : Outcome) : IO UInt32 := do
  let outcome ←
    try
      let stdout ← IO.getStdout
      stdout.write ⟨outcome.sink.taken⟩
      stdout.flush
      pure outcome
    catch error =>
      let refusing : Sink :=
        { allowance := { bytes := some 0 }, refusal := .fails (systemFailure error) }
      pure ((course refusing).outcome?.getD outcome)
  tell outcome.shown
  return outcome.exitCode.toUInt32

/-- Random words. -/
def drawWords : (count : Nat) → IO (Array UInt32)
  | 0 => return #[]
  | count + 1 => do
    let words ← drawWords count
    return words.push (UInt32.ofNat (← IO.rand 0 (2 ^ 32 - 1)))

/-- Measure an input of one kind and size, and give its row. -/
def measureRow (colour : Bool) (size : Nat) (kind : InputKind) : IO (List Grid.Cell) := do
  let words ← drawWords (kind.wordsTaken size)
  let start ← IO.monoNanosNow
  let measurement ← IO.lazyPure fun _ => measure kind size fun index => words.getD index 0
  let stop ← IO.monoNanosNow
  let cells := measurement.cells (elapsedText (stop - start))
  let style := if measurement.verified then Style.good else Style.bad
  return (cells.dropLast ++ cells.getLast?.toList.map (style.paint colour)).map fun cell => [cell]

/-- Measure inputs of every kind at one size. -/
def measureSize (colour : Bool) (size : Nat) : IO Unit := do
  let heading := Measurement.headings.map fun title => [Style.strong.paint colour title]
  let rows ← InputKind.all.mapM (measureRow colour size)
  IO.println (Style.heading.paint colour (Measurement.title size))
  for line in Grid.lines (heading :: rows) do IO.println line
  IO.println ""

/-- Measure inputs at all sizes up to a greatest one. If the output is refused, the
program cannot go on. -/
def measureAll (colour : Bool) (maxSize : UInt64) : IO UInt32 := do
  try
    for size in sizesUpTo maxSize.toNat do measureSize colour size
    (← IO.getStdout).flush
    return 0
  catch error =>
    tell [(systemFailure error).text]
    return abortCode.toUInt32

/-- Run the program on its arguments, and give the status it ends with. -/
def runArguments (arguments : List String) : IO UInt32 := do
  let surroundings : Surroundings :=
    { setting := ← IO.getEnv logVariable, colour := ← colourWanted }
  let course := Course.ofWords surroundings arguments
  match course {} with
  | .ended outcome => present course outcome
  | .measuring maxSize => measureAll surroundings.colour maxSize
  -- A sink without limits refuses nothing, so this does not occur.
  | .stuck _ => return abortCode.toUInt32

end Tandem.Command

/-- Run the program on its arguments. -/
def main (arguments : List String) : IO UInt32 :=
  Tandem.Command.runArguments arguments
