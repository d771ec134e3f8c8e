import Tandem.Log.Filter
import Tandem.Output.Sink

/-! # Steps that write

A step works on a console: the sink for results and the notes made on the side.
It may end early with a failure, or not end at all if its sink is interrupted for
ever, and what was written and noted until then stays.
-/

namespace Tandem.Output

/-- Something put on the side of the results. -/
inductive Note where
  /-- A log entry, shown if the log filter admits it. -/
  | entry (entry : Log.Entry)
  /-- A line that is always shown. -/
  | line (text : String)

/-- Where a step writes. -/
structure Console where
  sink : Sink := {}
  notes : Array Note := #[]

/-- A step that writes and that may end with a failure, or not at all. -/
abbrev Writing (ε : Type) := ExceptT ε (OptionT (StateM Console))

/-- Run a step on a console. A step that does not end has no result. -/
def Writing.on {ε α : Type} (step : Writing ε α) (console : Console) :
    Option (Except ε α) × Console :=
  step.run.run.run console

namespace Writing

variable {ε ε' α β : Type}

/-- A step after another one runs if that one ends without a failure. -/
theorem on_bind (step : Writing ε α) (next : α → Writing ε β) (console : Console) :
    (step >>= next).on console =
      match step.on console with
      | (some (.ok value), later) => (next value).on later
      | (some (.error error), later) => (some (.error error), later)
      | (none, later) => (none, later) := by
  unfold on
  rw [ExceptT.run_bind, OptionT.run_bind, Option.elimM, StateT.run_bind]
  rcases step.run.run.run console with ⟨_ | (error | value), later⟩
  · rfl
  · rfl
  · rfl

/-- Failures can be renamed without changing anything else. -/
theorem on_adapt (step : Writing ε α) (wrap : ε → ε') (console : Console) :
    Writing.on (ExceptT.adapt wrap step) console =
      ((step.on console).1.map (Except.mapError wrap), (step.on console).2) := by
  unfold on
  rw [ExceptT.run_adapt, OptionT.run_map, StateT.run_map]
  rfl

/-- A failure that is caught goes on with what is made of it. -/
theorem on_tryCatch (step : Writing ε α) (handle : ε → Writing ε α) (console : Console) :
    Writing.on (tryCatch step handle) console =
      match step.on console with
      | (some (.error error), later) => (handle error).on later
      | (result, later) => (result, later) := by
  unfold on
  rw [ExceptT.run_tryCatch, OptionT.run_bind, Option.elimM, StateT.run_bind]
  rcases step.run.run.run console with ⟨_ | (error | value), later⟩
  · rfl
  · rfl
  · rfl

end Writing

/-- Write a text to the sink. -/
def write (text : String) : Writing Error Unit :=
  fun console =>
    let (result, sink) := console.sink.write (bytes text)
    (result, { console with sink })

/-- Write a text and end the line. -/
def writeLine (text : String) : Writing Error Unit :=
  write (text ++ "\n")

/-- Make a note. -/
def note {ε : Type} (note : Note) : Writing ε Unit :=
  fun console => (some (.ok ()), { console with notes := console.notes.push note })

/-- Make a note of a log entry. -/
def log {ε : Type} (entry : Log.Entry) : Writing ε Unit :=
  note (.entry entry)

/-- The lines of a console's notes that a log filter lets through. -/
def Console.shown (console : Console) (filter : Log.Filter) : List String :=
  console.notes.toList.filterMap fun
    | .entry entry => if filter.admits entry then some entry.line else none
    | .line text => some text

end Tandem.Output
