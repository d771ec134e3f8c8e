import Tandem.Dispatch.Handle
import Tandem.Output.Grid

/-! # The dispatch demonstration

Handles that are all declared with the topmost class, of which the first three
hold an object of each class and the last one holds nothing. Running the
demonstration calls them one by one; explaining it shows which method each call
runs and how the method tables lead there.
-/

namespace Tandem.Dispatch

open Integer Output

/-- A class table and some handles. -/
structure Program where
  table : ClassTable
  handles : List Handle

namespace Program

/-- The handles of the demonstration, before any of them holds an object. -/
def emptyHandles : List Handle :=
  ["a", "b", "c", "d"].map fun name => { name, declared := .a }

/-- Assign objects to handles in turn; handles beyond the last object stay as they
are. -/
def assignAll (table : ClassTable) : List Handle → List Object → Except Error (List Handle)
  | handle :: handles, object :: objects => do
    let assigned ← handle.assign object table
    let later ← assignAll table handles objects
    return assigned :: later
  | handles, _ => return handles

/-- The demonstration. -/
def demo : Except Error Program := do
  let handles ← assignAll .demo emptyHandles (Class.all.map Object.mk)
  return { table := .demo, handles }

/-- Call every handle in order, up to the first failure. -/
def run (program : Program) (argument : Int32) : Writing Error Unit := do
  log {
    level := .info
    source := .program
    message := "running dispatch demo"
    fields := [("handles", Decimal.ofNat program.handles.length),
      ("x", Decimal.ofInt argument.toInt)] }
  program.handles.forM fun handle => handle.call argument

/-- The row of a handle: its name, its declared class, the class of its object, and
the method a call runs. -/
def handleRow (table : ClassTable) (colour : Bool) (handle : Handle) : List Grid.Cell :=
  let reached :=
    match handle.referent with
    | some object =>
      let runtime := object.runtime.name
      let owner := table.resolve runtime Class.method
      [[runtime], [owner.elim "-" fun owner => owner ++ "." ++ Class.method]]
    | none => [[Style.bad.paint colour "None"], [Style.bad.paint colour "Operation on None"]]
  [[handle.name], [handle.declared.name]] ++ reached

/-- One line for each slot: its number, its method, and the definition in it. -/
def slotLines (slots : List Slot) : Grid.Cell :=
  slots.zipIdx.map fun (slot, number) =>
    Decimal.ofNat number ++ ": " ++ slot.method ++ " => " ++ slot.owner ++ "." ++ slot.method

/-- The row of a class: its name, its ancestry and its method table. -/
def classRow (table : ClassTable) (declared : Class) : List Grid.Cell :=
  [[declared.name], [" -> ".intercalate (table.ancestry declared.name)],
   slotLines (table.methodTable declared.name)]

/-- A row of headings. -/
def headings (colour : Bool) (titles : List String) : List Grid.Cell :=
  titles.map fun title => [Style.strong.paint colour title]

/-- The lines that explain the demonstration. -/
def explanation (program : Program) (colour : Bool) : List String :=
  let handles := headings colour ["Handle", "Declared", "Runtime", "Runs"] ::
    program.handles.map (handleRow program.table colour)
  let classes := headings colour ["Class", "Ancestry", "Slots"] ::
    Class.all.map (classRow program.table)
  [Style.heading.paint colour "Handles"] ++ Grid.lines handles ++ [""] ++
    [Style.heading.paint colour "Method Tables"] ++ Grid.lines classes

/-- Write which method each handle reaches and the method table of every class. -/
def explain (program : Program) (colour : Bool) : Writing Error Unit :=
  ExceptT.adapt .output ((program.explanation colour).forM writeLine)

end Program

end Tandem.Dispatch
