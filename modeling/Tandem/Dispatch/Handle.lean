import Tandem.Dispatch.ClassTable
import Tandem.Integer.Decimal
import Tandem.Output.Console

/-! # Objects and the handles that hold them

Three classes, each below the one before, all define the method `call`, which
writes the name of its class. A handle is declared with a class and holds an
object of a class that conforms to it, or nothing. Calling a handle runs the
method of the object's own class, whatever the handle is declared as. A call fails
if the handle holds nothing or the output is refused, and an assignment if the
classes do not conform.
-/

namespace Tandem.Dispatch

open Integer Output

/-- Why a call or an assignment failed. -/
inductive Error where
  /-- The handle called holds nothing. -/
  | operationOnNone (handle : String)
  /-- The object's class does not conform to the class the handle is declared as. -/
  | notConforming (handle declared runtime : String)
  /-- The output of a call could not be written. -/
  | output (error : Output.Error)

namespace Error

/-- What is said about a failure. -/
def message : Error → String
  | operationOnNone _ => "Operation on None"
  | notConforming handle declared runtime =>
    "Cannot assign an object of class `" ++ runtime ++ "` to `" ++ handle ++
      "` declared as `" ++ declared ++ "`"
  | output _ => "Unable to write the output of a call"

/-- The status with which a program ends after a failure. -/
def exitCode : Error → UInt8
  | operationOnNone _ => 4
  | notConforming .. | output _ => 1

end Error

/-- The classes that objects are made of. -/
inductive Class where
  | a
  | b
  | c
deriving DecidableEq

namespace Class

/-- The classes from the top down. -/
def all : List Class := [a, b, c]

/-- The name of a class. -/
def name : Class → String
  | a => "A"
  | b => "B"
  | c => "C"

/-- The name of the class above. -/
def superclassName : Class → String
  | a => root
  | b => "A"
  | c => "B"

/-- The method that every class defines. -/
def method : String := "call"

/-- The log entry of a method that runs. -/
def running (message : String) (argument : Int32) : Log.Entry where
  level := .debug
  source := .classes
  message := message
  fields := [("x", Decimal.ofInt argument.toInt)]

/-- Run the method of a class. The argument makes no difference to what is written. -/
def call (runtime : Class) (argument : Int32) : Writing Output.Error Unit :=
  match runtime with
  | a => do
    log (running "A.call" argument)
    writeLine "A"
  | b => do
    log (running "B.call" argument)
    writeLine "B"
  | c => do
    log (running "C.call" argument)
    writeLine "C"

/-- Each class logs its method under its name and writes its name. -/
theorem call_eq (runtime : Class) (argument : Int32) :
    runtime.call argument = (do
      log (running (runtime.name ++ "." ++ method) argument)
      writeLine runtime.name) := by
  cases runtime
  · rfl
  · rfl
  · rfl

end Class

/-- What a class declares: the class above it and its method. -/
def Class.declarations (declared : Class) : List ClassTable.Declaration :=
  [.extend declared.name declared.superclassName, .define declared.name method]

/-- The class table of these classes. -/
def ClassTable.demo : ClassTable :=
  ({} : ClassTable).declareAll (Class.all.flatMap Class.declarations)

/-- An object is told apart by its class only. -/
structure Object where
  runtime : Class
deriving DecidableEq

/-- A named place for objects of a declared class. -/
structure Handle where
  name : String
  declared : Class
  referent : Option Object := none

namespace Handle

/-- Let a handle hold an object, if the object's class conforms to the declared one. -/
def assign (handle : Handle) (object : Object) (table : ClassTable) : Except Error Handle :=
  if table.conforms object.runtime.name handle.declared.name then
    .ok { handle with referent := some object }
  else
    .error (.notConforming handle.name handle.declared.name object.runtime.name)

/-- Run the method of the object that a handle holds. -/
def call (handle : Handle) (argument : Int32) : Writing Error Unit := do
  match handle.referent with
  | some object =>
    log {
      level := .debug
      source := .classes
      message := "dispatching " ++ Class.method
      fields := [("handle", handle.name), ("declared", handle.declared.name),
        ("runtime", object.runtime.name)] }
    ExceptT.adapt .output (object.runtime.call argument)
  | none =>
    log {
      level := .debug
      source := .classes
      message := Class.method ++ " on None"
      fields := [("handle", handle.name)] }
    throw (.operationOnNone handle.name)

end Handle

end Tandem.Dispatch
