/-! # Log entries

What the program tells about its own work, and how one entry is written on a
line.
-/

namespace Tandem.Log

/-- How much an entry matters, most important first. -/
inductive Level where
  | error
  | warn
  | info
  | debug
  | trace

/-- A level's place, counted from the most important. -/
def Level.rank : Level → Nat
  | error => 1
  | warn => 2
  | info => 3
  | debug => 4
  | trace => 5

/-- A level's name, right-aligned in five columns. -/
def Level.label : Level → String
  | error => "ERROR"
  | warn => " WARN"
  | info => " INFO"
  | debug => "DEBUG"
  | trace => "TRACE"

/-- The part of the program that an entry comes from. -/
inductive Source where
  | commandLine
  | sorting
  | quicksort
  | classes
  | program

/-- The path by which a part of the program is known to log filters. -/
def Source.path : Source → String
  | commandLine => "duet"
  | sorting => "duet_sort"
  | quicksort => "duet_sort::orst::sorters::lomuto"
  | classes => "duet_dispatch::class"
  | program => "duet_dispatch::program"

/-- One thing told about the program's work. -/
structure Entry where
  level : Level
  source : Source
  message : String
  /-- Names and values, in the order they are written. -/
  fields : List (String × String) := []

/-- Whether an entry has a field. Its message counts as one. -/
def Entry.hasField (entry : Entry) (name : String) : Bool :=
  name == "message" || entry.fields.any fun (given, _) => given == name

/-- The line an entry is written on. -/
def Entry.line (entry : Entry) : String :=
  let fields := entry.fields.map fun (name, value) => " " ++ name ++ "=" ++ value
  entry.level.label ++ " " ++ entry.source.path ++ ": " ++ entry.message ++ String.join fields

end Tandem.Log
