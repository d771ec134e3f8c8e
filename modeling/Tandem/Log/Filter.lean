import Tandem.Log.Directive

/-! # Choosing which log entries to write

A filter is a list of directives. For one entry, the directive with the narrowest
scope among those that cover it decides. An entry that no directive covers is not
written.
-/

namespace Tandem.Log

/-- Directives; where two have the same scope, the later one holds. -/
abbrev Filter := List Directive

namespace Filter

/-- The directive that decides about an entry. -/
def deciding? (filter : Filter) (entry : Entry) : Option Directive :=
  filter.foldl (fun best directive =>
    if directive.scope.covers entry &&
        best.all fun other => other.scope.yieldsTo directive.scope then
      some directive
    else best) none

/-- Whether an entry is written. -/
def admits (filter : Filter) (entry : Entry) : Bool :=
  (filter.deciding? entry).any fun directive => directive.threshold.admits entry.level

/-- One threshold for every entry. -/
def uniform (level : Level) : Filter :=
  [{ scope := .everything, threshold := some level }]

/-- Read directives between commas. Without any, only errors are written. -/
def read (text : String) : Except Fault Filter := do
  let parts := (Text.parts ',' text.toList).filter fun part => !part.isEmpty
  let directives ← parts.mapM Directive.read
  return if directives.isEmpty then uniform .error else directives

/-- The filter that a number of requests for more detail stands for. -/
def ofVerbosity : Nat → Filter
  | 0 => uniform .warn
  | 1 => uniform .info
  | 2 => uniform .debug
  | _ => uniform .trace

end Filter

end Tandem.Log
