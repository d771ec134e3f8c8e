/-! # Outputs that may refuse

A sink takes bytes one after the other for as long as its allowance lasts, and
refuses the first byte beyond it. What it has taken by then stays. An attempt
that is interrupted is made again, so a sink that is interrupted at every
attempt keeps its writer for ever.
-/

namespace Tandem.Output

/-- Why an attempt to write fails. An interruption is never reported, and a reader that
went away may count as success; nothing else depends on the kind. No kind is left out:
those that have no name of their own here are `unlisted`. -/
inductive ErrorKind where
  | notFound
  | permissionDenied
  | connectionRefused
  | connectionReset
  | connectionAborted
  | notConnected
  | brokenPipe
  | alreadyExists
  | wouldBlock
  | invalidInput
  | invalidData
  | timedOut
  | writeZero
  | unexpectedEnd
  | storageFull
  | unsupported
  | outOfMemory
  | other
  /-- The attempt was interrupted. It is made again and never reported. -/
  | interrupted
  /-- Any further kind, by its name. -/
  | unlisted (name : String)
deriving DecidableEq

/-- A failure of an output, with its description. -/
structure Error where
  kind : ErrorKind
  text : String

/-- How a sink refuses a byte, at every attempt. -/
inductive Refusal where
  /-- It reports a failure. -/
  | fails (error : Error)
  /-- It reports that it took nothing. -/
  | takesNothing

/-- The failure that a refusal amounts to. -/
def Refusal.error : Refusal → Error
  | fails error => error
  | takesNothing => ⟨.writeZero, "failed to write whole buffer"⟩

/-- How writing ends at a refused byte: with the failure, or not at all if each
attempt is interrupted. -/
def Refusal.ending (refusal : Refusal) : Option (Except Error Unit) :=
  if refusal.error.kind = .interrupted then none else some (.error refusal.error)

/-- How much a sink still takes: a number of bytes, a number of lines, both or
neither. -/
structure Allowance where
  bytes : Option Nat := none
  lines : Option Nat := none

/-- The byte that ends a line. -/
def lineEnd : UInt8 := 10

namespace Allowance

/-- Whether there is room for one more byte. -/
def hasRoom (allowance : Allowance) : Bool :=
  allowance.bytes != some 0 && allowance.lines != some 0

/-- What is left after a byte. -/
def spend (allowance : Allowance) (byte : UInt8) : Allowance where
  bytes := allowance.bytes.map (· - 1)
  lines := if byte = lineEnd then allowance.lines.map (· - 1) else allowance.lines

end Allowance

/-- An output with what it has taken, what it still takes and how it refuses. -/
structure Sink where
  taken : Array UInt8 := #[]
  allowance : Allowance := {}
  refusal : Refusal := .takesNothing

namespace Sink

/-- Take one byte. -/
def take (sink : Sink) (byte : UInt8) : Sink :=
  { sink with taken := sink.taken.push byte, allowance := sink.allowance.spend byte }

/-- Give a sink bytes, up to the first one it refuses. There is no result if that
one is tried again for ever. -/
def write (sink : Sink) : List UInt8 → Option (Except Error Unit) × Sink
  | [] => (some (.ok ()), sink)
  | byte :: rest =>
    if sink.allowance.hasRoom then (sink.take byte).write rest else (sink.refusal.ending, sink)

/-- The bytes taken so far as text, if they do not end inside a character. -/
def text? (sink : Sink) : Option String :=
  String.fromUTF8? ⟨sink.taken⟩

end Sink

/-- The bytes of a text. -/
def bytes (text : String) : List UInt8 :=
  text.toUTF8.data.toList

end Tandem.Output
