import Tandem.Dispatch.Handle

/-! # Why the program fails

A failure has a cause and the contexts that were put around it on its way out.
It is shown as one line, the outermost context first.
-/

namespace Tandem.Command

/-- What went wrong at the bottom of a failure. -/
inductive Cause where
  | dispatch (error : Dispatch.Error)
  | output (error : Output.Error)
  | message (text : String)

/-- What is said about a cause, and then about what lies beneath it. -/
def Cause.chain : Cause → List String
  | dispatch error =>
    match error with
    | .output beneath => [error.message, beneath.text]
    | .operationOnNone _ | .notConforming .. => [error.message]
  | output error => [error.text]
  | message text => [text]

/-- A cause and its contexts, outermost first. -/
structure Failure where
  cause : Cause
  contexts : List String := []

namespace Failure

/-- Put a context around a failure. -/
def within (context : String) (failure : Failure) : Failure :=
  { failure with contexts := context :: failure.contexts }

/-- The line that shows a failure. -/
def shown (failure : Failure) : String :=
  ": ".intercalate (failure.contexts ++ failure.cause.chain)

/-- The status with which the program ends: that of a failed call or assignment
under any contexts, and one for every other cause. -/
def exitCode (failure : Failure) : UInt8 :=
  match failure.cause with
  | .dispatch error => error.exitCode
  | .output _ | .message _ => 1

end Failure

end Tandem.Command
