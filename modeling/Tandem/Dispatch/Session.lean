import Tandem.Dispatch.Handle

/-! # Sessions

A session keeps several class tables, one of which is current, and any number of
handles. Steps change the current table, ask it questions, switch between
tables, and make, copy, assign and call handles.
-/

namespace Tandem.Dispatch

open Output

/-- Class tables and handles, each known by its number. -/
structure Session where
  tables : Array ClassTable
  current : Nat
  handles : Array Handle := #[]
  current_lt : current < tables.size

namespace Session

/-- Something to do in a session. Calls name the sink that they write to. -/
inductive Step where
  | declare (declaration : ClassTable.Declaration)
  | ask (query : Query)
  /-- Add a copy of the current table, which stays current. -/
  | copyTable
  | useTable (number : Nat)
  | describe (subject : Class)
  | callClass (runtime : Class) (argument : Int32) (sink : Sink)
  | newHandle (name : String) (declared : Class)
  | copyHandle (number : Nat)
  | assign (number : Nat) (object : Object)
  | call (number : Nat) (argument : Int32) (sink : Sink)
  | listHandles

/-- What a step answers. A call that does not end has no result. -/
inductive Answer where
  | reply (reply : Reply)
  | number (number : Nat)
  | described (subject : Class)
  | wrote (result : Option (Except Output.Error Unit)) (sink : Sink)
  | handle (handle : Handle)
  | assigned (result : Except Error Unit) (handle : Handle)
  | called (result : Option (Except Error Unit)) (sink : Sink)
  | handles (handles : List Handle)

/-- A session with one table. -/
def start (table : ClassTable) : Session where
  tables := #[table]
  current := 0
  current_lt := by simp

/-- The current table. -/
def table (session : Session) : ClassTable :=
  have := session.current_lt
  session.tables[session.current]

/-- Change the current table. -/
def setTable (session : Session) (table : ClassTable) : Session where
  tables := session.tables.set session.current table session.current_lt
  current := session.current
  handles := session.handles
  current_lt := by simpa using session.current_lt

/-- Add a table behind the others. -/
def addTable (session : Session) (table : ClassTable) : Session where
  tables := session.tables.push table
  current := session.current
  handles := session.handles
  current_lt := by have := session.current_lt; simp; omega

/-- Add a handle behind the others. -/
def addHandle (session : Session) (handle : Handle) : Session :=
  { session with handles := session.handles.push handle }

/-- The session after a step and the step's answer, unless the step names a table
or handle that is not there. -/
def step? (session : Session) : Step → Option (Session × Answer)
  | .declare declaration =>
    let table := session.table.declare declaration
    some (session.setTable table, .reply (table.answer declaration.query))
  | .ask query => some (session, .reply (session.table.answer query))
  | .copyTable => some (session.addTable session.table, .number session.tables.size)
  | .useTable number =>
    if valid : number < session.tables.size then
      some ({ session with current := number, current_lt := valid }, .number number)
    else none
  | .describe subject => some (session, .described subject)
  | .callClass runtime argument sink =>
    let (result, console) := (runtime.call argument).on { sink }
    some (session, .wrote result console.sink)
  | .newHandle name declared =>
    let handle : Handle := { name, declared }
    some (session.addHandle handle, .handle handle)
  | .copyHandle number => do
    let handle ← session.handles[number]?
    return (session.addHandle handle, .handle handle)
  | .assign number object => do
    let handle ← session.handles[number]?
    match handle.assign object session.table with
    | .ok assigned =>
      let handles := session.handles.setIfInBounds number assigned
      return ({ session with handles }, .assigned (.ok ()) assigned)
    | .error error => return (session, .assigned (.error error) handle)
  | .call number argument sink => do
    let handle ← session.handles[number]?
    let (result, console) := (handle.call argument).on { sink }
    return (session, .called result console.sink)
  | .listHandles => some (session, .handles session.handles.toList)

/-- The session after several steps and their answers. -/
def run? (session : Session) : List Step → Option (Session × List Answer)
  | [] => some (session, [])
  | step :: rest => do
    let (next, answer) ← session.step? step
    let (last, answers) ← run? next rest
    return (last, answer :: answers)

end Session

end Tandem.Dispatch
