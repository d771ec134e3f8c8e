import Tandem.Dispatch.Program
import Tandem.Proofs.Dispatch.Ancestry
import Tandem.Proofs.Dispatch.Definition
import Tandem.Proofs.Dispatch.MethodTable
import Tandem.Proofs.Output.Emission

/-! # Calls run the definition that resolution finds

A call writes the name of its object's own class, whatever the class table says. The table
agrees all the same: each of the three classes defines the method called, no declaration
takes that away, and a class comes first in its own ancestry, on a cycle too. So resolution
always finds the class whose method runs
(`Tandem.Dispatch.Handle.call_runs_resolved`).
-/

namespace Tandem.Dispatch

open Output

namespace ClassTable

/-- A class that defines a method uses its own definition. -/
theorem resolve_eq_self {table : ClassTable} {name method : String}
    (defined : method ∈ table.ownMethods name) : table.resolve name method = some name := by
  obtain ⟨above, chain⟩ := table.exists_ancestry_eq_cons name
  exact resolve_eq_some_iff.mpr ⟨[], above, chain, defined, nofun⟩

/-- Each of the three classes defines the method. -/
theorem method_mem_ownMethods_demo (declared : Class) :
    Class.method ∈ demo.ownMethods declared.name := by
  unfold demo
  rw [ownMethods_declareAll]
  cases declared <;> decide

end ClassTable

/-- The method of a class writes the name of the class. -/
theorem Class.call_emits (runtime : Class) (argument : Int32) :
    Emits (runtime.call argument) id (runtime.name ++ "\n") (.ok ()) := by
  rw [call_eq]
  exact (Emits.log _ id).after (Emits.writeLine runtime.name)

namespace Handle

/-- Calling a handle that holds an object runs the method of the object's class. -/
theorem call_emits_of_some {handle : Handle} {object : Object}
    (holds : handle.referent = some object) (argument : Int32) :
    Emits (handle.call argument) .output (object.runtime.name ++ "\n") (.ok ()) := by
  unfold call
  rw [holds]
  exact (Emits.log _ _).after ((object.runtime.call_emits argument).adapt Error.output)

/-- Calling a handle that holds nothing writes nothing. -/
theorem call_emits_of_none {handle : Handle} (holds : handle.referent = none)
    (argument : Int32) :
    Emits (handle.call argument) .output "" (.error (.operationOnNone handle.name)) := by
  unfold call
  rw [holds]
  exact (Emits.log _ _).after (Emits.throw _ _)

/-- **Calls run the definition that resolution finds.** Whatever is declared after the three
classes, calling a handle that holds an object writes the name of the class that the
object's class resolves the method to, and a line end; and the row that explains the handle
names that class. -/
theorem call_runs_resolved (declarations : List ClassTable.Declaration) (handle : Handle)
    {object : Object} (holds : handle.referent = some object) (argument : Int32) :
    ∃ owner,
      (ClassTable.demo.declareAll declarations).resolve object.runtime.name Class.method =
          some owner ∧
        Writes (handle.call argument) .output (owner ++ "\n") (.ok ()) ∧
        ∀ colour, Program.handleRow (ClassTable.demo.declareAll declarations) colour handle =
          [[handle.name], [handle.declared.name], [object.runtime.name],
            [owner ++ "." ++ Class.method]] := by
  have resolved :=
    ClassTable.resolve_eq_self (ClassTable.mem_ownMethods_declareAll
      (ClassTable.method_mem_ownMethods_demo object.runtime) declarations)
  refine ⟨object.runtime.name, resolved, (call_emits_of_some holds argument).writes, ?_⟩
  intro colour
  unfold Program.handleRow
  rw [holds]
  simp only [resolved]
  rfl

/-- On a cycle through all three classes, a handle declared with the last one runs the method
of the first. -/
theorem call_runs_resolved_cycle :
    (ClassTable.demo.declareAll [.extend "A" "C"]).resolve "A" "call" = some "A" ∧
      (((⟨"h", .c, some ⟨.a⟩⟩ : Handle).call 7).on {}).1 = some (.ok ()) ∧
      (((⟨"h", .c, some ⟨.a⟩⟩ : Handle).call 7).on {}).2.sink.taken.toList = [65, 10] ∧
      (((⟨"h", .c, some ⟨.a⟩⟩ : Handle).call 7).on {}).2.sink.text? = some "A\n" := by
  obtain ⟨owner, resolved, writes, -⟩ :=
    call_runs_resolved [.extend "A" "C"] ⟨"h", .c, some ⟨.a⟩⟩ rfl 7
  have own : (ClassTable.demo.declareAll [.extend "A" "C"]).resolve "A" "call" = some "A" := by cbv
  cases own.symm.trans resolved
  obtain ⟨ended, taken, shown⟩ := writes.unlimited
  exact ⟨own, ended, taken.trans (by decide +kernel), shown⟩

end Handle

end Tandem.Dispatch
