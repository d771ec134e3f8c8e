import Tandem.Proofs.Dispatch.Override
import Tandem.Proofs.Sorting.Demonstration

/-! # Outputs with limits

Calling classes and handles, running and explaining the dispatch demonstration, and the
sorting demonstration all write to a sink that may refuse. Each of them writes what the sink
admits of the text it writes without limits, and fails at the first byte that is refused,
also where it would fail for a reason of its own further on
(`Tandem.Output.outputs_end_at_first_refusal`).
-/

namespace Tandem.Dispatch

open Output

namespace Program

/-- The classes of the objects that handles hold, up to the first handle that holds none. -/
def labels (handles : List Handle) : List String :=
  ((handles.takeWhile fun handle => handle.referent.isSome).filterMap Handle.referent).map
    fun object => object.runtime.name

/-- How calling handles in order ends: at the first one that holds nothing, if there is one. -/
def ending (handles : List Handle) : Except Error Unit :=
  match handles.find? fun handle => handle.referent.isNone with
  | some handle => .error (.operationOnNone handle.name)
  | none => .ok ()

/-- A handle that holds nothing ends the labels. -/
theorem labels_cons_of_none {handle : Handle} (holds : handle.referent = none)
    (rest : List Handle) : labels (handle :: rest) = [] := by
  simp [labels, holds]

/-- A handle that holds an object adds the label of its class. -/
theorem labels_cons_of_some {handle : Handle} {object : Object}
    (holds : handle.referent = some object) (rest : List Handle) :
    labels (handle :: rest) = object.runtime.name :: labels rest := by
  simp [labels, holds]

/-- A first handle that holds nothing is the one that fails. -/
theorem ending_cons_of_none {handle : Handle} (holds : handle.referent = none)
    (rest : List Handle) : ending (handle :: rest) = .error (.operationOnNone handle.name) := by
  simp [ending, holds]

/-- A first handle that holds an object leaves the end to the others. -/
theorem ending_cons_of_some {handle : Handle} {object : Object}
    (holds : handle.referent = some object) (rest : List Handle) :
    ending (handle :: rest) = ending rest := by
  simp [ending, holds]

/-- Calling handles in order writes their labels, and ends as they do. -/
theorem forM_call_emits (handles : List Handle) (argument : Int32) :
    Emits (handles.forM fun handle => handle.call argument) Error.output
      (lined (labels handles)) (ending handles) := by
  induction handles with
  | nil => exact Emits.done _
  | cons handle rest ih =>
      cases holds : handle.referent with
      | none =>
          rw [labels_cons_of_none holds, ending_cons_of_none holds]
          exact (Handle.call_emits_of_none holds argument).bind_error
      | some object =>
          rw [labels_cons_of_some holds, ending_cons_of_some holds, lined_cons]
          exact (Handle.call_emits_of_some holds argument).bind ih

/-- Running the demonstration writes the labels of its handles. -/
theorem run_emits (program : Program) (argument : Int32) :
    Emits (program.run argument) Error.output (lined (labels program.handles))
      (ending program.handles) :=
  (Emits.log _ _).after (forM_call_emits program.handles argument)

/-- Explaining the demonstration writes the lines of the explanation. -/
theorem explain_emits (program : Program) (colour : Bool) :
    Emits (program.explain colour) Error.output (lined (program.explanation colour))
      (.ok ()) :=
  (Emits.writeLines _).adapt Error.output

end Program

/-- Calling one handle is calling a list of one. -/
theorem Handle.call_emits (handle : Handle) (argument : Int32) :
    Emits (handle.call argument) Error.output (lined (Program.labels [handle]))
      (Program.ending [handle]) := by
  cases holds : handle.referent with
  | none =>
      rw [Program.labels_cons_of_none holds, Program.ending_cons_of_none holds]
      exact call_emits_of_none holds argument
  | some object =>
      rw [Program.labels_cons_of_some holds, Program.ending_cons_of_some holds]
      exact lined_singleton _ ▸ call_emits_of_some holds argument

end Tandem.Dispatch

namespace Tandem.Output

open Dispatch Sorting

/-- **Outputs end at the first refusal.** The sorting demonstration, calls of classes and
handles, and running and explaining the dispatch demonstration write on every sink what it
admits of their text without limits, and fail for the sink's reason if that is not all.
Running writes the classes of the objects held up to the first handle that holds nothing,
which it then names, unless a byte was refused before. The sink's reason may be of any kind.
A sink that takes nothing refuses as one that fails to write, and one that is interrupted at
each attempt leaves no result, which is the case just if no number of attempts to give it the
text brings that to an end. A refusal is a failed call with status one, and at the end of
output just a reader that went away is no failure. -/
theorem outputs_end_at_first_refusal :
    (∀ items, Writes (demonstrate items) id (lined (demonstrationLines items)) (.ok ())) ∧
      (∀ (runtime : Dispatch.Class) (argument : Int32),
        Writes (runtime.call argument) id (runtime.name ++ "\n") (.ok ())) ∧
      (∀ (handle : Handle) (argument : Int32),
        Writes (handle.call argument) Dispatch.Error.output
          (lined (Program.labels [handle])) (Program.ending [handle])) ∧
      (∀ (program : Program) (argument : Int32),
        Writes (program.run argument) Dispatch.Error.output
          (lined (Program.labels program.handles)) (Program.ending program.handles)) ∧
      (∀ (program : Program) (colour : Bool),
        Writes (program.explain colour) Dispatch.Error.output
          (lined (program.explanation colour)) (.ok ())) ∧
      (∀ error, (Dispatch.Error.output error).exitCode = 1) ∧
      (∀ error, (Refusal.fails error).error = error) ∧
      Refusal.takesNothing.error.kind = .writeZero ∧
      (∀ (sink : Sink) (text : String),
        (sink.write text.toUTF8.data.toList).1 = none ↔
          ∀ attempts, ∃ rest later,
            Transfer.attempt^[attempts] (.giving text.toUTF8.data.toList sink) =
              .giving rest later) ∧
      ∀ step console,
        ((endOfOutput step).on console).2.sink = (step.on console).2.sink ∧
          ((endOfOutput step).on console).1 =
            match (step.on console).1 with
            | none => none
            | some (.ok ()) => some (.ok ())
            | some (.error error) =>
              some (if error.kind = .brokenPipe then .ok () else .error error) := by
  refine ⟨?_, ?_, ?_, ?_, ?_, ?_, ?_, ?_, ?_, ?_⟩
  · intro items
    exact (demonstrate_emits items).writes
  · intro runtime argument
    exact (runtime.call_emits argument).writes
  · intro handle argument
    exact (handle.call_emits argument).writes
  · intro program argument
    exact (program.run_emits argument).writes
  · intro program colour
    exact (program.explain_emits colour).writes
  · intro error
    rfl
  · intro error
    rfl
  · rfl
  · intro sink text
    exact Transfer.write_eq_none_iff
  · exact on_endOfOutput

/-- A handle that holds an object of the third class and one that holds nothing, called on a
sink with so many bytes that then fails for a reason of some kind. -/
def calledWithin (limit : Nat) (kind : ErrorKind) :
    Option (Except Dispatch.Error Unit) × Console :=
  ((⟨.demo, [⟨"c", .a, some ⟨.c⟩⟩, ⟨"d", .a, none⟩]⟩ : Program).run 1).on
    { sink := { allowance := { bytes := some limit }, refusal := .fails ⟨kind, "closed"⟩ } }

/-- With room for the line of the first handle, the second one is the failure. With one byte
less it is the sink, and the byte before stays; if the sink is interrupted there, there is no
result. -/
theorem outputs_end_at_first_refusal_halfway :
    ((calledWithin 2 .brokenPipe).1 = some (.error (.operationOnNone "d")) ∧
        (calledWithin 2 .brokenPipe).2.sink.taken.toList = [67, 10]) ∧
      ((calledWithin 1 .brokenPipe).1 = some (.error (.output ⟨.brokenPipe, "closed"⟩)) ∧
        (calledWithin 1 .brokenPipe).2.sink.taken.toList = [67]) ∧
      (calledWithin 1 .interrupted).1 = none ∧
        (calledWithin 1 .interrupted).2.sink.taken.toList = [67] := by
  obtain ⟨-, -, -, running, -⟩ := outputs_end_at_first_refusal
  have writes := running ⟨.demo, [⟨"c", .a, some ⟨.c⟩⟩, ⟨"d", .a, none⟩]⟩ 1
  have text : (lined ["C"]).toUTF8.data.toList = [67, 10] := by decide +kernel
  have fits {limit : Nat} {piece : List UInt8} (short : piece.length ≤ limit) :
      ({ bytes := some limit } : Allowance).Admits piece := by
    refine ⟨?_, nofun⟩
    rintro most ⟨⟩
    exact short
  have refuses : ¬({ bytes := some 1 } : Allowance).Admits [67, 10] :=
    fun admits => absurd (admits.1 1 rfl) (by decide)
  have single {piece : List UInt8}
      (cuts : ({ bytes := some 1 } : Allowance).Cuts [67, 10] piece) : piece = [67] := by
    have leads : [67] <+: piece := cuts.longest [67] ⟨[10], rfl⟩ (fits (by decide))
    exact (leads.eq_of_length_le (cuts.admits.1 1 rfl)).symm
  have whole := writes.admitted
    { sink := { allowance := { bytes := some 2 }, refusal := .fails ⟨.brokenPipe, "closed"⟩ } }
  have part (kind : ErrorKind) := writes.cut
    { sink := { allowance := { bytes := some 1 }, refusal := .fails ⟨kind, "closed"⟩ } }
  simp only [show Program.labels [⟨"c", .a, some ⟨.c⟩⟩, ⟨"d", .a, none⟩] = ["C"] from rfl, text]
    at whole part
  refine ⟨whole (fits (by decide)), ?_, ?_⟩
  · obtain ⟨piece, cuts, failed, taken⟩ := part .brokenPipe refuses
    exact ⟨failed, taken.trans (single cuts)⟩
  · obtain ⟨piece, cuts, failed, taken⟩ := part .interrupted refuses
    exact ⟨failed, taken.trans (single cuts)⟩

end Tandem.Output
