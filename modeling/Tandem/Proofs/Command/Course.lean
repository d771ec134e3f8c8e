import Tandem.Command.Outcome
import Tandem.Proofs.Sorting.Demonstration

/-! # Where the program's words lead

Words that are refused lead to an end with the status of the refusal, and nothing is written
(`Tandem.Command.Course.ofWords_of_error`). Words that ask for a list to be sorted lead to an
end with status zero on every sink that takes the answer
(`Tandem.Command.Course.ofWords_sortList`), unless the setting for the log cannot be taken
apart, which ends the program before it does anything
(`Tandem.Command.Course.ofWords_of_not_logReadable`).
-/

namespace Tandem.Command

open Output Sorting

/-- The setting for the log can be taken apart, if there is one. -/
def Surroundings.LogReadable (surroundings : Surroundings) : Prop :=
  ∀ text ∈ surroundings.setting, Log.Filter.read text ≠ .error .splitCharacter

/-- Without a setting there is nothing to take apart. -/
theorem Surroundings.logReadable_of_none {surroundings : Surroundings}
    (unset : surroundings.setting = none) : surroundings.LogReadable := by
  intro text given
  rw [unset] at given
  cases given

/-- There is a log filter just if the setting for the log can be taken apart. -/
theorem Invocation.filter?_eq_none_iff {invocation : Invocation} {surroundings : Surroundings} :
    invocation.filter? surroundings.setting = none ↔ ¬surroundings.LogReadable := by
  unfold filter? Surroundings.LogReadable
  cases surroundings.setting with
  | none => simp
  | some text =>
      rw [Option.map_some]
      cases read : Log.Filter.read text with
      | ok filter => simp [read]
      | error fault =>
          cases fault with
          | malformed => simp [read]
          | splitCharacter => simp [read]

namespace Course

/-- Refused words end the program with the status of the refusal, which is said on the side. -/
theorem ofWords_of_error {words : List String} {stop : Stop}
    (refused : Invocation.read words = .error stop) (failing : stop.exitCode ≠ 0)
    (surroundings : Surroundings) (sink : Sink) :
    ofWords surroundings words sink = .ended ⟨stop.exitCode, sink, [stop.message]⟩ := by
  unfold ofWords
  rw [refused]
  exact if_neg failing

/-- A setting that cannot be taken apart ends the program before it does anything. -/
theorem ofWords_of_not_logReadable {words : List String} {invocation : Invocation}
    (read : Invocation.read words = .ok invocation) {surroundings : Surroundings}
    (unreadable : ¬surroundings.LogReadable) (sink : Sink) :
    ofWords surroundings words sink = .ended (.aborted sink) := by
  unfold ofWords
  rw [read]
  simp only [ofInvocation, Invocation.filter?_eq_none_iff.mpr unreadable]

/-- Steps that end well end the program with status zero and the sink that they leave. -/
theorem ofSteps_of_ok {steps : Writing Failure Unit} {sink : Sink}
    (ends : (steps.on { sink }).1 = some (.ok ())) (filter : Log.Filter) :
    ∃ outcome, ofSteps steps sink filter = .ended outcome ∧ outcome.exitCode = 0 ∧
      outcome.sink = (steps.on { sink }).2.sink := by
  unfold ofSteps
  cases ran : steps.on { sink } with
  | mk result console =>
      rw [ran] at ends
      cases ends
      exact ⟨_, rfl, rfl, rfl⟩

/-- Sorting a list ends well on every sink that takes the lines of the demonstration. -/
theorem ofSteps_sortList (values : List Int32) (progress colour : Bool) (filter : Log.Filter)
    {sink : Sink}
    (admits : sink.allowance.Admits
      (lined (demonstrationLines values.toArray)).toUTF8.data.toList) :
    ∃ outcome,
      ofSteps ((Demonstration.sortList (some values) progress).steps colour) sink filter =
          .ended outcome ∧
        outcome.exitCode = 0 ∧
        outcome.sink.taken.toList =
          sink.taken.toList ++ (lined (demonstrationLines values.toArray)).toUTF8.data.toList := by
  -- The steps are the demonstration with one note made before, its failures in a context.
  obtain ⟨notes, ran⟩ : ∃ notes,
      ((Demonstration.sortList (some values) progress).steps colour).on { sink } =
        (((endOfOutput (demonstrate values.toArray)).on { sink, notes }).1.map
            (Except.mapError fun error =>
              Failure.within "Unable to print the sorted list" { cause := .output error }),
          ((endOfOutput (demonstrate values.toArray)).on { sink, notes }).2) :=
    ⟨_, (Writing.on_bind _ _ _).trans (Writing.on_adapt _ _ _)⟩
  obtain ⟨wrote, taken⟩ :=
    (demonstrate_emits values.toArray).writes.admitted { sink, notes } admits
  obtain ⟨kept, result⟩ := on_endOfOutput (demonstrate values.toArray) { sink, notes }
  rw [wrote] at result
  rw [result] at ran
  obtain ⟨outcome, ended, status, left⟩ := ofSteps_of_ok (congrArg Prod.fst ran) filter
  refine ⟨outcome, ended, status, ?_⟩
  rw [left, ran, kept]
  exact taken

/-- Words that are read as a list to sort end well on every sink that takes the answer. -/
theorem ofWords_sortList {words : List String} {verbosity : Nat} {values : List Int32}
    {progress : Bool}
    (read : Invocation.read words =
      .ok ⟨verbosity, .demonstrate (.sortList (some values) progress)⟩)
    (surroundings : Surroundings) (sink : Sink) (readable : surroundings.LogReadable)
    (admits : sink.allowance.Admits
      (lined (demonstrationLines values.toArray)).toUTF8.data.toList) :
    ∃ outcome, ofWords surroundings words sink = .ended outcome ∧ outcome.exitCode = 0 ∧
      outcome.sink.taken.toList =
        sink.taken.toList ++ (lined (demonstrationLines values.toArray)).toUTF8.data.toList := by
  unfold ofWords
  rw [read]
  simp only [ofInvocation]
  split
  case h_1 absent => exact absurd readable (Invocation.filter?_eq_none_iff.mp absent)
  case h_2 asked => cases asked
  case h_3 filter demonstration _ asked =>
    cases asked
    exact ofSteps_sortList values progress surroundings.colour filter admits

end Course

end Tandem.Command
