import Tandem.Output.Console
import Tandem.Proofs.Output.Admission

/-! # Steps that write a text

A step emits a text if on every sink it goes as far as the sink takes the bytes of that text
in UTF-8: to the end, where it has a result of its own, or to the byte that the sink refuses,
where it fails for that reason or does not end (`Tandem.Output.Emits`). Steps one after the
other emit their texts one after the other, up to the first failure. So what a limited sink
makes of a step can be told from the step's text and result without limits
(`Tandem.Output.Emits.writes`).
-/

namespace Tandem.Output

variable {ε ε' α : Type}

/-- Some lines as a text, each with its line end. -/
def lined (lines : List String) : String :=
  String.join (lines.map fun line => line ++ "\n")

@[simp] theorem lined_nil : lined [] = "" := rfl

/-- The first line comes first. -/
theorem lined_cons (line : String) (lines : List String) :
    lined (line :: lines) = line ++ "\n" ++ lined lines :=
  String.join_cons

/-- One line is its text and a line end. -/
theorem lined_singleton (line : String) : lined [line] = line ++ "\n" := by
  rw [lined_cons, lined_nil, String.append_empty]

/-- The bytes of two texts stand one behind the other. -/
theorem toUTF8_append (text more : String) :
    (text ++ more).toUTF8.data.toList = text.toUTF8.data.toList ++ more.toUTF8.data.toList := by
  simp only [String.toUTF8_eq_toByteArray, String.toByteArray_append, ByteArray.data_append,
    Array.toList_append]

/-- What a step with a result of its own comes to when its text was written or refused. -/
def settle (refused : Error → ε) (result : Except ε Unit) : Except Error Unit → Except ε Unit
  | .ok () => result
  | .error error => .error (refused error)

/-- On every console a step writes a text and then has a result, unless a byte of the text
is refused; then it fails with what `refused` makes of that failure, or does not end. -/
def Emits (step : Writing ε Unit) (refused : Error → ε) (text : String)
    (result : Except ε Unit) : Prop :=
  ∀ console, ∃ notes,
    step.on console =
      ((console.sink.write text.toUTF8.data.toList).1.map (settle refused result),
        { sink := (console.sink.write text.toUTF8.data.toList).2, notes })

namespace Emits

/-- A step that does nothing writes nothing. -/
theorem done (refused : Error → ε) : Emits (pure ()) refused "" (.ok ()) :=
  fun console => ⟨console.notes, rfl⟩

/-- A note is not written. -/
theorem note (entry : Note) (refused : Error → ε) : Emits (note entry) refused "" (.ok ()) :=
  fun _ => ⟨_, rfl⟩

/-- A log entry is not written. -/
theorem log (entry : Log.Entry) (refused : Error → ε) : Emits (log entry) refused "" (.ok ()) :=
  note (.entry entry) refused

/-- A failure writes nothing. -/
theorem throw (error : ε) (refused : Error → ε) : Emits (throw error) refused "" (.error error) :=
  fun console => ⟨console.notes, rfl⟩

/-- A line is written with its line end. -/
theorem writeLine (line : String) : Emits (writeLine line) id (line ++ "\n") (.ok ()) := by
  intro console
  refine ⟨console.notes, Prod.ext ?_ rfl⟩
  change (console.sink.write (line ++ "\n").toUTF8.data.toList).1 = _
  rcases (console.sink.write (line ++ "\n").toUTF8.data.toList).1 with _ | (error | ⟨⟩)
  · rfl
  · rfl
  · rfl

variable {refused : Error → ε} {text more : String} {result : Except ε Unit}

/-- A step behind one that ends well writes its text behind the other's. -/
theorem bind {first second : Writing ε Unit} (earlier : Emits first refused text (.ok ()))
    (later : Emits second refused more result) :
    Emits (first >>= fun _ => second) refused (text ++ more) result := by
  intro console
  obtain ⟨notes, ran⟩ := earlier console
  rw [Writing.on_bind, ran, toUTF8_append, Sink.write_append]
  rcases console.sink.write text.toUTF8.data.toList with ⟨_ | (error | ⟨⟩), sink⟩
  · exact ⟨notes, rfl⟩
  · exact ⟨notes, rfl⟩
  · exact later { sink, notes }

/-- A step behind one that writes nothing and ends well writes its own text. -/
theorem after {first second : Writing ε Unit} (silent : Emits first refused "" (.ok ()))
    (later : Emits second refused text result) :
    Emits (first >>= fun _ => second) refused text result := by
  simpa only [String.empty_append] using silent.bind later

/-- A step behind one that fails does not run. -/
theorem bind_error {first second : Writing ε Unit} {error : ε}
    (fails : Emits first refused text (.error error)) :
    Emits (first >>= fun _ => second) refused text (.error error) := by
  intro console
  obtain ⟨notes, ran⟩ := fails console
  refine ⟨notes, ?_⟩
  rw [Writing.on_bind, ran]
  rcases console.sink.write text.toUTF8.data.toList with ⟨_ | (error | ⟨⟩), sink⟩
  · rfl
  · rfl
  · rfl

/-- Steps for the items of a list write their texts in the order of the list. -/
theorem forM {items : List α} {step : α → Writing ε Unit} {write : α → String}
    (each : ∀ item, Emits (step item) refused (write item) (.ok ())) :
    Emits (items.forM step) refused (String.join (items.map write)) (.ok ()) := by
  induction items with
  | nil => exact done refused
  | cons item rest ih =>
      rw [List.map_cons, String.join_cons]
      exact (each item).bind ih

/-- Lines are written one below the other. -/
theorem writeLines (lines : List String) :
    Emits (lines.forM Output.writeLine) id (lined lines) (.ok ()) :=
  forM writeLine

/-- Failures that are renamed are those for which the step fails. -/
theorem adapt {step : Writing ε Unit} (emits : Emits step refused text result) (wrap : ε → ε') :
    Emits (ExceptT.adapt wrap step) (wrap ∘ refused) text (result.mapError wrap) := by
  intro console
  obtain ⟨notes, ran⟩ := emits console
  refine ⟨notes, ?_⟩
  rw [Writing.on_adapt, ran]
  rcases console.sink.write text.toUTF8.data.toList with ⟨_ | (error | ⟨⟩), sink⟩
  · rfl
  · rfl
  · rfl

end Emits

/-- What a step makes of sinks with and without limits. Without limits it writes a text and
has a result. A sink that admits the text takes its bytes, with the same result. Any other sink
takes the longest part that it admits. The step then fails for the reason that the sink
refuses, unless each attempt to write is interrupted: then it does not end. -/
structure Writes (step : Writing ε Unit) (refused : Error → ε) (text : String)
    (result : Except ε Unit) : Prop where
  unlimited : (step.on {}).1 = some result ∧
    (step.on {}).2.sink.taken.toList = text.toUTF8.data.toList ∧
    (step.on {}).2.sink.text? = some text
  admitted : ∀ console, console.sink.allowance.Admits text.toUTF8.data.toList →
    (step.on console).1 = some result ∧
      (step.on console).2.sink.taken.toList =
        console.sink.taken.toList ++ text.toUTF8.data.toList
  cut : ∀ console, ¬console.sink.allowance.Admits text.toUTF8.data.toList →
    ∃ piece, console.sink.allowance.Cuts text.toUTF8.data.toList piece ∧
      (step.on console).1 =
        (if console.sink.refusal.error.kind = .interrupted then none
          else some (.error (refused console.sink.refusal.error))) ∧
      (step.on console).2.sink.taken.toList = console.sink.taken.toList ++ piece

/-- A sink that took the bytes of a text shows that text. -/
theorem Sink.text?_eq_some {sink : Sink} {text : String}
    (taken : sink.taken.toList = text.toUTF8.data.toList) : sink.text? = some text := by
  unfold text?
  rw [Array.toList_inj.mp taken, String.toUTF8_eq_toByteArray]
  exact dif_pos text.isValidUTF8

/-- What a step emits is what it writes, with limits and without. -/
theorem Emits.writes {step : Writing ε Unit} {refused : Error → ε} {text : String}
    {result : Except ε Unit} (emits : Emits step refused text result) :
    Writes step refused text result := by
  have admitted : ∀ console : Console,
      console.sink.allowance.Admits text.toUTF8.data.toList →
        (step.on console).1 = some result ∧
          (step.on console).2.sink.taken.toList =
            console.sink.taken.toList ++ text.toUTF8.data.toList := by
    intro console admits
    obtain ⟨notes, ran⟩ := emits console
    obtain ⟨written, taken⟩ := Sink.write_of_admits admits
    rw [ran, written, ← taken]
    exact ⟨rfl, rfl⟩
  obtain ⟨ended, taken⟩ := admitted {} (Allowance.admits_of_unlimited _)
  refine ⟨⟨ended, taken, Sink.text?_eq_some taken⟩, admitted, ?_⟩
  intro console refuses
  obtain ⟨notes, ran⟩ := emits console
  obtain ⟨piece, cuts, written, taken⟩ := Sink.write_of_not_admits refuses
  refine ⟨piece, cuts, ?_⟩
  rw [ran, written, ← taken, Refusal.ending]
  refine ⟨?_, rfl⟩
  split
  · rfl
  · rfl

end Tandem.Output
