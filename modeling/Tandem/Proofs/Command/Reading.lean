import Tandem.Command.Invocation

/-! # Reading words one by one

How the words of a command line are taken up where no value is awaited: a plain word ends the
options of its level and names a subcommand (`Tandem.Command.readSubcommand_cons`), and a long
option is accepted before the next word is read
(`Tandem.Command.Reading.readWords_cons_long`). An option lifted to one level of the command
line changes the options of that level alone. The value of an option may stand in the word
behind it, where it is read as in the word of the option
(`Tandem.Command.readOptions_separate`) unless that word is itself an option.
-/

namespace Tandem.Command

variable {σ : Type}

namespace Reading

/-- A plain word that is not awaited ends the options. -/
theorem readWords_cons_plain (switches : List (Switch σ)) {word : String}
    (plain : Word.ofText word.toList = .plain) (words : List String) (given : σ) :
    readWords switches (word :: words) { given } = .ok ({ given }, .plain word words) := by
  rw [readWords, plain]
  rfl

/-- A long option is accepted before the next word is read. -/
theorem readWords_cons_long (switches : List (Switch σ)) {word : String} {name : List Char}
    {value : Option (List Char)} (long : Word.ofText word.toList = .long name value)
    (words : List String) (reading : Reading σ) :
    readWords switches (word :: words) reading =
      (do readWords switches words (← reading.acceptLong switches name value)) := by
  -- A long option is never taken for the value that another one waits for.
  have unawaited : reading.awaits word.toList = false := by
    unfold awaits
    rw [long]
    split
    · rfl
    · rfl
  rw [readWords, unawaited, long]
  rfl

/-- An update of the options of a level leaves the requests for detail. -/
theorem accept_lifted (given : Given σ) (updated : Except Stop σ) :
    (do
      let later ← (do return { given with options := ← updated })
      return ({ given := later } : Reading (Given σ))) =
      updated.map fun options => { given := { given with options } } := by
  cases updated with
  | error stop => rfl
  | ok options => rfl

variable {switch : Switch σ}

/-- A lifted option passes its value on. -/
theorem accept_lift_value {negatives : Bool} {update : List Char → σ → Except Stop σ}
    (takes : switch.effect = .value negatives update) (text : List Char) (given : Given σ) :
    accept { given } switch.lift.effect (some text) =
      (update text given.options).map fun options => { given := { given with options } } := by
  unfold Switch.lift
  rw [takes]
  exact accept_lifted given (update text given.options)

/-- A lifted flag passes its update on. -/
theorem accept_lift_flag {update : σ → Except Stop σ} (takes : switch.effect = .flag update)
    (given : Given σ) :
    accept { given } switch.lift.effect none =
      (update given.options).map fun options => { given := { given with options } } := by
  unfold Switch.lift
  rw [takes]
  exact accept_lifted given (update given.options)

/-- A plain word is taken as the value awaited. -/
theorem awaits_of_plain (given : σ) (negatives : Bool) (update : List Char → σ → Except Stop σ)
    {word : List Char} (plain : Word.ofText word = .plain) :
    awaits { given, pending := some { negatives, update } } word := by
  simp only [awaits, plain]

/-- A cluster is taken as the value awaited if it is a negative number and these are allowed. -/
theorem awaits_short (given : σ) (negatives : Bool) (update : List Char → σ → Except Stop σ)
    {word letters : List Char} (short : Word.ofText word = .short letters) :
    awaits { given, pending := some { negatives, update } } word =
      (negatives && isNumber letters) := by
  simp only [awaits, short]

/-- A word that is awaited is the value. -/
theorem readWords_cons_awaited (switches : List (Switch σ)) {reading : Reading σ} {word : String}
    (awaited : reading.awaits word.toList) (words : List String) :
    readWords switches (word :: words) reading =
      readWords switches words (reading.supply word.toList) := by
  rw [readWords, if_pos awaited]

/-- A cluster that is no value and begins with an unknown letter is refused, whether or not a
value is awaited. -/
theorem readWords_cons_unknown {switches : List (Switch σ)} {reading : Reading σ} {word : String}
    {letter : Char} {letters : List Char} (unawaited : reading.awaits word.toList = false)
    (short : Word.ofText word.toList = .short (letter :: letters))
    (unknown : (switches.find? fun switch => switch.short == some letter) = none)
    (words : List String) :
    readWords switches (word :: words) reading = .error .unknownArgument := by
  rw [readWords, unawaited, short]
  change (acceptShort switches (letter :: letters) reading >>= _) = _
  rw [acceptShort, unknown]
  rfl

section Value

variable {switches : List (Switch σ)} {name : List Char} {negatives : Bool}
  {update : List Char → σ → Except Stop σ}
  (known : (switches.find? fun switch => switch.long.toList == name) = some switch)
  (takes : switch.effect = .value negatives update)

include known takes

/-- An option without its value awaits it in the next word. -/
theorem readWords_cons_bare {option : String}
    (bare : Word.ofText option.toList = .long name none) (words : List String) (given : σ) :
    readWords switches (option :: words) { given } =
      readWords switches words { given, pending := some { negatives, update } } := by
  rw [readWords_cons_long switches bare, acceptLong, known]
  simp only [takes]
  rfl

/-- An option with its value is taken up at once. -/
theorem readWords_cons_attached {word : String} {text : List Char}
    (attached : Word.ofText word.toList = .long name (some text)) (words : List String)
    (given : σ) :
    readWords switches (word :: words) { given } =
      (do readWords switches words { given := ← update text given }) := by
  rw [readWords_cons_long switches attached, acceptLong, known]
  simp only [takes]
  change ((do return { given := ← update text given }) >>= readWords switches words) = _
  cases update text given with
  | error stop => rfl
  | ok later => rfl

end Value

end Reading

section Separate

variable {switches : List (Switch σ)} {switch : Switch (Given σ)} {name : List Char}
  {negatives : Bool} {update : List Char → Given σ → Except Stop (Given σ)}
  (known : ((helpSwitch :: verboseSwitch :: switches.map Switch.lift).find? fun switch =>
    switch.long.toList == name) = some switch)
  (takes : switch.effect = .value negatives update)
  {option word : String} (bare : Word.ofText option.toList = .long name none) (options : σ)

include known takes bare

/-- A value is read in the word behind its option as in the word of the option itself. -/
theorem readOptions_separate {joined : String}
    (attached : Word.ofText joined.toList = .long name (some word.toList))
    (awaited : Reading.awaits { given := { options }, pending := some { negatives, update } }
      word.toList) :
    readOptions switches options [option, word] = readOptions switches options [joined] := by
  simp only [readOptions, Reading.readWords_cons_bare known takes bare,
    Reading.readWords_cons_awaited _ awaited, Reading.readWords_cons_attached known takes attached]
  change update word.toList { options } = _
  cases update word.toList { options } with
  | error stop => rfl
  | ok given => rfl

/-- Behind an option, a cluster that is no value is refused if it begins with an unknown
letter. -/
theorem readOptions_separate_unknown {letter : Char} {letters : List Char}
    (unawaited : Reading.awaits { given := { options }, pending := some { negatives, update } }
      word.toList = false)
    (short : Word.ofText word.toList = .short (letter :: letters))
    (unknown : ((helpSwitch :: verboseSwitch :: switches.map Switch.lift).find? fun switch =>
      switch.short == some letter) = none) :
    readOptions switches options [option, word] = .error .unknownArgument := by
  simp only [readOptions, Reading.readWords_cons_bare known takes bare,
    Reading.readWords_cons_unknown unawaited short unknown]
  rfl

end Separate

/-- A subcommand reads the words behind it. Its own requests for more detail stay. -/
theorem readSubcommand_cons (path : List String) (switches : List (Switch (Given Unit)))
    {subcommands : List (String × (List String → Except Stop Invocation))} {word : String}
    {read : List String → Except Stop Invocation} (plain : Word.ofText word.toList = .plain)
    (command : word ≠ "help") (found : subcommands.lookup word = some read)
    (words : List String) :
    readSubcommand path switches subcommands (word :: words) = read words := by
  simp only [readSubcommand, Reading.readWords_cons_plain _ plain]
  change (if word = "help" then _ else _) = _
  rw [if_neg command, found]
  change (do
    let inner ← read words
    return if inner.verbosity = 0 then { inner with verbosity := 0 } else inner) = _
  cases read words with
  | error stop => rfl
  | ok inner =>
      change Except.ok (if inner.verbosity = 0 then { inner with verbosity := 0 } else inner) = _
      by_cases silent : inner.verbosity = 0
      · rw [if_pos silent, ← silent]
      · rw [if_neg silent]

end Tandem.Command
