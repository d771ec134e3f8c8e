/-! # Flags of patterns

A pattern may switch flags on and off on its way. The flags that decide which
forms are at hand are whether it is about Unicode characters or about bytes, and
whether case matters.
-/

namespace Tandem.Pattern

/-- Something that a pattern may switch on or off. -/
inductive Flag where
  | caseInsensitive
  | multiLine
  | dotMatchesLineEnd
  | swapGreed
  | unicode
  | carriageReturns
  | ignoreBlanks
deriving DecidableEq

/-- The flag of a letter. -/
def Flag.ofLetter? : Char → Option Flag
  | 'i' => some caseInsensitive
  | 'm' => some multiLine
  | 's' => some dotMatchesLineEnd
  | 'U' => some swapGreed
  | 'u' => some unicode
  | 'R' => some carriageReturns
  | 'x' => some ignoreBlanks
  | _ => none

/-- Flags switched on or off. -/
abbrev Flags := List (Flag × Bool)

/-- A flag's state after others were switched. -/
def Flags.state (flags : Flags) (flag : Flag) (before : Bool) : Bool :=
  (flags.lookup flag).getD before

/-- The flags that decide which forms are at hand. -/
structure Settings where
  unicode : Bool := true
  caseInsensitive : Bool := false

/-- The settings after flags were switched. -/
def Settings.switch (settings : Settings) (flags : Flags) : Settings where
  unicode := flags.state .unicode settings.unicode
  caseInsensitive := flags.state .caseInsensitive settings.caseInsensitive

end Tandem.Pattern
