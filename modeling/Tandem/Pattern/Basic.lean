import Tandem.Pattern.CharSet

/-! # Patterns for texts

The forms of a pattern, and which patterns can be used. No text is ever compared
with a pattern here, so a form keeps only what decides about that.
-/

namespace Tandem

/-- A pattern. -/
inductive Pattern where
  | empty
  | literal (character : Pattern.Literal)
  | anyCharacter
  /-- The beginning or the end of a line or of the text. -/
  | anchor
  /-- A place where a word begins or ends, or where none does. -/
  | wordBoundary
  /-- A set with a letter, such as `\d`. -/
  | shorthand (negated : Bool)
  | set (members : Pattern.CharSet)
  /-- Flags for the rest of the group. -/
  | switch (flags : Pattern.Flags)
  /-- A group with flags of its own. -/
  | group (flags : Pattern.Flags) (inner : Pattern)
  | repetition (inner : Pattern)
  | sequence (items : List Pattern)
  | alternation (branches : List Pattern)

namespace Pattern

/-- Patterns one after the other. -/
def ofItems : List Pattern → Pattern
  | [] => empty
  | [item] => item
  | items => sequence items

/-- Patterns of which one is taken. -/
def ofBranches : List Pattern → Pattern
  | [branch] => branch
  | branches => alternation branches

mutual

/-- How deeply a pattern is nested. -/
def depth : Pattern → Nat
  | empty | literal _ | anyCharacter | anchor | wordBoundary | shorthand _ | switch _ => 0
  | set members => members.depth
  | group _ inner | repetition inner => 1 + inner.depth
  | sequence patterns | alternation patterns => 1 + greatestDepth patterns

/-- How deeply the deepest of some patterns is nested. -/
def greatestDepth : List Pattern → Nat
  | [] => 0
  | pattern :: patterns => max pattern.depth (greatestDepth patterns)

end

mutual

/-- The settings behind a pattern, if it can be used. Unicode word boundaries are not
at hand, and without Unicode any character would be any byte. -/
def settingsBehind? (settings : Settings) : Pattern → Option Settings
  | empty | anchor => some settings
  | literal character => if character.usable settings then some settings else none
  | anyCharacter => if settings.unicode then some settings else none
  | wordBoundary => if settings.unicode then none else some settings
  | shorthand negated => if settings.allowShorthand negated then some settings else none
  | set members => if members.usable settings then some settings else none
  | switch flags => some (settings.switch flags)
  | group flags inner =>
    (inner.settingsBehind? (settings.switch flags)).map fun _ => settings
  | repetition inner => inner.settingsBehind? settings
  | sequence patterns | alternation patterns => settingsBehindAll? settings patterns

/-- The settings behind patterns that follow each other, if they can be used. -/
def settingsBehindAll? (settings : Settings) : List Pattern → Option Settings
  | [] => some settings
  | pattern :: patterns =>
    match pattern.settingsBehind? settings with
    | some behind => settingsBehindAll? behind patterns
    | none => none

end

/-- The greatest depth at which patterns may be nested. -/
def depthLimit : Nat := 250

/-- Whether a pattern can be used. -/
def usable (pattern : Pattern) : Bool :=
  pattern.depth ≤ depthLimit && (pattern.settingsBehind? {}).isSome

end Pattern

end Tandem
