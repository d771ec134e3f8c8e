import Tandem.Pattern.Flag

/-! # Sets of characters in patterns

A set stands in brackets and is built from characters, ranges, named sets and
other sets. Which characters it holds does not matter here: only whether it can be
used, and how deeply it is nested.
-/

namespace Tandem.Pattern

/-- A character in a pattern. -/
structure Literal where
  char : Char
  /-- Whether it is written as the number of a byte. -/
  isByte : Bool := false

/-- Whether a character outside a set can be used. Case is not folded for Unicode
characters, and a byte beyond ASCII is no character of a text. -/
def Literal.usable (literal : Literal) (settings : Settings) : Bool :=
  if settings.unicode then !settings.caseInsensitive
  else !literal.isByte || literal.char.toNat < 0x80

/-- Whether a character inside a set can be used: a set of bytes holds ASCII only. -/
def Literal.usableInSet (literal : Literal) (settings : Settings) : Bool :=
  if settings.unicode then !settings.caseInsensitive else literal.char.toNat < 0x80

/-- Whether a shorthand such as `\d` can be used. Its Unicode form is not at hand, and
its complement holds bytes beyond ASCII. -/
def Settings.allowShorthand (settings : Settings) (negated : Bool) : Bool :=
  !settings.unicode && !negated

/-- A set of characters. -/
inductive CharSet where
  | empty
  | literal (member : Literal)
  | range (first last : Literal)
  /-- A set with a name, such as `[:alpha:]`. -/
  | named (negated : Bool)
  /-- A set with a letter, such as `\d`. -/
  | shorthand (negated : Bool)
  | union (sets : List CharSet)
  /-- The intersection or a difference of two sets. -/
  | operation (left right : CharSet)
  | bracketed (negated : Bool) (inner : CharSet)

namespace CharSet

/-- The union of sets. -/
def ofList : List CharSet → CharSet
  | [] => empty
  | [set] => set
  | sets => union sets

mutual

/-- How deeply a set is nested. -/
def depth : CharSet → Nat
  | empty | literal _ | range .. | named _ | shorthand _ => 0
  | union sets => 1 + greatestDepth sets
  | operation left right => 1 + max left.depth right.depth
  | bracketed _ inner => 1 + inner.depth

/-- How deeply the deepest of some sets is nested. -/
def greatestDepth : List CharSet → Nat
  | [] => 0
  | set :: sets => max set.depth (greatestDepth sets)

end

mutual

/-- Whether a set can be used. Without Unicode, a complement holds bytes beyond
ASCII. -/
def usable (settings : Settings) : CharSet → Bool
  | empty => true
  | literal member => member.usableInSet settings
  | range first last => first.usableInSet settings && last.usableInSet settings
  | named negated =>
    if settings.unicode then !settings.caseInsensitive else !negated
  | shorthand negated => settings.allowShorthand negated
  | union sets => allUsable settings sets
  | operation left right => left.usable settings && right.usable settings
  | bracketed negated inner => inner.usable settings && (settings.unicode || !negated)

/-- Whether each of some sets can be used. -/
def allUsable (settings : Settings) : List CharSet → Bool
  | [] => true
  | set :: sets => set.usable settings && allUsable settings sets

end

end CharSet

end Tandem.Pattern
