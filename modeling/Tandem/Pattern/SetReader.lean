import Tandem.Pattern.Scan

/-! # Reading sets of characters

Sets may stand inside each other. Two ampersands, dashes or tildes between them
are an operation, which takes all that stands before it in its brackets.
-/

namespace Tandem.Pattern

/-- A set whose closing bracket has not been read. -/
structure OpenSet where
  negated : Bool
  /-- Whether nothing but dashes has been read in it. -/
  atStart : Bool := true
  /-- What stands before the last operation. -/
  left : Option CharSet := none
  /-- What stands behind it, latest first. -/
  items : List CharSet := []

namespace OpenSet

/-- Add a set to an open one. -/
def push (opened : OpenSet) (item : CharSet) : OpenSet :=
  { opened with atStart := false, items := item :: opened.items }

/-- What has been read of an open set. -/
def content (opened : OpenSet) : CharSet :=
  let right := CharSet.ofList opened.items.reverse
  match opened.left with
  | some left => .operation left right
  | none => right

/-- Begin the right side of an operation. -/
def operate (opened : OpenSet) : OpenSet :=
  { opened with atStart := false, left := some opened.content, items := [] }

/-- The set that an open one has become. -/
def close (opened : OpenSet) : CharSet :=
  .bracketed opened.negated opened.content

/-- Read what stands behind an opening bracket, up to the first character of the set. -/
def read (ignoring : Bool) (text : List Char) : OpenSet × List Char :=
  match skip ignoring text with
  | '^' :: rest => ({ negated := true }, skip ignoring rest)
  | rest => ({ negated := false }, rest)

end OpenSet

/-- The names of sets. -/
def setNames : List String :=
  ["alnum", "alpha", "ascii", "blank", "cntrl", "digit", "graph", "lower", "print", "punct",
   "space", "upper", "word", "xdigit"]

/-- Read a named set behind its opening bracket. -/
def readNamed? (text : List Char) : Option (CharSet × List Char) :=
  match text with
  | ':' :: rest =>
    let (negated, rest) :=
      match rest with
      | '^' :: rest => (true, rest)
      | _ => (false, rest)
    match rest.span (· != ':') with
    | (name, ':' :: ']' :: rest) =>
      if setNames.contains (String.ofList name) then some (.named negated, rest) else none
    | _ => none
  | _ => none

/-- Read a character of a set, or a shorthand. -/
def readMember? (ignoring : Bool) : List Char → Option (Pattern × List Char)
  | [] => none
  | '\\' :: rest => readEscape? ignoring rest
  | c :: rest => some (.literal { char := c }, rest)

/-- The set of a character or a shorthand. -/
def toSet? : Pattern → Option CharSet
  | .literal character => some (.literal character)
  | .shorthand negated => some (.shorthand negated)
  | _ => none

/-- The set of the characters from one to another. -/
def toRange? : Pattern → Pattern → Option CharSet
  | .literal first, .literal last =>
    if first.char ≤ last.char then some (.range first last) else none
  | _, _ => none

/-- Read a member of a set, or a range of characters. A dash before another dash or the
closing bracket makes no range. -/
def readItem? (ignoring : Bool) (text : List Char) : Option (CharSet × List Char) := do
  let (first, rest) ← readMember? ignoring text
  match skip ignoring rest with
  | [] => none
  | '-' :: behind =>
    if peek? ignoring behind = some ']' ∨ peek? ignoring behind = some '-' then
      return (← toSet? first, '-' :: behind)
    else
      let (last, rest) ← readMember? ignoring (skip ignoring behind)
      return (← toRange? first last, rest)
  | rest => return (← toSet? first, rest)

/-- Read one part of a set, inside the sets around it, innermost first. -/
def readSetPart? (ignoring : Bool) :
    OpenSet × List OpenSet → List Char →
      Option (((OpenSet × List OpenSet) ⊕ CharSet) × List Char) :=
  fun (opened, around) text =>
    match skip ignoring text with
    | [] => none
    | c :: rest =>
      let member : CharSet := .literal { char := c }
      if opened.atStart && c == '-' then
        some (.inl ({ opened.push member with atStart := true }, around), rest)
      else if opened.atStart && c == ']' && opened.items.isEmpty then
        some (.inl (opened.push member, around), rest)
      else
        match c, rest with
        | '[', rest =>
          match readNamed? rest with
          | some (named, rest) => some (.inl (opened.push named, around), rest)
          | none =>
            let (inner, rest) := OpenSet.read ignoring rest
            some (.inl (inner, { opened with atStart := false } :: around), rest)
        | ']', rest =>
          match around with
          | [] => some (.inr opened.close, rest)
          | outer :: around => some (.inl (outer.push opened.close, around), rest)
        | '&', '&' :: rest | '-', '-' :: rest | '~', '~' :: rest =>
          some (.inl (opened.operate, around), rest)
        | c, rest =>
          (readItem? ignoring (c :: rest)).map fun (item, rest) =>
            (.inl (opened.push item, around), rest)

/-- Read a set behind its opening bracket. -/
def readSet? (ignoring : Bool) (text : List Char) : Option (CharSet × List Char) :=
  let (opened, rest) := OpenSet.read ignoring text
  iterate (readSetPart? ignoring) (opened, []) rest

end Tandem.Pattern
