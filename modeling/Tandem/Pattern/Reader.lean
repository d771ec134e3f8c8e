import Tandem.Pattern.SetReader

/-! # Reading patterns

Characters stand for themselves, except for the marks of groups, sets, repetitions,
alternatives, anchors and escapes. Forms in braces are refused.
-/

namespace Tandem.Pattern

/-- What stands before a group in the group around it. -/
structure OpenGroup where
  flags : Flags := []
  /-- Whether blanks are ignored around the group. -/
  ignoring : Bool
  /-- Branches before the group, latest first. -/
  branches : List Pattern
  /-- Items before the group in its branch, latest first. -/
  items : List Pattern

/-- How far a pattern has been read. -/
structure Progress where
  /-- Groups that are open, innermost first. -/
  groups : List OpenGroup := []
  branches : List Pattern := []
  items : List Pattern := []
  ignoring : Bool := false
  /-- The names of groups. -/
  names : List (List Char) := []

namespace Progress

/-- Add an item. -/
def push (progress : Progress) (item : Pattern) : Progress :=
  { progress with items := item :: progress.items }

/-- What has been read since the last group was opened. -/
def content (progress : Progress) : Pattern :=
  ofBranches (ofItems progress.items.reverse :: progress.branches).reverse

/-- Open a group. -/
def enter (progress : Progress) (flags : Flags) : Progress :=
  { progress with
    groups :=
      { flags, ignoring := progress.ignoring, branches := progress.branches,
        items := progress.items } :: progress.groups
    branches := []
    items := []
    ignoring := flags.state .ignoreBlanks progress.ignoring }

/-- Close the last group that was opened. -/
def leave? (progress : Progress) : Option Progress :=
  match progress.groups with
  | [] => none
  | { flags, ignoring, branches, items } :: groups =>
    some { progress with
      groups, branches, ignoring, items := .group flags progress.content :: items }

/-- Begin the next branch. -/
def branch (progress : Progress) : Progress :=
  { progress with
    branches := ofItems progress.items.reverse :: progress.branches
    items := [] }

/-- Switch flags for the rest of the group. -/
def switch (progress : Progress) (flags : Flags) : Progress :=
  { progress.push (.switch flags) with
    ignoring := flags.state .ignoreBlanks progress.ignoring }

/-- Repeat the last item. -/
def repeat? (progress : Progress) : Option Progress :=
  match progress.items with
  | [] | .switch _ :: _ => none
  | item :: items => some { progress with items := .repetition item :: items }

/-- The whole pattern, if all its groups are closed. -/
def finish? (progress : Progress) : Option Pattern :=
  if progress.groups.isEmpty then some progress.content else none

end Progress

/-- Whether a text may be the name of a group. -/
def isGroupName : List Char → Bool
  | [] => false
  | first :: rest =>
    (first == '_' || Text.isAlphabetic first) &&
      rest.all fun c => ['_', '.', '[', ']'].contains c || Text.isAlphanumeric c

/-- Read the name of a group, and open the group. -/
def readGroupName? (progress : Progress) (text : List Char) : Option (Progress × List Char) :=
  match text.span (· != '>') with
  | (name, _ :: rest) =>
    if isGroupName name && !progress.names.contains name then
      some ({ progress.enter [] with names := name :: progress.names }, rest)
    else none
  | (_, []) => none

/-- Read what stands behind an opening parenthesis. Looking around is not at hand. -/
def readGroup? (progress : Progress) (text : List Char) : Option (Progress × List Char) :=
  match skip progress.ignoring text with
  | '?' :: '=' :: _ | '?' :: '!' :: _ | '?' :: '<' :: '=' :: _ | '?' :: '<' :: '!' :: _ => none
  | '?' :: 'P' :: '<' :: rest | '?' :: '<' :: rest => readGroupName? progress rest
  | '?' :: rest =>
    match readFlags? [] false false rest with
    | some (flags, ':' :: rest) => some (progress.enter flags, rest)
    | some (flags, _ :: rest) =>
      if flags.isEmpty then none else some (progress.switch flags, rest)
    | _ => none
  | rest => some (progress.enter [], rest)

/-- Read one part of a pattern. -/
def readPart? (progress : Progress) (text : List Char) :
    Option ((Progress ⊕ Pattern) × List Char) :=
  match skip progress.ignoring text with
  | [] => progress.finish?.map fun pattern => (.inr pattern, [])
  | c :: rest =>
    let next : Option (Progress × List Char) :=
      match c with
      | '(' => readGroup? progress rest
      | ')' => progress.leave?.map (·, rest)
      | '|' => some (progress.branch, rest)
      | '[' => (readSet? progress.ignoring rest).map fun (members, rest) =>
        (progress.push (.set members), rest)
      | '?' | '*' | '+' => progress.repeat?.map fun progress =>
        (progress, if rest.head? = some '?' then rest.tail else rest)
      | '\x7b' => none
      | '\\' => (readEscape? progress.ignoring rest).map fun (item, rest) =>
        (progress.push item, rest)
      | '.' => some (progress.push .anyCharacter, rest)
      | '^' | '$' => some (progress.push .anchor, rest)
      | char => some (progress.push (.literal { char }), rest)
    next.map fun (progress, rest) => (.inl progress, rest)

/-- Read a pattern. -/
def read? (text : List Char) : Option Pattern :=
  (iterate readPart? {} text).map Prod.fst

end Tandem.Pattern
