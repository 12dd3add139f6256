import Testbed.Pattern.Bracket

/-!
# Reading patterns

This file supplies the reading of a written pattern.  The notation has groups,
choice, greedy and reluctant repetition, bracketed sets with set operations,
named character properties, positions and flags; it has neither references to
groups nor conditions on the text around a match.

A set of flags applies from where it is written to the end of its group.  Groups
nest at most 250 deep, counting every operator as a level.
-/

namespace Testbed.PatternReader

open Testbed.Unicode

/-! ## Repetition -/

/-- A decimal number of 32 bits, with blanks around it. -/
def readDecimal (flags : Flags) (chars : List Char) : Option (Nat × List Char) :=
  let (digits, rest) :=
    takeVisibleWhile flags Char.isDigit .outside (chars.dropWhile Text.isBlank)
  let value := digits.foldl (fun value digit => value * 10 + (digit.toNat - 48)) 0
  if digits.isEmpty ∨ 0x100000000 ≤ value then none
  else some (value, rest.dropWhile Text.isBlank)

/-- The bounds of a counted repetition, after its opening brace. -/
def readBounds (flags : Flags) (chars : List Char) :
    Option ((Nat × Option Nat) × List Char) := do
  let (least, rest) ← readDecimal flags (skip flags chars)
  match rest with
  | '\x7d' :: after => pure ((least, some least), after)
  | ',' :: rest =>
      match skip flags rest with
      | '\x7d' :: after => pure ((least, none), after)
      | rest =>
          let (most, rest) ← readDecimal flags rest
          match rest with
          | '\x7d' :: after => if least ≤ most then pure ((least, some most), after) else none
          | _ => none
  | _ => none

/-! ## Groups -/

/-- A part of a pattern with its levels of nesting. -/
structure Part where
  pattern : Pattern
  depth : Nat := 0
  /-- Whether a repetition may follow. -/
  repeatable : Bool := true

/-- A group that is still open. -/
structure Group where
  /-- The number of a group that has one. -/
  index : Option Nat := none
  /-- Parts of the branch being read, reversed. -/
  parts : List Part := []
  /-- Branches before it, reversed. -/
  branches : List Part := []
  /-- Flags in force where the group was opened. -/
  outside : Flags := {}

/-- The greatest depth of some parts. -/
def depthOf (parts : List Part) : Nat :=
  parts.foldl (fun depth part => max depth part.depth) 0

namespace Group

/-- Add a part to the branch being read. -/
def push (group : Group) (part : Part) : Group :=
  { group with parts := part :: group.parts }

/-- The branch read so far. -/
def branch (group : Group) : Part :=
  match group.parts with
  | [] => { pattern := .empty }
  | [part] => part
  | parts =>
      { pattern := .sequence (parts.reverse.map (·.pattern)), depth := depthOf parts + 1 }

/-- End a branch. -/
def nextBranch (group : Group) : Group :=
  { group with parts := [], branches := group.branch :: group.branches }

/-- The choice of all branches. -/
def content (group : Group) : Part :=
  match group.branches with
  | [] => group.branch
  | branches =>
      let all := group.branch :: branches
      { pattern := .choice (all.reverse.map (·.pattern)), depth := depthOf all + 1 }

/-- The group as a part of the pattern around it. -/
def close (group : Group) : Part :=
  let content := group.content
  { pattern :=
      match group.index with
      | some index => .group index content.pattern
      | none => content.pattern
    depth := content.depth + 1 }

/-- Repeat the last part of the branch. -/
def repeatLast (group : Group) (least : Nat) (most : Option Nat) (greedy : Bool) :
    Option Group :=
  match group.parts with
  | part :: parts =>
      if part.repeatable then
        some { group with
          parts :=
            { pattern := .repetition part.pattern least most greedy
              depth := part.depth + 1 } :: parts }
      else
        none
  | [] => none

end Group

/-- A pattern that has been read in part. -/
structure State where
  flags : Flags := {}
  group : Group := {}
  outer : List Group := []
  /-- Names of groups. -/
  names : List String := []
  /-- How many numbered groups have been opened. -/
  count : Nat := 0

/-- Add a part to the branch being read. -/
def State.push (state : State) (pattern : Pattern) (depth : Nat) : State :=
  { state with group := state.group.push { pattern, depth } }

/-- Whether a character may stand in the name of a group. -/
def isNameChar (first : Bool) (char : Char) : Bool :=
  char = '_' || alphabetic.has char.toNat
    || (!first && (char = '.' || char = '[' || char = ']'
      || (gather categories ["Nd", "Nl", "No"]).has char.toNat))

/-- The name of a group, up to the bracket that ends it. -/
def readName (names : List String) (chars : List Char) : Option (String × List Char) :=
  let name := chars.takeWhile (· ≠ '>')
  match name, chars.dropWhile (· ≠ '>') with
  | first :: others, _ :: rest =>
      let text := String.ofList name
      if isNameChar true first ∧ others.all (isNameChar false) ∧ !names.contains text then
        some (text, rest)
      else
        none
  | _, _ => none

/-- Open a group under flags. -/
def State.open (state : State) (inside : Flags) (index : Option Nat) : State :=
  { state with
    flags := inside
    group := { index, outside := state.flags }
    outer := state.group :: state.outer }

/-- Open a group that has a number. -/
def State.openNumbered (state : State) : State :=
  { state.open state.flags (some (state.count + 1)) with count := state.count + 1 }

/-- Set flags for the rest of the group. -/
def State.setFlags (state : State) (flags : Flags) : State :=
  { state with
    flags
    group := state.group.push { pattern := .empty, repeatable := false } }

/-- Read what follows an opening parenthesis. -/
def readGroup (state : State) (chars : List Char) : Option (State × List Char) :=
  match skip state.flags chars with
  | '?' :: '=' :: _ | '?' :: '!' :: _ => none
  | '?' :: '<' :: '=' :: _ | '?' :: '<' :: '!' :: _ => none
  | '?' :: 'P' :: '<' :: rest | '?' :: '<' :: rest =>
      (readName state.names rest).map fun (name, rest) =>
        ({ state.openNumbered with names := name :: state.names }, rest)
  | '?' :: rest =>
      (readFlags { flags := state.flags } rest).map fun (flags, mark, rest) =>
        (if mark = ')' then state.setFlags flags else state.open flags none, rest)
  | rest => some (state.openNumbered, rest)

/-- Close the innermost group. -/
def State.close? (state : State) : Option State :=
  match state.outer with
  | [] => none
  | parent :: outer =>
      some
        { state with
          flags := state.group.outside
          group := parent.push state.group.close
          outer }

/-! ## Parts -/

/-- The pattern of a single character. -/
def charPattern (flags : Flags) (char : Char) : Pattern :=
  .ofSet (foldIf flags (.singleton char.toNat)) (!flags.unicode)

/-- The pattern of an atom outside brackets. -/
def atomPattern (flags : Flags) : Atom → Pattern
  | .char char => charPattern flags char
  | .set members => .ofSet members (!flags.unicode)
  | .look condition => .look condition

/-- The pattern of any character. -/
def dotPattern? (flags : Flags) : Option Pattern :=
  if !flags.unicode then none
  else if flags.dotNewline then some (.set .all false)
  else if flags.returnLines then
    some (.set (CharSet.complement ⟨#[(10, 10), (13, 13)]⟩) false)
  else some (.set (CharSet.complement ⟨#[(10, 10)]⟩) false)

/-- The position that a circumflex stands for. -/
def caretLook (flags : Flags) : Look :=
  if flags.multiLine then
    if flags.returnLines then .returnLineStart else .lineStart
  else
    .start

/-- The position that a dollar sign stands for. -/
def dollarLook (flags : Flags) : Look :=
  if flags.multiLine then
    if flags.returnLines then .returnLineEnd else .lineEnd
  else
    .finish

/-- Repeat the last part; a question mark that follows at once makes the repetition
reluctant. -/
def State.repeatLast (state : State) (least : Nat) (most : Option Nat)
    (chars : List Char) : Option (State × List Char) :=
  let (greedy, rest) :=
    match chars with
    | '?' :: rest => (false, rest)
    | rest => (true, rest)
  (state.group.repeatLast least most (greedy != state.flags.swapGreed)).map fun group =>
    ({ state with group }, rest)

/-- Read one part of a pattern. -/
def readPart (state : State) (char : Char) (rest : List Char) :
    Option (State × List Char) :=
  if char = '(' then readGroup state rest
  else if char = ')' then state.close?.map fun state => (state, rest)
  else if char = '|' then
    some ({ state with group := state.group.nextBranch }, rest)
  else if char = '?' then state.repeatLast 0 (some 1) rest
  else if char = '*' then state.repeatLast 0 none rest
  else if char = '+' then state.repeatLast 1 none rest
  else if char = '\x7b' then do
    let ((least, most), rest) ← readBounds state.flags rest
    state.repeatLast least most (skip state.flags rest)
  else if char = '[' then do
    let (read, rest) ← readSet state.flags rest
    pure (state.push (.ofSet read.set (!state.flags.unicode)) read.depth, rest)
  else if char = '\\' then do
    let (atom, rest) ← readEscape state.flags rest
    pure (state.push (atomPattern state.flags atom) 0, rest)
  else if char = '.' then
    (dotPattern? state.flags).map fun pattern => (state.push pattern 0, rest)
  else if char = '^' then some (state.push (.look (caretLook state.flags)) 0, rest)
  else if char = '$' then some (state.push (.look (dollarLook state.flags)) 0, rest)
  else some (state.push (charPattern state.flags char) 0, rest)

/-- Read parts until the text ends.  Each round reads at least one character. -/
def readParts (rounds : Nat) (state : State) (chars : List Char) : Option State :=
  match rounds with
  | 0 => none
  | rounds + 1 =>
      match skip state.flags chars with
      | [] => some state
      | char :: rest =>
          match readPart state char rest with
          | none => none
          | some (state, rest) => readParts rounds state rest

/-- Nesting that is accepted. -/
def maxDepth : Nat :=
  250

/-- The pattern that a text denotes. -/
def read? (source : String) : Option Pattern := do
  let chars := source.toList
  let state ← readParts (chars.length + 1) {} chars
  let content := state.group.content
  if state.outer.isEmpty ∧ content.depth ≤ maxDepth then some content.pattern
  else none

end Testbed.PatternReader
