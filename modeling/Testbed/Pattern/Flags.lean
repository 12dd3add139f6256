import Testbed.Text.Blank

/-!
# Flags of patterns

This file supplies the flags that change how a pattern is read, and the blanks and
comments that the extended notation ignores.

A comment runs from a number sign to the end of its line.
-/

namespace Testbed.PatternReader

/-! ## Flags -/

/-- Options that change how a pattern is read. -/
structure Flags where
  ignoreCase : Bool := false
  multiLine : Bool := false
  dotNewline : Bool := false
  returnLines : Bool := false
  swapGreed : Bool := false
  unicode : Bool := true
  extended : Bool := false
  deriving DecidableEq, Repr

/-- Set the flag of a letter. -/
def Flags.assign? (flags : Flags) (letter : Char) (value : Bool) : Option Flags :=
  if letter = 'i' then some { flags with ignoreCase := value }
  else if letter = 'm' then some { flags with multiLine := value }
  else if letter = 's' then some { flags with dotNewline := value }
  else if letter = 'R' then some { flags with returnLines := value }
  else if letter = 'U' then some { flags with swapGreed := value }
  else if letter = 'u' then some { flags with unicode := value }
  else if letter = 'x' then some { flags with extended := value }
  else none

/-- Flag letters read so far. -/
structure FlagState where
  flags : Flags
  seen : List Char := []
  negated : Bool := false
  /-- A minus sign that no letter has followed yet. -/
  dangling : Bool := false

/-- Read flags up to the colon or parenthesis that ends them. -/
def readFlags (state : FlagState) : List Char → Option (Flags × Char × List Char)
  | [] => none
  | char :: rest =>
      if char = ':' ∨ char = ')' then
        if state.dangling ∨ (char = ')' ∧ state.seen.isEmpty) then none
        else some (state.flags, char, rest)
      else if char = '-' then
        if state.negated then none
        else readFlags { state with negated := true, dangling := true } rest
      else if state.seen.contains char then
        none
      else
        match state.flags.assign? char (!state.negated) with
        | none => none
        | some flags =>
            readFlags
              { flags, seen := char :: state.seen, negated := state.negated } rest

/-! ## Blanks -/

/-- Where the extended notation reads: between the signs of a pattern, or inside a
comment. -/
inductive Place where
  | outside
  | comment
  deriving DecidableEq, Repr

/-- Whether a character is ignored at a place, and the place after it. -/
def ignored? (flags : Flags) (place : Place) (char : Char) : Option Place :=
  match place with
  | .comment => some (if char = '\n' then .outside else .comment)
  | .outside =>
      if !flags.extended then none
      else if char = '#' then some .comment
      else if Text.isBlank char then some .outside
      else none

/-- Skip what is ignored. -/
def skipFrom (flags : Flags) (place : Place) : List Char → List Char
  | [] => []
  | char :: rest =>
      match ignored? flags place char with
      | some place => skipFrom flags place rest
      | none => char :: rest

/-- Skip what the extended notation ignores. -/
def skip (flags : Flags) (chars : List Char) : List Char :=
  skipFrom flags .outside chars

/-- Take some characters that are not ignored. -/
def takeVisible (flags : Flags) (place : Place) :
    Nat → List Char → Option (List Char × List Char)
  | 0, chars => some ([], chars)
  | _ + 1, [] => none
  | count + 1, char :: rest =>
      match ignored? flags place char with
      | some place => takeVisible flags place (count + 1) rest
      | none =>
          (takeVisible flags .outside count rest).map fun (taken, rest) =>
            (char :: taken, rest)

/-- Take the characters that are not ignored as long as they satisfy a test. -/
def takeVisibleWhile (flags : Flags) (test : Char → Bool) (place : Place) :
    List Char → List Char × List Char
  | [] => ([], [])
  | char :: rest =>
      match ignored? flags place char with
      | some place => takeVisibleWhile flags test place rest
      | none =>
          if test char then
            let (taken, rest) := takeVisibleWhile flags test .outside rest
            (char :: taken, rest)
          else
            ([], char :: rest)

/-- The first character that is no blank; a number sign that opens a comment is
passed over once. -/
def firstVisible (place : Place) : List Char → Option Char
  | [] => none
  | char :: rest =>
      if Text.isBlank char then firstVisible place rest
      else if place = .outside ∧ char = '#' then firstVisible .comment rest
      else some char

/-- The character that a reader looking ahead sees next.  It sees what is in comments;
where there are blanks only, it sees the first of them. -/
def lookAhead (flags : Flags) (chars : List Char) : Option Char :=
  if flags.extended then (firstVisible .outside chars).or chars.head?
  else chars.head?

end Testbed.PatternReader
