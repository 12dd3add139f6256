import Testbed.Pattern.Reader
import Testbed.Pattern.Size

/-!
# Searching for patterns

This file supplies the programs that patterns compile to and the search of a text
for a match.  A program is run by keeping every instruction at which a match may
stand, so the time for each character is bounded by the size of the program.
-/

namespace Testbed.Pattern

open Testbed.Unicode

/-! ## Programs -/

/-- An instruction, with the instructions after it. -/
inductive Instruction where
  | accept
  | consume (members : CharSet) (next : Nat)
  | require (condition : Look) (next : Nat)
  | fork (first second : Nat)
  deriving Inhabited

/-- The instructions of a pattern, the last compiled first to run. -/
abbrev Program :=
  Array Instruction

/-- Compile `count` copies of a pattern in front of `next`. -/
def compileCopies (compile : Nat → Program → Nat × Program) :
    Nat → Nat → Program → Nat × Program
  | 0, next, program => (next, program)
  | count + 1, next, program =>
      let (entry, program) := compile next program
      compileCopies compile count entry program

/-- Compile up to `count` optional copies of a pattern in front of `next`, each
of which may leave to `leave`. -/
def compileOptional (compile : Nat → Program → Nat × Program) (leave : Nat) :
    Nat → Nat → Program → Nat × Program
  | 0, next, program => (next, program)
  | count + 1, next, program =>
      let (entry, program) := compile next program
      compileOptional compile leave count program.size
        (program.push (.fork entry leave))

/-- Compile a pattern in front of `next`: the entry and the longer program. -/
def compile : Pattern → Nat → Program → Nat × Program
  | .empty, next, program => (next, program)
  | .literal text, next, program =>
      text.reverse.foldl
        (fun (next, program) char =>
          (program.size, program.push (.consume (.singleton char.toNat) next)))
        (next, program)
  | .set members _, next, program =>
      (program.size, program.push (.consume members next))
  | .look condition, next, program =>
      (program.size, program.push (.require condition next))
  | .seq first second, next, program =>
      let (entry, program) := compile second next program
      compile first entry program
  | .alt first second, next, program =>
      let (left, program) := compile first next program
      let (right, program) := compile second next program
      (program.size, program.push (.fork left right))
  | .group _ body, next, program => compile body next program
  | .repeated body least most _, next, program =>
      match most with
      | some most =>
          let (entry, program) :=
            compileOptional (compile body) next (most - least) next program
          compileCopies (compile body) least entry program
      | none =>
          let fork := program.size
          let (entry, program) := compile body fork (program.push .accept)
          let program := program.setIfInBounds fork (.fork entry next)
          compileCopies (compile body) least fork program

/-! ## Positions -/

/-- The characters on either side of a position. -/
structure Position where
  before : Option Char
  after : Option Char

/-- Whether a character belongs to a word, by ASCII rules unless `unicode`. -/
def isWordAt (unicode : Bool) : Option Char → Bool
  | none => false
  | some char =>
      if char.toNat < 0x80 then char.isAlphanum || char = '_'
      else unicode && wordChars.has char.toNat

/-- Whether a condition holds at a position. -/
def Position.satisfies (position : Position) : Look → Bool
  | .start => position.before.isNone
  | .finish => position.after.isNone
  | .lineStart => position.before.isNone || position.before = some '\n'
  | .lineEnd => position.after.isNone || position.after = some '\n'
  | .returnLineStart =>
      position.before.isNone || position.before = some '\n'
        || (position.before = some '\r' && position.after != some '\n')
  | .returnLineEnd =>
      position.after.isNone || position.after = some '\r'
        || (position.after = some '\n' && position.before != some '\r')
  | .wordBoundary unicode =>
      isWordAt unicode position.before != isWordAt unicode position.after
  | .notWordBoundary unicode =>
      isWordAt unicode position.before == isWordAt unicode position.after
  | .wordStart unicode =>
      !isWordAt unicode position.before && isWordAt unicode position.after
  | .wordEnd unicode =>
      isWordAt unicode position.before && !isWordAt unicode position.after
  | .wordStartHalf unicode => !isWordAt unicode position.before
  | .wordEndHalf unicode => !isWordAt unicode position.after

/-! ## Running -/

/-- Instructions reached at a position without reading a character. -/
structure Reached where
  /-- The number of the last position where each instruction was reached. -/
  marks : Array Nat
  /-- The sets whose members lead on, with the instructions they lead to. -/
  waiting : List (CharSet × Nat)
  accepted : Bool

/-- Follow instructions until each has been reached at the position of a number;
every round takes one off the list of those still to follow. -/
def follow (program : Program) (number : Nat) (position : Position) (rounds : Nat)
    (pending : List Nat) (reached : Reached) : Reached :=
  match rounds, pending with
  | 0, _ => reached
  | _ + 1, [] => reached
  | rounds + 1, index :: pending =>
      let ⟨marks, waiting, accepted⟩ := reached
      if marks.getD index number = number then
        follow program number position rounds pending ⟨marks, waiting, accepted⟩
      else
        let marks := marks.setIfInBounds index number
        match program[index]? with
        | none => follow program number position rounds pending ⟨marks, waiting, accepted⟩
        | some .accept => ⟨marks, waiting, true⟩
        | some (.consume members next) =>
            follow program number position rounds pending
              ⟨marks, (members, next) :: waiting, accepted⟩
        | some (.require condition next) =>
            let pending :=
              if position.satisfies condition then next :: pending else pending
            follow program number position rounds pending ⟨marks, waiting, accepted⟩
        | some (.fork first second) =>
            follow program number position rounds (first :: second :: pending)
              ⟨marks, waiting, accepted⟩

/-- Search the rest of a text from the position of a number, a match being allowed
to begin anywhere. -/
def searchFrom (program : Program) (entry : Nat) (active : List Nat)
    (number : Nat) (marks : Array Nat) (before : Option Char) (chars : List Char) :
    Bool :=
  let pending := active ++ [entry]
  let rounds := 2 * program.size + pending.length + 1
  let ⟨marks, waiting, accepted⟩ :=
    follow program number ⟨before, chars.head?⟩ rounds pending ⟨marks, [], false⟩
  if accepted then
    true
  else
    match chars with
    | [] => false
    | char :: rest =>
        let next := waiting.filterMap fun (members, next) =>
          if members.has char.toNat then some next else none
        searchFrom program entry next (number + 1) marks (some char) rest

end Testbed.Pattern

namespace Testbed

/-- A pattern ready for searching, with the text it was read from. -/
structure Regex where
  source : String
  program : Pattern.Program
  entry : Nat

namespace Regex

/-- Read and compile a pattern, unless its program is too large. -/
def compile? (source : String) : Option Regex :=
  (PatternReader.read? source).bind fun pattern =>
    if pattern.isCompilable then
      let (entry, program) := Pattern.compile pattern 0 #[.accept]
      some { source, program, entry }
    else
      none

/-- Whether the pattern matches somewhere in a text. -/
def isMatch (regex : Regex) (text : String) : Bool :=
  let marks := Array.replicate regex.program.size 0
  Pattern.searchFrom regex.program regex.entry [] 1 marks none text.toList

end Regex

end Testbed
