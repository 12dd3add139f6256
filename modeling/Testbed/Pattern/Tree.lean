import Testbed.Unicode.CharSet

/-!
# Patterns

This file supplies the patterns that select texts: literal text, sets of characters,
positions in the text, sequence, choice, repetition and numbered groups.

Patterns are built by `sequence`, `choice`, `repetition` and `ofSet`, which simplify
as they build: adjacent literals are joined, sequences in sequences and choices in
choices are flattened, choices between characters become sets, and what all branches
of a choice begin with is taken out.  None of this changes the texts that match; it
decides how large the program of a pattern is.
-/

namespace Testbed

/-- A condition on a position between characters. -/
inductive Look where
  | start
  | finish
  | lineStart
  | lineEnd
  /-- Line start where carriage returns end lines too. -/
  | returnLineStart
  | returnLineEnd
  | wordBoundary (unicode : Bool)
  | notWordBoundary (unicode : Bool)
  | wordStart (unicode : Bool)
  | wordEnd (unicode : Bool)
  /-- No word character before the position. -/
  | wordStartHalf (unicode : Bool)
  /-- No word character after the position. -/
  | wordEndHalf (unicode : Bool)
  deriving DecidableEq, Repr

/-- A pattern. -/
inductive Pattern where
  | empty
  /-- A text of at least one character. -/
  | literal (text : List Char)
  /-- One character of a set.  A set of `octets` was written where patterns speak of
  octets and holds ASCII characters only. -/
  | set (members : Unicode.CharSet) (octets : Bool)
  | look (condition : Look)
  /-- Between `least` and `most` repetitions; without `most`, any greater number. -/
  | repeated (body : Pattern) (least : Nat) (most : Option Nat) (greedy : Bool)
  /-- A numbered group. -/
  | group (index : Nat) (body : Pattern)
  /-- A pattern that is no sequence, and what follows it. -/
  | seq (first rest : Pattern)
  /-- A pattern that is no choice, and the other branches. -/
  | alt (first rest : Pattern)
  deriving DecidableEq, Repr, Inhabited

namespace Pattern

/-! ## Properties -/

/-- The least length of a matching text, in octets up to one; nothing where no text
can match. -/
def leastLength : Pattern → Option Nat
  | empty => some 0
  | literal text => some text.length
  | set members _ => if members.ranges.isEmpty then none else some 1
  | look _ => some 0
  | repeated body least _ _ => body.leastLength.map (· * least)
  | group _ body => body.leastLength
  | seq first rest => do
      pure ((← first.leastLength) + (← rest.leastLength))
  | alt first rest => do
      pure (min (← first.leastLength) (← rest.leastLength))

/-- Whether only the empty text can match. -/
def isBlank : Pattern → Bool
  | empty => true
  | literal _ => false
  | set _ _ => false
  | look _ => true
  | repeated body _ most _ => most.isSome && body.isBlank
  | group _ body => body.isBlank
  | seq first rest => first.isBlank && rest.isBlank
  | alt first rest => first.isBlank && rest.isBlank

/-- Whether every match begins at the start of the text. -/
def opensAtStart : Pattern → Bool
  | look condition => condition = .start
  | repeated body least _ _ => 0 < least && body.opensAtStart
  | group _ body => body.opensAtStart
  | seq first rest => first.opensAtStart || (first.isBlank && rest.opensAtStart)
  | alt first rest => first.opensAtStart && rest.opensAtStart
  | empty | literal _ | set _ _ => false

/-- Whether every match ends at the end of the text. -/
def closesAtEnd : Pattern → Bool
  | look condition => condition = .finish
  | repeated body least _ _ => 0 < least && body.closesAtEnd
  | group _ body => body.closesAtEnd
  | seq first rest => rest.closesAtEnd || (rest.isBlank && first.closesAtEnd)
  | alt first rest => first.closesAtEnd && rest.closesAtEnd
  | empty | literal _ | set _ _ => false

/-! ## Sets -/

/-- The pattern that nothing matches. -/
def nothing : Pattern :=
  set .empty true

/-- The pattern of a set: a literal if it has just one member. -/
def ofSet (members : Unicode.CharSet) (octets : Bool) : Pattern :=
  if members.ranges.isEmpty then nothing
  else
    match members.single? with
    | some point => literal [Char.ofNat point]
    | none => set members octets

/-! ## Sequences -/

/-- The parts of a sequence. -/
def parts : Pattern → List Pattern
  | empty => []
  | seq first rest => first :: rest.parts
  | pattern => [pattern]

/-- Put a part in front of others, joining adjacent literals. -/
def joinPart : Pattern → List Pattern → List Pattern
  | literal text, literal other :: rest => literal (text ++ other) :: rest
  | part, rest => part :: rest

/-- The sequence of some parts. -/
def ofParts : List Pattern → Pattern
  | [] => empty
  | [part] => part
  | part :: rest => seq part (ofParts rest)

/-- A sequence of patterns. -/
def sequence (patterns : List Pattern) : Pattern :=
  ofParts ((patterns.flatMap parts).foldr joinPart [])

/-! ## Choices -/

/-- The branches of a choice. -/
def branches : Pattern → List Pattern
  | alt first rest => first :: rest.branches
  | pattern => [pattern]

/-- The choice between some branches. -/
def ofBranches : List Pattern → Pattern
  | [] => nothing
  | [branch] => branch
  | branch :: rest => alt branch (ofBranches rest)

/-- The code point of a literal of one character. -/
def singlePoint? : Pattern → Option Nat
  | literal [char] => some char.toNat
  | _ => none

/-- The members of a set. -/
def members? : Pattern → Option Unicode.CharSet
  | set members _ => some members
  | _ => none

/-- Branches that are all characters, or all sets, as one set. -/
def merged? (all : List Pattern) : Option Pattern :=
  match all.mapM singlePoint? with
  | some points => some (ofSet (.ofPoints points) false)
  | none => (all.mapM members?).map fun sets => ofSet (.unionAll sets) false

/-- A choice between branches that have nothing to take out in common. -/
def plainChoice (patterns : List Pattern) : Pattern :=
  match patterns.flatMap branches with
  | [] => nothing
  | [branch] => branch
  | all => (merged? all).getD (ofBranches all)

/-- How many parts two sequences have in common at their start. -/
def commonCount : List Pattern → List Pattern → Nat
  | first :: firsts, second :: seconds =>
      if first = second then commonCount firsts seconds + 1 else 0
  | _, _ => 0

/-- How many parts all branches begin with, if all are sequences. -/
def sharedCount : List Pattern → Nat
  | [] => 0
  | branch :: rest =>
      if (branch :: rest).all (· matches seq ..) then
        (rest.map fun other => commonCount branch.parts other.parts).foldl min
          branch.parts.length
      else
        0

/-- A choice of patterns.  What the branches share at their start is taken out of
them; what is left of them then shares no start. -/
def choice (patterns : List Pattern) : Pattern :=
  match patterns.flatMap branches with
  | [] => nothing
  | [branch] => branch
  | branch :: rest =>
      match merged? (branch :: rest) with
      | some joined => joined
      | none =>
          let count := sharedCount (branch :: rest)
          if count = 0 then ofBranches (branch :: rest)
          else
            let tails := (branch :: rest).map fun other =>
              sequence (other.parts.drop count)
            sequence (branch.parts.take count ++ [plainChoice tails])

/-! ## Repetition -/

/-- A repetition of a pattern.  To repeat what matches only the empty text more than
once adds nothing. -/
def repetition (body : Pattern) (least : Nat) (most : Option Nat) (greedy : Bool) :
    Pattern :=
  let (least, most) :=
    if body.isBlank then (min least 1, some (min (most.getD 1) 1)) else (least, most)
  if least = 0 ∧ most = some 0 then empty
  else if least = 1 ∧ most = some 1 then body
  else repeated body least most greedy

end Pattern

end Testbed
