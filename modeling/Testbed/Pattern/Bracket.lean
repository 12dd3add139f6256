import Testbed.Pattern.Escape

/-!
# Bracketed sets

This file supplies the reading of sets of characters in brackets: characters, ranges,
classes and further brackets, united or combined by operations that bind to the left.

Levels of nesting are counted as they are read: each bracket, each union of several
elements and each operation is one.
-/

namespace Testbed.PatternReader

open Testbed.Unicode

/-! ## Open sets -/

/-- An operation between the parts of a bracketed set. -/
inductive SetOp where
  | inter
  | diff
  | symmDiff

/-- The set that an operation makes of two. -/
def SetOp.apply : SetOp → CharSet → CharSet → CharSet
  | inter => CharSet.inter
  | diff => CharSet.diff
  | symmDiff => CharSet.symmDiff

/-- A set with its levels of nesting. -/
structure Leveled where
  set : CharSet
  depth : Nat := 0

/-- A bracketed set that is still open. -/
structure OpenSet where
  negated : Bool
  /-- Elements of the part being read, reversed. -/
  elements : List Leveled := []
  /-- The parts before it, and how they combine with it. -/
  left : Option (SetOp × Leveled) := none

namespace OpenSet

/-- Add an element to the part being read. -/
def add (level : OpenSet) (element : Leveled) : OpenSet :=
  { level with elements := element :: level.elements }

/-- The part being read, with the other case where the flags ask for it. -/
def part (flags : Flags) (level : OpenSet) : Leveled :=
  let deepest := level.elements.foldl (fun depth element => max depth element.depth) 0
  { set := foldIf flags (.unionAll (level.elements.map (·.set)))
    depth := if 1 < level.elements.length then deepest + 1 else deepest }

/-- The parts read so far, combined. -/
def combined (flags : Flags) (level : OpenSet) : Leveled :=
  let part := level.part flags
  match level.left with
  | none => part
  | some (op, left) =>
      { set := op.apply left.set part.set, depth := max left.depth part.depth + 1 }

/-- End a part at an operation. -/
def operate (flags : Flags) (op : SetOp) (level : OpenSet) : OpenSet :=
  { level with elements := [], left := some (op, level.combined flags) }

/-- The set at its closing bracket. -/
def close? (flags : Flags) (level : OpenSet) : Option Leveled :=
  let combined := level.combined flags
  (checkedSet flags level.negated combined.set).map fun set =>
    { set, depth := combined.depth + 1 }

end OpenSet

/-- Read what may follow an opening bracket: a complement sign, then hyphens or one
closing bracket that stand for themselves. -/
def readOpening (flags : Flags) (chars : List Char) : OpenSet × List Char :=
  let (negated, chars) :=
    match skip flags chars with
    | '^' :: rest => (true, skip flags rest)
    | chars => (false, chars)
  match takeVisibleWhile flags (· = '-') .outside chars with
  | ([], ']' :: rest) => ({ negated, elements := [⟨.singleton 93, 0⟩] }, rest)
  | (hyphens, rest) =>
      ({ negated, elements := hyphens.map fun _ => ⟨.singleton 45, 0⟩ }, rest)

/-! ## Elements -/

/-- The ASCII class of a name between colons. -/
def asciiClass? (name : String) : Option CharSet :=
  [("alnum", [(48, 57), (65, 90), (97, 122)]), ("alpha", [(65, 90), (97, 122)]),
   ("ascii", [(0, 127)]), ("blank", [(9, 9), (32, 32)]),
   ("cntrl", [(0, 31), (127, 127)]), ("digit", [(48, 57)]), ("graph", [(33, 126)]),
   ("lower", [(97, 122)]), ("print", [(32, 126)]),
   ("punct", [(33, 47), (58, 64), (91, 96), (123, 126)]),
   ("space", [(9, 13), (32, 32)]), ("upper", [(65, 90)]),
   ("word", [(48, 57), (65, 90), (95, 95), (97, 122)]),
   ("xdigit", [(48, 57), (65, 70), (97, 102)])].lookup name |>.map CharSet.ofRanges

/-- Read a class name between colons after an opening bracket, if there is one: its
set, whether it is negated, and the rest. -/
def readAsciiClass? (chars : List Char) : Option (CharSet × Bool × List Char) :=
  match chars with
  | ':' :: rest => do
      let (negated, rest) :=
        match rest with
        | '^' :: rest => (true, rest)
        | rest => (false, rest)
      let name := rest.takeWhile (· ≠ ':')
      match rest.dropWhile (· ≠ ':') with
      | ':' :: ']' :: after => pure (← asciiClass? (String.ofList name), negated, after)
      | _ => none
  | _ => none

/-- Read one element of a bracketed set. -/
def readElement (flags : Flags) : List Char → Option (Atom × List Char)
  | [] => none
  | '\\' :: rest => readEscape flags rest
  | char :: rest => some (.char char, rest)

/-- The code point of an element that may end a range. -/
def pointOf? (flags : Flags) : Atom → Option Nat
  | .char char =>
      if flags.unicode ∨ char.toNat < 0x80 then some char.toNat else none
  | _ => none

/-- The set of a single element. -/
def elementSet? (flags : Flags) : Atom → Option CharSet
  | .set members => some members
  | atom => (pointOf? flags atom).map .singleton

/-- Read an element or a range.  A hyphen before a closing bracket or another hyphen
opens no range. -/
def readRange (flags : Flags) (chars : List Char) : Option (CharSet × List Char) := do
  let (first, rest) ← readElement flags chars
  match skip flags rest with
  | [] => none
  | '-' :: after =>
      let ahead := lookAhead flags after
      if ahead = some ']' ∨ ahead = some '-' then
        pure (← elementSet? flags first, '-' :: after)
      else
        let (second, rest) ← readElement flags (skip flags after)
        let low ← pointOf? flags first
        let high ← pointOf? flags second
        if low ≤ high then pure (⟨#[(low, high)]⟩, rest) else none
  | rest => pure (← elementSet? flags first, rest)

/-! ## Reading -/

/-- Read a bracketed set up to its end: the set and the rest.  Each round reads at
least one character. -/
def readSetFrom (flags : Flags) (rounds : Nat) (level : OpenSet) (outer : List OpenSet)
    (chars : List Char) : Option (Leveled × List Char) :=
  match rounds with
  | 0 => none
  | rounds + 1 =>
      match skip flags chars with
      | [] => none
      | '[' :: rest =>
          match readAsciiClass? rest with
          | some (set, negated, rest) =>
              match checkedSet flags negated (foldIf flags set) with
              | none => none
              | some set => readSetFrom flags rounds (level.add ⟨set, 0⟩) outer rest
          | none =>
              let (opened, rest) := readOpening flags rest
              readSetFrom flags rounds opened (level :: outer) rest
      | ']' :: rest =>
          match level.close? flags, outer with
          | none, _ => none
          | some closed, [] => some (closed, rest)
          | some closed, parent :: outer =>
              readSetFrom flags rounds (parent.add closed) outer rest
      | '&' :: '&' :: rest =>
          readSetFrom flags rounds (level.operate flags .inter) outer rest
      | '-' :: '-' :: rest =>
          readSetFrom flags rounds (level.operate flags .diff) outer rest
      | '~' :: '~' :: rest =>
          readSetFrom flags rounds (level.operate flags .symmDiff) outer rest
      | chars =>
          match readRange flags chars with
          | none => none
          | some (set, rest) => readSetFrom flags rounds (level.add ⟨set, 0⟩) outer rest

/-- Read a bracketed set after its opening bracket. -/
def readSet (flags : Flags) (chars : List Char) : Option (Leveled × List Char) :=
  let (opened, rest) := readOpening flags chars
  readSetFrom flags (rest.length + 1) opened [] rest

end Testbed.PatternReader
