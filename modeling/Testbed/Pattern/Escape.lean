import Testbed.Pattern.Flags
import Testbed.Pattern.Tree
import Testbed.Text.Hex
import Testbed.Unicode.CaseFolding
import Testbed.Unicode.Lookup
import Testbed.Unicode.Word

/-!
# Escapes in patterns

This file supplies the reading of what follows a backslash in a pattern: characters
by their code points, classes of characters, named properties and positions.

Without the Unicode flag a set must hold ASCII characters only, since any other octet
could split a character.
-/

namespace Testbed.PatternReader

open Testbed.Unicode

/-! ## Sets -/

/-- The digits of ASCII. -/
def asciiDigits : CharSet := ⟨#[(48, 57)]⟩

/-- The blanks of ASCII. -/
def asciiBlanks : CharSet := ⟨#[(9, 13), (32, 32)]⟩

/-- The word characters of ASCII. -/
def asciiWord : CharSet := ⟨#[(48, 57), (65, 90), (95, 95), (97, 122)]⟩

/-- The decimal digits. -/
def digits : CharSet :=
  gather categories ["Nd"]

/-- The blanks. -/
def blanks : CharSet :=
  gather properties ["White_Space"]

/-- The set of digits, blanks or word characters that a letter stands for. -/
def letterSet (unicode : Bool) (letter : Char) : CharSet :=
  if letter = 'd' then
    if unicode then digits else asciiDigits
  else if letter = 's' then
    if unicode then blanks else asciiBlanks
  else
    if unicode then wordChars else asciiWord

/-- Add the other case where the flags ask for it. -/
def foldIf (flags : Flags) (set : CharSet) : CharSet :=
  if flags.ignoreCase then
    if flags.unicode then set.foldCase else set.foldAsciiCase
  else
    set

/-- A set, or its complement, if the flags admit it. -/
def checkedSet (flags : Flags) (negated : Bool) (set : CharSet) : Option CharSet :=
  let set := if negated then set.complement else set
  if flags.unicode ∨ set.isAscii then some set else none

/-! ## Code points -/

/-- What an escape or a plain character denotes. -/
inductive Atom where
  | char (char : Char)
  | set (members : CharSet)
  | look (condition : Look)

/-- The character of a code point. -/
def charOf? (point : Nat) : Option Char :=
  if point < 0xD800 ∨ (0xE000 ≤ point ∧ point ≤ maxCodePoint) then
    some (Char.ofNat point)
  else
    none

/-- The character whose code point hexadecimal digits spell. -/
def hexChar? (digits : List Char) : Option Char := do
  let values ← digits.mapM Text.Hex.digitValue?
  charOf? (values.foldl (fun number value => number * 16 + value) 0)

/-- Read characters up to a closing brace. -/
def readBraces (flags : Flags) (chars : List Char) : Option (List Char × List Char) :=
  match takeVisibleWhile flags (· ≠ '\x7d') .outside chars with
  | (content, _ :: rest) => some (content, rest)
  | (_, []) => none

/-- Read a character by its code point, in braces or in `width` digits.  Two digits
stand for an octet, which without the Unicode flag must be an ASCII character. -/
def readCodePoint (flags : Flags) (width : Nat) (chars : List Char) :
    Option (Char × List Char) :=
  match skip flags chars with
  | '\x7b' :: rest => do
      let (digits, rest) ← readBraces flags rest
      if digits.isEmpty then none
      else pure (← hexChar? digits, skip flags rest)
  | chars => do
      let (digits, rest) ← takeVisible flags .outside width chars
      let char ← hexChar? digits
      if !flags.unicode ∧ width = 2 ∧ 0x80 ≤ char.toNat then none
      else pure (char, skip flags rest)

/-! ## Properties -/

/-- The text before and after the first occurrence of a separator. -/
def splitFirst? (separator : List Char) : List Char → Option (List Char × List Char)
  | [] => none
  | char :: rest =>
      if separator.isPrefixOf (char :: rest) then
        some ([], (char :: rest).drop separator.length)
      else
        (splitFirst? separator rest).map fun (before, after) => (char :: before, after)

/-- The set of a property, and whether its value is excluded. -/
def propertySet? (content : List Char) : Option (CharSet × Bool) :=
  let valued? (split : List Char × List Char) : Option CharSet :=
    Unicode.valued? (String.ofList split.1) (String.ofList split.2)
  match splitFirst? ['!', '='] content with
  | some split => (valued? split).map (·, true)
  | none =>
      match (splitFirst? [':'] content).or (splitFirst? ['='] content) with
      | some split => (valued? split).map (·, false)
      | none => (named? (String.ofList content)).map (·, false)

/-- Read a property written in braces or as one letter. -/
def readProperty (flags : Flags) (negated : Bool) (chars : List Char) :
    Option (CharSet × List Char) := do
  let (content, rest) ←
    match skip flags chars with
    | '\x7b' :: rest => readBraces flags rest
    | '\\' :: _ => none
    | letter :: rest => some ([letter], skip flags rest)
    | [] => none
  let (set, excluded) ← propertySet? content
  if flags.unicode then
    let set := foldIf flags set
    pure (if negated != excluded then set.complement else set, rest)
  else
    none

/-! ## Positions -/

/-- Whether a character may stand in the name of a word position. -/
def isPositionChar (char : Char) : Bool :=
  char.isAlpha || char = '-'

/-- The word position of a name. -/
def wordPosition? (unicode : Bool) (name : String) : Option Look :=
  if name = "start" then some (.wordStart unicode)
  else if name = "end" then some (.wordEnd unicode)
  else if name = "start-half" then some (.wordStartHalf unicode)
  else if name = "end-half" then some (.wordEndHalf unicode)
  else none

/-- Read the word position named in braces after a boundary, if one is named.  Braces
that do not open a name are a repetition and are left in place. -/
def readWordPosition (flags : Flags) (chars : List Char) : Option (Look × List Char) :=
  match chars with
  | '\x7b' :: rest =>
      match skip flags rest with
      | [] => none
      | char :: _ =>
          if isPositionChar char then
            match takeVisibleWhile flags isPositionChar .outside rest with
            | (name, '\x7d' :: after) =>
                (wordPosition? flags.unicode (String.ofList name)).map (·, after)
            | _ => none
          else
            some (.wordBoundary flags.unicode, chars)
  | chars => some (.wordBoundary flags.unicode, chars)

/-! ## Escapes -/

/-- The characters with a meaning of their own. -/
def isMeta (char : Char) : Bool :=
  "\\.+*?()|[]\x7b\x7d^$#&-~".contains char

/-- Whether an escaped character stands for itself. -/
def standsForItself (char : Char) : Bool :=
  isMeta char
    || (char.toNat < 0x80 && !char.isAlphanum && char ≠ '<' && char ≠ '>')

/-- The control character that a letter stands for. -/
def controlChar? (letter : Char) : Option Char :=
  [('a', '\x07'), ('f', '\x0c'), ('t', '\t'), ('n', '\n'), ('r', '\r'),
   ('v', '\x0b')].lookup letter

/-- The position that a letter or a sign stands for. -/
def position? (unicode : Bool) (char : Char) : Option Look :=
  if char = 'A' then some .start
  else if char = 'z' then some .finish
  else if char = 'B' then some (.notWordBoundary unicode)
  else if char = '<' then some (.wordStart unicode)
  else if char = '>' then some (.wordEnd unicode)
  else none

/-- Read a character by its code point, which a letter announces. -/
def readHex (flags : Flags) (letter : Char) (chars : List Char) :
    Option (Atom × List Char) :=
  let width := if letter = 'x' then 2 else if letter = 'u' then 4 else 8
  (readCodePoint flags width chars).map fun (char, rest) => (.char char, rest)

/-- Read what follows a backslash. -/
def readEscape (flags : Flags) : List Char → Option (Atom × List Char)
  | [] => none
  | char :: rest =>
      if char = 'x' ∨ char = 'u' ∨ char = 'U' then
        readHex flags char rest
      else if char = 'p' ∨ char = 'P' then
        (readProperty flags (char = 'P') rest).map fun (set, rest) => (.set set, rest)
      else if char = 'd' ∨ char = 's' ∨ char = 'w' then
        some (.set (letterSet flags.unicode char), rest)
      else if char = 'D' ∨ char = 'S' ∨ char = 'W' then
        (checkedSet flags true (letterSet flags.unicode char.toLower)).map fun set =>
          (.set set, rest)
      else if standsForItself char then
        some (.char char, rest)
      else if char = 'b' then
        (readWordPosition flags rest).map fun (look, rest) => (.look look, rest)
      else
        match controlChar? char with
        | some char => some (.char char, rest)
        | none => (position? flags.unicode char).map fun look => (.look look, rest)

end Testbed.PatternReader
