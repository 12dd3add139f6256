import Testbed.Text.Utf8

/-!
# Texts that the shell prints

This file supplies what the printing commands of the shell write.  An escape, which
begins with a backslash, stands for one octet; in a pattern a percent sign and a
letter stand for the next argument, and a pattern is used again as long as it takes
arguments and there are some left.
-/

namespace Testbed.Shell

/-! ## Escapes -/

/-- Whether a character is an octal digit. -/
def isOctalDigit (char : Char) : Bool :=
  '0' ≤ char && char ≤ '7'

/-- The octet that at most `count` octal digits denote, and the rest. -/
def takeOctal (count : Nat) (chars : List Char) : UInt8 × List Char :=
  let digits := (chars.take count).takeWhile isOctalDigit
  let value := digits.foldl (fun value digit => 8 * value + (digit.toNat - 48)) 0
  (UInt8.ofNat value, chars.drop digits.length)

/-- The octet of a letter behind a backslash. -/
def letterOctet? (letter : Char) : Option UInt8 :=
  [('\\', 0x5C), ('a', 0x07), ('b', 0x08), ('f', 0x0C), ('n', 0x0A), ('r', 0x0D),
   ('t', 0x09), ('v', 0x0B)].lookup letter

/-- The octets of the escape behind a backslash, and the rest.  Of octal digits
there are three at most, not counting a zero in front of them if `leadingZero`. -/
def takeEscape (leadingZero : Bool) (chars : List Char) : Octets × List Char :=
  match chars with
  | [] => ([0x5C], [])
  | char :: rest =>
      if isOctalDigit char then
        let (octet, rest) := takeOctal (if leadingZero && char = '0' then 4 else 3) chars
        ([octet], rest)
      else
        match letterOctet? char with
        | some octet => ([octet], rest)
        | none => (0x5C :: String.utf8EncodeChar char, rest)

/-- The octets of at most `count` characters or escapes. -/
def unescapeFirst : Nat → List Char → Octets
  | 0, _ => []
  | _ + 1, [] => []
  | count + 1, char :: rest =>
      if char = '\\' then
        let (octets, rest) := takeEscape true rest
        octets ++ unescapeFirst count rest
      else
        String.utf8EncodeChar char ++ unescapeFirst count rest

/-- The octets of a text with escapes. -/
def unescape (text : String) : Octets :=
  unescapeFirst text.length text.toList

/-! ## Patterns -/

/-- What a letter behind a percent sign makes of an argument, given the text of the
number that the argument denotes. -/
def convert? (number : String → String) (letter : Char) (argument : String) :
    Option Octets :=
  if letter = 's' then some (Text.Utf8.encode argument)
  else if letter = 'b' then some (unescape argument)
  else if letter = 'd' ∨ letter = 'i' ∨ letter = 'u' then
    some (Text.Utf8.encode (number argument))
  else none

/-- Print at most `count` parts of a pattern: the octets, and the arguments left. -/
def formatFirst (number : String → String) :
    Nat → List Char → List String → Octets × List String
  | 0, _, arguments => ([], arguments)
  | _ + 1, [], arguments => ([], arguments)
  | count + 1, char :: rest, arguments =>
      let more (octets : Octets) (rest : List Char) (arguments : List String) :=
        let (others, arguments) := formatFirst number count rest arguments
        (octets ++ others, arguments)
      if char = '\\' then
        let (octets, rest) := takeEscape false rest
        more octets rest arguments
      else if char = '%' then
        match rest with
        | '%' :: rest => more [0x25] rest arguments
        | letter :: rest =>
            match convert? number letter (arguments.head?.getD "") with
            | some octets => more octets rest (arguments.drop 1)
            | none => more [0x25] (letter :: rest) arguments
        | [] => more [0x25] [] arguments
      else
        more (String.utf8EncodeChar char) rest arguments

/-- Print a pattern at most `count` times. -/
def formatRounds (number : String → String) (pattern : String) :
    Nat → List String → Octets
  | 0, _ => []
  | count + 1, arguments =>
      let (octets, left) :=
        formatFirst number pattern.length pattern.toList arguments
      if left.isEmpty ∨ arguments.length ≤ left.length then octets
      else octets ++ formatRounds number pattern count left

/-- Print a pattern with its arguments. -/
def format (number : String → String) (pattern : String) (arguments : List String) :
    Octets :=
  formatRounds number pattern (arguments.length + 1) arguments

end Testbed.Shell
