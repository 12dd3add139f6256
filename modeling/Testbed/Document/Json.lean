import Testbed.Decimal.Shortest
import Testbed.Document
import Testbed.Text.Hex

/-!
# The JSON notation

This file supplies reading and writing of documents in JSON.  Reading runs two
machines, one over characters that yields tokens and one over tokens that keeps
the containers still open on a stack, so both follow their input structurally.

Reading is strict: no comments, no trailing commas, no control characters in
strings, no unpaired surrogates, at most 127 nested containers.  Whole numbers
that fit 64 bits are kept exactly and all others become double-precision numbers,
which must be finite.
-/

namespace Testbed.Document.Json

open Testbed.Decimal

/-! ## Tokens -/

/-- A token of the notation. -/
inductive Token where
  | openTable
  | closeTable
  | openList
  | closeList
  | colon
  | comma
  | scalar (value : Document)

/-- What the characters read so far have begun. -/
inductive Mode where
  | between
  /-- Inside a string; the characters read are reversed. -/
  | quoted (reversed : List Char)
  /-- After a backslash in a string. -/
  | escaped (reversed : List Char)
  /-- In the four digits of a numeric escape, perhaps the second of a pair. -/
  | unit (reversed : List Char) (high : Option Nat) (missing value : Nat)
  /-- After the first escape of a surrogate pair. -/
  | paired (reversed : List Char) (high : Nat)
  /-- After the backslash that must open the second escape of a pair. -/
  | pairedEscape (reversed : List Char) (high : Nat)
  /-- In a number or a literal name. -/
  | word (reversed : List Char)

/-- Split digits off the front of a text. -/
def spanDigits (chars : List Char) : List Char × List Char :=
  (chars.takeWhile Char.isDigit, chars.dropWhile Char.isDigit)

/-- The number that decimal digits spell. -/
def digitsValue (digits : List Char) : Nat :=
  digits.foldl (fun value digit => value * 10 + (digit.toNat - 48)) 0

/-- The exponent part of a number, if the text is one. -/
def exponent? : List Char → Option Int
  | [] => some 0
  | mark :: rest =>
      if mark = 'e' ∨ mark = 'E' then
        let (negative, digits) :=
          match rest with
          | '-' :: digits => (true, digits)
          | '+' :: digits => (false, digits)
          | digits => (false, digits)
        if digits.isEmpty ∨ !digits.all Char.isDigit then
          none
        else
          let value := digitsValue digits
          some (if negative then -value else value)
      else
        none

/-- The number that a word spells. -/
def number? (word : List Char) : Option Document :=
  let (negative, unsigned) :=
    match word with
    | '-' :: rest => (true, rest)
    | rest => (false, rest)
  let (whole, rest) := spanDigits unsigned
  if whole.isEmpty ∨ (whole.length > 1 ∧ whole.head? = some '0') then
    none
  else if rest.isEmpty then
    let value := digitsValue whole
    if negative then
      if value = 0 ∨ 0x8000000000000000 < value then
        finite (Binary64.bitsOfDecimal true value 0)
      else
        some (.int (-value))
    else if value < 0x10000000000000000 then
      some (.int value)
    else
      finite (Binary64.bitsOfDecimal false value 0)
  else
    let (fraction, rest, valid) :=
      match rest with
      | '.' :: rest =>
          let (fraction, rest) := spanDigits rest
          (fraction, rest, !fraction.isEmpty)
      | rest => ([], rest, true)
    if valid then
      (exponent? rest).bind fun exponent =>
        finite (Binary64.bitsOfDecimal negative (digitsValue (whole ++ fraction))
          (exponent - fraction.length))
    else
      none
where
  finite (bits : UInt64) : Option Document :=
    if Binary64.isFinite bits then some (.float bits) else none

/-- The scalar that a word spells. -/
def word? (word : List Char) : Option Document :=
  if word = ['n', 'u', 'l', 'l'] then some .null
  else if word = ['t', 'r', 'u', 'e'] then some (.bool true)
  else if word = ['f', 'a', 'l', 's', 'e'] then some (.bool false)
  else number? word

/-- Whether a character can stand in a number or a literal name. -/
def isWordChar (char : Char) : Bool :=
  char.isAlphanum || char = '-' || char = '+' || char = '.'

/-- Read a character between tokens. -/
def between (char : Char) : Option (List Token × Mode) :=
  if char = ' ' ∨ char = '\t' ∨ char = '\n' ∨ char = '\r' then some ([], .between)
  else if char = '\x7b' then some ([.openTable], .between)
  else if char = '\x7d' then some ([.closeTable], .between)
  else if char = '[' then some ([.openList], .between)
  else if char = ']' then some ([.closeList], .between)
  else if char = ':' then some ([.colon], .between)
  else if char = ',' then some ([.comma], .between)
  else if char = '"' then some ([], .quoted [])
  else if isWordChar char then some ([], .word [char])
  else none

/-- The character of a one-letter escape. -/
def escape? (char : Char) : Option Char :=
  if char = '"' ∨ char = '\\' ∨ char = '/' then some char
  else if char = 'b' then some '\x08'
  else if char = 'f' then some '\x0c'
  else if char = 'n' then some '\n'
  else if char = 'r' then some '\r'
  else if char = 't' then some '\t'
  else none

/-- Finish a numeric escape, which may be half of a surrogate pair. -/
def finishUnit (reversed : List Char) (high : Option Nat) (value : Nat) :
    Option Mode :=
  match high with
  | some high =>
      if 0xDC00 ≤ value ∧ value < 0xE000 then
        some (.quoted (Char.ofNat
          (0x10000 + (high - 0xD800) * 0x400 + (value - 0xDC00)) :: reversed))
      else
        none
  | none =>
      if 0xD800 ≤ value ∧ value < 0xDC00 then some (.paired reversed value)
      else if 0xDC00 ≤ value ∧ value < 0xE000 then none
      else some (.quoted (Char.ofNat value :: reversed))

/-- Read one character. -/
def scan (mode : Mode) (char : Char) : Option (List Token × Mode) :=
  match mode with
  | .between => between char
  | .quoted reversed =>
      if char = '"' then
        some ([.scalar (.text (String.ofList reversed.reverse))], .between)
      else if char = '\\' then some ([], .escaped reversed)
      else if char.toNat < 0x20 then none
      else some ([], .quoted (char :: reversed))
  | .escaped reversed =>
      if char = 'u' then some ([], .unit reversed none 4 0)
      else (escape? char).map fun escaped => ([], .quoted (escaped :: reversed))
  | .unit reversed high missing value => do
      let digit ← Text.Hex.digitValue? char
      let value := value * 16 + digit
      if missing ≤ 1 then
        pure ([], ← finishUnit reversed high value)
      else
        pure ([], .unit reversed high (missing - 1) value)
  | .paired reversed high =>
      if char = '\\' then some ([], .pairedEscape reversed high) else none
  | .pairedEscape reversed high =>
      if char = 'u' then some ([], .unit reversed (some high) 4 0) else none
  | .word reversed =>
      if isWordChar char then
        some ([], .word (char :: reversed))
      else do
        let value ← word? reversed.reverse
        let (tokens, next) ← between char
        pure (.scalar value :: tokens, next)

/-- The tokens of a text, in reverse order, after those already read. -/
def tokensFrom (mode : Mode) (tokens : List Token) : List Char → Option (List Token)
  | [] =>
      match mode with
      | .between => some tokens
      | .word reversed =>
          (word? reversed.reverse).map fun value => .scalar value :: tokens
      | _ => none
  | char :: rest =>
      match scan mode char with
      | none => none
      | some (more, next) => tokensFrom next (more.reverse ++ tokens) rest

/-! ## Values -/

/-- A container whose end has not been read. -/
inductive Open where
  | list (reversed : List Document)
  | table (reversed : List (String × Document)) (key : String)

/-- What may come next inside the innermost open container. -/
inductive Expect where
  | value
  /-- A value, or the end of the list just opened. -/
  | valueOrEnd
  /-- A key, or the end of the table just opened. -/
  | keyOrEnd (reversed : List (String × Document))
  | key (reversed : List (String × Document))
  | colon (reversed : List (String × Document)) (key : String)
  /-- A comma, or the end of the container. -/
  | more
  /-- Nothing: the value is complete. -/
  | done

/-- A document that has been read in part. -/
structure Progress where
  stack : List Open
  expect : Expect
  /-- The value just completed, outside every open container when `done`. -/
  value : Document

/-- Nesting that is accepted. -/
def maxDepth : Nat :=
  127

/-- Hand a completed value to the innermost open container. -/
def complete (stack : List Open) (value : Document) : Progress :=
  match stack with
  | [] => ⟨[], .done, value⟩
  | .list reversed :: rest => ⟨.list (value :: reversed) :: rest, .more, .null⟩
  | .table reversed key :: rest =>
      ⟨.table ((key, value) :: reversed) key :: rest, .more, .null⟩

/-- Read one token where a value may stand. -/
def beginValue (stack : List Open) : Token → Option Progress
  | .scalar value => some (complete stack value)
  | .openList =>
      if maxDepth ≤ stack.length then none
      else some ⟨.list [] :: stack, .valueOrEnd, .null⟩
  | .openTable =>
      if maxDepth ≤ stack.length then none
      else some ⟨stack, .keyOrEnd [], .null⟩
  | _ => none

/-- Read one token. -/
def advance (state : Progress) (token : Token) : Option Progress :=
  match state.expect, token with
  | .value, token => beginValue state.stack token
  | .valueOrEnd, .closeList => some (complete state.stack.tail (.list []))
  | .valueOrEnd, token => beginValue state.stack token
  | .keyOrEnd _, .closeTable => some (complete state.stack (.table []))
  | .keyOrEnd reversed, .scalar (.text key)
  | .key reversed, .scalar (.text key) =>
      some { state with expect := .colon reversed key }
  | .colon reversed key, .colon =>
      some { state with stack := .table reversed key :: state.stack, expect := .value }
  | .more, .comma =>
      match state.stack with
      | .list _ :: _ => some { state with expect := .value }
      | .table reversed _ :: rest => some { state with stack := rest, expect := .key reversed }
      | [] => none
  | .more, .closeList =>
      match state.stack with
      | .list reversed :: rest => some (complete rest (.list reversed.reverse))
      | _ => none
  | .more, .closeTable =>
      match state.stack with
      | .table reversed _ :: rest => some (complete rest (.table reversed.reverse))
      | _ => none
  | _, _ => none

/-- Read a document. -/
def parse? (source : String) : Option Document := do
  let reversed ← tokensFrom .between [] source.toList
  let final ← reversed.reverse.foldlM advance ⟨[], .value, .null⟩
  match final.expect with
  | .done => some final.value
  | _ => none

/-! ## Writing -/

/-- A character inside a string. -/
def escapeChar (char : Char) : List Char :=
  if char = '"' then ['\\', '"']
  else if char = '\\' then ['\\', '\\']
  else if char = '\x08' then ['\\', 'b']
  else if char = '\x0c' then ['\\', 'f']
  else if char = '\n' then ['\\', 'n']
  else if char = '\r' then ['\\', 'r']
  else if char = '\t' then ['\\', 't']
  else if char.toNat < 0x20 then
    ['\\', 'u', '0', '0', Text.Hex.digit (char.toNat / 16), Text.Hex.digit (char.toNat % 16)]
  else [char]

/-- A text in quotation marks. -/
def quote (value : String) : String :=
  "\"" ++ String.ofList (value.toList.flatMap escapeChar) ++ "\""

/-- The text of a document that is not a container. -/
def scalarText : Document → String
  | .null => "null"
  | .bool value => if value then "true" else "false"
  | .int value => toString value
  | .float bits =>
      if Binary64.isFinite bits then Shortest.document bits else "null"
  | .text value => quote value
  | .list _ => "[]"
  | .table _ => "\x7b\x7d"

/-- Two blanks for each level. -/
def indentation (depth : Nat) : String :=
  String.ofList (List.replicate (2 * depth) ' ')

mutual

/-- A document on one line, without blanks. -/
def compact : Document → String
  | .list items => "[" ++ ",".intercalate (compactItems items) ++ "]"
  | .table entries => "\x7b" ++ ",".intercalate (compactEntries entries) ++ "\x7d"
  | scalar => scalarText scalar

/-- The items of a list, each on one line. -/
def compactItems : List Document → List String
  | [] => []
  | item :: rest => compact item :: compactItems rest

/-- The entries of a table, each on one line. -/
def compactEntries : List (String × Document) → List String
  | [] => []
  | (key, value) :: rest => (quote key ++ ":" ++ compact value) :: compactEntries rest

end

/-- Lines of a container between its brackets, which stand at a level. -/
def enclose (first last : String) (depth : Nat) (lines : List String) : String :=
  first ++ "\n" ++ ",\n".intercalate lines ++ "\n" ++ indentation depth ++ last

mutual

/-- A document over several lines, each level two blanks further in. -/
def pretty (depth : Nat) : Document → String
  | .list [] => "[]"
  | .table [] => "\x7b\x7d"
  | .list items => enclose "[" "]" depth (prettyItems (depth + 1) items)
  | .table entries => enclose "\x7b" "\x7d" depth (prettyEntries (depth + 1) entries)
  | scalar => scalarText scalar

/-- The items of a list at a level. -/
def prettyItems (depth : Nat) : List Document → List String
  | [] => []
  | item :: rest => (indentation depth ++ pretty depth item) :: prettyItems depth rest

/-- The entries of a table at a level. -/
def prettyEntries (depth : Nat) : List (String × Document) → List String
  | [] => []
  | (key, value) :: rest =>
      (indentation depth ++ quote key ++ ": " ++ pretty depth value)
        :: prettyEntries depth rest

end

end Testbed.Document.Json
