import Testbed.Document.Toml

/-!
# Writing TOML

This file supplies the writing of documents in TOML.  The values of a table come
first, then the tables in it, each under a header of its own.  What is absent is
left out.

A text is quoted in the first way that needs no escapes; control characters always
need them.  A list of several items is written over as many lines.
-/

namespace Testbed.Document.Toml

/-! ## Texts -/

/-- The longest run of a character. -/
def longestRun (mark : Char) (chars : List Char) : Nat :=
  (chars.foldl
    (fun (longest, current) char =>
      let current := if char = mark then current + 1 else 0
      (max longest current, current))
    ((0, 0) : Nat × Nat)).1

/-- How a text is quoted. -/
inductive Quoting where
  /-- In quotation marks on one line, with escapes. -/
  | basic
  /-- In apostrophes on one line, without escapes. -/
  | literal
  | multilineBasic
  | multilineLiteral
  deriving DecidableEq, Repr

namespace Quoting

/-- The first way to quote a text that needs no escapes, if there is one. -/
def choose (chars : List Char) : Quoting :=
  let needsEscapes := chars.any fun char => isControl char && char ≠ '\n'
  let backslashes := chars.contains '\\'
  let lines := chars.contains '\n'
  let quotes := longestRun '"' chars
  let apostrophes := longestRun '\'' chars
  if !needsEscapes ∧ !backslashes ∧ quotes = 0 ∧ !lines then basic
  else if !needsEscapes ∧ apostrophes = 0 ∧ !lines then literal
  else if !needsEscapes ∧ !backslashes ∧ quotes ≤ 2 then multilineBasic
  else if !needsEscapes ∧ apostrophes ≤ 2 then multilineLiteral
  else if lines then multilineBasic
  else basic

/-- What stands on both sides of the text. -/
def mark : Quoting → String
  | basic => "\""
  | literal => "'"
  | multilineBasic => "\"\"\""
  | multilineLiteral => "'''"

/-- Whether a text may go over several lines. -/
def isMultiline : Quoting → Bool
  | multilineBasic | multilineLiteral => true
  | basic | literal => false

/-- Whether a backslash begins an escape. -/
def hasEscapes : Quoting → Bool
  | basic | multilineBasic => true
  | literal | multilineLiteral => false

end Quoting

/-- A number in four hexadecimal digits with capital letters. -/
def upperHex (value : Nat) : List Char :=
  (Text.Hex.fixed 4 value).map Char.toUpper

/-- A character other than a quotation mark between quotation marks. -/
def escapeChar (multiline : Bool) (char : Char) : List Char :=
  if char = '\x08' then ['\\', 'b']
  else if char = '\t' then ['\\', 't']
  else if char = '\n' then if multiline then ['\n'] else ['\\', 'n']
  else if char = '\x0c' then ['\\', 'f']
  else if char = '\r' then ['\\', 'r']
  else if char = '\\' then ['\\', '\\']
  else if isControl char then '\\' :: 'u' :: upperHex char.toNat
  else [char]

/-- A text between quotation marks; on several lines two of them may stand in a
row. -/
def escapeText (multiline : Bool) (run : Nat) : List Char → List Char
  | [] => []
  | char :: rest =>
      if char = '"' then
        if multiline ∧ run < 2 then '"' :: escapeText multiline (run + 1) rest
        else '\\' :: '"' :: escapeText multiline 0 rest
      else
        escapeChar multiline char ++ escapeText multiline 0 rest

/-- A text, quoted. -/
def quoteText (text : String) : String :=
  let chars := text.toList
  let quoting := Quoting.choose chars
  let opening := if quoting.isMultiline ∧ chars.contains '\n' then "\n" else ""
  let content :=
    if quoting.hasEscapes then escapeText quoting.isMultiline 0 chars else chars
  quoting.mark ++ opening ++ String.ofList content ++ quoting.mark

/-- A key, quoted unless it consists of letters, digits, hyphens and underscores. -/
def quoteKey (key : String) : String :=
  let chars := key.toList
  let isBare := !chars.isEmpty && chars.all isKeyChar
  let needsMarks := chars.any isControl || chars.contains '\''
  if isBare then key
  else if (chars.contains '\\' ∨ chars.contains '"') ∧ !needsMarks then "'" ++ key ++ "'"
  else "\"" ++ String.ofList (escapeText false 0 chars) ++ "\""

/-! ## Values -/

mutual

/-- A value on the line of its key, or over several lines if it is a list. -/
def writeValue : Document → String
  | .text value => quoteText value
  | .list [] => "[]"
  | .list [item] => "[" ++ writeValue item ++ "]"
  | .list items => "[" ++ writeItems items ++ "\n]"
  | .table [] => "\x7b\x7d"
  | .table entries => "\x7b " ++ writeInline entries ++ " \x7d"
  | scalar => Json.scalarText scalar

/-- The items of a list, each on a line of its own. -/
def writeItems : List Document → String
  | [] => ""
  | item :: rest => "\n    " ++ writeValue item ++ "," ++ writeItems rest

/-- The entries of a table on one line. -/
def writeInline : List (String × Document) → String
  | [] => ""
  | [(key, value)] => quoteKey key ++ " = " ++ writeValue value
  | (key, value) :: rest =>
      quoteKey key ++ " = " ++ writeValue value ++ ", " ++ writeInline rest

end

/-! ## Tables -/

/-- Whether a value is written on the lines of its table. -/
def isPlain : Document → Bool
  | .null | .table _ => false
  | _ => true

/-- The lines of the values of a table. -/
def writeLines (entries : List (String × Document)) : String :=
  String.join ((entries.filter fun entry => isPlain entry.2).map fun (key, value) =>
    quoteKey key ++ " = " ++ writeValue value ++ "\n")

/-- The header of a table, the keys of whose path are given the last first. -/
def header (path : List String) : String :=
  "[" ++ ".".intercalate (path.reverse.map quoteKey) ++ "]\n"

mutual

/-- The parts of a table: its own values, and the tables in it.  A table with
nothing but tables in it has no part of its own. -/
def tableParts (path : List String) : Document → List String
  | .table entries =>
      let lines := writeLines entries
      let own :=
        if path.isEmpty then
          if lines.isEmpty then [] else [lines]
        else if lines.isEmpty ∧ !entries.isEmpty then []
        else [header path ++ lines]
      own ++ innerParts path entries
  | _ => []

/-- The parts of the tables among some entries. -/
def innerParts (path : List String) : List (String × Document) → List String
  | [] => []
  | (key, value) :: rest => tableParts (key :: path) value ++ innerParts path rest

end

mutual

/-- Whether every whole number has 64 bits. -/
def fitsWords : Document → Bool
  | .int value => decide (-0x8000000000000000 ≤ value ∧ value < 0x8000000000000000)
  | .list items => fitItems items
  | .table entries => fitEntries entries
  | _ => true

/-- Whether every whole number of some items has 64 bits. -/
def fitItems : List Document → Bool
  | [] => true
  | item :: rest => fitsWords item && fitItems rest

/-- Whether every whole number of some entries has 64 bits. -/
def fitEntries : List (String × Document) → Bool
  | [] => true
  | (_, value) :: rest => fitsWords value && fitEntries rest

end

/-- Write a document, unless it holds a number that the notation has no room for. -/
def write? (document : Document) : Option String :=
  if fitsWords document then some ("\n".intercalate (tableParts [] document)) else none

end Testbed.Document.Toml
