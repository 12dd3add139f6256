import Testbed.Document.Json
import Testbed.Document.Toml.Moment
import Testbed.Text.Blank

/-!
# The TOML notation

This file supplies the reading of documents in TOML.  A text is read into
statements, table headers and assignments, which are then carried out one after
the other on the tree of tables defined so far.  The tree remembers how each table
was defined, because a table may be defined once only.  A date or a time of day
reads as a table of one entry, its text in normal form.
-/

namespace Testbed.Document.Toml

open Testbed.Decimal

/-! ## Blanks and comments -/

/-- Whether a character separates parts of a line. -/
def isSpace (char : Char) : Bool :=
  char = ' ' || char = '\t'

/-- A control character other than a tab. -/
def isControl (char : Char) : Bool :=
  (char.toNat < 0x20 && char ≠ '\t') || char.toNat = 0x7F

/-- What follows the spaces in front. -/
def skipSpaces (chars : List Char) : List Char :=
  chars.dropWhile isSpace

/-- Skip a comment up to its line break, if there is one. -/
def skipComment? : List Char → Option (List Char)
  | '#' :: rest =>
      let comment := rest.takeWhile (· ≠ '\n')
      let after := rest.dropWhile (· ≠ '\n')
      let comment :=
        if comment.getLast? = some '\r' ∧ !after.isEmpty then comment.dropLast
        else comment
      if comment.any isControl then none else some after
  | rest => some rest

/-- Skip one line break, if there is one. -/
def skipBreak? : List Char → Option (List Char)
  | '\n' :: rest => some rest
  | '\r' :: '\n' :: rest => some rest
  | _ => none

/-- Require the end of a line, after blanks and perhaps a comment. -/
def endLine? (chars : List Char) : Option (List Char) := do
  let rest ← skipComment? (skipSpaces chars)
  match rest with
  | [] => pure []
  | rest => skipBreak? rest

/-- Skip blanks, comments and line breaks.  Each round skips a character. -/
def skipLines (rounds : Nat) (chars : List Char) : Option (List Char) :=
  match rounds with
  | 0 => some chars
  | rounds + 1 =>
      match skipSpaces chars with
      | '#' :: rest =>
          match skipComment? ('#' :: rest) with
          | none => none
          | some rest => skipLines rounds rest
      | rest =>
          match skipBreak? rest with
          | some rest => skipLines rounds rest
          | none => some rest

/-! ## Strings -/

/-- The character of an escape, after its backslash. -/
def readEscape? : List Char → Option (Char × List Char)
  | [] => none
  | char :: rest =>
      if char = 'b' then some ('\x08', rest)
      else if char = 't' then some ('\t', rest)
      else if char = 'n' then some ('\n', rest)
      else if char = 'f' then some ('\x0c', rest)
      else if char = 'r' then some ('\r', rest)
      else if char = '"' then some ('"', rest)
      else if char = '\\' then some ('\\', rest)
      else if char = 'u' then readPoint 4 rest
      else if char = 'U' then readPoint 8 rest
      else none
where
  readPoint (width : Nat) (chars : List Char) : Option (Char × List Char) := do
    let digits := chars.take width
    let values ← digits.mapM Text.Hex.digitValue?
    let point := values.foldl (fun value digit => value * 16 + digit) 0
    if values.length = width ∧ (point < 0xD800 ∨ (0xE000 ≤ point ∧ point ≤ 0x10FFFF)) then
      pure (Char.ofNat point, chars.drop width)
    else
      none

/-- Read a string on one line up to its quotation mark, with the characters read
so far reversed. -/
def readBasic (rounds : Nat) (reversed : List Char) (chars : List Char) :
    Option (String × List Char) :=
  match rounds with
  | 0 => none
  | rounds + 1 =>
      match chars with
      | '"' :: rest => some (String.ofList reversed.reverse, rest)
      | '\\' :: rest =>
          match readEscape? rest with
          | none => none
          | some (char, rest) => readBasic rounds (char :: reversed) rest
      | char :: rest => if isControl char then none else readBasic rounds (char :: reversed) rest
      | [] => none

/-- Read a string without escapes on one line. -/
def readLiteral (chars : List Char) : Option (String × List Char) :=
  let content := chars.takeWhile (· ≠ '\'')
  match chars.dropWhile (· ≠ '\'') with
  | _ :: rest => if content.any isControl then none else some (String.ofList content, rest)
  | [] => none

/-- Skip blanks and line breaks after a backslash at the end of a line. -/
def skipFolded : List Char → List Char
  | '\r' :: '\n' :: rest => skipFolded rest
  | char :: rest =>
      if isSpace char || char = '\n' then skipFolded rest else char :: rest
  | [] => []

/-- Whether a backslash stands at the end of its line. -/
def isFold (chars : List Char) : Bool :=
  (skipBreak? (skipSpaces chars)).isSome

/-- Read a string over several lines up to three marks, two more of which may
belong to it. -/
def readMultiline (mark : Char) (escapes : Bool) (rounds : Nat) (reversed : List Char)
    (chars : List Char) : Option (String × List Char) :=
  match rounds with
  | 0 => none
  | rounds + 1 =>
      let marks := chars.takeWhile (· = mark)
      if 3 ≤ marks.length then
        if marks.length ≤ 5 then
          some (String.ofList (reversed.reverse ++ marks.drop 3), chars.drop marks.length)
        else
          none
      else
        match chars with
        | [] => none
        | '\r' :: '\n' :: rest =>
            readMultiline mark escapes rounds ('\n' :: reversed) rest
        | '\n' :: rest => readMultiline mark escapes rounds ('\n' :: reversed) rest
        | char :: rest =>
            if char = '\\' ∧ escapes then
              if isFold rest then
                readMultiline mark escapes rounds reversed (skipFolded rest)
              else
                match readEscape? rest with
                | none => none
                | some (escaped, rest) =>
                    readMultiline mark escapes rounds (escaped :: reversed) rest
            else if isControl char then none
            else readMultiline mark escapes rounds (char :: reversed) rest

/-- Read a string of any form. -/
def readString? (chars : List Char) : Option (String × List Char) :=
  match chars with
  | '"' :: '"' :: '"' :: rest =>
      readMultiline '"' true (rest.length + 1) [] ((skipBreak? rest).getD rest)
  | '\'' :: '\'' :: '\'' :: rest =>
      readMultiline '\'' false (rest.length + 1) [] ((skipBreak? rest).getD rest)
  | '"' :: rest => readBasic (rest.length + 1) [] rest
  | '\'' :: rest => readLiteral rest
  | _ => none

/-! ## Keys -/

/-- Whether a character may stand in a key without quotes. -/
def isKeyChar (char : Char) : Bool :=
  char.isAlphanum || char = '_' || char = '-'

/-- Read one key, bare or quoted on one line. -/
def readKey? (chars : List Char) : Option (String × List Char) :=
  match chars with
  | '"' :: rest => readBasic (rest.length + 1) [] rest
  | '\'' :: rest => readLiteral rest
  | chars =>
      let key := chars.takeWhile isKeyChar
      if key.isEmpty then none else some (String.ofList key, chars.dropWhile isKeyChar)

/-- Read keys with points between them. -/
def readKeys (rounds : Nat) (chars : List Char) : Option (List String × List Char) :=
  match rounds with
  | 0 => none
  | rounds + 1 =>
      match readKey? (skipSpaces chars) with
      | none => none
      | some (key, rest) =>
          match skipSpaces rest with
          | '.' :: rest =>
              (readKeys rounds rest).map fun (keys, rest) => (key :: keys, rest)
          | rest => some ([key], rest)

/-- How many lists and tables may be open inside each other, and how many keys may
follow each other. -/
def greatestDepth : Nat :=
  79

/-- Read a path of keys. -/
def readPath (chars : List Char) : Option (List String × List Char) :=
  (readKeys (chars.length + 1) chars).filter fun (path, _) =>
    path.length ≤ greatestDepth

/-! ## Scalars -/

/-- Digits of a base with single underscores between them. -/
def digits? (isDigit : Char → Bool) (chars : List Char) : Option (List Char) :=
  let rec separated : Bool → List Char → Bool
    | afterDigit, [] => afterDigit
    | afterDigit, char :: rest =>
        if char = '_' then afterDigit && separated false rest
        else isDigit char && separated true rest
  if separated false chars then some (chars.filter (· ≠ '_')) else none

/-- A whole number within 64 bits. -/
def int? (value : Int) : Option Document :=
  if -0x8000000000000000 ≤ value ∧ value < 0x8000000000000000 then some (.int value) else none

/-- A whole number in a base given by its letter. -/
def basedInt? (letter : Char) (digits : List Char) : Option Document :=
  let among (limit : Nat) (char : Char) : Bool :=
    match Text.Hex.digitValue? char with
    | some value => value < limit
    | none => false
  let base := if letter = 'x' then 16 else if letter = 'o' then 8 else 2
  (digits? (among base) digits).bind fun digits => int? (valueIn base digits)

/-- The power of ten behind a number, zero if there is none. -/
def exponent? : List Char → Option Int
  | [] => some 0
  | letter :: rest =>
      if letter = 'e' ∨ letter = 'E' then
        match rest with
        | '-' :: rest => (digits? Char.isDigit rest).map fun digits => -valueIn 10 digits
        | '+' :: rest => (digits? Char.isDigit rest).map fun digits => valueIn 10 digits
        | rest => (digits? Char.isDigit rest).map fun digits => valueIn 10 digits
      else
        none

/-- A decimal number, whole or not.  Only a positive one has to be finite. -/
def decimal? (negative : Bool) (chars : List Char) : Option Document := do
  let isWhole (char : Char) : Bool := char.isDigit || char = '_'
  let whole ← digits? Char.isDigit (chars.takeWhile isWhole)
  let rest := chars.dropWhile isWhole
  if whole.length > 1 ∧ whole.head? = some '0' then
    none
  else if rest.isEmpty then
    let value : Int := valueIn 10 whole
    int? (if negative then -value else value)
  else
    let (fraction, rest) ←
      match rest with
      | '.' :: rest =>
          (digits? Char.isDigit (rest.takeWhile isWhole)).map fun digits =>
            (digits, rest.dropWhile isWhole)
      | rest => some ([], rest)
    let exponent ← exponent? rest
    let bits := Binary64.bitsOfDecimal negative (valueIn 10 (whole ++ fraction))
      (exponent - fraction.length)
    if negative ∨ Binary64.isFinite bits then some (.float bits) else none

/-- The key of the table that stands for a date or a time of day. -/
def momentKey : String :=
  "$__toml_private_datetime"

/-- The scalar that a word spells. -/
def word? (word : List Char) : Option Document :=
  let (negative, unsigned) :=
    match word with
    | '-' :: rest => (true, rest)
    | '+' :: rest => (false, rest)
    | rest => (false, rest)
  if word = ['t', 'r', 'u', 'e'] then some (.bool true)
  else if word = ['f', 'a', 'l', 's', 'e'] then some (.bool false)
  else if unsigned = ['i', 'n', 'f'] then some (.float (Binary64.infinityBits negative))
  else if unsigned = ['n', 'a', 'n'] then some (.float 0x7FF8000000000000)
  else
    match word with
    | '0' :: letter :: digits =>
        if letter = 'x' ∨ letter = 'o' ∨ letter = 'b' then basedInt? letter digits
        else momentOrDecimal? word negative unsigned
    | word => momentOrDecimal? word negative unsigned
where
  momentOrDecimal? (word : List Char) (negative : Bool) (unsigned : List Char) :
      Option Document :=
    match moment? word with
    | some written => some (.table [(momentKey, .text written)])
    | none => decimal? negative unsigned

/-- Whether a character may belong to a value without quotes. -/
def isWordChar (char : Char) : Bool :=
  char.isAlphanum || char = '_' || char = '-' || char = '+' || char = '.' || char = ':'

/-- Read a word; a date may be followed by a blank and a time. -/
def readWord (chars : List Char) : List Char × List Char :=
  let word := chars.takeWhile isWordChar
  let rest := chars.dropWhile isWordChar
  match rest with
  | ' ' :: more =>
      if fits "0000-00-00" word ∧ fits "00:" (more.take 3) then
        (word ++ ' ' :: more.takeWhile isWordChar, more.dropWhile isWordChar)
      else
        (word, rest)
  | rest => (word, rest)

/-! ## Tables being defined -/

/-- How a table came to be. -/
inductive Form where
  /-- As the parent of a table with a header. -/
  | implied
  /-- By a header of its own. -/
  | headed
  /-- By the points of an assigned key. -/
  | dotted
  deriving DecidableEq

/-- A value in the tree of tables. -/
inductive Node where
  | leaf (value : Document)
  | table (form : Form) (entries : List (String × Node))
  /-- Tables of one header in double brackets. -/
  | series (tables : List (List (String × Node)))

mutual

/-- The document of a node. -/
def Node.toDocument : Node → Document
  | .leaf value => value
  | .table _ entries => .table (entriesToDocument entries)
  | .series tables => .list (seriesToDocument tables)

/-- The documents of entries. -/
def entriesToDocument : List (String × Node) → List (String × Document)
  | [] => []
  | (key, node) :: rest => (key, node.toDocument) :: entriesToDocument rest

/-- The documents of a series of tables. -/
def seriesToDocument : List (List (String × Node)) → List Document
  | [] => []
  | entries :: rest => .table (entriesToDocument entries) :: seriesToDocument rest

end

/-- Entries of a table. -/
abbrev Entries :=
  List (String × Node)

/-- Put a node at a key: in place of the present one, or at the end. -/
def put (key : String) (node : Node) : Entries → Entries
  | [] => [(key, node)]
  | (present, other) :: rest =>
      if present == key then (key, node) :: rest else (present, other) :: put key node rest

/-- Change the last table of a series. -/
def changeLast (change : Entries → Option Entries) :
    List Entries → Option (List Entries)
  | [] => none
  | [last] => (change last).map fun last => [last]
  | first :: rest => (changeLast change rest).map (first :: ·)

/-- Change the table at a path of headers, defining parents as needed. -/
def changeAt (path : List String) (change : Entries → Option Entries)
    (entries : Entries) : Option Entries :=
  match path with
  | [] => change entries
  | key :: path => do
      match entries.lookup key with
      | none => pure (put key (.table .implied (← changeAt path change [])) entries)
      | some (.table form inner) =>
          pure (put key (.table form (← changeAt path change inner)) entries)
      | some (.series tables) =>
          pure (put key (.series (← changeLast (changeAt path change) tables)) entries)
      | some (.leaf _) => none

/-- Assign a value to a key with points. -/
def assign (path : List String) (key : String) (value : Document)
    (entries : Entries) : Option Entries :=
  match path with
  | [] => if (entries.lookup key).isSome then none else some (entries ++ [(key, .leaf value)])
  | step :: path => do
      match entries.lookup step with
      | none => pure (put step (.table .dotted (← assign path key value [])) entries)
      | some (.table .dotted inner) =>
          pure (put step (.table .dotted (← assign path key value inner)) entries)
      | some (.table .implied inner) =>
          if path.isEmpty then none
          else pure (put step (.table .implied (← assign path key value inner)) entries)
      | some (.series tables) =>
          if path.isEmpty then none
          else
            pure (put step (.series (← changeLast (assign path key value) tables)) entries)
      | some _ => none

/-- Define a table by its header. -/
def defineTable (key : String) (entries : Entries) : Option Entries :=
  match entries.lookup key with
  | none => some (entries ++ [(key, .table .headed [])])
  | some (.table .implied inner) => some (put key (.table .headed inner) entries)
  | some _ => none

/-- Add a table to a series by its header. -/
def extendSeries (key : String) (entries : Entries) : Option Entries :=
  match entries.lookup key with
  | none => some (entries ++ [(key, .series [[]])])
  | some (.series tables) => some (put key (.series (tables ++ [[]])) entries)
  | some _ => none

/-! ## Values -/

/-- The last key of a path and those before it. -/
def splitLast? (path : List String) : Option (List String × String) :=
  path.getLast?.map fun key => (path.dropLast, key)

mutual

/-- Read a value, in which lists and tables may be open to a further depth. -/
def readValue (rounds depth : Nat) (chars : List Char) : Option (Document × List Char) :=
  match rounds with
  | 0 => none
  | rounds + 1 =>
      match chars with
      | '"' :: _ | '\'' :: _ =>
          (readString? chars).map fun (content, rest) => (.text content, rest)
      | '[' :: rest => if depth = 0 then none else readItems rounds (depth - 1) [] rest
      | '\x7b' :: rest =>
          if depth = 0 then none
          else
            match skipSpaces rest with
            | '\x7d' :: rest => some (.table [], rest)
            | rest => readEntries rounds (depth - 1) [] rest
      | chars =>
          let (word, rest) := readWord chars
          (word? word).map fun value => (value, rest)

/-- Read the items of a list up to its end. -/
def readItems (rounds depth : Nat) (reversed : List Document) (chars : List Char) :
    Option (Document × List Char) :=
  match rounds with
  | 0 => none
  | rounds + 1 =>
      match skipLines (chars.length + 1) chars with
      | none => none
      | some (']' :: rest) => some (.list reversed.reverse, rest)
      | some chars =>
          match readValue rounds depth chars with
          | none => none
          | some (value, rest) =>
              match skipLines (rest.length + 1) rest with
              | some (',' :: rest) => readItems rounds depth (value :: reversed) rest
              | some (']' :: rest) => some (.list (value :: reversed).reverse, rest)
              | _ => none

/-- Read the entries of a table in braces up to its end. -/
def readEntries (rounds depth : Nat) (entries : Entries) (chars : List Char) :
    Option (Document × List Char) :=
  match rounds with
  | 0 => none
  | rounds + 1 =>
      match readPath chars with
      | some (path, '=' :: rest) =>
          match splitLast? path, readValue rounds depth (skipSpaces rest) with
          | some (parents, key), some (value, rest) =>
              match assign parents key value entries, skipSpaces rest with
              | some entries, ',' :: rest => readEntries rounds depth entries rest
              | some entries, '\x7d' :: rest => some (.table (entriesToDocument entries), rest)
              | _, _ => none
          | _, _ => none
      | _ => none

end

/-! ## Statements -/

/-- A document that has been read in part. -/
structure State where
  root : Entries
  /-- The table that assignments go to. -/
  current : List String

/-- Carry out a statement that opens a table. -/
def State.open? (state : State) (define : String → Entries → Option Entries)
    (path : List String) : Option State := do
  let (parents, key) ← splitLast? path
  let root ← changeAt parents (define key) state.root
  pure ⟨root, path⟩

/-- Read one statement. -/
def readStatement (state : State) (chars : List Char) : Option (State × List Char) :=
  match chars with
  | '[' :: '[' :: rest =>
      match readPath rest with
      | some (path, ']' :: ']' :: rest) => do
          let rest ← endLine? rest
          pure (← state.open? extendSeries path, rest)
      | _ => none
  | '[' :: rest =>
      match readPath rest with
      | some (path, ']' :: rest) => do
          let rest ← endLine? rest
          pure (← state.open? defineTable path, rest)
      | _ => none
  | chars =>
      match readPath chars with
      | some (path, '=' :: rest) => do
          let (value, rest) ← readValue (2 * rest.length + 2) greatestDepth (skipSpaces rest)
          let rest ← endLine? rest
          let (parents, key) ← splitLast? path
          let root ← changeAt state.current (assign parents key value) state.root
          pure ({ state with root }, rest)
      | _ => none

/-- Read statements until the text ends.  Each round reads at least one
character. -/
def readStatements (rounds : Nat) (state : State) (chars : List Char) : Option State :=
  match rounds with
  | 0 => none
  | rounds + 1 =>
      match skipLines (chars.length + 1) chars with
      | none => none
      | some [] => some state
      | some chars =>
          match readStatement state chars with
          | none => none
          | some (state, rest) => readStatements rounds state rest

/-- Read a document. -/
def parse? (source : String) : Option Document :=
  let chars := source.toList
  let chars := if chars.head? = some '\uFEFF' then chars.drop 1 else chars
  (readStatements (chars.length + 1) ⟨[], []⟩ chars).map fun state =>
    .table (entriesToDocument state.root)

end Testbed.Document.Toml
