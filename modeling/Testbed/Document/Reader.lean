import Testbed.Document
import Testbed.Net.Address
import Testbed.Time.Span

/-!
# Reading values out of documents

This file supplies readers, which give the value that a document describes or
nothing.  A record is read from a table, whose entries may come in any order and
of which unknown ones are passed over unless the reader is strict, or from a list
of its values in their order.  A known entry may not occur twice.  The notation of
a document decides whether such a list may go on, and how a word that is written as
a key ends.
-/

namespace Testbed.Document

/-- The value that a document of a notation describes, if it describes one. -/
abbrev Reader (α : Type) :=
  Format → Document → Option α

namespace Reader

/-- A text. -/
def text : Reader String
  | _, .text value => some value
  | _, _ => none

/-- A truth value. -/
def bool : Reader Bool
  | _, .bool value => some value
  | _, _ => none

/-- A natural number below a limit. -/
def natBelow (limit : Nat) : Reader Nat
  | _, .int value => if 0 ≤ value ∧ value < limit then some value.toNat else none
  | _, _ => none

/-- A number of 16 bits. -/
def word16 : Reader UInt16 := fun format document =>
  (natBelow 0x10000 format document).map UInt16.ofNat

/-- A number of 32 bits. -/
def word32 : Reader Nat :=
  natBelow 0x100000000

/-- A number of 64 bits. -/
def word64 : Reader Nat :=
  natBelow 0x10000000000000000

/-- A value, or null for none. -/
def optional {α : Type} (read : Reader α) : Reader (Option α)
  | _, .null => some none
  | format, document => (read format document).map some

/-- A list of values. -/
def listOf {α : Type} (read : Reader α) : Reader (List α)
  | format, .list items => items.mapM (read format)
  | _, _ => none

/-- A list of texts. -/
def texts : Reader (List String) :=
  listOf text

/-- An internet address in its text form. -/
def address : Reader Net.Address := fun format document =>
  (text format document).bind Net.Address.parse?

/-- An address of the fourth version in its text form. -/
def ipv4 : Reader Net.Ipv4 := fun format document =>
  (text format document).bind Net.Ipv4.parse?

/-- Whether a value says nothing about the key that it stands at: null in one
notation, an empty table or list in the other, which has no null. -/
def isBare : Format → Document → Bool
  | .json, .null => true
  | .toml, .table [] => true
  | .toml, .list [] => true
  | _, _ => false

/-- One of some words; a word may also be the only key of a table, at a bare
value. -/
def oneOf {α : Type} (words : List (String × α)) : Reader α
  | _, .text word => words.lookup word
  | format, .table [(word, value)] =>
      if isBare format value then words.lookup word else none
  | _, _ => none

end Reader

/-! ## Records -/

/-- The named values of a record. -/
structure Record where
  format : Format
  values : List (String × Document)
  /-- Whether the values were told apart by their order. -/
  positional : Bool

namespace Record

/-- Whether some name occurs twice among the keys. -/
def repeats (names : List String) (entries : List (String × Document)) : Bool :=
  names.any fun name => 1 < (entries.filter (·.1 == name)).length

/-- The record of some names, of which a list has no more values than names; a
strict one has no other entries. -/
def readWhole? (strict : Bool) (names : List String) (format : Format) :
    Document → Option Record
  | .table entries =>
      if repeats names entries ∨ (strict ∧ entries.any fun entry => !names.contains entry.1)
      then none
      else some ⟨format, entries, false⟩
  | .list items =>
      if names.length < items.length then none
      else some ⟨format, names.zip items, true⟩
  | _ => none

/-- The record of some names.  In TOML a list may go on after its values. -/
def read? (strict : Bool) (names : List String) : Format → Document → Option Record
  | .toml, .list items =>
      readWhole? strict names .toml (.list (items.take names.length))
  | format, document => readWhole? strict names format document

/-- The document under a name. -/
def value? (record : Record) (name : String) : Option Document :=
  record.values.lookup name

/-- A value that must be there. -/
def required {α : Type} (record : Record) (name : String) (read : Reader α) :
    Option α :=
  (record.value? name).bind (read record.format)

/-- A value that may be null or, in a table, absent. -/
def optional {α : Type} (record : Record) (name : String) (read : Reader α) :
    Option (Option α) :=
  match record.value? name with
  | some document => Reader.optional read record.format document
  | none => if record.positional then none else some none

/-- A value that may be absent. -/
def orDefault {α : Type} (record : Record) (name : String) (read : Reader α)
    (default : α) : Option α :=
  match record.value? name with
  | some document => read record.format document
  | none => some default

end Record

/-! ## Spans -/

/-- Seconds and nanoseconds; the latter may carry into the former. -/
def Reader.span : Reader Span := fun format document => do
  let record ← Record.read? true ["secs", "nanos"] format document
  let seconds ← record.required "secs" Reader.word64
  let nanos ← record.required "nanos" Reader.word32
  if seconds + nanos / 1000000000 < 0x10000000000000000 then
    pure (.ofParts seconds nanos)
  else
    none

/-- The document form of a span. -/
def ofSpan (span : Span) : Document :=
  .table [("secs", .nat span.seconds), ("nanos", .nat span.subsecondNanos)]

end Testbed.Document
