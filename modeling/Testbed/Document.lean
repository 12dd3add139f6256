/-!
# Documents

This file supplies the values that configuration documents and answers are made
of.  Both notations of the project, JSON and TOML, read into and write from this
one type.  The entries of a table keep the order in which they were written, and
a key may occur twice until a reader objects.
-/

namespace Testbed

/-- A structured value. -/
inductive Document where
  | null
  | bool (value : Bool)
  | int (value : Int)
  /-- A double-precision number, by its bits. -/
  | float (bits : UInt64)
  | text (value : String)
  | list (items : List Document)
  | table (entries : List (String × Document))
  deriving Inhabited, Repr, BEq

namespace Document

/-- The notation that a document was written in. -/
inductive Format where
  | json
  | toml
  deriving DecidableEq, Repr

/-- The last entry for a key of a table. -/
def entry? (key : String) : Document → Option Document
  | table entries => (entries.reverse.find? (·.1 == key)).map (·.2)
  | _ => none

/-- Text, or nothing. -/
def ofText? : Option String → Document
  | none => null
  | some value => text value

/-- A list of texts. -/
def texts (values : List String) : Document :=
  list (values.map text)

/-- A natural number. -/
def nat (value : Nat) : Document :=
  int value

end Document

end Testbed
