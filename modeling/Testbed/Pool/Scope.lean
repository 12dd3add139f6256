import Testbed.Document.Reader
import Testbed.Error
import Testbed.Text.Blank

/-!
# Scopes

This file supplies the two lifetimes of targets: one for every test, or one for
the whole run.
-/

namespace Testbed

/-- How long a target is kept. -/
inductive Scope where
  /-- A fresh target for every test, torn down right after it. -/
  | perTest
  /-- One target for all tests of a run. -/
  | session
  deriving DecidableEq, Repr, Inhabited

namespace Scope

/-- The word for a scope. -/
def name : Scope → String
  | perTest => "per_test"
  | session => "session"

/-- The words for scopes, in small letters. -/
def words : List (String × Scope) :=
  [("per_test", perTest), ("per-test", perTest), ("function", perTest),
   ("session", session), ("keep", session)]

/-- The scope of a word in any case. -/
def ofText (text : String) : Result Scope :=
  let word := Text.toLowerAscii text
  match words.lookup word with
  | some scope => .ok scope
  | none => .error (.invalidConfig ("unknown target scope '" ++ word ++ "'"))

/-- Read a scope by its word. -/
def read : Document.Reader Scope :=
  Document.Reader.oneOf [("per_test", perTest), ("session", session)]

end Scope

end Testbed
