import Testbed.Document.Json
import Testbed.Error
import Testbed.Text.Table

/-!
# Listings

This file supplies the listings that commands print, in three formats: as a table, as
JSON, and as plain lines.  It also supplies what a command leaves behind.
-/

namespace Testbed.Command

/-- A format of listings. -/
inductive Format where
  | table
  | json
  | plain
  deriving DecidableEq, Repr

/-- The words for formats. -/
def Format.words : List (String × Format) :=
  [("table", .table), ("json", .json), ("plain", .plain)]

/-- Items under headings: the cells of each, and its document. -/
structure Listing where
  headings : List String
  items : List (List String × Document)

namespace Listing

/-- The items of a list. -/
def ofItems {α : Type} (headings : List String) (cells : α → List String)
    (document : α → Document) (values : List α) : Listing :=
  { headings, items := values.map fun value => (cells value, document value) }

/-- An item as lines, each with its heading. -/
def plainItem (headings cells : List String) : String :=
  String.join ((headings.zip cells).map fun (heading, cell) =>
    heading ++ ": " ++ cell ++ "\n")

/-- The text of a listing. -/
def render (listing : Listing) (format : Format) : String :=
  match format with
  | .table =>
      if listing.items.isEmpty then
        "No items found.\n"
      else
        (Text.Table.render ⟨listing.headings, listing.items.map (·.1)⟩) ++ "\n"
  | .json => Document.Json.pretty 0 (.list (listing.items.map (·.2))) ++ "\n"
  | .plain =>
      "---\n".intercalate (listing.items.map fun item =>
        plainItem listing.headings item.1)

end Listing

/-! ## Outcomes -/

/-- What a command has printed, and the failure that ended it, if one did. -/
structure Outcome where
  printed : String := ""
  failure : Option String := none
  deriving DecidableEq, Repr

namespace Outcome

/-- A command that printed a text. -/
def print (printed : String) : Outcome :=
  { printed }

/-- A command that failed before it printed anything. -/
def fail (reason : String) : Outcome :=
  { failure := some reason }

/-- The outcome of what follows a result, which may be a failure. -/
def after {α : Type} (result : Result α) (next : α → Outcome) : Outcome :=
  match result with
  | .ok value => next value
  | .error error => fail error.report

/-- Print a text before the rest. -/
def following (printed : String) (outcome : Outcome) : Outcome :=
  { outcome with printed := printed ++ outcome.printed }

end Outcome

/-- The line that reports a success. -/
def successLine (message : String) : String :=
  "✓ " ++ message ++ "\n"

/-- The line that reports a failure. -/
def failureLine (message : String) : String :=
  "✗ " ++ message ++ "\n"

/-- The line that reports something else. -/
def infoLine (message : String) : String :=
  "i " ++ message ++ "\n"

end Testbed.Command
