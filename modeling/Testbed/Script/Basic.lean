import Testbed.Document.Reader
import Testbed.Error
import Testbed.Text.Hex

/-!
# Scripts

This file supplies what scripts have in common.  A script is a document: a list
of steps, each a word and its arguments, and the results are documents as well.
Scripts are read leniently, so what a script leaves out has an empty value.

A text may be written together with how often it is repeated, and so may octets,
which are written in hexadecimal digits.
-/

namespace Testbed.Script

/-! ## Arguments -/

/-- An entry of a table; null if there is none. -/
def field (request : Document) (key : String) : Document :=
  (request.entry? key).getD .null

/-- An entry of a table that is not null. -/
def field? (request : Document) (key : String) : Option Document :=
  match request.entry? key with
  | some .null => none
  | entry => entry

/-- The items of a list; anything else has none. -/
def asItems : Document → List Document
  | .list items => items
  | _ => []

/-- A text, or one repeated a number of times. -/
def asText : Document → String
  | .text value => value
  | .list [.text value, .int count] => String.join (List.replicate count.toNat value)
  | _ => ""

/-- A number, which may also be written as text. -/
def asInt : Document → Int
  | .int value => value
  | .text value => value.toInt?.getD 0
  | _ => 0

/-- A number that is not negative; a negative one counts as zero. -/
def asNat (document : Document) : Nat :=
  (asInt document).toNat

/-- A truth value; anything else counts as false. -/
def asBool : Document → Bool
  | .bool value => value
  | _ => false

/-- Octets in hexadecimal digits, or such octets repeated a number of times. -/
def asOctets : Document → Octets
  | .text value => (Text.Hex.decode? value).getD []
  | .list [.text value, .int count] =>
      (List.replicate count.toNat ((Text.Hex.decode? value).getD [])).flatten
  | _ => []

/-- The items of the list under a key. -/
def items (request : Document) (key : String) : List Document :=
  asItems (field request key)

/-- The texts of the list under a key. -/
def texts (request : Document) (key : String) : List String :=
  (items request key).map asText

/-- A span written as seconds and nanoseconds. -/
def asSpan : Document → Span
  | .list [.int seconds, .int nanos] => .ofParts seconds.toNat nanos.toNat
  | _ => .zero

/-! ## Results -/

/-- A failure: its kind and, where the library words it, its text. -/
def errorAnswer (error : Error) : Document :=
  match error with
  | .json _ | .toml _ => .table [("error", .text error.kind)]
  | error => .table [("error", .text error.kind), ("message", .text error.message)]

/-- A result whose failure is already a document. -/
def orAnswer {α : Type} (result : Result α) : Except Document α :=
  result.mapError errorAnswer

/-- A failure that has no text. -/
def kindOnly (kind : String) : Document :=
  .table [("error", .text kind)]

/-- The result of a step. -/
def stepResult (result : Result Document) : Document :=
  match result with
  | .ok value => .table [("ok", value)]
  | .error error => errorAnswer error

/-- The failure that a script describes. -/
def readError (document : Document) : Error :=
  let text (key : String) := asText (field document key)
  let message := text "message"
  match text "kind" with
  | "Io" => .io message
  | "Environment" => .environment (text "target") (text "reason")
  | "CaptureStart" => .captureStart message
  | "Unsupported" => .unsupported (text "capability")
  | "InvalidQuery" => .invalidQuery message
  | "ReachabilityTimeout" =>
      .reachabilityTimeout (text "what") (asSpan (field document "elapsed"))
        (asSpan (field document "timeout"))
  | "Connection" => .connection message
  | "CommandFailed" => .commandFailed (text "command") (text "reason")
  | "InvalidConfig" => .invalidConfig message
  | "NotFound" => .notFound message
  | "Timeout" => .timeout (asSpan (field document "after"))
  | _ => .internal message

end Testbed.Script
