import Testbed.Error
import Testbed.Text.Blank
import Testbed.Text.Pieces
import Testbed.Trace.Frame

/-!
# Capture filters

This file supplies the filters that decide which frames a capture records.  A
filter is written as application identifiers, each perhaps with a context
identifier, between commas; an asterisk stands for any identifier.

Frames without an extended header name no application and never pass.
-/

namespace Testbed.Trace

/-- One alternative of a filter; an absent identifier stands for any. -/
structure FilterRule where
  apid : Option String
  ctid : Option String
  deriving DecidableEq, Repr

/-- Frames pass when one of the rules applies. -/
structure Filter where
  rules : List FilterRule
  deriving DecidableEq, Repr

/-- Why a text is not a filter. -/
inductive FilterFault where
  | emptyId
  | longId (id : String)
  | noRules (source : String)
  deriving DecidableEq, Repr

/-- The fault in words. -/
def FilterFault.message : FilterFault → String
  | emptyId => "empty ID in DLT filter"
  | longId id => "DLT ID '" ++ id ++ "' is longer than 4 characters"
  | noRules source => "empty DLT filter '" ++ source ++ "'"

namespace FilterRule

/-- Whether both identifiers of a frame are as the rule says. -/
def allows (rule : FilterRule) (frame : Frame) : Bool :=
  rule.apid.all (· == frame.apid) && rule.ctid.all (· == frame.ctid)

/-- One identifier, blanks around it removed. -/
def readId (part : List Char) : Except FilterFault (Option String) :=
  let id := String.ofList (Text.trimChars part)
  if id = "*" then .ok none
  else if id = "" then .error .emptyId
  else if 4 < id.utf8ByteSize then .error (.longId id)
  else .ok (some id)

/-- A rule: an application, or an application and a context between which the
first colon stands. -/
def read (piece : List Char) : Except FilterFault FilterRule :=
  let apid := piece.takeWhile (· ≠ ':')
  match piece.dropWhile (· ≠ ':') with
  | [] => do
      let apid ← readId apid
      pure ⟨apid, none⟩
  | _ :: ctid => do
      let apid ← readId apid
      let ctid ← readId ctid
      pure ⟨apid, ctid⟩

end FilterRule

namespace Filter

/-- Whether a frame names its application and some rule allows it. -/
def allows (filter : Filter) (frame : Frame) : Bool :=
  frame.extended.isSome && filter.rules.any (·.allows frame)

/-- Whether a filter, where there is one, lets a frame pass. -/
def permits (filter : Option Filter) (frame : Frame) : Bool :=
  filter.all (·.allows frame)

/-- Whether nothing but blanks stands in a piece. -/
def isBlankPiece (piece : List Char) : Bool :=
  (Text.trimChars piece).isEmpty

/-- The filter that a text denotes; blank pieces are passed over. -/
def read (source : String) : Except FilterFault Filter := do
  let written := (Text.pieces ',' source.toList).filter (!isBlankPiece ·)
  let rules ← written.mapM FilterRule.read
  if rules.isEmpty then .error (.noRules source) else .ok ⟨rules⟩

/-- The filter that a text denotes, as an operation on a configuration. -/
def ofText (source : String) : Result Filter :=
  (read source).mapError fun fault => .invalidConfig fault.message

end Filter

end Testbed.Trace
