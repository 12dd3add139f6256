import Testbed.Document.Reader
import Testbed.Error
import Testbed.Pattern.Program
import Testbed.Trace.Frame

/-!
# Queries over frames

This file supplies queries, which select frames by the text of their fields.  A
query holds at most one matcher for each field and selects a frame when every
matcher holds, so the query without matchers selects every frame.

A term written later for a field that already has a matcher replaces it.
-/

namespace Testbed.Trace

/-! ## Fields -/

/-- A field that a query can test. -/
inductive Field where
  | ecu
  | apid
  | ctid
  | payload
  | kind
  | subtype
  | counter
  | sessionId
  | messageId
  | timestamp
  deriving DecidableEq, Repr

namespace Field

/-- Every field, in the order in which queries show them. -/
def all : List Field :=
  [ecu, apid, ctid, payload, kind, subtype, counter, sessionId, messageId, timestamp]

theorem mem_all (field : Field) : field ∈ all := by
  cases field <;> decide

/-- The word for a field. -/
def name : Field → String
  | ecu => "ecu"
  | apid => "apid"
  | ctid => "ctid"
  | payload => "payload"
  | kind => "type"
  | subtype => "subtype"
  | counter => "counter"
  | sessionId => "session_id"
  | messageId => "message_id"
  | timestamp => "timestamp"

/-- The text of an optional number. -/
def numberText (number : Option UInt32) : String :=
  match number with
  | some number => toString number.toNat
  | none => ""

/-- The text of a field; an absent field has the empty text. -/
def value (frame : Frame) : Field → String
  | ecu => frame.ecu
  | apid => frame.apid
  | ctid => frame.ctid
  | payload => frame.text
  | kind =>
      match frame.extended with
      | some header => header.kind.name
      | none => ""
  | subtype =>
      match frame.extended with
      | some header =>
          (header.kind.subtypeName? header.subtype).getD (toString header.subtype.toNat)
      | none => ""
  | counter => toString frame.counter.toNat
  | sessionId => numberText frame.sessionId
  | messageId => numberText frame.payload.messageId
  | timestamp => numberText frame.timestamp

/-- The field of a name. -/
def ofName (name : String) : Result Field :=
  match all.find? (·.name == name) with
  | some field => .ok field
  | none =>
      .error (.invalidQuery
        ("unknown field '" ++ name ++ "' (expected one of: "
          ++ ", ".intercalate (all.map Field.name) ++ ")"))

end Field

/-! ## Matchers -/

/-- A condition on the text of a field. -/
inductive Matcher where
  /-- Equality with a text. -/
  | exact (text : String)
  /-- A pattern that occurs in the text. -/
  | pattern (regex : Regex)

namespace Matcher

/-- The matcher of a written pattern. -/
def ofPattern (source : String) : Result Matcher :=
  match Regex.compile? source with
  | some regex => .ok (.pattern regex)
  | none => .error (.invalidQuery ("invalid pattern '" ++ source ++ "'"))

/-- Whether the matcher holds of a text. -/
def holds (matcher : Matcher) (value : String) : Bool :=
  match matcher with
  | exact text => text == value
  | pattern regex => regex.isMatch value

/-- An equals sign and the text, or a tilde and the pattern. -/
def render : Matcher → String
  | exact text => "=" ++ text
  | pattern regex => "~" ++ regex.source

end Matcher

/-- A matcher as configuration writes it. -/
inductive MatcherSpec where
  | literal (text : String)
  | regex (source : String)
  deriving DecidableEq, Repr

/-- Read a text, or a table with a pattern under its key. -/
def MatcherSpec.read : Document.Reader MatcherSpec
  | _, .text text => some (.literal text)
  | format, .table entries => do
      let record ← Document.Record.read? false ["regex"] format (.table entries)
      pure (.regex (← record.required "regex" Document.Reader.text))
  | _, _ => none

/-! ## Queries -/

/-- A conjunction of matchers, at most one for each field. -/
structure Query where
  matcher? : Field → Option Matcher

namespace Query

/-- The query that selects every frame. -/
def empty : Query :=
  ⟨fun _ => none⟩

/-- Give a field a matcher, in place of one it may have. -/
def set (query : Query) (field : Field) (matcher : Matcher) : Query :=
  ⟨fun other => if other = field then some matcher else query.matcher? other⟩

/-- Require the field of a name to equal a text. -/
def exact (query : Query) (name text : String) : Result Query := do
  let field ← Field.ofName name
  pure (query.set field (.exact text))

/-- Require a pattern to occur in the field of a name. -/
def pattern (query : Query) (name source : String) : Result Query := do
  let field ← Field.ofName name
  let matcher ← Matcher.ofPattern source
  pure (query.set field matcher)

/-- Add one matcher as configuration writes it. -/
def withSpec (query : Query) (name : String) : MatcherSpec → Result Query
  | .literal text => query.exact name text
  | .regex source => query.pattern name source

/-- The query of matchers as configuration writes them. -/
def ofSpecs (specs : List (String × MatcherSpec)) : Result Query :=
  specs.foldlM (fun query (name, spec) => query.withSpec name spec) empty

/-- A term split at its first sign: the field, the sign and what follows. -/
def splitTerm? : List Char → Option (List Char × Char × List Char)
  | [] => none
  | char :: rest =>
      if char = '=' ∨ char = '~' then
        some ([], char, rest)
      else
        (splitTerm? rest).map fun (name, sign, value) => (char :: name, sign, value)

/-- Add one written term. -/
def withTerm (query : Query) (term : String) : Result Query :=
  match splitTerm? term.toList with
  | some (name, sign, value) =>
      if sign = '=' then
        query.exact (String.ofList name) (String.ofList value)
      else
        query.pattern (String.ofList name) (String.ofList value)
  | none =>
      .error (.invalidQuery
        ("expected field=value or field~regex, got '" ++ term ++ "'"))

/-- The query of written terms, each a field, a sign and a text or pattern. -/
def ofTerms (terms : List String) : Result Query :=
  terms.foldlM withTerm empty

/-- Whether the query has no matcher. -/
def isEmpty (query : Query) : Bool :=
  Field.all.all fun field => (query.matcher? field).isNone

/-- Whether every matcher of the query holds of a frame. -/
def selects (query : Query) (frame : Frame) : Bool :=
  Field.all.all fun field =>
    match query.matcher? field with
    | some matcher => matcher.holds (field.value frame)
    | none => true

/-- The application identifier that a query pins down, if it does. -/
def exactApid? (query : Query) : Option String :=
  match query.matcher? .apid with
  | some (.exact apid) => some apid
  | _ => none

/-- The terms of a query, in the order of the fields. -/
def terms (query : Query) : List String :=
  Field.all.filterMap fun field =>
    (query.matcher? field).map fun matcher => field.name ++ matcher.render

/-- The terms in braces. -/
def render (query : Query) : String :=
  "\x7b" ++ ", ".intercalate query.terms ++ "\x7d"

end Query

end Testbed.Trace
