import Testbed.Target.Capability

/-!
# Gates

This file supplies gates, which decide before a test runs whether the target
offers everything that the test requires.  A test that its gate holds back is
skipped, which is not a failure.
-/

namespace Testbed

/-- What a gate decides. -/
inductive GateDecision where
  | run
  /-- Skip the test, for want of these capabilities. -/
  | skip (missing : List Capability)
  deriving DecidableEq, Repr

namespace GateDecision

/-- Whether the test runs. -/
def shouldRun : GateDecision → Bool
  | run => true
  | skip _ => false

/-- The decision in words. -/
def render : GateDecision → String
  | run => "run"
  | skip missing =>
      "target lacks required capabilities: " ++ ", ".intercalate missing

/-- The decision as a document. -/
def toDocument : GateDecision → Document
  | run => .text "Run"
  | skip missing => .table [("Skip", .table [("missing", .texts missing)])]

end GateDecision

/-- The capabilities that a test requires. -/
structure Gate where
  required : CapabilitySet := .empty
  deriving DecidableEq

namespace Gate

/-- The gate of some names in any order. -/
def ofList (names : List Capability) : Gate :=
  ⟨.ofList names⟩

/-- Decide whether a test may run where some capabilities are available. -/
def evaluate (gate : Gate) (available : CapabilitySet) : GateDecision :=
  if gate.required.isSubset available then
    .run
  else
    .skip (gate.required.missingFrom available)

/-- The gate as a document. -/
def toDocument (gate : Gate) : Document :=
  .table [("required", .texts gate.required.names)]

/-- Read a gate. -/
def read : Document.Reader Gate := fun format document => do
  let record ← Document.Record.read? false ["required"] format document
  let required ← record.required "required" Document.Reader.texts
  pure (.ofList required)

end Gate

end Testbed
