import Testbed.Action
import Testbed.Host.FileTree
import Testbed.Host.Network
import Testbed.Host.Process

/-!
# Hosts

This file supplies the test host: its files, its clock, its network, and the tools
that can be found on its search path.  The tools follow a script, which gives the answer of
every call by the number of the call.  A call is recorded as the name of the tool
and the arguments.
-/

namespace Testbed

/-- How a call of a tool goes on after it has written its output. -/
inductive Manner where
  | exits (code : Nat)
  | hangs (stubborn : Bool)
  deriving DecidableEq, Repr

/-- What a call of a tool does. -/
structure Response where
  stdout : Octets := []
  stderr : Octets := []
  manner : Manner := .exits 0
  deriving DecidableEq, Repr

/-- The test host. -/
structure Host where
  /-- The tools on the search path. -/
  tools : List String := []
  respond : Nat → Response := fun _ => {}
  files : FileTree := {}
  network : Network := {}
  clock : Span := .zero
  /-- The calls of tools so far, the latest first. -/
  calls : List (List String) := []

namespace Host

instance : Timed Host where
  now := Host.clock
  pause span host := { host with clock := host.clock + span + .ofMillis 1 }

/-- The calls of tools in order. -/
def callList (host : Host) : List (List String) :=
  host.calls.reverse

/-- The last name of a path. -/
def baseName (path : String) : String :=
  ((FileTree.pathParts path).getLast?).getD path

/-- What is written by a call, at a time after the start. -/
def Response.emissions (response : Response) (time : Span) : List Emission :=
  [{ time, data := response.stdout }, { time, isError := true, data := response.stderr }].filter
    (!·.data.isEmpty)

/-- Call a tool. -/
def call (host : Host) (tool : String) (arguments : List String) : Response × Host :=
  (host.respond host.calls.length,
    { host with calls := (baseName tool :: arguments) :: host.calls })

end Host

end Testbed
