import Testbed.Host
import Testbed.Net.Address
import Testbed.Target

/-!
# Reachability of addresses

This file supplies the check whether an address answers, made by a tool of the
host, and the polling that waits until it does or no longer does.
-/

namespace Testbed.Net

/-- The command line of a single check. -/
def probeLine (address : Address) : CommandLine :=
  { program := "ping"
    arguments :=
      ["-c", "1", "-W", "1"] ++ (if address.isV6 then ["-6"] else []) ++ [address.render] }

/-- Whether an address answers; a tool that cannot be started means no. -/
def probe (address : Address) (host : Host) : Bool × Host :=
  match host.run (probeLine address) with
  | (.ok finished, host) => (finished.status.success, host)
  | (.error _, host) => (false, host)

/-- What is waited for, in words. -/
def subject (address : Address) : String :=
  "ping " ++ address.render

/-- Wait until an address answers. -/
def ping (address : Address) (policy : PollPolicy) : Action Host Unit :=
  discard (policy.waitUntil (subject address) (probe address))

/-- Wait until an address no longer answers. -/
def pingLost (address : Address) (policy : PollPolicy) : Action Host Unit :=
  discard (policy.waitUntilLost (subject address) (probe address))

/-- The checks of an address as operations of a target. -/
def pinger (address : Address) : Pinger Host :=
  { ping := ping address, pingLost := pingLost address }

end Testbed.Net
