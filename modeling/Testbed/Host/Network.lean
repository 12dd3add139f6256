import Testbed.Net.Address
import Testbed.Octets

/-!
# The network of the host

This file supplies what a test host meets when it opens sockets: each step may be
refused with a text of the operating system, and what senders have ready arrives
once the socket is open.
-/

namespace Testbed

/-- A step of opening a socket. -/
inductive SocketStep where
  | create
  | reuseAddress
  | reusePort
  | receiveBuffer
  | nonBlocking
  | bind (endpoint : Net.Endpoint)
  | join (group interface : Net.Ipv4)
  | register
  | connect (peer : Net.Endpoint)
  deriving DecidableEq, Repr

/-- What a step is called in messages. -/
def SocketStep.description : SocketStep → String
  | create => "create UDP socket"
  | reuseAddress => "set SO_REUSEADDR"
  | reusePort => "set SO_REUSEPORT"
  | receiveBuffer => "set receive buffer"
  | nonBlocking => "set non-blocking"
  | bind endpoint => "bind " ++ endpoint.render
  | join group interface =>
      "join multicast group " ++ group.render ++ " on " ++ interface.render
  | register => "register UDP socket"
  | connect peer => "connect to " ++ peer.render

/-- The network as a host sees it. -/
structure Network where
  /-- Why a step is refused, if it is. -/
  refusal : SocketStep → Option String := fun _ => none
  /-- The datagrams that arrive at a bound socket, in their order. -/
  datagrams : List Octets := []
  /-- What arrives over each connection with a daemon, in the pieces in which it is
  read.  All but the last are closed by the daemon. -/
  connections : List (List Octets) := []

end Testbed
