import NetWatch.Icmp.Echo
import NetWatch.Probing.Correlator

/-!
# Echo requests and their replies on a socket

A raw socket shows every ICMP message of the host, each behind its IP header, so replies are told
apart by the identifier. A datagram socket has an identifier of the system's own, and the system
brings only the replies to it.
-/

namespace NetWatch.Icmp

open Net (IoError)
open Probing (Key)

inductive SocketKind where
  | raw
  | datagram
  deriving DecidableEq

def SocketKind.name : SocketKind → String
  | .raw => "Raw"
  | .datagram => "Datagram"

/-- Opens a raw socket, or else a datagram socket. Each attempt fails with the given error, if
there is one. -/
def openSocket (raw datagram : Option IoError) : Except IoError SocketKind :=
  match raw, datagram with
  | none, _ => .ok .raw
  | some _, none => .ok .datagram
  | some _, some e => .error e

structure Transport where
  kind : SocketKind
  identifier : UInt16
  /-- The number of the next request. -/
  sequence : UInt16 := 0
  deriving DecidableEq

namespace Transport

/-- The request of a probe. The number is used up even if the request cannot be sent. -/
def request (t : Transport) (key : Key) (sentAt : UInt64) : Echo × Transport :=
  (.request t.identifier t.sequence key sentAt, { t with sequence := t.sequence + 1 })

/-- The key in a reply to a request of this socket. -/
def replyKey? (t : Transport) (payload : Octets) : Option Key :=
  match Echo.decode? payload with
  | some packet =>
    if packet.kind ≠ echoReply then none
    else if t.kind = .raw ∧ packet.identifier ≠ t.identifier then none
    else some packet.key
  | none => none

end Transport

/-- How many octets of a packet are received. -/
def receiveLimit : Nat := 1500

/-- The ICMP message in what a socket receives; a packet without one is skipped. -/
def received? (packet : Octets) : Option Octets :=
  match stripIpHeader (packet.take receiveLimit) with
  | [] => none
  | payload => some payload

end NetWatch.Icmp
