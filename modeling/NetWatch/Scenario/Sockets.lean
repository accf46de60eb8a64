import NetWatch.Net.Address
import NetWatch.Net.SystemError

/-!
# A small network

The rules of the network in which scripted sessions and polls run: which addresses can be bound,
which datagrams cannot be sent, and which hosts no connection reaches.
-/

namespace NetWatch.Scenario

open Net

/-- Addresses of this machine: all of 127.0.0.0/8, the IPv6 loopback, and those of any interface. -/
def isLocal : IpAddress → Bool
  | .v4 ip => ip.a = 127 || ip = .unspecified
  | .v6 ip => ip.groups.toList = [0, 0, 0, 0, 0, 0, 0, 0] || ip.groups.toList = [0, 0, 0, 0, 0, 0, 0, 1]

/-- The port that is handed out for port zero. -/
def freePort : UInt16 := 40000

/-- Binds a datagram socket among those that are bound already. -/
def bindSocket (taken : List Endpoint) (address : Endpoint) : Except IoError Endpoint :=
  if !isLocal address.ip then .error .addressNotAvailable
  else if address.port = 0 then .ok { address with port := freePort }
  else if taken.any fun t => t.ip = address.ip && t.port = address.port then .error .addressInUse
  else .ok address

/-- The most octets in a datagram. -/
def maxDatagram : Nat := 65507

def broadcast : IpAddress := .v4 ⟨255, 255, 255, 255⟩

/-- Sends a datagram of so many octets. One that reaches nobody is lost. -/
def sendDatagram (target : IpAddress) (size : Nat) : Except IoError Unit :=
  if target = broadcast then .error .permissionDenied
  else if size > maxDatagram then .error .messageTooLong
  else .ok ()

/-- Hosts that no connection reaches, with what the attempt fails with. -/
def unreachableHost? (target : IpAddress) : Option IoError :=
  if target = .v4 ⟨127, 255, 255, 255⟩ then some .networkUnreachable
  else if target = .v4 ⟨192, 0, 2, 1⟩ then some .timedOut
  else if target = .v4 ⟨192, 0, 2, 2⟩ then some .hostUnreachable
  else none

end NetWatch.Scenario
