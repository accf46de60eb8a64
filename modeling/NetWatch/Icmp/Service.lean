import NetWatch.Icmp.Transport

/-!
# The echo service

A service has one socket, a reader that feeds its correlator, and any number of probes. The
registry keeps the services that were started, and one place for the service that all callers
share: a shared service that is closed is stopped and replaced the next time one is asked for.
-/

namespace NetWatch.Icmp

open Net (IpAddress IoError)
open Probing (Correlator Key)

structure Service where
  transport : Transport
  correlator : Correlator
  /-- Whether the receiver has had its first turn. In that turn it sets up what closes the
  correlator when it goes. -/
  begun : Bool := false
  /-- Whether the reader has been told to stop. -/
  readerStopped : Bool := false

/-- In milliseconds. -/
def Service.defaultReadTimeout : Nat := 200

/-- An attempt to start a service. The sockets and the thread of the reader fail with the given
errors, if there are any. -/
structure Attempt where
  raw : Option IoError := none
  datagram : Option IoError := none
  thread : Option IoError := none
  readTimeout : Nat := Service.defaultReadTimeout
  identifier : UInt16
  firstKey : Key

/-- Why no reader can be started. It cannot wait for no time at all. -/
def Attempt.readerFault? (a : Attempt) : Option IoError :=
  if a.readTimeout = 0 then some .zeroTimeout else a.thread

namespace Service

/-- Opens a socket and starts to read from it. -/
def start (a : Attempt) : Except Error Service :=
  match openSocket a.raw a.datagram, a.readerFault? with
  | .error e, _ | .ok _, some e => .error (.io none e)
  | .ok kind, none => .ok {
      transport := { kind, identifier := a.identifier }, correlator := .start a.firstKey }

/-- Whether the service has been closed. -/
def isClosed (s : Service) : Bool := s.correlator.closed

/-- Only IPv4 hosts can be asked. -/
def accept (target : IpAddress) : Except Error Unit :=
  if target.isV6 then .error (.invalidArgument (.ipv4Only target)) else .ok ()

/-- Stops the reader, then the correlator. -/
def shutdown (s : Service) : Service :=
  { s with
    readerStopped := true
    correlator := s.correlator.run [.shutdown, .leave, .clear, .shutdownEnd] }

/-- The receiver's first turn. -/
def begin (s : Service) : Service :=
  if s.correlator.receiver = .running then { s with begun := true } else s

/-- A step of the correlator. What the receiver does it does in its first turn or later. -/
def work (s : Service) (event : Probing.Event) : Service :=
  let s := match event with
    | .route .. | .leave | .clear => s.begin
    | _ => s
  { s with correlator := s.correlator.step event }

/-- What is left when the receiver goes away with its runtime. One that has not begun closes
nothing, and the map stays as it is. -/
def lose (s : Service) : Service :=
  { s with correlator :=
      if s.begun then s.correlator.run [.leave, .clear]
      else { s.correlator with receiver := .gone } }

end Service

structure Registry where
  /-- All services ever started, by number. -/
  services : List Service := []
  /-- The number of the shared one. -/
  shared : Option Nat := none

namespace Registry

def add (r : Registry) (s : Service) : Registry × Nat :=
  ({ r with services := r.services ++ [s] }, r.services.length)

def modify (r : Registry) (i : Nat) (f : Service → Service) : Registry :=
  { r with services := r.services.modify i f }

/-- The shared service, if it is there and open. -/
def open? (r : Registry) : Option Nat :=
  r.shared.filter fun i => (r.services[i]?).any (!·.isClosed)

/-- Stops the service in the shared place and takes it out. -/
def evict (r : Registry) : Registry :=
  match r.shared with
  | some i => { r.modify i .shutdown with shared := none }
  | none => r

/-- Asks for the shared service. The attempt is made if there is none. -/
def ask (r : Registry) (a : Attempt) : Registry × Except Error Nat :=
  match r.open? with
  | some i => (r, .ok i)
  | none => match Service.start a with
    | .error e => (r.evict, .error e)
    | .ok s =>
      let (r, i) := r.evict.add s
      ({ r with shared := some i }, .ok i)

end Registry

end NetWatch.Icmp
