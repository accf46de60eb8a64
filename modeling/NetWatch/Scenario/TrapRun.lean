import NetWatch.Scenario.Sockets
import NetWatch.Trap.Session

/-!
# A scripted trap session

A session with one peer that sends it datagrams and takes its acknowledgements. Each step runs to
its end before the next one.
-/

namespace NetWatch.Scenario

open Net (Endpoint IoError IpAddress)
open Snmp (Message)
open Trap

/-- A call made while a stop is waiting. -/
inductive Meanwhile where
  | start
  | stop
  | send (message : Message)
  | status

inductive SessionStep where
  | start
  | stop
  | inspect
  | addHandler (handler : Handler)
  /-- Removes the handler with that number, if it was ever made. -/
  | removeHandler (id : HandlerId)
  | setErrorHandler (handler : ErrorHandler)
  /-- The peer sends a datagram; the receive may fail once before it, or the acknowledgement. -/
  | datagram (data : Octets) (failReceive failSend : Bool)
  /-- Sends to the peer, or to another target. -/
  | send (target : Option Endpoint) (message : Message)
  | stopAnd (call : Meanwhile)
  /-- Another socket binds the session's address. -/
  | occupy
  | release

inductive SessionAnswer where
  | done
  | failed (error : Error)
  | text (s : String)
  | flag (b : Bool)
  | nothing
  /-- There was nobody to send a datagram to. -/
  | notSent
  | acknowledged (data : Option Octets)
  | peerGot (data : Option Octets)

structure TrapRun where
  session : Session
  /-- The socket that has the session's address. -/
  occupant : Option Endpoint := none

namespace TrapRun

/-- The peer's own address. -/
def peer : Endpoint := ⟨.v4 .loopback, 50000, 0⟩

/-- The peer as an IPv6 socket sees it. -/
def mappedPeer : Endpoint :=
  let groups := #v[0, 0, 0, 0, 0, 0xFFFF, 0x7F00, 1]
  { peer with ip := .v6 ⟨groups⟩ }

def step (r : TrapRun) (event : Event) : TrapRun × List Effect :=
  let (s, effects) := r.session.step event
  ({ r with session := s }, effects)

def run (r : TrapRun) (events : List Event) : TrapRun × List Effect :=
  let (s, effects) := r.session.run events
  ({ r with session := s }, effects)

/-- What a call has returned. -/
def returned (effects : List Effect) : SessionAnswer :=
  (effects.findSome? fun
    | .startReturned (.error e) | .sendReturned (.error e) => some (SessionAnswer.failed e)
    | _ => none).getD .done

/-- A start with its bind. -/
def start (r : TrapRun) : TrapRun × List Effect :=
  let (r, early) := r.step .start
  if r.session.starting = 0 then (r, early)
  else r.step (.bound (bindSocket r.occupant.toList r.session.config.bindAddress))

/-- The listeners that stops wait for come to their ends. -/
def finishStops (r : TrapRun) : TrapRun :=
  (r.run (r.session.stopping.flatMap fun i => [.notice i, .joined i])).1

def send (r : TrapRun) (target : Endpoint) (message : Message) : TrapRun × List Effect :=
  let n := r.session.sends.length
  let result := sendDatagram target.ip message.encode.length
  r.run [.send target message, .takeSocket n, .transmit n result]

/-- The datagrams sent to the peer. -/
def atPeer (effects : List Effect) : Option Octets :=
  effects.findSome? fun
    | .sent target data => if target = peer ∨ target = mappedPeer then some data else none
    | _ => none

/-- Whether an acknowledgement among the effects is too long to be sent. -/
def isTooLong (effects : List Effect) : Bool :=
  effects.any fun
    | .sent _ data => data.length > maxDatagram
    | _ => false

/-- A datagram from the peer to a bound session. An IPv6 socket that is bound to any interface sees
the peer at its mapped address; one that is bound to the loopback does not see it. -/
def datagram (r : TrapRun) (data : Octets) (failReceive failSend : Bool) :
    TrapRun × List Effect × SessionAnswer :=
  match r.session.listener with
  | none => (r, [], .notSent)
  | some (i, bound) =>
    let (r, early) := if failReceive then r.step (.receiveFailed i) else (r, [])
    let source := if bound.ip.isV6 then mappedPeer else peer
    let attempt := r.session.handle i source data (!failSend)
    let (s, effects) :=
      if isTooLong attempt.2 then r.session.handle i source data false else attempt
    ({ r with session := s }, early ++ effects, .acknowledged (atPeer effects))

def meanwhile (r : TrapRun) : Meanwhile → TrapRun × SessionAnswer
  | .start =>
    let (r, effects) := r.start
    (r, returned effects)
  | .stop =>
    let (r, _) := r.step .stop
    (r, .text r.session.status.text)
  | .send message =>
    let (r, effects) := r.send peer message
    (r, returned effects)
  | .status => (r, .text r.session.status.text)

/-- One step: what follows, what could be seen of it, and its answer. -/
def apply (r : TrapRun) : SessionStep → TrapRun × List Effect × SessionAnswer
  | .start =>
    let (r, effects) := r.start
    (r, effects, returned effects)
  | .stop =>
    let (r, effects) := r.step .stop
    (r.finishStops, effects, .done)
  | .inspect => (r, [], .text r.session.inspect)
  | .addHandler handler =>
    let id := r.session.nextId
    let (r, effects) := r.step (.addHandler handler)
    (r, effects, .text s!"HandlerId({id})")
  | .removeHandler id =>
    if id < r.session.nextId then
      let found := r.session.hasHandler id
      let (r, effects) := r.step (.removeHandler id)
      (r, effects, .flag found)
    else (r, [], .nothing)
  | .setErrorHandler handler =>
    let (r, effects) := r.step (.setErrorHandler handler)
    (r, effects, .done)
  | .datagram data failReceive failSend => r.datagram data failReceive failSend
  | .send target message =>
    let (r, effects) := r.send (target.getD peer) message
    match returned effects with
    | .failed e => (r, effects, .failed e)
    | _ => (r, effects, .peerGot (atPeer effects))
  | .stopAnd call =>
    let (r, _) := r.step .stop
    let (r, answer) := r.meanwhile call
    (r.finishStops, [], answer)
  | .occupy =>
    let taken := r.session.localAddress?.toList ++ r.occupant.toList
    match bindSocket taken r.session.config.bindAddress with
    | .ok bound => ({ r with occupant := some bound }, [], .flag true)
    | .error _ => (r, [], .flag false)
  | .release => ({ r with occupant := none }, [], .done)

end TrapRun

end NetWatch.Scenario
