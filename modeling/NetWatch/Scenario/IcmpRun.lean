import NetWatch.Monitor.Icmp
import NetWatch.Scenario.Sockets
import NetWatch.Scenario.World

/-!
# A scripted ICMP network

Hosts that answer echo requests from a script, and steps that exercise services over them. Answers
arrive before any timeout, and time that nothing happens in is skipped.
-/

namespace NetWatch.Scenario

open Net (IoError IpAddress)
open NetWatch.Icmp
open Probing (Key Outcome Policy)

/-- One answer to a request: octets of its own, or the request changed. -/
structure Answer where
  whole : Option Octets := none
  kind : UInt8 := echoReply
  code : UInt8 := 0
  /-- These are xored with one octet of each field. -/
  flipIdentifier : UInt8 := 0
  flipKey : UInt8 := 0
  flipSignature : UInt8 := 0
  cut : Option Nat := none
  /-- What stands in front of the message. -/
  header : Option Octets := none
  source : Option IpAddress := none

structure Host where
  address : IpAddress
  /-- What each request is answered with; the last entry serves all further requests. -/
  answers : List (List Answer)
  /-- How many requests have come. -/
  received : Nat := 0

/-- An IPv4 header of twenty octets. -/
def plainHeader : Octets := 0x45 :: List.replicate 19 0

/-- The packet that an answer puts on the wire. -/
def Answer.packet (a : Answer) (kind : SocketKind) (request : Octets) : Octets :=
  match a.whole with
  | some octets => octets
  | none =>
    let message := (request.set 0 a.kind).set 1 a.code
    let message := message.modify 5 (· ^^^ a.flipIdentifier)
    let message := message.modify 15 (· ^^^ a.flipKey)
    let message := message.modify 24 (· ^^^ a.flipSignature)
    let header := a.header.getD (if kind = .raw then plainHeader else [])
    header ++ message.take (a.cut.getD message.length)

/-- The answers to the next request. -/
def Host.next (h : Host) : List Answer :=
  (h.answers[min h.received (h.answers.length - 1)]?).getD []

/-- A request as a host received it. -/
structure Request where
  /-- The number of the service that sent it. -/
  service : Nat
  target : IpAddress
  key : Key
  packet : Octets

structure IcmpNetwork where
  hosts : List Host
  log : List Request := []
  /-- Whether the next send fails. -/
  failSend : Bool := false

/-- The network as one service sees it. -/
structure IcmpLink where
  network : IcmpNetwork
  service : Nat
  transport : Transport

/-- Puts a request on the wire and takes what comes back at once. -/
def IcmpLink.post (l : IcmpLink) (target : IpAddress) (key : Key) : IcmpLink × Sent :=
  let (echo, transport) := l.transport.request key 0
  let l := { l with transport := transport }
  let net := l.network
  if net.failSend then ({ l with network := { net with failSend := false } }, .failed)
  else if target = broadcast then (l, .failed)
  else match net.hosts.find? (·.address = target) with
    | none => (l, .delivered [])
    | some host =>
      let packet := echo.encode
      let hosts := net.hosts.map fun h =>
        if h.address = target then { h with received := h.received + 1 } else h
      let replies := host.next.filterMap fun a =>
        (received? (a.packet transport.kind packet)).map fun payload =>
          (a.source.getD target, transport.replyKey? payload)
      let log := net.log ++ [⟨l.service, target, key, packet⟩]
      ({ l with network := { net with hosts := hosts, log := log } }, .delivered replies)

structure Ping where
  target : IpAddress
  policy : Policy
  /-- Whether the caller has withdrawn before it starts. -/
  cancelled : Bool := false

/-- Pings at the same time over one service. -/
def pingAll (network : IcmpNetwork) (number : Nat) (service : Service) (pings : List Ping) :
    IcmpNetwork × Service × List (Except Error Outcome) :=
  let world : World IcmpLink := {
    correlator := service.correlator
    network := ⟨network, number, service.transport⟩
    post := IcmpLink.post }
  let (world, calls) := pings.foldl (fun (w, calls) p =>
    match Service.accept p.target with
    | .error e => (w, calls ++ [Except.error e])
    | .ok () =>
      let (w, i) := w.call p.target p.policy
      (if p.cancelled then w.cancel i else w, calls ++ [.ok i])) (world, [])
  let world := world.finish
  let service := { service with
    correlator := world.correlator, transport := world.network.transport }
  (world.network.network, service,
    calls.map fun call => call.bind fun i => (world.result? i).getD (.error .shutDown))

inductive IcmpStep where
  | start (identifier : Option UInt16) (readTimeout : Nat)
  | shared
  | ping (ping : Ping)
  | pings (pings : List Ping)
  | poll (target : IpAddress) (params : Monitor.Parameters) (shared : Bool)
  | shutdown
  /-- The runtime of all services so far goes away. -/
  | newRuntime
  | sockets (raw datagram : Option IoError)
  /-- The next receive fails, and another one follows. -/
  | failReceive
  | failSend
  | inject (source : IpAddress)
  | wait

inductive IcmpAnswer where
  | done
  | failed (error : Error)
  | started (identifier : Option UInt16)
  /-- Whether the shared service is the one that was current. -/
  | same (answer : Option Bool)
  | outcome (result : Except Error Outcome)
  | outcomes (results : List (Except Error Outcome))
  | verdict (result : Except Error Monitor.PollStatus) (inspected : String)
  | flag (b : Bool)
  | noService

structure RequestView where
  target : IpAddress
  length : Nat
  checksumOk : Bool
  kind : Nat
  sequence : Nat
  ownIdentifier : Bool
  /-- Counted from the first request of the same service. -/
  key : Int
  tail : Octets

structure IcmpView where
  answer : IcmpAnswer
  /-- Of the current service. -/
  closed : Option Bool
  kind : Option SocketKind
  requests : List RequestView

structure IcmpRun where
  network : IcmpNetwork
  raw : Option IoError := none
  datagram : Option IoError := none
  registry : Registry := {}
  current : Option Nat := none
  /-- Services that are kept to the end. -/
  kept : List Nat := []

namespace IcmpRun

/-- Stands for a random identifier. -/
def anyIdentifier : UInt16 := 0xA7C3

/-- Stands for a random first key. -/
def anyKey : Key := 0x5B0F3D2E71C49A86

def attempt (r : IcmpRun) (readTimeout : Nat) (identifier : Option UInt16) : Attempt :=
  { raw := r.raw, datagram := r.datagram, readTimeout
    identifier := identifier.getD anyIdentifier, firstKey := anyKey }

def service? (r : IcmpRun) : Option Service := do r.registry.services[← r.current]?

def keep (r : IcmpRun) (i : Nat) : IcmpRun := { r with current := some i, kept := i :: r.kept }

/-- Asks for the shared service. -/
def ask (r : IcmpRun) : IcmpRun × Except Error Nat :=
  let (registry, answer) := r.registry.ask (r.attempt Service.defaultReadTimeout none)
  ({ r with registry := registry }, answer)

def pingsOver (r : IcmpRun) (i : Nat) (pings : List Ping) :
    IcmpRun × List (Except Error Outcome) :=
  match r.registry.services[i]? with
  | none => (r, [])
  | some service =>
    let (network, service, results) := pingAll r.network i service pings
    ({ r with network := network, registry := r.registry.modify i fun _ => service }, results)

/-- A poll over a service. -/
def pollOver (r : IcmpRun) (i : Nat) (target : IpAddress) (params : Monitor.Parameters) :
    IcmpRun × Except Error Monitor.PollStatus :=
  let (r, results) := r.pingsOver i [⟨target, Monitor.Icmp.policy params, false⟩]
  (r, Monitor.Icmp.check target (results.head?.getD (.error .shutDown)))

/-- A poll over the shared service. It is not asked for if the target is refused. -/
def pollShared (r : IcmpRun) (target : IpAddress) (params : Monitor.Parameters) :
    IcmpRun × Except Error Monitor.PollStatus :=
  match Service.accept target with
  | .error e => (r, .error e)
  | .ok () => match r.ask with
    | (r, .error e) => (r, .error e)
    | (r, .ok i) => r.pollOver i target params

/-- Whether the socket of a service is still open. -/
def hasSocket (r : IcmpRun) (i : Nat) : Bool :=
  r.kept.contains i || r.registry.shared = some i

def each (r : IcmpRun) (f : Service → Service) : IcmpRun :=
  { r with registry := { r.registry with services := r.registry.services.map f } }

def apply (r : IcmpRun) (step : IcmpStep) : IcmpRun × IcmpAnswer :=
  match step, r.current with
  | .start identifier readTimeout, _ =>
    match Service.start (r.attempt readTimeout identifier) with
    | .error e => (r, .failed e)
    | .ok service =>
      let (registry, i) := r.registry.add service
      ({ r with registry := registry }.keep i, .started identifier)
  | .shared, current =>
    match r.ask with
    | (r, .error e) => (r, .failed e)
    | (r, .ok i) => (r.keep i, .same (current.map (· = i)))
  | .poll target params true, _ =>
    let (r, result) := r.pollShared target params
    (r, .verdict result (Monitor.Icmp.inspect .shared false))
  | .ping ping, some i =>
    let (r, results) := r.pingsOver i [ping]
    (r, .outcome (results.head?.getD (.error .shutDown)))
  | .pings pings, some i =>
    let (r, results) := r.pingsOver i pings
    (r, .outcomes results)
  | .poll target params false, some i =>
    let (r, result) := r.pollOver i target params
    (r, .verdict result (Monitor.Icmp.inspect .service false))
  | .shutdown, some i => ({ r with registry := r.registry.modify i .shutdown }, .done)
  | .ping _, none | .pings _, none | .poll _ _ false, none | .shutdown, none => (r, .noService)
  | .newRuntime, _ => (r.each .lose, .done)
  | .sockets raw datagram, _ => ({ r with raw := raw, datagram := datagram }, .done)
  | .failSend, _ => ({ r with network := { r.network with failSend := true } }, .done)
  | .inject source, _ =>
    let reached := r.network.log.getLast?.any (r.hasSocket ·.service)
    (r, .flag (reached && !r.network.hosts.any (·.address = source)))
  | .failReceive, _ | .wait, _ => (r, .done)

/-- A request as it is shown. The identifier counts as the current service's own if there is none,
or if the poll used the shared one. -/
def viewRequest (r : IcmpRun) (ownAnyway : Bool) (q : Request) : RequestView :=
  let number (start count : Nat) := Echo.slice q.packet start count
  let first := (r.network.log.find? (·.service = q.service)).map (·.key)
  { target := q.target
    length := q.packet.length
    checksumOk := checksum q.packet = 0
    kind := number 0 1
    sequence := number 6 2
    ownIdentifier := ownAnyway || r.service?.all fun s => s.transport.identifier.toNat = number 4 2
    key := (q.key - first.getD 0).toInt64.toInt
    tail := q.packet.drop 24 }

/-- Every receiver has had its first turn before the next step. -/
def step (r : IcmpRun) (s : IcmpStep) : IcmpRun × IcmpView :=
  let before := r.network.log.length
  let (r, answer) := r.apply s
  let r := r.each .begin
  let ownAnyway := match s with
    | .poll _ _ shared => shared
    | _ => false
  (r, {
    answer := answer
    closed := r.service?.map (·.isClosed)
    kind := r.service?.map (·.transport.kind)
    requests := (r.network.log.drop before).map (r.viewRequest ownAnyway) })

end IcmpRun

end NetWatch.Scenario
