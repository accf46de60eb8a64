import NetWatch.Icmp.Service
import NetWatch.Monitor.Icmp
import NetWatch.Monitor.Imap
import NetWatch.Monitor.Pop3
import NetWatch.Program.ServicePoll
import NetWatch.Program.TrapDaemon
import Std.Async.Select
import Std.Async.Signal
import Std.Async.TCP
import Std.Async.Timer
import Std.Async.UDP

/-!
# The command line

The first word chooses the program: `svc-poll` polls a service once, `snmp-trapd` prints
notifications until it is interrupted. This module opens the sockets and moves octets; what is sent,
printed and decided is worked out elsewhere. ICMP sockets cannot be opened from here, so a poll by
ICMP ends with the error of a system without them.
-/

namespace NetWatch.CommandLine

open Monitor (AttemptFailure Exchanged LineStream Parameters PollStatus)
open Net (Endpoint IoError IpAddress)
open Program
open Std.Async
open Std.Net (IPv4Addr IPv6Addr SocketAddress)
open Trap (Effect Event Session)

/-! ## Addresses and errors of the system -/

def socketAddress (e : Endpoint) : SocketAddress :=
  match e.ip with
  | .v4 ip => .v4 ⟨⟨#v[ip.a, ip.b, ip.c, ip.d]⟩, e.port⟩
  | .v6 ip => .v6 ⟨⟨ip.groups⟩, e.port⟩

def endpoint : SocketAddress → Endpoint
  | .v4 address =>
    let octets := address.addr.octets
    { ip := .v4 ⟨octets[0], octets[1], octets[2], octets[3]⟩, port := address.port }
  | .v6 address => { ip := .v6 ⟨address.addr.segments⟩, port := address.port }

/-- The number that the system gave an error. -/
def systemCode? : IO.Error → Option UInt32
  | .alreadyExists _ code _ | .otherError code _ | .resourceBusy code _
  | .resourceVanished code _ | .unsupportedOperation code _ | .hardwareFault code _
  | .unsatisfiedConstraints code _ | .illegalOperation code _ | .protocolError code _
  | .timeExpired code _ | .interrupted _ code _ | .noFileOrDirectory _ code _
  | .invalidArgument _ code _ | .permissionDenied _ code _ | .resourceExhausted _ code _
  | .inappropriateType _ code _ | .noSuchThing _ code _ => some code
  | .unexpectedEof | .userError _ => none

/-- Socket operations give the number with its sign changed. -/
def ioError (e : IO.Error) : IoError :=
  match systemCode? e with
  | some code => .system (if code < 0x80000000 then code else 0 - code).toNat
  | none => .other (toString e)

def timedOut : IO.Error := .timeExpired 110 "connection timed out"

/-- Waits no longer than so many milliseconds, if there is a limit. -/
def within [Inhabited α] (limit : Option Nat) (action : Async α) : Async α :=
  match limit with
  | none => action
  | some ms => Async.race action do
    sleep (.ofNat ms)
    throw timedOut

/-! ## Polling -/

def sendAll (socket : TCP.Socket.Client) (requests : List String) : Async Unit :=
  for request in requests do socket.send request.toUTF8

/-- Runs an exchange over a connection. Whenever more has arrived the exchange is worked out anew on
all of it, and the requests that it had not come to before go out. -/
partial def converse (socket : TCP.Socket.Client) (limit : Option Nat)
    (exchange : LineStream → Exchanged α) (segments : List Octets) (sent : Nat) :
    Async (Except IoError α) := do
  let now := exchange ⟨segments, .stalled⟩
  sendAll socket (now.sent.drop sent)
  match now.result with
  | .ok found => return .ok found
  | .error e =>
    if e ≠ IoError.wouldBlock then return .error e
    match ← within limit (socket.recv? 8192) with
    | some data => converse socket limit exchange (segments ++ [data.toList]) now.sent.length
    | none =>
      let last := exchange ⟨segments, .closed⟩
      sendAll socket (last.sent.drop now.sent.length)
      return last.result

def connect (target : Endpoint) (limit : Option Nat) : IO TCP.Socket.Client := do
  let socket ← TCP.Socket.Client.mk
  (within limit (socket.connect (socketAddress target))).block
  return socket

/-- One attempt over a connection of its own. -/
def attempt (target : Endpoint) (limit : Option Nat) (exchange : LineStream → Exchanged α) :
    IO (Except AttemptFailure α) := do
  match ← EIO.toBaseIO (connect target limit) with
  | .error e => return .error ⟨false, ioError e⟩
  | .ok socket =>
    match ← EIO.toBaseIO (converse socket limit exchange [] 0).block with
    | .ok result => return result.mapError fun source => ⟨true, source⟩
    | .error e => return .error ⟨true, ioError e⟩

/-- There are no ICMP sockets here. -/
def pollIcmp (target : IpAddress) : Except Error PollStatus :=
  let refusal := some IoError.protocolNotSupported
  let service := Icmp.Service.start
    { raw := refusal, datagram := refusal, identifier := 0, firstKey := 0 }
  Monitor.Icmp.check target (service.map fun _ => .unanswered 0)

def poll (p : ServicePoll) : IO (Except Error PollStatus) := do
  let target (port : UInt16) : Endpoint := { ip := p.target, port := p.params.port port }
  match p.protocol with
  | .icmp => return pollIcmp p.target
  | .pop3 =>
    let limit := some (Monitor.Pop3.patience p.params)
    let (status, _) ← Monitor.Pop3.poll (p.params.retry Monitor.Pop3.defaultRetry) fun _ =>
      attempt (target Monitor.Pop3.defaultPort) limit Monitor.Pop3.exchange
    return .ok status
  | .imap =>
    let limit := Monitor.Imap.patience? p.params
    let (result, _) ← Monitor.Imap.poll p.target (p.params.retry Monitor.Imap.defaultRetry) fun _ =>
      attempt (target Monitor.Imap.defaultPort) limit Monitor.Imap.exchange
    return result

/-- Writes what a program leaves behind, and ends with its code. -/
def leave (o : Outcome) : IO UInt32 := do
  (← IO.getStdout).putStr o.stdout
  (← IO.getStdout).flush
  IO.eprint o.stderr
  return UInt32.ofNat o.exitCode

def usage : String :=
  "usage: svc-poll PROTOCOL TARGET [-p KEY=VALUE] [-O FORMAT] [-v]\n" ++
  "       snmp-trapd [-b ADDRESS] [--max-message-size SIZE] [--recv-buffer-size SIZE]\n" ++
  "                  [-t OID] [-O FORMAT] [--no-hints] [-x] [-v]\n"

/-- A command line that makes no sense, or asks for help. -/
def refuse (e : UsageError) : IO UInt32 := do
  match e with
  | .help =>
    IO.print usage
    return 0
  | _ =>
    IO.eprint s!"error: {e.name}\n{usage}"
    return 2

def runPoll (args : List String) : IO UInt32 := do
  match ServicePoll.parse args with
  | .error e => refuse e
  | .ok p =>
    let start ← IO.monoNanosNow
    let result ← poll p
    let nanos := (← IO.monoNanosNow) - start
    try leave (p.outcome result nanos none)
    catch e => leave (p.outcome result nanos (some (ioError e)))

/-! ## Receiving notifications -/

/-- What happens to a session that listens. -/
inductive Arrival where
  | datagram (source : Endpoint) (data : Octets)
  | failed
  | interrupted

/-- The most octets that one receive takes. -/
def receiveSize (d : TrapDaemon) : UInt64 := UInt64.ofNat (min d.session.maxMessageSize 65535)

def nextArrival (socket : UDP.Socket) (interrupt : Signal.Waiter) (size : UInt64) :
    Async Arrival := do
  try
    Selectable.one #[
      .case interrupt.selector fun _ => return .interrupted,
      .case (socket.recvSelector size) fun (data, source) => return match source with
        | some address => .datagram (endpoint address) data.toList
        | none => .failed]
  catch _ => return .failed

/-- Sends what a step of the session sends. The answer says whether all went out. -/
def transmit (socket : UDP.Socket) (effects : List Effect) : Async Bool := do
  try
    for effect in effects do
      if let .sent target data := effect then
        socket.send ⟨data.toArray⟩ (some (socketAddress target))
    return true
  catch _ => return false

/-- A report that cannot be written is dropped. -/
def write (report : String) : Async Unit := do
  try
    (← IO.getStdout).putStr report
    (← IO.getStdout).flush
  catch _ => return ()

/-- Takes the listener through one datagram. -/
def handle (d : TrapDaemon) (socket : UDP.Socket) (session : Session) (source : Endpoint)
    (data : Octets) : Async Session := do
  let (received, _) := session.step (.receive 0 source data)
  let (acknowledged, effects) := received.step (.acknowledge 0 true)
  let session := if ← transmit socket effects then acknowledged
    else (received.step (.acknowledge 0 false)).1
  let calls := List.replicate (session.handlers.length + 1) (Event.invoke 0)
  let (session, effects) := session.run (.gather 0 :: calls)
  write (d.report (·.text) effects)
  return session

/-- Listens until it is interrupted. -/
partial def listen (d : TrapDaemon) (socket : UDP.Socket) (interrupt : Signal.Waiter)
    (session : Session) : Async Session := do
  match ← nextArrival socket interrupt (receiveSize d) with
  | .interrupted => return session
  | .failed => listen d socket interrupt (session.step (.receiveFailed 0)).1
  | .datagram source data => listen d socket interrupt (← handle d socket session source data)

/-- Binds a socket. -/
def bind (address : Endpoint) : IO (UDP.Socket × Endpoint) := do
  let socket ← UDP.Socket.mk
  socket.bind (socketAddress address)
  return (socket, endpoint (← socket.getSockName))

def runDaemon (args : List String) : IO UInt32 := do
  match TrapDaemon.parse args with
  | .error (.usage e) => refuse e
  | .error (.failure message) => leave (.failure message)
  | .ok d =>
    let (session, _) := d.start.step .start
    match ← EIO.toBaseIO (bind d.session.bindAddress) with
    | .error e => leave (.failure (Error.io (some d.session.bindAddress) (ioError e)).message)
    | .ok (socket, address) =>
      let (session, _) := session.step (.bound (.ok address))
      IO.eprintln s!"Listening on {address.text}"
      let interrupt ← Signal.Waiter.mk .sigint false
      let session ← (listen d socket interrupt session).block
      let _ := session.run [.stop, .notice 0, .joined 0]
      leave { exitCode := 0 }

/-- Runs the program that the first word names. -/
def run : List String → IO UInt32
  | "svc-poll" :: args => runPoll args
  | "snmp-trapd" :: args => runDaemon args
  | _ => refuse .missingArgument

end NetWatch.CommandLine

def main (args : List String) : IO UInt32 := NetWatch.CommandLine.run args
