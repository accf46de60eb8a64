import NetWatch.Snmp.Message
import NetWatch.Trap.Status

/-!
# Trap sessions

A session binds a socket, decodes what arrives, acknowledges informs and calls its handlers. Here
it is a state with small steps, one for each section that cannot be interrupted: a start has one
before and one after its bind, a stop one before and one after its wait for the listener, a send one
for its check, one in which it takes the socket and one in which it goes out, and the listener has
one for each datagram, acknowledgement and handler. Calls and listener may take their steps in any
order; a step that is not due changes nothing and has no effect.
-/

namespace NetWatch.Trap

open Net (Endpoint IoError)
open Snmp

/-- Handlers are numbered from 1 in the order in which they were added. -/
abbrev HandlerId := Nat

/-- What a handler does when it is called: it may remove a handler, then add one, then panic. -/
inductive Handler where
  | mk (removes : Option HandlerId) (adds : Option Handler) (panics : Bool)

namespace Handler

def removes : Handler → Option HandlerId
  | mk removes _ _ => removes

def adds : Handler → Option Handler
  | mk _ adds _ => adds

def panics : Handler → Bool
  | mk _ _ panics => panics

end Handler

/-- Panics of an error handler are swallowed. -/
structure ErrorHandler where
  panics : Bool := false
  deriving DecidableEq

/-- Where a listener stands. -/
inductive ListenerPhase where
  | idle
  | acknowledging (source : Endpoint) (message : Message) (inform : Pdu)
  /-- About to look which handlers there are. -/
  | gathering (source : Endpoint) (message : Message)
  | invoking (source : Endpoint) (message : Message) (handlers : List (HandlerId × Handler))
  | finished

structure Listener where
  cancelled : Bool := false
  phase : ListenerPhase := .idle

def Listener.isFinished (l : Listener) : Bool :=
  match l.phase with
  | .finished => true
  | _ => false

/-- Where a send stands that was checked while the session ran. -/
inductive SendPhase where
  | checked
  /-- It has the socket, which a stop does not take away from it. -/
  | equipped
  | returned
  deriving DecidableEq

structure Send where
  target : Endpoint
  message : Message
  phase : SendPhase := .checked

structure SessionConfig where
  bindAddress : Endpoint
  maxMessageSize : Nat

/-- The size of the receive buffer where none is asked for. -/
def defaultMaxMessageSize : Nat := 65535

structure Session where
  config : SessionConfig
  status : SessionStatus := .startPending
  handlers : List (HandlerId × Handler) := []
  nextId : HandlerId := 1
  errorHandler : Option ErrorHandler := none
  /-- The listener in charge, by number, and the address it is bound to. -/
  listener : Option (Nat × Endpoint) := none
  /-- All listeners there ever were. -/
  listeners : List Listener := []
  /-- Starts that wait for their bind. -/
  starting : Nat := 0
  /-- The listeners for which stops wait. -/
  stopping : List Nat := []
  /-- All sends that ever passed the check of the status, by number. -/
  sends : List Send := []

/-- What can be seen of a step from outside. -/
inductive Effect where
  | startReturned (result : Except Error Unit)
  | stopReturned
  | sendReturned (result : Except Error Unit)
  /-- A handler was called. -/
  | invoked (id : HandlerId) (source : Endpoint) (message : Message) (status : SessionStatus)
  /-- A handler removed another one, if that was there. -/
  | removed (found : Bool)
  /-- The error handler was called. -/
  | reported (fault : Fault) (reference : Option Octets) (status : SessionStatus)
  | sent (target : Endpoint) (data : Octets)

/-- What a send that goes out shows. -/
def Send.outcome (send : Send) : Except IoError Unit → List Effect
  | .ok () => [.sent send.target send.message.encode, .sendReturned (.ok ())]
  | .error e => [.sendReturned (.error (.io (some send.target) e))]

inductive Event where
  | start
  /-- The bind of a start has succeeded or failed. -/
  | bound (result : Except IoError Endpoint)
  | stop
  /-- A stop has seen the end of the listener that it waits for. -/
  | joined (listener : Nat)
  | send (target : Endpoint) (message : Message)
  /-- A checked send looks for the socket. -/
  | takeSocket (send : Nat)
  /-- A send that has the socket goes out, or fails. -/
  | transmit (send : Nat) (result : Except IoError Unit)
  | addHandler (handler : Handler)
  | removeHandler (id : HandlerId)
  | setErrorHandler (handler : ErrorHandler)
  | receive (listener : Nat) (source : Endpoint) (datagram : Octets)
  | receiveFailed (listener : Nat)
  | acknowledge (listener : Nat) (sent : Bool)
  | gather (listener : Nat)
  | invoke (listener : Nat)
  /-- An idle listener sees that it is cancelled. -/
  | notice (listener : Nat)

namespace Session

/-- Why no session can be made of some settings: the address is looked at before the size. -/
def configure (bindAddress : Option String) (maxMessageSize : Nat) : Except Error SessionConfig :=
  match bindAddress with
  | none => .error (.invalidArgument .missingBindAddress)
  | some text => match Endpoint.ofText? text with
    | none => .error (.invalidArgument (.invalidBindAddress text))
    | some endpoint =>
      if maxMessageSize = 0 then .error (.invalidArgument .zeroMessageSize)
      else .ok ⟨endpoint, maxMessageSize⟩

/-- The text used when a session is inspected. -/
def inspect (s : Session) : String :=
  s!"TrapSession \x7b bind_addr: {s.config.bindAddress.text}, status: {s.status.name} \x7d"

/-- The address of the bound socket. -/
def localAddress? (s : Session) : Option Endpoint := s.listener.map (·.2)

/-! ## Handlers -/

def addHandler (s : Session) (handler : Handler) : Session :=
  { s with handlers := s.handlers ++ [(s.nextId, handler)], nextId := s.nextId + 1 }

def removeHandler (s : Session) (id : HandlerId) : Session :=
  { s with handlers := s.handlers.filter (·.1 ≠ id) }

def hasHandler (s : Session) (id : HandlerId) : Bool := s.handlers.any (·.1 = id)

/-- Tells the error handler, if there is one. -/
def report (s : Session) (fault : Fault) (reference : Option Octets) : List Effect :=
  match s.errorHandler with
  | some _ => [.reported fault reference s.status]
  | none => []

/-- Calls one handler. -/
def invokeOne (s : Session) (source : Endpoint) (message : Message) (id : HandlerId)
    (handler : Handler) : Session × List Effect :=
  let called := [Effect.invoked id source message s.status]
  let (s, removed) := match handler.removes with
    | some id => (s.removeHandler id, [Effect.removed (s.hasHandler id)])
    | none => (s, [])
  let s := match handler.adds with
    | some added => s.addHandler added
    | none => s
  (s, called ++ removed ++ if handler.panics then s.report .exception none else [])

/-! ## Start, stop and send -/

def illegal (operation : String) (status : SessionStatus) : Error :=
  .illegalState operation status.text

/-- A start begins from a session that is not started or is stopped. -/
def start (s : Session) : Session × List Effect :=
  match s.status with
  | .startPending | .stopped => ({ s with status := .starting, starting := s.starting + 1 }, [])
  | status => (s, [.startReturned (.error (illegal "start" status))])

/-- What follows the bind. A stop may have come in between. -/
def bound (s : Session) (result : Except IoError Endpoint) : Session × List Effect :=
  if s.starting = 0 then (s, [])
  else
    let s := { s with starting := s.starting - 1 }
    match result with
    | .error e =>
      ({ s with status := .stopped }, [.startReturned (.error (.io (some s.config.bindAddress) e))])
    | .ok address =>
      if s.status = .stopPending then ({ s with status := .stopped }, [.startReturned (.ok ())])
      else
        ({ s with
          status := .running
          listener := some (s.listeners.length, address)
          listeners := s.listeners ++ [⟨false, .idle⟩] }, [.startReturned (.ok ())])

/-- A running session waits for its listener, which is cancelled in the same step; all other stops
return at once. -/
def stop (s : Session) : Session × List Effect :=
  match s.status with
  | .startPending => ({ s with status := .stopped }, [.stopReturned])
  | .starting => ({ s with status := .stopPending }, [.stopReturned])
  | .running => match s.listener with
    | some (i, _) =>
      ({ s with
        status := .stopPending
        listener := none
        listeners := s.listeners.modify i fun l => { l with cancelled := true }
        stopping := s.stopping ++ [i] }, [])
    | none => ({ s with status := .stopped }, [.stopReturned])
  | .stopPending | .stopped => (s, [.stopReturned])

def joined (s : Session) (i : Nat) : Session × List Effect :=
  if s.stopping.contains i && (s.listeners[i]?).any (·.isFinished) then
    ({ s with status := .stopped, stopping := s.stopping.erase i }, [.stopReturned])
  else (s, [])

/-- The check of the status before a send. -/
def send (s : Session) (target : Endpoint) (message : Message) : Session × List Effect :=
  if s.status = .running then ({ s with sends := s.sends ++ [{ target, message }] }, [])
  else (s, [.sendReturned (.error (illegal "send" s.status))])

def setSendPhase (s : Session) (n : Nat) (phase : SendPhase) : Session :=
  { s with sends := s.sends.modify n fun send => { send with phase := phase } }

/-- The socket may be gone since the check, or be that of a later start. -/
def takeSocket (s : Session) (n : Nat) : Session × List Effect :=
  match s.sends[n]? with
  | some ⟨_, _, .checked⟩ =>
    if s.listener.isSome then (s.setSendPhase n .equipped, [])
    else (s.setSendPhase n .returned, [.sendReturned (.error (illegal "send" .stopPending))])
  | _ => (s, [])

def transmit (s : Session) (n : Nat) (result : Except IoError Unit) : Session × List Effect :=
  match s.sends[n]? with
  | some send =>
    if send.phase = .equipped then (s.setSendPhase n .returned, send.outcome result) else (s, [])
  | none => (s, [])

/-! ## The listener -/

def setPhase (s : Session) (i : Nat) (phase : ListenerPhase) : Session :=
  { s with listeners := s.listeners.modify i fun l => { l with phase := phase } }

/-- The acknowledgement of an inform. -/
def acknowledgement (message : Message) (inform : Pdu) : Message :=
  { message with body := .pdu inform.toResponse }

/-- What a listener does next with a datagram. It keeps no more of it than fits its buffer. -/
def received (s : Session) (i : Nat) (source : Endpoint) (datagram : Octets) :
    Session × List Effect :=
  let data := datagram.take s.config.maxMessageSize
  match Message.decode data with
  | .error _ => (s, s.report .invalidPdu (some data))
  | .ok message => match message.body with
    | .pdu pdu =>
      if pdu.pduType = .informRequest then (s.setPhase i (.acknowledging source message pdu), [])
      else (s.setPhase i (.gathering source message), [])
    | .trapV1 _ => (s.setPhase i (.gathering source message), [])

def acknowledged (s : Session) (i : Nat) (source : Endpoint) (message : Message) (inform : Pdu)
    (sent : Bool) : Session × List Effect :=
  (s.setPhase i (.gathering source message),
    if sent then [.sent source (acknowledgement message inform).encode]
    else s.report .ioError none)

/-- The handlers of a message are those registered when its turn comes. -/
def invoked (s : Session) (i : Nat) (source : Endpoint) (message : Message) :
    List (HandlerId × Handler) → Session × List Effect
  | [] => (s.setPhase i .idle, [])
  | (id, handler) :: rest =>
    (s.setPhase i (.invoking source message rest)).invokeOne source message id handler

/-- What an event does to the listener that it names. -/
def stepListener (s : Session) (i : Nat) (l : Listener) (event : Event) : Session × List Effect :=
  match event, l.phase with
  | .receive _ source datagram, .idle =>
    if l.cancelled then (s, []) else s.received i source datagram
  | .receiveFailed _, .idle => if l.cancelled then (s, []) else (s, s.report .ioError none)
  | .acknowledge _ sent, .acknowledging source message inform =>
    s.acknowledged i source message inform sent
  | .gather _, .gathering source message =>
    (s.setPhase i (.invoking source message s.handlers), [])
  | .invoke _, .invoking source message handlers => s.invoked i source message handlers
  | .notice _, .idle => if l.cancelled then (s.setPhase i .finished, []) else (s, [])
  | _, _ => (s, [])

/-- A step of the listener with that number. -/
def withListener (s : Session) (i : Nat) (event : Event) : Session × List Effect :=
  match s.listeners[i]? with
  | some l => s.stepListener i l event
  | none => (s, [])

def step (s : Session) (event : Event) : Session × List Effect :=
  match event with
  | .start => s.start
  | .bound result => s.bound result
  | .stop => s.stop
  | .joined i => s.joined i
  | .send target message => s.send target message
  | .takeSocket n => s.takeSocket n
  | .transmit n result => s.transmit n result
  | .addHandler handler => (s.addHandler handler, [])
  | .removeHandler id => (s.removeHandler id, [])
  | .setErrorHandler handler => ({ s with errorHandler := some handler }, [])
  | .receive i .. | .receiveFailed i | .acknowledge i _ | .gather i | .invoke i | .notice i =>
    s.withListener i event

/-- All steps in order, with their effects. -/
def run (s : Session) : List Event → Session × List Effect
  | [] => (s, [])
  | event :: rest =>
    let (s, effects) := s.step event
    let (s, more) := s.run rest
    (s, effects ++ more)

/-- The steps that take a listener through one datagram. -/
def datagramEvents (i : Nat) (source : Endpoint) (datagram : Octets) (ackSent : Bool)
    (handlers : Nat) : List Event :=
  [.receive i source datagram, .acknowledge i ackSent, .gather i] ++
    List.replicate (handlers + 1) (.invoke i)

/-- A datagram from its arrival to the last handler. -/
def handle (s : Session) (i : Nat) (source : Endpoint) (datagram : Octets) (ackSent : Bool) :
    Session × List Effect :=
  s.run (datagramEvents i source datagram ackSent s.handlers.length)

end Session

end NetWatch.Trap
