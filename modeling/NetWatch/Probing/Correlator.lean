import NetWatch.Error

/-!
# Correlating replies with probes

A correlator gives each probe a key, sends it, and waits for a reply that brings the key back from
the probed address. Many probes are under way at once, and a receiver routes replies to them. The
state here moves by small events, in any order in which the parts of the program may take their
turns: the two checks of a probe, its registration, each send and each look at its wait are events
of their own, and so are the two halves of a shutdown and of the receiver's end.

An event that is not due leaves the state alone.
-/

namespace NetWatch.Probing

open Net (IpAddress)

abbrev Key := UInt64

/-- How often to send again, and how long to wait each time, in milliseconds. -/
structure Policy where
  retries : UInt32
  timeout : Nat
  deriving DecidableEq

/-- How a probe ended that ran to its end. -/
inductive Outcome where
  | answered (attempts : UInt32)
  /-- Every attempt timed out, or a send failed. -/
  | unanswered (attempts : UInt32)
  deriving DecidableEq

def Outcome.isAnswered : Outcome → Bool
  | .answered _ => true
  | .unanswered _ => false

/-- What has come over the channel from the receiver to a probe. -/
inductive Signal where
  | silent
  | answered
  /-- Its sending end is gone. -/
  | closed
  deriving DecidableEq

/-- Where a probe stands. -/
inductive Phase where
  /-- Called, nothing checked yet. -/
  | called
  /-- Past the first check. -/
  | admitted
  /-- In the map, before the second check. -/
  | registered
  /-- About to send. -/
  | sending
  /-- After a send. -/
  | waiting
  | returned (result : Except Error Outcome)
  /-- Given up by its caller. -/
  | dropped

structure Probe where
  target : IpAddress
  policy : Policy
  phase : Phase := .called
  /-- Set by the registration. -/
  key : Key := 0
  /-- Sends attempted. -/
  attempts : UInt32 := 0
  signal : Signal := .silent
  /-- Whether the caller has asked to withdraw. -/
  cancelled : Bool := false

/-- Whether the probe has an entry in the map of its own. -/
def Probe.isRegistered (p : Probe) : Bool :=
  match p.phase with
  | .registered | .sending | .waiting => true
  | _ => false

/-- An entry of the map: whom the probe asks, and which probe to signal while it has not been. -/
structure Pending where
  target : IpAddress
  signals : Option Nat
  deriving DecidableEq

/-- The task that routes replies. -/
inductive Receiver where
  | running
  /-- It has closed the correlator and will clear the map. -/
  | leaving
  | gone
  deriving DecidableEq

structure Correlator where
  pending : List (Key × Pending) := []
  nextKey : Key
  closed : Bool := false
  receiver : Receiver := .running
  /-- Shutdown calls that wait for the receiver. -/
  stopping : Nat := 0
  /-- All probes ever called, by number. -/
  probes : List Probe := []

inductive Event where
  /-- A caller asks for a probe. -/
  | call (target : IpAddress) (policy : Policy)
  /-- The check before registration. -/
  | check (probe : Nat)
  | register (probe : Nat)
  /-- The check after registration. -/
  | recheck (probe : Nat)
  | send (probe : Nat) (sent : Bool)
  /-- The caller's wish to withdraw. -/
  | cancel (probe : Nat)
  /-- A look at the wait, with or without its time being up. -/
  | look (probe : Nat) (expired : Bool)
  | drop (probe : Nat)
  /-- A reply from the queue, with its key if it has one. -/
  | route (source : IpAddress) (key : Option Key)
  /-- The receiver ends, for whatever reason: it closes the correlator, … -/
  | leave
  /-- … and clears the map. -/
  | clear
  | shutdown
  /-- A shutdown returns once the receiver is gone. -/
  | shutdownEnd

/-- The probe that an event names. -/
def Event.probe? : Event → Option Nat
  | .check i | .register i | .recheck i | .send i _ | .cancel i | .look i _ | .drop i => some i
  | .call .. | .route .. | .leave | .clear | .shutdown | .shutdownEnd => none

namespace Correlator

/-- A correlator that has just started. -/
def start (firstKey : Key) : Correlator := { nextKey := firstKey }

def lookup (c : Correlator) (key : Key) : Option Pending :=
  (c.pending.find? (·.1 = key)).map (·.2)

def erase (c : Correlator) (key : Key) : Correlator :=
  { c with pending := c.pending.filter (·.1 ≠ key) }

def modifyProbe (c : Correlator) (i : Nat) (f : Probe → Probe) : Correlator :=
  { c with probes := c.probes.modify i f }

/-- The first key from `key` on that is not in the map, looking at no more than `fuel` keys. -/
def freeKey (pending : List (Key × Pending)) (key : Key) : (fuel : Nat) → Key
  | 0 => key
  | fuel + 1 => if pending.any (·.1 = key) then freeKey pending (key + 1) fuel else key

/-- Whether some key is not in the map. -/
def hasFreeKey (c : Correlator) : Bool := c.pending.length < UInt64.size

/-- Puts a new entry under the first free key at or behind the counter, wrapping around. -/
def insertFresh (c : Correlator) (target : IpAddress) (probe : Nat) : Key × Correlator :=
  let key := freeKey c.pending c.nextKey (c.pending.length + 1)
  (key, { c with
    pending := (key, ⟨target, some probe⟩) :: c.pending
    nextKey := c.nextKey + 1 })

/-- Delivers a signal to a probe that has had none. -/
def deliver (c : Correlator) (signal : Signal) (probe : Nat) : Correlator :=
  c.modifyProbe probe fun p => if p.signal = .silent then { p with signal := signal } else p

/-- Ends a probe that has an entry; the entry goes with it. -/
def finish (c : Correlator) (i : Nat) (p : Probe) (result : Except Error Outcome) : Correlator :=
  (c.erase p.key).modifyProbe i fun p => { p with phase := .returned result }

/-- What a probe sees when it looks at its wait: a withdrawal before a signal, a signal before the
time. -/
def looked (c : Correlator) (i : Nat) (p : Probe) (expired : Bool) : Correlator :=
  if p.cancelled then c.finish i p (.error (.cancelled (some p.target)))
  else match p.signal with
    | .answered => c.finish i p (.ok (.answered p.attempts))
    | .closed => c.finish i p (.error .shutDown)
    | .silent =>
      if expired then
        if p.attempts ≤ p.policy.retries then c.modifyProbe i fun p => { p with phase := .sending }
        else c.finish i p (.ok (.unanswered p.attempts))
      else c

/-- Takes the sending end out of the entry under the key. -/
def spend (c : Correlator) (key : Key) : Correlator :=
  { c with pending := c.pending.map fun entry =>
      if entry.1 = key then (key, { target := entry.2.target, signals := none }) else entry }

/-- Signals the probe under the key if the reply comes from its target; nothing else happens. -/
def routed (c : Correlator) (source : IpAddress) (key : Key) : Correlator :=
  match c.lookup key with
  | some ⟨target, some probe⟩ =>
    if target = source then (c.spend key).deliver .answered probe else c
  | _ => c

/-- Empties the map. Probes whose signal was still in it find their channel closed. -/
def cleared (c : Correlator) : Correlator :=
  (c.pending.filterMap (·.2.signals)).foldl (fun c probe => c.deliver .closed probe)
    { c with pending := [] }

/-- The check before registration. -/
def checked (c : Correlator) (i : Nat) : Correlator :=
  c.modifyProbe i fun p =>
    { p with phase := if c.closed then .returned (.error .shutDown) else .admitted }

/-- Gives the probe a key and an entry. -/
def registered (c : Correlator) (i : Nat) (p : Probe) : Correlator :=
  let (key, c) := c.insertFresh p.target i
  c.modifyProbe i fun p => { p with phase := .registered, key := key }

/-- The check after registration, for a correlator that was closed in between. -/
def rechecked (c : Correlator) (i : Nat) (p : Probe) : Correlator :=
  if c.closed then c.finish i p (.error .shutDown)
  else c.modifyProbe i fun p => { p with phase := .sending }

/-- One send. A send that fails ends the probe. -/
def afterSend (c : Correlator) (i : Nat) (p : Probe) (sent : Bool) : Correlator :=
  let attempts := p.attempts + 1
  let c := c.modifyProbe i fun p => { p with phase := .waiting, attempts := attempts }
  if sent then c else c.finish i p (.ok (.unanswered attempts))

/-- What an event does to the probe that it names. Only the event that is due in the probe's phase
has an effect. Where no key is free, the search for one does not end, and the probe stays where it
is. -/
def stepProbe (c : Correlator) (i : Nat) (p : Probe) : Event → Correlator
  | .check _ => match p.phase with
    | .called => c.checked i
    | _ => c
  | .register _ => match p.phase with
    | .admitted => if c.hasFreeKey then c.registered i p else c
    | _ => c
  | .recheck _ => match p.phase with
    | .registered => c.rechecked i p
    | _ => c
  | .send _ sent => match p.phase with
    | .sending => c.afterSend i p sent
    | _ => c
  | .look _ expired => match p.phase with
    | .waiting => c.looked i p expired
    | _ => c
  | .cancel _ => c.modifyProbe i fun p => { p with cancelled := true }
  | .drop _ => match p.phase with
    | .returned _ | .dropped => c
    | _ =>
      let c := if p.isRegistered then c.erase p.key else c
      c.modifyProbe i fun p => { p with phase := .dropped }
  | _ => c

/-- What an event does that names no probe. -/
def stepOwn (c : Correlator) : Event → Correlator
  | .call target policy => { c with probes := c.probes ++ [{ target := target, policy := policy }] }
  | .route source (some key) => if c.receiver = .running then c.routed source key else c
  | .leave => if c.receiver = .running then { c with receiver := .leaving, closed := true } else c
  | .clear => if c.receiver = .leaving then { c.cleared with receiver := .gone } else c
  | .shutdown => if c.closed then c else { c with closed := true, stopping := c.stopping + 1 }
  | .shutdownEnd =>
    if c.stopping > 0 ∧ c.receiver = .gone then { c.cleared with stopping := c.stopping - 1 } else c
  | _ => c

def step (c : Correlator) (event : Event) : Correlator :=
  match event.probe? with
  | none => c.stepOwn event
  | some i => match c.probes[i]? with
    | some p => c.stepProbe i p event
    | none => c

def run (c : Correlator) (events : List Event) : Correlator := events.foldl step c

/-- How many probes are in the map. -/
def pendingCount (c : Correlator) : Nat := c.pending.length

/-- The text used when a correlator is inspected. -/
def inspect (c : Correlator) : String :=
  s!"Correlator \x7b pending: {c.pendingCount}, closed: {c.closed} \x7d"

end Correlator

end NetWatch.Probing
