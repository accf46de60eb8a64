import NetWatch.Scenario.World
import NetWatch.Monitor.Icmp

/-!
# A scripted correlator

A correlator over a network that answers every probe from one address or from none, and steps that
exercise it. All tasks run after each step, except after the steps of a batch.
-/

namespace NetWatch.Scenario

open Net (IpAddress)
open Probing

/-- What the network does with probes, and those it has had. -/
structure Script where
  answerFrom : Option IpAddress := none
  failSends : Bool := false
  log : List (IpAddress × Key) := []

/-- A probe is recorded whether or not its send fails. -/
def Script.post (s : Script) (target : IpAddress) (key : Key) : Script × Sent :=
  let s := { s with log := s.log ++ [(target, key)] }
  if s.failSends then (s, .failed)
  else (s, .delivered (s.answerFrom.map (·, some key)).toList)

/-- The key in a payload of the scripted network: eight octets and no more. -/
def scriptedKey? (payload : Octets) : Option Key :=
  if payload.length = 8 then some (UInt64.ofNat payload.toNat) else none

/-- Whether a probe can be cancelled, and whether it is so from the start. -/
inductive Cancellation where
  | never
  | possible
  | already
  deriving DecidableEq

/-- What stands in an injected reply. -/
inductive Payload where
  /-- A key, counted from the first one that was sent. -/
  | key (offset : Int)
  | octets (data : Octets)

inductive CorrelationStep where
  | probe (name : String) (target : IpAddress) (policy : Policy) (cancellation : Cancellation)
  | reply (source : IpAddress) (payload : Payload)
  | advance (ms : Nat)
  | cancel (name : String)
  | drop (name : String)
  | transport (answerFrom : Option IpAddress) (failSends : Bool)
  | closeQueue
  | shutdown

/-- What can be seen after a step. -/
structure CorrelationView where
  pending : Nat
  closed : Bool
  /-- The probes sent since the last view, with their keys counted from the first one. -/
  sent : List (IpAddress × Int)
  /-- The probes that ended since then. -/
  done : List (String × Except Error Outcome)
  /-- Whether the step's reply was taken into the queue. -/
  queued : Option Bool

structure CorrelationRun where
  world : World Script
  /-- The named probes with their numbers. -/
  names : List (String × Nat) := []
  /-- Those of them that can be cancelled. -/
  cancellable : List Nat := []
  /-- How many sends, and which ends, have been seen. -/
  seenSends : Nat := 0
  seenEnds : List Nat := []
  queued : Option Bool := none

namespace CorrelationRun

/-- An arbitrary first key. Only differences of keys are ever shown. -/
def firstKey : Key := 0x5B0F3D2E71C49A86

def start (script : Script) (capacity : Option Nat) : CorrelationRun where
  world := {
    correlator := .start firstKey, network := script, post := Script.post, capacity := capacity }

/-- The number of the last probe of that name. -/
def number? (r : CorrelationRun) (name : String) : Option Nat :=
  (r.names.reverse.find? (·.1 = name)).map (·.2)

def base? (r : CorrelationRun) : Option Key := r.world.network.log.head?.map (·.2)

def keyOf (r : CorrelationRun) : Payload → Option Key
  | .octets data => scriptedKey? data
  | .key offset => some ((r.base?.getD 0) + UInt64.ofInt offset)

def apply (r : CorrelationRun) : CorrelationStep → CorrelationRun
  | .probe name target policy cancellation =>
    let (w, i) := r.world.call target policy
    { r with
      world := if cancellation = .already then w.cancel i else w
      names := r.names ++ [(name, i)]
      cancellable := if cancellation = .never then r.cancellable else i :: r.cancellable }
  | .reply source payload =>
    let (w, queued) := r.world.offer (source, r.keyOf payload)
    { r with world := w, queued := some queued }
  | .advance ms => { r with world := r.world.advance ms }
  | .cancel name => match r.number? name with
    | some i => if r.cancellable.contains i then { r with world := r.world.cancel i } else r
    | none => r
  | .drop name => match r.number? name with
    | some i => { r with world := r.world.drop i }
    | none => r
  | .transport answerFrom failSends =>
    let script := r.world.network
    { r with world := { r.world with network := { script with answerFrom, failSends } } }
  | .closeQueue => { r with world := r.world.closeQueue }
  | .shutdown => { r with world := r.world.wake .shutdown }

/-- The probes that have ended, by name. -/
def ended (r : CorrelationRun) : List (Nat × String × Except Error Outcome) :=
  r.names.filterMap fun (name, i) => (r.world.result? i).map fun result => (i, name, result)

def view (r : CorrelationRun) : CorrelationView :=
  let base := r.base?.getD 0
  { pending := r.world.correlator.pendingCount
    closed := r.world.correlator.closed
    sent := (r.world.network.log.drop r.seenSends).map fun (target, key) =>
      (target, (key - base).toInt64.toInt)
    done := (r.ended.filter fun e => !r.seenEnds.contains e.1).map (·.2)
    queued := r.queued }

/-- One step, and what is seen after it unless the next one belongs to the same batch. -/
def step (r : CorrelationRun) (batch : Bool) (s : CorrelationStep) :
    CorrelationRun × Option CorrelationView :=
  let r := { r with queued := none }.apply s
  if batch then (r, none)
  else
    let r := { r with world := r.world.settle }
    ({ r with seenSends := r.world.network.log.length, seenEnds := r.ended.map (·.1) }, some r.view)

/-- All steps in order: the last state, and the views. -/
def steps (r : CorrelationRun) (ss : List (Bool × CorrelationStep)) :
    CorrelationRun × List CorrelationView :=
  ss.foldl (fun (r, views) (batch, s) =>
    let (r, view) := r.step batch s
    (r, views ++ view.toList)) (r, [])

end CorrelationRun

/-! ## The ICMP check over the same network -/

structure ScriptedPoll where
  result : Except Error Monitor.PollStatus
  sent : List (IpAddress × Int)
  pending : Nat
  /-- In milliseconds. -/
  elapsed : Nat

/-- Runs to the end of the probe, but no further than to the time of its cancellation. -/
def runUntil (i : Nat) (cancelAt : Option Nat) : (fuel : Nat) → World Script → World Script
  | 0, w => w
  | fuel + 1, w =>
    if (w.result? i).isSome then w
    else match w.nextDeadline?, cancelAt with
      | none, none => w
      | none, some t => ((w.moveTo t).cancel i).settle
      | some d, none => runUntil i cancelAt fuel (w.moveTo d)
      | some d, some t =>
        if d ≤ t then
          let w := w.moveTo d
          if d = t then (w.cancel i).settle else runUntil i cancelAt fuel w
        else ((w.moveTo t).cancel i).settle

/-- Polls a host, after a shutdown of the correlator if that is asked for. -/
def scriptedPoll (script : Script) (target : IpAddress) (params : Monitor.Parameters)
    (shutDown : Bool) (cancelAfter : Option Nat) : ScriptedPoll :=
  let w := (CorrelationRun.start script none).world
  let w := if shutDown then (w.wake .shutdown).settle else w
  let policy := Monitor.Icmp.policy params
  let (w, i) := if target.isV6 then (w, 0) else w.call target policy
  let w := runUntil i cancelAfter (policy.retries.toNat + 3) w.settle
  let base := (w.network.log.head?.map (·.2)).getD 0
  { result := Monitor.Icmp.check target ((w.result? i).getD (.error .shutDown))
    sent := w.network.log.map fun (target, key) => (target, (key - base).toInt64.toInt)
    pending := w.correlator.pendingCount
    elapsed := w.clock }

end NetWatch.Scenario
