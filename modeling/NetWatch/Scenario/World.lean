import NetWatch.Probing.Correlator

/-!
# A correlator at work

A world runs a correlator over a network of any kind, with a queue of replies and a clock that
moves only when it is told to. The tasks that are ready take their turns in the order in which they
became ready: a probe goes on until it has to wait, the receiver routes all that is in the queue.
-/

namespace NetWatch.Scenario

open Net (IpAddress)
open Probing

/-- A reply in the queue: where it comes from, and its key if it has one. -/
abbrev Reply := IpAddress × Option Key

/-- The sum of all. -/
def total (ns : List Nat) : Nat := ns.foldr (· + ·) 0

/-- What became of a send. -/
inductive Sent where
  | failed
  /-- Sent, with the replies that follow at once. -/
  | delivered (replies : List Reply)

inductive Task where
  | receiver
  | probe (i : Nat)
  | shutdown
  /-- A shutdown whose receiver is gone. -/
  | shutdownEnd
  deriving DecidableEq

structure World (Network : Type) where
  correlator : Correlator
  network : Network
  /-- How the network takes a probe. -/
  post : Network → IpAddress → Key → Network × Sent
  /-- How many replies the queue holds, if there is a limit. -/
  capacity : Option Nat := none
  queue : List Reply := []
  /-- Whether anyone can still put a reply into the queue. -/
  queueOpen : Bool := true
  /-- Probes whose replies wait for room in the queue. -/
  parked : List (Nat × List Reply) := []
  /-- Probes whose replies have room set aside for them. -/
  granted : List (Nat × List Reply) := []
  /-- In milliseconds. -/
  clock : Nat := 0
  /-- Waiting probes and when their wait is over, in the order in which they began to wait. -/
  deadlines : List (Nat × Nat) := []
  ready : List Task := []

namespace World

variable {Network : Type}

def event (w : World Network) (e : Event) : World Network :=
  { w with correlator := w.correlator.step e }

def wake (w : World Network) (t : Task) : World Network :=
  if w.ready.contains t then w else { w with ready := w.ready ++ [t] }

def wakeProbes (w : World Network) (is : List Nat) : World Network :=
  is.foldl (fun w i => w.wake (.probe i)) w

def phase? (w : World Network) (i : Nat) : Option Phase :=
  w.correlator.probes[i]?.map fun p => p.phase

/-- Whether the probe waits for a reply. -/
def waits (w : World Network) (i : Nat) : Bool :=
  match w.phase? i with
  | some .waiting => true
  | _ => false

/-- Wakes the waiting probes that have a signal. -/
def wakeSignalled (w : World Network) : World Network :=
  w.wakeProbes ((List.range w.correlator.probes.length).filter fun i =>
    w.waits i && w.correlator.probes[i]?.any fun p => p.signal ≠ .silent)

/-- Whether so many more replies fit into the queue. -/
def hasRoom (w : World Network) (count : Nat) : Bool :=
  let taken := w.queue.length + total (w.granted.map (·.2.length))
  w.capacity.all (taken + count ≤ ·)

/-- Whether replies can still reach the receiver. -/
def listens (w : World Network) : Bool := w.queueOpen && w.correlator.receiver = .running

/-- Puts replies at the end of the queue. -/
def push (w : World Network) (replies : List Reply) : World Network :=
  if w.listens then { w with queue := w.queue ++ replies }.wake .receiver else w

/-- Offers a reply without waiting. The answer says whether it was taken. -/
def offer (w : World Network) (reply : Reply) : World Network × Bool :=
  if w.listens && w.hasRoom 1 then (w.push [reply], true) else (w, false)

/-- Sets room aside for the first of those that wait for it. -/
def grant (w : World Network) : World Network :=
  match w.parked with
  | (i, replies) :: rest =>
    if w.hasRoom replies.length then
      { w with parked := rest, granted := w.granted ++ [(i, replies)] }.wake (.probe i)
    else w
  | [] => w

/-- The receiver ends, and whoever waits for it or its queue goes on. -/
def receiverEnd (w : World Network) : World Network :=
  let w := (w.event .leave).event .clear
  let parked := w.parked
  let w := { w with queue := [], parked := [], granted := w.granted ++ parked }
  let w : World Network := (w.wakeProbes (parked.map (·.1))).wakeSignalled
  if 0 < w.correlator.stopping then w.wake .shutdownEnd else w

/-- Takes the next reply out of the queue and routes it. -/
def routeOne (w : World Network) (reply : Reply) : World Network :=
  let w := { w with queue := w.queue.drop 1 }.grant
  (w.event (.route reply.1 reply.2)).wakeSignalled

/-- The receiver stops if it was asked to, and else empties the queue. -/
def receiverTurn (w : World Network) : World Network :=
  if w.correlator.receiver ≠ .running then w
  else if w.correlator.closed then w.receiverEnd
  else
    let w := w.queue.foldl routeOne w
    if w.queueOpen then w else w.receiverEnd

/-- A send that went out: the wait begins. -/
def afterSend (w : World Network) (i : Nat) (p : Probe) : World Network :=
  let w := w.event (.send i true)
  { w with deadlines := w.deadlines.filter (·.1 ≠ i) ++ [(i, w.clock + p.policy.timeout)] }

/-- A probe that is about to send. The answer says whether it can go on. -/
def sendTurn (w : World Network) (i : Nat) (p : Probe) : World Network × Bool :=
  if w.parked.any (·.1 = i) then (w, false)
  else match w.granted.find? (·.1 = i) with
    | some (_, replies) =>
      let w := { w with granted := w.granted.filter (·.1 ≠ i) }
      ((w.push replies).afterSend i p, true)
    | none =>
      let (network, sent) := w.post w.network p.target p.key
      let w := { w with network := network }
      match sent with
      | .failed => (w.event (.send i false), true)
      | .delivered replies =>
        if replies.isEmpty || !w.listens then (w.afterSend i p, true)
        else if w.hasRoom replies.length then ((w.push replies).afterSend i p, true)
        else ({ w with parked := w.parked ++ [(i, replies)] }, false)

/-- Whether the wait of a probe is over. -/
def expired (w : World Network) (i : Nat) : Bool :=
  w.deadlines.any fun d => d.1 = i && d.2 ≤ w.clock

/-- A probe goes on until it has to wait. -/
def probeTurn (i : Nat) : (fuel : Nat) → World Network → World Network
  | 0, w => w
  | fuel + 1, w => match w.correlator.probes[i]? with
    | none => w
    | some p => match p.phase with
      | .called => probeTurn i fuel (w.event (.check i))
      | .admitted => probeTurn i fuel (w.event (.register i))
      | .registered => probeTurn i fuel (w.event (.recheck i))
      | .sending => match w.sendTurn i p with
        | (w, true) => probeTurn i fuel w
        | (w, false) => w
      | .waiting =>
        let w := w.event (.look i (w.expired i))
        if w.waits i then w else probeTurn i fuel w
      | .returned _ | .dropped => { w with deadlines := w.deadlines.filter (·.1 ≠ i) }

/-- More steps than a probe takes in one turn. -/
def probeFuel (p : Probe) : Nat := 2 * p.policy.retries.toNat + 8

def turn (w : World Network) : Task → World Network
  | .receiver => w.receiverTurn
  | .probe i => match w.correlator.probes[i]? with
    | some p => probeTurn i (probeFuel p) w
    | none => w
  | .shutdown =>
    if w.correlator.closed then w
    else
      let w := w.event .shutdown
      if w.correlator.receiver = .gone then w.wake .shutdownEnd else w.wake .receiver
  | .shutdownEnd => w.event .shutdownEnd

def runReady : (fuel : Nat) → World Network → World Network
  | 0, w => w
  | fuel + 1, w => match w.ready with
    | [] => w
    | t :: rest => runReady fuel ({ w with ready := rest }.turn t)

/-- Runs until no task is ready. Every send readies two tasks at most. -/
def settle (w : World Network) : World Network :=
  w.runReady (total (w.correlator.probes.map probeFuel) + w.ready.length + 8)

/-- Starts a probe; its number is the answer. -/
def call (w : World Network) (target : IpAddress) (policy : Policy) : World Network × Nat :=
  let i := w.correlator.probes.length
  ((w.event (.call target policy)).wake (.probe i), i)

/-- The caller of a probe wants no answer any more. -/
def cancel (w : World Network) (i : Nat) : World Network :=
  let w := w.event (.cancel i)
  if w.waits i then w.wake (.probe i) else w

def drop (w : World Network) (i : Nat) : World Network :=
  let w := w.event (.drop i)
  { w with
    deadlines := w.deadlines.filter (·.1 ≠ i)
    parked := w.parked.filter (·.1 ≠ i)
    granted := w.granted.filter (·.1 ≠ i)
    ready := w.ready.filter (· ≠ Task.probe i) }.grant

/-- Nobody puts replies into the queue any more. -/
def closeQueue (w : World Network) : World Network :=
  { w with queueOpen := false }.wake .receiver

/-- Moves the clock and runs all whose time has come. -/
def moveTo (w : World Network) (time : Nat) : World Network :=
  let w := { w with clock := time }
  (w.wakeProbes ((w.deadlines.filter (·.2 ≤ time)).map (·.1))).settle

/-- Lets time pass, one millisecond after the other. -/
def advance : (ms : Nat) → World Network → World Network
  | 0, w => w
  | ms + 1, w => advance ms (w.moveTo (w.clock + 1))

/-- When the next wait is over. -/
def nextDeadline? (w : World Network) : Option Nat := (w.deadlines.map (·.2)).min?

/-- Jumps from one deadline to the next until no probe waits. -/
def runOut : (fuel : Nat) → World Network → World Network
  | 0, w => w
  | fuel + 1, w => match w.nextDeadline? with
    | none => w
    | some time => runOut fuel (w.moveTo time)

/-- Runs all probes to their ends. Each attempt has one deadline. -/
def finish (w : World Network) : World Network :=
  let w := w.settle
  w.runOut (total (w.correlator.probes.map fun p => p.policy.retries.toNat + 1) + 1)

/-- How a probe ended, if it did. -/
def result? (w : World Network) (i : Nat) : Option (Except Error Outcome) :=
  match w.phase? i with
  | some (.returned result) => some result
  | _ => none

end World

end NetWatch.Scenario
