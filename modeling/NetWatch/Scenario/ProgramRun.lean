import NetWatch.Program.ServicePoll
import NetWatch.Program.TrapDaemon
import NetWatch.Scenario.IcmpRun
import NetWatch.Scenario.TcpRun
import NetWatch.Scenario.TrapRun

/-!
# Scripted runs of the programs

Whole runs over scripted peers, from the command line to what is left behind.
-/

namespace NetWatch.Scenario

open Net (IoError)
open Program

/-- Where the reports go. -/
inductive Sink where
  | open
  /-- There is no space left. -/
  | full
  deriving DecidableEq

def Sink.error? : Sink → Option IoError
  | .open => none
  | .full => some (.system 28)

structure PollRun where
  outcome : Except UsageError Outcome
  /-- What mail servers received. -/
  received : List String := []
  requests : List RequestView := []

/-- One poll from the command line. -/
def runPoll (args : List String) (peer : Net.IpAddress → TcpPeer) (icmp : IcmpRun) (sink : Sink) :
    PollRun :=
  match ServicePoll.parse args with
  | .error e => { outcome := .error e }
  | .ok p =>
    match pollTcp? p.protocol (peer p.target) p.target p.params with
    | some poll =>
      { outcome := .ok (p.outcome poll.result 0 sink.error?), received := poll.received }
    | none =>
      let (after, result) := icmp.pollShared p.target p.params
      { outcome := .ok (p.outcome result 0 sink.error?)
        requests := after.network.log.map (after.viewRequest true) }

structure DaemonRun where
  outcome : Except UsageError Outcome
  /-- How many acknowledgements the sender has received, if the program ever listened. -/
  acknowledgements : Option Nat := none

/-- All datagrams in order to a session that runs. -/
def feedDaemon (d : TrapDaemon) (sender : String) (r : TrapRun) (datagrams : List Octets) :
    String × Nat :=
  (datagrams.foldl (fun (r, text, acks) data =>
    let (r, effects, answer) := r.datagram data false false
    let acks := match answer with
      | .acknowledged (some _) => acks + 1
      | _ => acks
    (r, text ++ d.report (fun _ => sender) effects, acks)) (r, "", 0)).2

/-- Listens, takes all datagrams, and is interrupted. A report that cannot be written is dropped. -/
def runDaemon (args : List String) (sender : String) (datagrams : List Octets) (sink : Sink) :
    DaemonRun :=
  match TrapDaemon.parse args with
  | .error (.usage e) => { outcome := .error e }
  | .error (.failure message) => { outcome := .ok (.failure message) }
  | .ok d =>
    let (r, effects) := TrapRun.start { session := d.start }
    match TrapRun.returned effects with
    | .failed e => { outcome := .ok (.failure e.message) }
    | _ =>
      let (text, acks) := feedDaemon d sender r datagrams
      { outcome := .ok { exitCode := 0, stdout := if sink = .full then "" else text }
        acknowledgements := some acks }

end NetWatch.Scenario
