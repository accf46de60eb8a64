import NetWatch.Monitor.Imap
import NetWatch.Monitor.Pop3
import NetWatch.Scenario.Sockets

/-!
# Scripted mail servers

A peer that answers each connection from a script, and polls of it.
-/

namespace NetWatch.Scenario

open Monitor
open Net (IoError IpAddress)

inductive TcpPeer where
  /-- Every connection fails in one way. -/
  | failing (source : IoError)
  /-- The connections in order. Those behind the last one are like it, or fail. -/
  | listening (connections : List LineStream) (afterwards : Option IoError)

namespace TcpPeer

/-- What becomes of a connection, counted from zero. -/
def connect (p : TcpPeer) (n : Nat) : Connection :=
  match p with
  | failing source => .failed source
  | listening connections afterwards =>
    match connections[n]?, afterwards, connections.getLast? with
    | some stream, _, _ => .opened stream
    | none, some source, _ => .failed source
    | none, none, some stream => .opened stream
    | none, none, none => .failed .connectionRefused

/-- A host where nobody listens, or that no connection reaches. -/
def silent (target : IpAddress) : TcpPeer :=
  .failing ((unreachableHost? target).getD .connectionRefused)

end TcpPeer

structure TcpPoll where
  result : Except Error PollStatus
  /-- What each connection that was opened has received. -/
  received : List String

/-- The requests of one exchange, if there was a connection. -/
def requests (exchange : LineStream → Exchanged α) : Connection → Option String
  | .failed _ => none
  | .opened stream => some (String.join (exchange stream).sent)

/-- Runs a check against a peer. -/
def pollPop3 (peer : TcpPeer) (params : Parameters) : TcpPoll :=
  let retries := params.retry Pop3.defaultRetry
  let outcome n := attempt Pop3.exchange (peer.connect n)
  { result := .ok (Pop3.check retries outcome)
    received := (List.range (Pop3.attempts retries outcome)).filterMap fun n =>
      requests Pop3.exchange (peer.connect n) }

def pollImap (peer : TcpPeer) (target : IpAddress) (params : Parameters) : TcpPoll :=
  let retries := params.retry Imap.defaultRetry
  let outcome n := attempt Imap.exchange (peer.connect n)
  { result := Imap.check target retries outcome
    received := (List.range (Imap.attempts target retries outcome)).filterMap fun n =>
      requests Imap.exchange (peer.connect n) }

/-- A poll by a protocol over connections; there is none by ICMP. -/
def pollTcp? (protocol : Protocol) (peer : TcpPeer) (target : IpAddress) (params : Parameters) :
    Option TcpPoll :=
  match protocol with
  | .icmp => none
  | .pop3 => some (pollPop3 peer params)
  | .imap => some (pollImap peer target params)

end NetWatch.Scenario
