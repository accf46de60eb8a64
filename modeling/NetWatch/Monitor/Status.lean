/-!
# Verdicts

What a poll finds out about a service.
-/

namespace NetWatch.Monitor

inductive PollStatus where
  /-- The service answered as it should. -/
  | available
  /-- The service is down or answered wrongly. -/
  | unavailable
  /-- There was a connection, but no answer. -/
  | unresponsive
  deriving DecidableEq

namespace PollStatus

def all : List PollStatus := [available, unavailable, unresponsive]

def name : PollStatus → String
  | available => "AVAILABLE"
  | unavailable => "UNAVAILABLE"
  | unresponsive => "UNRESPONSIVE"

end PollStatus

/-- The services that can be polled. -/
inductive Protocol where
  | icmp
  | pop3
  | imap
  deriving DecidableEq

namespace Protocol

def all : List Protocol := [icmp, pop3, imap]

def name : Protocol → String
  | icmp => "ICMP"
  | pop3 => "POP3"
  | imap => "IMAP"

/-- An ASCII letter in upper case; other characters as they are. -/
def upper (c : Char) : Char :=
  if 'a' ≤ c ∧ c ≤ 'z' then Char.ofNat (c.toNat - 32) else c

/-- Finds a protocol by its name in ASCII letters of either case. -/
def ofName? (s : String) : Option Protocol :=
  all.find? fun p => p.name.toList = s.toList.map upper

end Protocol

end NetWatch.Monitor
