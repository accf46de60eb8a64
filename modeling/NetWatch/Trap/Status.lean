/-!
# Session status and faults

Where a session is between its start and its stop, and what its error handler is told about.
-/

namespace NetWatch.Trap

inductive SessionStatus where
  | startPending
  | starting
  | running
  | stopPending
  | stopped
  deriving DecidableEq

namespace SessionStatus

def all : List SessionStatus := [startPending, starting, running, stopPending, stopped]

def text : SessionStatus → String
  | startPending => "start pending"
  | starting => "starting"
  | running => "running"
  | stopPending => "stop pending"
  | stopped => "stopped"

/-- The name used when a session is inspected. -/
def name : SessionStatus → String
  | startPending => "StartPending"
  | starting => "Starting"
  | running => "Running"
  | stopPending => "StopPending"
  | stopped => "Stopped"

end SessionStatus

/-- What went wrong while a session was running. -/
inductive Fault where
  | interrupted
  | ioError
  /-- A handler panicked. -/
  | exception
  | invalidPdu
  deriving DecidableEq

namespace Fault

def all : List Fault := [interrupted, ioError, exception, invalidPdu]

def code : Fault → Int
  | interrupted => -1
  | ioError => -2
  | exception => -3
  | invalidPdu => -4

def text (f : Fault) : String :=
  let name := match f with
    | interrupted => "interrupted"
    | ioError => "I/O error"
    | exception => "handler panicked"
    | invalidPdu => "invalid PDU"
  s!"{name} ({f.code})"

end Fault

end NetWatch.Trap
