import NetWatch.Program.OutputOptions
import NetWatch.Report.Trap
import NetWatch.Trap.Session

/-!
# Receiving notifications

A program that listens for notifications and prints those whose name is at or below one of its
filters, or all of them if it has none.
-/

namespace NetWatch.Program

open Report (TrapRecord)
open Snmp (Message PduBody Version)
open Trap

structure TrapDaemon where
  session : SessionConfig
  filters : List Oid
  output : OutputOptions

/-- Why the program ends before it listens. -/
inductive TrapDaemonRefusal where
  | usage (error : UsageError)
  | failure (message : String)

namespace TrapDaemon

/-- Numbers that the machine can count to. -/
def isSize (s : String) : Bool := (Text.natural? UInt64.size s.toList).isSome

def grammar : Grammar where
  options := [
    { key := "bind", short := 'b', long := "bind", arity := .single },
    { key := "max-message-size", long := "max-message-size", arity := .single, accepts := isSize },
    { key := "recv-buffer-size", long := "recv-buffer-size", arity := .single, accepts := isSize },
    { key := "trap-oid", short := 't', long := "trap-oid", arity := .many },
    versionSpec] ++ OutputOptions.specs

def defaultBind : String := "0.0.0.0:162"

/-- Reads a command line. The filters are looked at before the settings of the session. -/
def parse (args : List String) : Except TrapDaemonRefusal TrapDaemon := do
  let given ← (grammar.parse args).mapError .usage
  let filters ← ((given.values "trap-oid").mapM Report.Names.parse).mapError (.failure ·.message)
  let size := ((given.value? "max-message-size").bind fun s =>
    Text.natural? UInt64.size s.toList).getD defaultMaxMessageSize
  let session ← (Session.configure ((given.value? "bind").getD defaultBind) size).mapError
    (.failure ·.message)
  return ⟨session, filters, .ofGiven given⟩

/-- Whether a message is to be printed. -/
def isWanted (filters : List Oid) (body : PduBody) : Bool :=
  filters.isEmpty || body.trapOid?.any fun oid => filters.any oid.startsWith

/-- The version is told from the body alone. -/
def shownVersion : PduBody → Version
  | .trapV1 _ => .v1
  | .pdu _ => .v2c

/-- What is printed for a message. -/
def printed (d : TrapDaemon) (source : String) (message : Message) : String :=
  if isWanted d.filters message.body then
    (TrapRecord.ofMessage d.output.report source (shownVersion message.body) message.community
      message.body).text d.output.report.style
  else ""

/-- A session with one handler, which prints. -/
def start (d : TrapDaemon) : Session :=
  { config := d.session, errorHandler := some {} : Session }.addHandler (.mk none none false)

/-- What is printed while the session takes some steps. -/
def report (d : TrapDaemon) (sourceText : Net.Endpoint → String) (effects : List Effect) :
    String :=
  String.join (effects.map fun
    | .invoked _ source message _ => d.printed (sourceText source) message
    | _ => "")

end TrapDaemon

end NetWatch.Program
