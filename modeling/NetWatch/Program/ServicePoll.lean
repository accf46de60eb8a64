import NetWatch.Monitor.Parameters
import NetWatch.Net.SystemError
import NetWatch.Program.OutputOptions
import NetWatch.Report.Poll

/-!
# Polling a service once

A program that polls one service of one host and reports the verdict. It ends with 0 if the service
is available, with 2 if it is not, and with 1 if there was no verdict.
-/

namespace NetWatch.Program

open Monitor (Parameters PollStatus Protocol)
open Net (IpAddress IoError)

structure ServicePoll where
  protocol : Protocol
  target : IpAddress
  params : Parameters
  output : OutputOptions

namespace ServicePoll

/-- One setting of the poll, or what is wrong with it in words. -/
def setting (s : String) : Except String (String × String) :=
  (Parameters.parseAssignment s).mapError Error.message

def grammar : Grammar where
  options := { key := "param", short := 'p', long := "param", arity := .many,
               accepts := fun s => (setting s).isOk } ::
    versionSpec :: OutputOptions.specs
  positions := [
    { key := "protocol", arity := .single, accepts := fun s => (Protocol.ofName? s).isSome },
    { key := "target", arity := .single, accepts := fun s => (IpAddress.ofText? s).isSome }]

def ofGiven? (g : Given) : Option ServicePoll := do
  let protocol ← Protocol.ofName? (← g.value? "protocol")
  let target ← IpAddress.ofText? (← g.value? "target")
  let settings ← ((g.values "param").mapM setting).toOption
  return ⟨protocol, target, .ofList settings, .ofGiven g⟩

def parse (args : List String) : Except UsageError ServicePoll := do
  let given ← grammar.parse args
  match ofGiven? given with
  | some poll => return poll
  | none => throw .invalidValue

/-- What the program leaves behind after a poll that took so many nanoseconds. Writing the report
may fail. -/
def outcome (p : ServicePoll) (result : Except Error PollStatus) (nanos : Nat)
    (writeError : Option IoError) : Outcome :=
  match result, writeError with
  | .error e, _ => .failure e.message
  | .ok _, some e => { exitCode := 1, stderr := s!"Error writing output: {e.message}\n" }
  | .ok status, none =>
    let record : Report.PollRecord := ⟨p.protocol.name, p.target, status, Report.elapsedMillis nanos⟩
    { exitCode := if status = .available then 0 else 2
      stdout := record.text p.output.report.style }

end ServicePoll

end NetWatch.Program
