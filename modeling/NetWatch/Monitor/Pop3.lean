import NetWatch.Monitor.Attempt
import NetWatch.Monitor.Status
import NetWatch.Monitor.Parameters

/-!
# The POP3 check

A server is available when the first word of its greeting and of its answer to `QUIT` is `+OK`. A
refused connection or an unreachable host ends the check; every other failure leads to the next
attempt, as long as there is one.
-/

namespace NetWatch.Monitor.Pop3

open Net (IoError)

def defaultPort : UInt16 := 110
def defaultRetry : UInt32 := 0
/-- In milliseconds. -/
def defaultTimeout : Nat := 3000

/-- How long one attempt waits for a connection, and for each line, in milliseconds. It waits for
at least one. -/
def patience (params : Parameters) : Nat := params.timeout defaultTimeout + 1

def quit : String := "QUIT\r\n"

/-- Whether the first word of a line is `+OK`. -/
def isOk (line : List Char) : Bool := Text.firstWord line = "+OK".toList

/-- Greeting, `QUIT`, answer. A stream without any line is no answer at all. -/
def exchange (stream : LineStream) : Exchanged PollStatus :=
  match stream.readLine with
  | (.error e, _) => ⟨.error e, []⟩
  | (.ok none, _) => ⟨.ok .unresponsive, []⟩
  | (.ok (some banner), rest) =>
    if isOk banner then
      match rest.readLine with
      | (.error e, _) => ⟨.error e, [quit]⟩
      | (.ok answer, _) =>
        ⟨.ok (if isOk (answer.getD []) then .available else .unavailable), [quit]⟩
    else ⟨.ok .unavailable, []⟩

/-- What follows from one attempt: the verdict so far, and whether it is the last word. -/
def judge (status : PollStatus) : Except AttemptFailure PollStatus → PollStatus × Bool
  | .ok verdict => (verdict, verdict = .available)
  | .error e =>
    match e.source.fault with
    | .refused | .noRoute => (.unavailable, true)
    | .retryable => (if e.connected then .unresponsive else status, false)

/-- The verdict over the attempts, of which there is one more than retries, and how many were
made. -/
def poll [Monad m] (retries : UInt32) (outcome : Nat → m (Except AttemptFailure PollStatus)) :
    m (PollStatus × Nat) :=
  retry judge outcome (retries.toNat + 1) 0 .unavailable

/-- The verdict over outcomes that are known beforehand. -/
def check (retries : UInt32) (outcome : Nat → Except AttemptFailure PollStatus) : PollStatus :=
  (poll (m := Id) retries outcome).1

/-- How many connections `check` asks for. -/
def attempts (retries : UInt32) (outcome : Nat → Except AttemptFailure PollStatus) : Nat :=
  (poll (m := Id) retries outcome).2

end NetWatch.Monitor.Pop3
