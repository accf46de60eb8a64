import NetWatch.Error
import NetWatch.Monitor.Attempt
import NetWatch.Monitor.Status
import NetWatch.Monitor.Parameters

/-!
# The IMAP check

A server is available when it greets with `* OK `, answers the logout with `* BYE ` and then
confirms it under the tag of the request. An unreachable host is an error, a refused connection a
verdict, and all else leads to the next attempt.
-/

namespace NetWatch.Monitor.Imap

open Net (IoError IpAddress)

def defaultPort : UInt16 := 143
def defaultRetry : UInt32 := 0
/-- In milliseconds. -/
def defaultTimeout : Nat := 5000

/-- How long one attempt waits for a connection, and for each line, in milliseconds. A timeout of
zero means without limit. -/
def patience? (params : Parameters) : Option Nat :=
  some (params.timeout defaultTimeout) |>.filter (· ≠ 0)

/-- The tag of the request. -/
def requestTag : String := "SVCPOLL"

def logout : String := requestTag ++ " LOGOUT\r\n"

/-- Whether there is a line and it begins with `front`. -/
def startsWith (front : String) (line : Option (List Char)) : Bool :=
  line.any fun cs => front.toList.isPrefixOf cs

/-- Greeting, logout, farewell, confirmation. The answer says whether all came. -/
def exchange (stream : LineStream) : Exchanged Bool :=
  match stream.readLine with
  | (.error e, _) => ⟨.error e, []⟩
  | (.ok greeting, rest) =>
    if startsWith "* OK " greeting then
      match rest.readLine with
      | (.error e, _) => ⟨.error e, [logout]⟩
      | (.ok farewell, rest) =>
        if startsWith "* BYE " farewell then
          match rest.readLine with
          | (.error e, _) => ⟨.error e, [logout]⟩
          | (.ok tagged, _) => ⟨.ok (startsWith (requestTag ++ " OK ") tagged), [logout]⟩
        else ⟨.ok false, [logout]⟩
    else ⟨.ok false, []⟩

/-- What one attempt decides, if it decides anything. -/
def judge (target : IpAddress) : Except AttemptFailure Bool → Option (Except Error PollStatus)
  | .ok true => some (.ok .available)
  | .ok false => none
  | .error e =>
    match e.source.fault with
    | .refused => some (.ok .unavailable)
    | .noRoute => some (.error (.noRouteToHost target))
    | .retryable => none

/-- What follows from one attempt: the result so far, and whether it is the last word. -/
def follow (target : IpAddress) (result : Except Error PollStatus)
    (outcome : Except AttemptFailure Bool) : Except Error PollStatus × Bool :=
  match judge target outcome with
  | some result => (result, true)
  | none => (result, false)

/-- The result over the attempts, of which there is one more than retries, and how many were
made. -/
def poll [Monad m] (target : IpAddress) (retries : UInt32)
    (outcome : Nat → m (Except AttemptFailure Bool)) : m (Except Error PollStatus × Nat) :=
  retry (follow target) outcome (retries.toNat + 1) 0 (.ok .unavailable)

/-- The result over outcomes that are known beforehand. -/
def check (target : IpAddress) (retries : UInt32) (outcome : Nat → Except AttemptFailure Bool) :
    Except Error PollStatus :=
  (poll (m := Id) target retries outcome).1

/-- How many connections `check` asks for. -/
def attempts (target : IpAddress) (retries : UInt32)
    (outcome : Nat → Except AttemptFailure Bool) : Nat :=
  (poll (m := Id) target retries outcome).2

end NetWatch.Monitor.Imap
