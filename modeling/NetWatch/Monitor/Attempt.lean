import NetWatch.Monitor.LineStream

/-!
# Attempts

One attempt opens a connection and exchanges lines over it. It ends with what the exchange found,
or fails before or after it was connected. A check makes attempts until one has the last word or
none is left.
-/

namespace NetWatch.Monitor

open Net (IoError)

structure AttemptFailure where
  /-- Whether the connection stood when the attempt failed. -/
  connected : Bool
  source : IoError
  deriving DecidableEq

/-- An exchange over a stream: what it found, and the requests it sent. -/
structure Exchanged (α : Type) where
  result : Except IoError α
  sent : List String

/-- What became of a connection request. -/
inductive Connection where
  | failed (source : IoError)
  | opened (stream : LineStream)
  deriving DecidableEq

/-- An attempt over a connection. -/
def attempt (exchange : LineStream → Exchanged α) : Connection → Except AttemptFailure α
  | .failed source => .error ⟨false, source⟩
  | .opened stream => (exchange stream).result.mapError fun source => ⟨true, source⟩

/-- Makes up to `left` attempts from number `i` on. Each leads from one status to the next, and may
be the last. The answer is the status at the end, and how many attempts there were. -/
def retry [Monad m] (judge : β → Except AttemptFailure α → β × Bool)
    (outcome : Nat → m (Except AttemptFailure α)) : (left i : Nat) → β → m (β × Nat)
  | 0, i, status => return (status, i)
  | left + 1, i, status => do
    match judge status (← outcome i) with
    | (status, true) => return (status, i + 1)
    | (status, false) => retry judge outcome left (i + 1) status

end NetWatch.Monitor
