import NetWatch.Monitor.Status
import NetWatch.Net.Address
import NetWatch.Report.Style
import NetWatch.Text.Json

/-!
# Reports of polls

One record for each poll, with the time it took in milliseconds.
-/

namespace NetWatch.Report

open Decimal (Binary64)
open Monitor (PollStatus)
open Text (Json)

structure PollRecord where
  protocol : String
  target : Net.IpAddress
  status : PollStatus
  elapsed : Binary64

/-- Nanoseconds in milliseconds: seconds and their fraction are added first, each operation rounded
on its own. -/
def elapsedMillis (nanos : Nat) : Binary64 :=
  let billion := 1000000000
  let seconds := (Binary64.ofNat (nanos / billion)).add
    ((Binary64.ofNat (nanos % billion)).div (.ofNat billion))
  seconds.mul (.ofNat 1000)

namespace PollRecord

def json (r : PollRecord) : Json :=
  .object [("protocol", .string r.protocol), ("target", .string r.target.text),
    ("status", .string r.status.name), ("elapsed_ms", .real r.elapsed)]

def text (r : PollRecord) : Style → String
  | .human =>
    s!"{r.protocol} {r.target.text}: {r.status.name} ({r.elapsed.toPlaces 1}ms)\n"
  | .json => r.json.pretty ++ "\n"
  | .raw => s!"{r.protocol}\t{r.target.text}\t{r.status.name}\n"

end PollRecord

end NetWatch.Report
