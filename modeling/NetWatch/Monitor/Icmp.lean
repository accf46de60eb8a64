import NetWatch.Icmp.Service
import NetWatch.Monitor.Parameters
import NetWatch.Monitor.Status

/-!
# The ICMP check

A host is available when it answers one of the probes. The probes go through the shared service,
through a given one, or straight through a correlator.
-/

namespace NetWatch.Monitor.Icmp

open Net (IpAddress)
open Probing (Outcome Policy)

def defaultRetry : UInt32 := 2
/-- In milliseconds. -/
def defaultTimeout : Nat := 800

inductive Prober where
  | shared
  | service
  | correlator
  deriving DecidableEq

def Prober.name : Prober → String
  | .shared => "shared"
  | .service => "service"
  | .correlator => "correlator"

/-- The text used when a monitor is inspected. -/
def inspect (prober : Prober) (cancellable : Bool) : String :=
  s!"IcmpMonitor \x7b prober: \"{prober.name}\", cancellable: {cancellable} \x7d"

def policy (params : Parameters) : Policy :=
  ⟨params.retry defaultRetry, params.timeout defaultTimeout⟩

def verdict : Outcome → PollStatus
  | .answered _ => .available
  | .unanswered _ => .unavailable

/-- The result of a poll whose probe would end as given. -/
def check (target : IpAddress) (probe : Except Error Outcome) : Except Error PollStatus := do
  NetWatch.Icmp.Service.accept target
  verdict <$> probe

end NetWatch.Monitor.Icmp
