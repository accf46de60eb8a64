import NetWatch.Octets

/-!
# The Internet checksum

The complement of the sum of all 16-bit words, with carries added back in. An odd last octet is
the high half of its word.
-/

namespace NetWatch.Icmp

/-- The sum of the big-endian 16-bit words. -/
def wordSum : Octets → Nat
  | [] => 0
  | [last] => last.toNat * 256
  | high :: low :: rest => high.toNat * 256 + low.toNat + wordSum rest

/-- Adds the carries back in until the sum fits 16 bits. -/
def fold (sum : Nat) : Nat :=
  if sum > 0xFFFF then fold (sum % 0x10000 + sum / 0x10000) else sum
termination_by sum
decreasing_by omega

/-- The accumulator has 32 bits. Up to 131074 octets the sum fits it. -/
def checksum (data : Octets) : UInt16 :=
  UInt16.ofNat (0xFFFF - fold (wordSum data % UInt32.size))

end NetWatch.Icmp
