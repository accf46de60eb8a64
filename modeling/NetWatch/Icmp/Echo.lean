import NetWatch.Icmp.Checksum

/-!
# Echo packets

A packet has 40 octets: type, code, checksum, identifier and sequence number, then the key of the
probe, the time it was sent, a signature, and eight octets of padding. Only signed packets of code
zero are read.
-/

namespace NetWatch.Icmp

/-- The type octet of a request. -/
def echoRequest : UInt8 := 8
/-- The type octet of a reply. -/
def echoReply : UInt8 := 0
/-- `SvcPoll1`, which marks the packets of this program. -/
def signature : Octets := [0x53, 0x76, 0x63, 0x50, 0x6F, 0x6C, 0x6C, 0x31]

structure Echo where
  kind : UInt8
  /-- Whose packet it is. -/
  identifier : UInt16
  sequence : UInt16
  key : UInt64
  /-- In nanoseconds. -/
  sentAt : UInt64
  deriving DecidableEq

namespace Echo

/-- How many octets a packet has. -/
def size : Nat := 40

def request (identifier sequence : UInt16) (key sentAt : UInt64) : Echo :=
  ⟨echoRequest, identifier, sequence, key, sentAt⟩

/-- The octets behind the checksum. -/
def body (p : Echo) : Octets :=
  Octets.ofNat 2 p.identifier.toNat ++ Octets.ofNat 2 p.sequence.toNat ++
    Octets.ofNat 8 p.key.toNat ++ Octets.ofNat 8 p.sentAt.toNat ++ signature ++
    List.replicate 8 0

/-- The checksum is taken with zeros in its place. -/
def encode (p : Echo) : Octets :=
  let sum := checksum ([p.kind, 0, 0, 0] ++ p.body)
  [p.kind, 0] ++ Octets.ofNat 2 sum.toNat ++ p.body

/-- `count` octets from `start` on, as a number. -/
def slice (data : Octets) (start count : Nat) : Nat :=
  Octets.toNat ((data.drop start).take count)

/-- Reads a signed packet; more octets may follow it. -/
def decode? (data : Octets) : Option Echo :=
  match data with
  | kind :: code :: _ =>
    if data.length < size ∨ code ≠ 0 then none
    else if (data.drop 24).take 8 ≠ signature then none
    else if kind ≠ echoRequest ∧ kind ≠ echoReply then none
    else some {
      kind := kind
      identifier := UInt16.ofNat (slice data 4 2)
      sequence := UInt16.ofNat (slice data 6 2)
      key := UInt64.ofNat (slice data 8 8)
      sentAt := UInt64.ofNat (slice data 16 8) }
  | _ => none

end Echo

/-- The message behind an IPv4 header, if one is there. A header says its own length in words of
four octets, five of them at least; nothing is left of a packet that breaks this. -/
def stripIpHeader (data : Octets) : Octets :=
  match data with
  | [] => []
  | first :: _ =>
    if first.toNat / 16 = 4 then
      let length := first.toNat % 16 * 4
      if length < 20 then [] else data.drop length
    else data

end NetWatch.Icmp
