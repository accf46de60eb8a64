import NetWatch.Smi.Wire

/-!
# Series of pushes

A push as data. `apply` runs a series on a builder; `forward` gives the octets of one push as they
would be written from the front, without a builder.
-/

namespace NetWatch.Smi

open NetWatch.Ber

/-- The content octets of a value. -/
def Value.content : Value → Octets
  | .int32 n => Integer.content n.toInt
  | .unsigned32 n | .counter32 n | .timeTicks n => Integer.content n.toNat
  | .counter64 n => Integer.content n.toNat
  | .octetString data | .opaqueData data => data
  | .ipAddress ip => ip.octets
  | .objectId o => o.content
  | .null | .noSuchObject | .noSuchInstance | .endOfMibView => []

/-- One push. Those of a builder that bring a tag of their own, such as `Builder.pushSequence`, are
these with that tag. -/
inductive Push where
  | bytes (data : Octets)
  | length (len : Nat)
  | tag (tag : Tag)
  | integer (tag : Tag) (n : Int32)
  | unsigned32 (tag : Tag) (n : UInt32)
  | unsigned64 (tag : Tag) (n : UInt64)
  | string (tag : Tag) (data : Octets)
  | empty (tag : Tag)
  | oid (oid : Oid)
  | ipAddress (ip : Net.Ipv4)
  | value (v : Value)
  | constructed (tag : Tag) (body : List Push)

namespace Push

mutual

/-- Runs one push. -/
def apply (p : Push) (b : Builder) : Builder :=
  match p with
  | bytes data => b.push data
  | length len => b.pushLength len
  | tag t => b.pushTag t
  | integer t n => b.pushIntegerTagged t n
  | unsigned32 t n => b.pushUnsigned32 t n
  | unsigned64 t n => b.pushUnsigned64 t n
  | string t data => b.pushString t data
  | empty t => b.pushEmpty t
  | oid o => b.pushOid o
  | ipAddress ip => b.pushIpAddress ip
  | value v => v.push b
  | constructed t body => b.pushConstructed t (applyAll body)

/-- Runs pushes in order. -/
def applyAll (ps : List Push) (b : Builder) : Builder :=
  match ps with
  | [] => b
  | p :: rest => applyAll rest (apply p b)

end

/-- The encoding of a value from its front. -/
def forwardValue (v : Value) : Octets := encodeElement v.tag v.content

mutual

/-- The octets of one push, written from the front. -/
def forward : Push → Octets
  | bytes data => data
  | length len => Length.encode len
  | tag t => [t]
  | integer t n => encodeElement t (Integer.content n.toInt)
  | unsigned32 t n => encodeElement t (Integer.content n.toNat)
  | unsigned64 t n => encodeElement t (Integer.content n.toNat)
  | string t data => encodeElement t data
  | empty t => encodeElement t []
  | oid o => encodeElement Tag.objectIdentifier o.content
  | ipAddress ip => encodeElement Tag.ipAddress ip.octets
  | value v => forwardValue v
  | constructed t body => encodeElement t (forwardAll body)

/-- What was pushed last comes first. -/
def forwardAll : List Push → Octets
  | [] => []
  | p :: rest => forwardAll rest ++ forward p

end

end Push

end NetWatch.Smi
