import NetWatch.Ber.Tag
import NetWatch.Ber.Length
import NetWatch.Ber.Integer
import NetWatch.Oid.Content

/-!
# Building from the end

A message is built from its last octet to its first: contents are pushed before the length and the
tag that stand in front of them, so no length has to be known ahead. A builder stores the octets in
the order in which they are pushed, which is the message backwards.
-/

namespace NetWatch.Ber

/-- The octets so far, the last of the message first. -/
structure Builder where
  stored : Array UInt8

namespace Builder

def empty : Builder := ⟨#[]⟩

/-- How many octets there are so far. -/
def size (b : Builder) : Nat := b.stored.size

def isEmpty (b : Builder) : Bool := b.size == 0

/-- The octets so far, in the order of the message. -/
def octets (b : Builder) : Octets := b.stored.toList.reverse

/-- Puts `data` in front of the message, that is its octets backwards behind what is stored. -/
def push (b : Builder) (data : Octets) : Builder := ⟨b.stored ++ data.reverse⟩

def pushLength (b : Builder) (len : Nat) : Builder := b.push (Length.encode len)

def pushTag (b : Builder) (tag : Tag) : Builder := b.push [tag]

/-- A content with its length and tag. -/
def pushElement (b : Builder) (tag : Tag) (content : Octets) : Builder :=
  ((b.push content).pushLength content.length).pushTag tag

/-- Wraps what `body` pushes. The length is how much the builder has grown meanwhile. -/
def pushConstructed (b : Builder) (tag : Tag) (body : Builder → Builder) : Builder :=
  let start := b.size
  let filled := body b
  (filled.pushLength (filled.size - start)).pushTag tag

def pushSequence (b : Builder) (body : Builder → Builder) : Builder :=
  b.pushConstructed Tag.sequence body

def pushIntegerTagged (b : Builder) (tag : Tag) (n : Int32) : Builder :=
  b.pushElement tag (Integer.content n.toInt)

def pushInteger (b : Builder) (n : Int32) : Builder := b.pushIntegerTagged Tag.integer n

def pushUnsigned32 (b : Builder) (tag : Tag) (n : UInt32) : Builder :=
  b.pushElement tag (Integer.content n.toNat)

def pushUnsigned64 (b : Builder) (tag : Tag) (n : UInt64) : Builder :=
  b.pushElement tag (Integer.content n.toNat)

def pushString (b : Builder) (tag : Tag) (data : Octets) : Builder := b.pushElement tag data

def pushOctetString (b : Builder) (data : Octets) : Builder := b.pushString Tag.octetString data

/-- An element without content. -/
def pushEmpty (b : Builder) (tag : Tag) : Builder := (b.pushLength 0).pushTag tag

def pushNull (b : Builder) : Builder := b.pushEmpty Tag.null

def pushOid (b : Builder) (oid : Oid) : Builder := b.pushString Tag.objectIdentifier oid.content

def pushIpAddress (b : Builder) (ip : Net.Ipv4) : Builder := b.pushString Tag.ipAddress ip.octets

/-- What a series of pushes onto nothing gives. -/
def build (body : Builder → Builder) : Octets := (body empty).octets

@[simp] theorem octets_empty : empty.octets = [] := rfl

theorem size_eq (b : Builder) : b.size = b.octets.length := by
  simp [size, octets]

@[simp] theorem octets_push (b : Builder) (data : Octets) :
    (b.push data).octets = data ++ b.octets := by
  simp [octets, push]

@[simp] theorem size_push (b : Builder) (data : Octets) :
    (b.push data).size = data.length + b.size := by
  simp [size_eq]

end Builder

end NetWatch.Ber
