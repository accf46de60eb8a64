import NetWatch.Snmp.Pdu

/-!
# Community messages

A message is a sequence of a version number, a community string and one PDU, and nothing may
follow it. A trap of version 1 does not fit into an envelope of version 2.
-/

namespace NetWatch.Snmp

open NetWatch.Ber

inductive Version where
  | v1
  | v2c
  deriving DecidableEq, Inhabited

namespace Version

def number : Version → Int32
  | v1 => 0
  | v2c => 1

def ofNumber? (n : Int32) : Option Version := [v1, v2c].find? (·.number = n)

def name : Version → String
  | v1 => "SNMPv1"
  | v2c => "SNMPv2c"

end Version

/-- The version used where none is asked for. -/
def defaultVersion : Version := .v2c

structure Message where
  version : Version
  community : Octets
  body : PduBody
  deriving DecidableEq

namespace Message

def push (m : Message) (b : Builder) : Builder :=
  b.pushSequence fun b =>
    ((m.body.push b).pushOctetString m.community).pushInteger m.version.number

def encode (m : Message) : Octets := Builder.build m.push

/-- What stands inside a message. -/
def readBody : Reader Message := do
  let start ← Reader.offset
  let number ← Reader.integer
  match Version.ofNumber? number with
  | none => Reader.fail start (.unknownVersion number)
  | some version =>
    let community ← Reader.octetString
    let bodyStart ← Reader.offset
    let tag ← Reader.peekTag?
    if version = .v2c ∧ tag = some Tag.trapV1 then
      Reader.fail bodyStart (.unknownPduType Tag.trapV1)
    else
      let body ← PduBody.read
      Reader.expectEnd
      return ⟨version, community, body⟩

def read : Reader Message := do
  let message ← Reader.within (← Reader.sequence) readBody
  Reader.expectEnd
  return message

/-- Decodes a whole datagram. -/
def decode (data : Octets) : Except DecodeError Message :=
  (read.runOn (.whole data)).1

end Message

end NetWatch.Snmp
