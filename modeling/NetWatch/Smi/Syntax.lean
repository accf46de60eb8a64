import NetWatch.Smi.Value
import NetWatch.Ber.Element
import NetWatch.Ber.Buffer

/-!
# Values at an offset

Each syntax reads and writes its values at an offset of a buffer. A syntax looks at the tag before
it looks at anything else, and accepts its own only. `Value.decodeAt` chooses the syntax by the
tag.
-/

namespace NetWatch.Smi

open NetWatch.Ber

/-- The ten syntaxes of values that are not exceptions. -/
inductive Syntax where
  | int32
  | unsigned32
  | counter32
  | timeTicks
  | counter64
  | octetString
  | opaqueData
  | ipAddress
  | objectId
  | null
  deriving DecidableEq

namespace Syntax

def tag : Syntax → Tag
  | int32 => Tag.integer
  | unsigned32 => Tag.unsigned32
  | counter32 => Tag.counter32
  | timeTicks => Tag.timeTicks
  | counter64 => Tag.counter64
  | octetString => Tag.octetString
  | opaqueData => Tag.opaqueData
  | ipAddress => Tag.ipAddress
  | objectId => Tag.objectIdentifier
  | null => Tag.null

def all : List Syntax :=
  [int32, unsigned32, counter32, timeTicks, counter64, octetString, opaqueData, ipAddress,
    objectId, null]

def ofTag? (tag : Tag) : Option Syntax := all.find? (·.tag = tag)

/-- What an element of this syntax holds. -/
def valueOf (e : Element) : Syntax → Except DecodeError Value
  | int32 => Value.int32 <$> e.integer32
  | unsigned32 => Value.unsigned32 <$> e.unsigned32
  | counter32 => Value.counter32 <$> e.unsigned32
  | timeTicks => Value.timeTicks <$> e.unsigned32
  | counter64 => Value.counter64 <$> e.unsigned64
  | octetString => Value.octetString <$> e.string
  | opaqueData => Value.opaqueData <$> e.string
  | ipAddress => do
    let data ← e.string
    match Net.Ipv4.ofOctets? data with
    | some ip => return Value.ipAddress ip
    | none => .error ⟨e.start, .ipAddressLength data.length⟩
  | objectId => Value.objectId <$> e.oid
  | null => (fun _ => Value.null) <$> e.null

/-- Refuses another tag before any content is looked at. -/
def checkTag (s : Syntax) (data : Octets) (offset : Nat) : Except DecodeError Unit :=
  match data[offset]? with
  | none => .error ⟨offset, .truncated⟩
  | some tag => if tag = s.tag then .ok () else .error ⟨offset, .unexpectedTag s.tag tag⟩

/-- Reads a value of this syntax: the offset behind it and the value. -/
def decodeAt (s : Syntax) (data : Octets) (offset : Nat) : Except DecodeError (Nat × Value) := do
  s.checkTag data offset
  let parsed ← parseAt (fun e => s.valueOf e) data offset
  return (parsed.next, parsed.value)

end Syntax

namespace Value

/-- The exception with a tag. -/
def exceptionOfTag? (tag : Tag) : Option Value :=
  [noSuchObject, noSuchInstance, endOfMibView].find? (·.tag = tag)

/-- Reads a value of any syntax: the offset behind it and the value. -/
def decodeAt (data : Octets) (offset : Nat) : Except DecodeError (Nat × Value) :=
  match data[offset]? with
  | none => .error ⟨offset, .truncated⟩
  | some tag =>
    match Syntax.ofTag? tag, exceptionOfTag? tag with
    | some s, _ => s.decodeAt data offset
    | none, some v => (nullAt data offset).map fun parsed => (parsed.next, v)
    | none, none => .error ⟨offset, .unknownValueType tag⟩

/-- Writes a value at an offset of a buffer. -/
def encodeAt (v : Value) (offset : Nat) : BufferWriter Nat :=
  match v with
  | int32 n => BufferWriter.integer32 offset Tag.integer n
  | unsigned32 n => BufferWriter.unsigned32 offset Tag.unsigned32 n
  | counter32 n => BufferWriter.unsigned32 offset Tag.counter32 n
  | timeTicks n => BufferWriter.unsigned32 offset Tag.timeTicks n
  | counter64 n => BufferWriter.unsigned64 offset Tag.counter64 n
  | octetString data => BufferWriter.string offset Tag.octetString data
  | opaqueData data => BufferWriter.string offset Tag.opaqueData data
  | ipAddress ip => BufferWriter.string offset Tag.ipAddress ip.octets
  | objectId oid => BufferWriter.oid offset Tag.objectIdentifier oid
  | null | noSuchObject | noSuchInstance | endOfMibView => BufferWriter.null offset v.tag

end Value

end NetWatch.Smi
