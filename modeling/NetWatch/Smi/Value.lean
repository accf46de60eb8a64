import NetWatch.Ber.Tag
import NetWatch.Oid.Basic
import NetWatch.Text.Blank
import NetWatch.Text.Utf8

/-!
# Values

The values that a variable binding may carry: ten syntaxes, and three exceptions that stand in
for a value that is not there.
-/

namespace NetWatch.Smi

open NetWatch.Ber (Tag)

inductive Value where
  | int32 (n : Int32)
  /-- `Unsigned32` or `Gauge32`. -/
  | unsigned32 (n : UInt32)
  | counter32 (n : UInt32)
  /-- Hundredths of a second. -/
  | timeTicks (n : UInt32)
  | counter64 (n : UInt64)
  | octetString (data : Octets)
  /-- Octets with an encoding of their own. -/
  | opaqueData (data : Octets)
  | ipAddress (ip : Net.Ipv4)
  | objectId (oid : Oid)
  | null
  | noSuchObject
  | noSuchInstance
  | endOfMibView
  deriving DecidableEq

namespace Value

/-- The tag of the value's encoding. -/
def tag : Value → Tag
  | int32 _ => Tag.integer
  | unsigned32 _ => Tag.unsigned32
  | counter32 _ => Tag.counter32
  | timeTicks _ => Tag.timeTicks
  | counter64 _ => Tag.counter64
  | octetString _ => Tag.octetString
  | opaqueData _ => Tag.opaqueData
  | ipAddress _ => Tag.ipAddress
  | objectId _ => Tag.objectIdentifier
  | null => Tag.null
  | noSuchObject => Tag.noSuchObject
  | noSuchInstance => Tag.noSuchInstance
  | endOfMibView => Tag.endOfMibView

def isException : Value → Bool
  | noSuchObject | noSuchInstance | endOfMibView => true
  | _ => false

def asInt32? : Value → Option Int32
  | int32 n => some n
  | _ => none

/-- Any unsigned value of 32 bits. -/
def asUInt32? : Value → Option UInt32
  | unsigned32 n | counter32 n | timeTicks n => some n
  | _ => none

/-- Any unsigned value. -/
def asUInt64? : Value → Option UInt64
  | counter64 n => some n
  | v => v.asUInt32?.map UInt32.toUInt64

def asOctets? : Value → Option Octets
  | octetString data | opaqueData data => some data
  | _ => none

def asOid? : Value → Option Oid
  | objectId oid => some oid
  | _ => none

/-- An octet string holding a text. -/
def ofText (s : String) : Value := octetString (Text.Utf8.encode s)

/-- The text of each syntax on its own: octets are always hexadecimal pairs. -/
def plainText : Value → String
  | int32 n => toString n.toInt
  | unsigned32 n | counter32 n | timeTicks n => toString n.toNat
  | counter64 n => toString n.toNat
  | octetString data | opaqueData data => Octets.spacedHex data
  | ipAddress ip => ip.text
  | objectId oid => oid.text
  | null => "NULL"
  | noSuchObject => "noSuchObject"
  | noSuchInstance => "noSuchInstance"
  | endOfMibView => "endOfMibView"

/-- Whether a text may be shown as it is: no controls but those that count as blanks. -/
def isShowable (s : String) : Bool :=
  s.toList.all fun c => !Text.isControl c || Text.isBlank c

/-- As `plainText`, but an octet string that holds showable text stands for itself. -/
def text (v : Value) : String :=
  match v with
  | octetString data =>
    match Text.Utf8.decode? data with
    | some s => if isShowable s then s else v.plainText
    | none => v.plainText
  | _ => v.plainText

end Value

end NetWatch.Smi
