import NetWatch.Report.Names
import NetWatch.Report.Style
import NetWatch.Smi.Value
import NetWatch.Text.Json
import NetWatch.Text.Numeral

/-!
# Values as they are shown

A value is shown with the name of its type, a plain value, and often a text for people. An octet
string is shown as text if all of it can be seen: visible ASCII and five blanks.
-/

namespace NetWatch.Report

open Smi (Value)
open Text (Json)

structure Shown where
  typeName : String
  value : Json
  formatted : Option String := none

/-- Hundredths of a second as days, hours, minutes and seconds. -/
def ticksText (ticks : UInt32) : String :=
  let total := ticks.toNat / 100
  let pair := Text.padded 2
  let time := pair (total % 86400 / 3600) ++ ":" ++ pair (total % 3600 / 60) ++ ":" ++
    pair (total % 60) ++ "." ++ pair (ticks.toNat % 100)
  let days := total / 86400
  if days > 0 then s!"{days}d {time}" else time

/-- Whether the octet can be seen, or is one of the five blanks. -/
def isVisible (b : UInt8) : Bool :=
  (0x21 ≤ b && b ≤ 0x7E) || b = 0x20 || b = 0x09 || b = 0x0A || b = 0x0C || b = 0x0D

/-- The text of visible octets. -/
def visibleText (data : Octets) : String :=
  String.ofList (data.map fun b => Char.ofNat b.toNat)

/-- An octet string as text, or in hexadecimal if it is not visible or `hex` is asked for. -/
def showOctets (hex : Bool) (data : Octets) : Shown :=
  if hex || !data.all isVisible then
    ⟨"Hex-STRING", .string data.hex, some data.spacedHex⟩
  else ⟨"STRING", .string (visibleText data), none⟩

def Shown.ofValue (hex : Bool) : Value → Shown
  | .int32 n => ⟨"INTEGER", .integer n.toInt, none⟩
  | .octetString data => showOctets hex data
  | .null => ⟨"NULL", .null, none⟩
  | .objectId oid => ⟨"OID", .string oid.text, some (Names.annotated oid)⟩
  | .ipAddress ip => ⟨"IpAddress", .string ip.text, none⟩
  | .counter32 n => ⟨"Counter32", .integer n.toNat, none⟩
  | .unsigned32 n => ⟨"Gauge32", .integer n.toNat, none⟩
  | .timeTicks n => ⟨"TimeTicks", .integer n.toNat, some s!"({n.toNat}) {ticksText n}"⟩
  | .opaqueData data => ⟨"Opaque", .string data.hex, some data.spacedHex⟩
  | .counter64 n => ⟨"Counter64", .integer n.toNat, none⟩
  | .noSuchObject => ⟨"NoSuchObject", .null, some "No Such Object available"⟩
  | .noSuchInstance => ⟨"NoSuchInstance", .null, some "No Such Instance currently exists"⟩
  | .endOfMibView => ⟨"EndOfMibView", .null, some "No more variables left in this MIB View"⟩

/-- The plain value: a string without quotes, and nothing for none. -/
def Shown.raw (s : Shown) : String :=
  match s.value with
  | .string text => text
  | .null => ""
  | value => value.pretty

/-- The text for people, or else the plain value, a string in quotes. -/
def Shown.human (s : Shown) : String :=
  match s.formatted, s.value with
  | some text, _ => text
  | none, .string text => s!"\"{text}\""
  | none, .null => ""
  | none, value => value.pretty

end NetWatch.Report
