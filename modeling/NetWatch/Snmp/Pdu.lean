import NetWatch.Snmp.VarBind
import NetWatch.Snmp.ErrorStatus

/-!
# Protocol data units

Requests, responses and the notifications of version 2 share one shape, `Pdu`. The trap of version
1 has its own, `TrapPdu`. A message carries one or the other, `PduBody`.
-/

namespace NetWatch.Snmp

open NetWatch.Ber NetWatch.Smi

inductive PduType where
  | getRequest
  | getNextRequest
  | response
  | setRequest
  | trapV1
  | getBulkRequest
  | informRequest
  | trapV2
  | report
  deriving DecidableEq

namespace PduType

def all : List PduType :=
  [getRequest, getNextRequest, response, setRequest, trapV1, getBulkRequest, informRequest, trapV2,
    report]

def tag : PduType → Tag
  | getRequest => 0xA0
  | getNextRequest => 0xA1
  | response => 0xA2
  | setRequest => 0xA3
  | trapV1 => 0xA4
  | getBulkRequest => 0xA5
  | informRequest => 0xA6
  | trapV2 => 0xA7
  | report => 0xA8

def ofTag? (tag : Tag) : Option PduType := all.find? (·.tag = tag)

def name : PduType → String
  | getRequest => "GetRequest"
  | getNextRequest => "GetNextRequest"
  | response => "Response"
  | setRequest => "SetRequest"
  | trapV1 => "TrapV1"
  | getBulkRequest => "GetBulkRequest"
  | informRequest => "InformRequest"
  | trapV2 => "TrapV2"
  | report => "Report"

end PduType

/-- `sysUpTime.0`, the name of the first binding of a notification. -/
def sysUpTime : Oid := ⟨[1, 3, 6, 1, 2, 1, 1, 3, 0]⟩
/-- `snmpTrapOID.0`, the name of the second binding of a notification. -/
def snmpTrapOid : Oid := ⟨[1, 3, 6, 1, 6, 3, 1, 1, 4, 1, 0]⟩
/-- `snmpTraps`, under which the generic traps are. -/
def snmpTraps : Oid := ⟨[1, 3, 6, 1, 6, 3, 1, 1, 5]⟩

structure Pdu where
  pduType : PduType
  requestId : Int32
  errorStatus : Int32 := 0
  errorIndex : Int32 := 0
  varbinds : List VarBind
  deriving DecidableEq

namespace Pdu

/-- A notification: the time and the trap's name come before all other bindings. -/
def notification (pduType : PduType) (requestId : Int32) (uptime : UInt32) (trapOid : Oid)
    (varbinds : List VarBind) : Pdu where
  pduType := pduType
  requestId := requestId
  varbinds := ⟨sysUpTime, .timeTicks uptime⟩ :: ⟨snmpTrapOid, .objectId trapOid⟩ :: varbinds

def push (pdu : Pdu) (b : Builder) : Builder :=
  b.pushConstructed pdu.pduType.tag fun b =>
    (((VarBind.pushList pdu.varbinds b).pushInteger pdu.errorIndex).pushInteger
      pdu.errorStatus).pushInteger pdu.requestId

def encode (pdu : Pdu) : Octets := Builder.build pdu.push

/-- What stands inside a PDU. -/
def readBody (pduType : PduType) : Reader Pdu := do
  let requestId ← Reader.integer
  let errorStatus ← Reader.integer
  let errorIndex ← Reader.integer
  let varbinds ← VarBind.readList
  Reader.expectEnd
  return ⟨pduType, requestId, errorStatus, errorIndex, varbinds⟩

/-- Reads a PDU of any type but the trap of version 1. -/
def read : Reader Pdu := do
  let start ← Reader.offset
  let (tag, length) ← Reader.header
  match PduType.ofTag? tag with
  | none | some .trapV1 => Reader.fail start (.unknownPduType tag)
  | some pduType => Reader.within (← Reader.window length) (readBody pduType)

def isError (pdu : Pdu) : Bool := pdu.errorStatus != 0

def status (pdu : Pdu) : ErrorStatus := ErrorStatus.ofCode pdu.errorStatus

/-- The acknowledgement of an inform: same request, same bindings, no error. -/
def toResponse (pdu : Pdu) : Pdu where
  pduType := .response
  requestId := pdu.requestId
  varbinds := pdu.varbinds

def isNotification (pdu : Pdu) : Bool :=
  pdu.pduType = .trapV2 || pdu.pduType = .informRequest

/-- The time in a notification's first binding. -/
def uptime? (pdu : Pdu) : Option UInt32 :=
  match pdu.varbinds with
  | ⟨oid, .timeTicks ticks⟩ :: _ => if oid = sysUpTime then some ticks else none
  | _ => none

/-- The trap's name in a notification's second binding. -/
def trapOid? (pdu : Pdu) : Option Oid :=
  match pdu.varbinds with
  | _ :: ⟨oid, .objectId trap⟩ :: _ => if oid = snmpTrapOid then some trap else none
  | _ => none

end Pdu

inductive GenericTrap where
  | coldStart
  | warmStart
  | linkDown
  | linkUp
  | authenticationFailure
  | egpNeighborLoss
  /-- The agent's vendor says what happened. -/
  | enterpriseSpecific
  deriving DecidableEq

namespace GenericTrap

def all : List GenericTrap :=
  [coldStart, warmStart, linkDown, linkUp, authenticationFailure, egpNeighborLoss,
    enterpriseSpecific]

def code : GenericTrap → Int32
  | coldStart => 0
  | warmStart => 1
  | linkDown => 2
  | linkUp => 3
  | authenticationFailure => 4
  | egpNeighborLoss => 5
  | enterpriseSpecific => 6

def ofCode? (code : Int32) : Option GenericTrap := all.find? (·.code = code)

def name : GenericTrap → String
  | coldStart => "ColdStart"
  | warmStart => "WarmStart"
  | linkDown => "LinkDown"
  | linkUp => "LinkUp"
  | authenticationFailure => "AuthenticationFailure"
  | egpNeighborLoss => "EgpNeighborLoss"
  | enterpriseSpecific => "EnterpriseSpecific"

end GenericTrap

/-- The trap of version 1. The generic code is kept as it came. -/
structure TrapPdu where
  enterprise : Oid
  agentAddr : Net.Ipv4
  genericTrap : Int32
  specificTrap : Int32
  uptime : UInt32
  varbinds : List VarBind
  deriving DecidableEq

namespace TrapPdu

def generic? (trap : TrapPdu) : Option GenericTrap := GenericTrap.ofCode? trap.genericTrap

def isEnterpriseSpecific (trap : TrapPdu) : Bool :=
  trap.genericTrap = GenericTrap.enterpriseSpecific.code

/-- The trap's name in version 2: a zero and the specific code under the enterprise, or the generic
code plus one under `snmpTraps`. Codes below zero count modulo 2^32. -/
def v2TrapOid (trap : TrapPdu) : Oid :=
  if trap.isEnterpriseSpecific then (trap.enterprise.child 0).child trap.specificTrap.toUInt32
  else snmpTraps.child (trap.genericTrap + 1).toUInt32

def push (trap : TrapPdu) (b : Builder) : Builder :=
  b.pushConstructed Tag.trapV1 fun b =>
    (((((VarBind.pushList trap.varbinds b).pushUnsigned32 Tag.timeTicks trap.uptime).pushInteger
      trap.specificTrap).pushInteger trap.genericTrap).pushIpAddress trap.agentAddr).pushOid
      trap.enterprise

def encode (trap : TrapPdu) : Octets := Builder.build trap.push

/-- What stands inside a trap. -/
def readBody : Reader TrapPdu := do
  let enterprise ← Reader.oid
  let agentAddr ← Reader.ipAddress
  let genericTrap ← Reader.integer
  let specificTrap ← Reader.integer
  let uptime ← Reader.unsigned32 Tag.timeTicks
  let varbinds ← VarBind.readList
  Reader.expectEnd
  return ⟨enterprise, agentAddr, genericTrap, specificTrap, uptime, varbinds⟩

def read : Reader TrapPdu := do
  Reader.within (← Reader.constructed Tag.trapV1) readBody

end TrapPdu

inductive PduBody where
  | pdu (pdu : Pdu)
  | trapV1 (trap : TrapPdu)
  deriving DecidableEq

namespace PduBody

def pduType : PduBody → PduType
  | pdu p => p.pduType
  | trapV1 _ => .trapV1

def varbinds : PduBody → List VarBind
  | pdu p => p.varbinds
  | trapV1 t => t.varbinds

/-- The name of what is notified: of any trap of version 1, and of a notification that has one. -/
def trapOid? : PduBody → Option Oid
  | pdu p => p.trapOid?
  | trapV1 t => some t.v2TrapOid

def push (body : PduBody) (b : Builder) : Builder :=
  match body with
  | pdu p => p.push b
  | trapV1 t => t.push b

def encode (body : PduBody) : Octets := Builder.build body.push

/-- The tag tells which of the two shapes to read. -/
def read : Reader PduBody := do
  if (← Reader.peekTag?) = some Tag.trapV1 then trapV1 <$> TrapPdu.read
  else pdu <$> Pdu.read

end PduBody

end NetWatch.Snmp
