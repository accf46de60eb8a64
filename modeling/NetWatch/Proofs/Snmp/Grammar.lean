import NetWatch.Proofs.Oid.Content
import NetWatch.Snmp.Message

/-!
# The grammar of messages

What a datagram may look like and which message it stands for. Each rule lists the parts of one
content in order; an element's content is the whole of what its length announces, so nothing stands
between the parts or behind them.
-/

namespace NetWatch

open Ber Ber.Grammar

namespace Smi

def Value.IsContent : Grammar Value := fun content v =>
  match v with
  | .int32 n => integer32 content n
  | .unsigned32 n | .counter32 n | .timeTicks n => Grammar.unsigned32 content n
  | .counter64 n => unsigned64 content n
  | .octetString data | .opaqueData data => Grammar.octets content data
  | .ipAddress ip => Grammar.ipAddress content ip
  | .objectId oid => Oid.IsContent content oid
  | .null | .noSuchObject | .noSuchInstance | .endOfMibView => Grammar.empty content ()

/-- An element with one of the thirteen known tags and a content that is legal for it. -/
def Value.IsElement : Grammar Value := fun d v => Tlv v.tag Value.IsContent d v

end Smi

namespace Snmp

open Smi

inductive VarBind.IsContent : Grammar VarBind where
  | intro {name value : Octets} {oid : Oid} {v : Value} :
      Tlv Tag.objectIdentifier Oid.IsContent name oid → Value.IsElement value v →
      IsContent (name ++ value) ⟨oid, v⟩

/-- A sequence of any number of sequences, each of them a binding. -/
def VarBind.IsList : Grammar (List VarBind) :=
  Tlv Tag.sequence (Many (Tlv Tag.sequence VarBind.IsContent))

inductive Pdu.IsContent (pduType : PduType) : Grammar Pdu where
  | intro {d₁ d₂ d₃ d₄ : Octets} {requestId errorStatus errorIndex : Int32}
      {varbinds : List VarBind} :
      Tlv Tag.integer integer32 d₁ requestId → Tlv Tag.integer integer32 d₂ errorStatus →
      Tlv Tag.integer integer32 d₃ errorIndex → VarBind.IsList d₄ varbinds →
      IsContent pduType (d₁ ++ (d₂ ++ (d₃ ++ d₄)))
        ⟨pduType, requestId, errorStatus, errorIndex, varbinds⟩

inductive TrapPdu.IsContent : Grammar TrapPdu where
  | intro {d₁ d₂ d₃ d₄ d₅ d₆ : Octets} {enterprise : Oid} {agentAddr : Net.Ipv4}
      {genericTrap specificTrap : Int32} {uptime : UInt32} {varbinds : List VarBind} :
      Tlv Tag.objectIdentifier Oid.IsContent d₁ enterprise →
      Tlv Tag.ipAddress Grammar.ipAddress d₂ agentAddr →
      Tlv Tag.integer integer32 d₃ genericTrap → Tlv Tag.integer integer32 d₄ specificTrap →
      Tlv Tag.timeTicks Grammar.unsigned32 d₅ uptime → VarBind.IsList d₆ varbinds →
      IsContent (d₁ ++ (d₂ ++ (d₃ ++ (d₄ ++ (d₅ ++ d₆)))))
        ⟨enterprise, agentAddr, genericTrap, specificTrap, uptime, varbinds⟩

/-- The trap of version 1, or a PDU under the tag of any other type. -/
inductive PduBody.IsElement : Grammar PduBody where
  | trapV1 {d : Octets} {trap : TrapPdu} :
      Tlv Tag.trapV1 TrapPdu.IsContent d trap → IsElement d (.trapV1 trap)
  | pdu {d : Octets} {pduType : PduType} {p : Pdu} : pduType ≠ .trapV1 →
      Tlv pduType.tag (Pdu.IsContent pduType) d p → IsElement d (.pdu p)

/-- A version number, a community and a body. The trap of version 1 needs version 1. -/
inductive Message.IsContent : Grammar Message where
  | intro {d₁ d₂ d₃ : Octets} {version : Version} {community : Octets} {body : PduBody} :
      Tlv Tag.integer integer32 d₁ version.number → Tlv Tag.octetString octets d₂ community →
      PduBody.IsElement d₃ body → (body.pduType = .trapV1 → version = .v1) →
      IsContent (d₁ ++ (d₂ ++ d₃)) ⟨version, community, body⟩

/-- One sequence and nothing behind it. -/
def Message.IsDatagram : Grammar Message := Tlv Tag.sequence Message.IsContent

end Snmp

end NetWatch
