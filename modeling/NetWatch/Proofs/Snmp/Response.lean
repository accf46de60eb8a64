import NetWatch.Proofs.Ber.Extent
import NetWatch.Proofs.Snmp.Recognition
import NetWatch.Proofs.Snmp.Writing

/-!
# Responses

The response to a PDU that was read can be read in its turn (`decode_encode_response`). Its
identifiers were read and so they are sendable; what has to be shown is that it is not too long to
be written. Whatever was read in a short form is written with at most four times as many octets.
-/

namespace NetWatch

namespace Ber

open Grammar

variable {content : Octets}

/-- An element is written with at most four times the octets that it was read from. -/
theorem length_encodeElement_le_of_tlv {tag tag' : Tag} {g : Grammar α} {d : Octets} {a : α}
    (h : Tlv tag g d a) (hc : ∀ c, g c a → content.length ≤ 4 * c.length + 2) :
    (encodeElement tag' content).length ≤ 4 * d.length := by
  obtain ⟨c, hg, hlen⟩ := h.exists_content
  have := hc c hg
  have := length_encodeElement_le tag' content
  omega

theorem length_encodeElement_le_of_eq {tag tag' : Tag} {g : Grammar α} {d : Octets} {a : α}
    (h : Tlv tag g d a) (hc : ∀ c, g c a → c = content) :
    (encodeElement tag' content).length ≤ 4 * d.length := by
  refine length_encodeElement_le_of_tlv h fun c hg => ?_
  rw [← hc c hg]
  omega

theorem length_content_le_of_integer32 {n : Int32} (h : integer32 content n) :
    (Integer.content n.toInt).length ≤ 4 * content.length + 2 := by
  have := (integer32_content n).2.1
  have := h.1
  omega

theorem length_content_le_of_unsigned32 {n : UInt32} (h : unsigned32 content n) :
    (Integer.content n.toNat).length ≤ 4 * content.length + 2 := by
  have := (unsigned32_content n).1
  have := h.1
  omega

/-- A plain number is written with at most one octet more, which is zero. -/
theorem length_content_le_of_unsigned64 {n : UInt64} (h : unsigned64 content n) :
    (Integer.content n.toNat).length ≤ 4 * content.length + 2 := by
  have hlt : n.toNat < 256 ^ content.length := h.2 ▸ Octets.toNat_lt content
  have hlow : -(128 * 256 ^ content.length : Int) ≤ n.toNat := by
    have := pow_pos (show (0 : Int) < 256 by decide) content.length
    omega
  have hhigh : (n.toNat : Int) < 128 * 256 ^ content.length := by
    have : (n.toNat : Int) < 256 ^ content.length := by exact_mod_cast hlt
    omega
  have := Integer.length_content_le hlow hhigh
  omega

end Ber

open Ber Ber.Grammar

/-! ## Parts -/

namespace Smi.Value

theorem length_forwardValue_le {d : Octets} {v : Value} (h : IsElement d v) :
    (Push.forwardValue v).length ≤ 4 * d.length := by
  cases v with
  | int32 => exact length_encodeElement_le_of_tlv h fun _ => length_content_le_of_integer32
  | unsigned32 | counter32 | timeTicks =>
    exact length_encodeElement_le_of_tlv h fun _ => length_content_le_of_unsigned32
  | counter64 => exact length_encodeElement_le_of_tlv h fun _ => length_content_le_of_unsigned64
  | objectId => exact length_encodeElement_le_of_eq h fun _ => Oid.IsContent.eq_content
  | octetString | opaqueData | ipAddress => exact length_encodeElement_le_of_eq h fun _ => id
  | null | noSuchObject | noSuchInstance | endOfMibView =>
    exact length_encodeElement_le_of_tlv h fun _ _ => Nat.zero_le _

end Smi.Value

namespace Snmp

open Smi

namespace VarBind

theorem length_encode_le {d : Octets} {vb : VarBind}
    (h : Tlv Tag.sequence VarBind.IsContent d vb) : vb.encode.length ≤ 4 * d.length := by
  rw [encode_eq]
  refine length_encodeElement_le_of_tlv h fun c hc => ?_
  cases hc with
  | @intro name value oid v hname hvalue =>
    have hn : (encodeElement Tag.objectIdentifier oid.content).length ≤ 4 * name.length :=
      length_encodeElement_le_of_eq hname fun _ => Oid.IsContent.eq_content
    have hv := Value.length_forwardValue_le hvalue
    simp only [List.length_append]
    omega

theorem length_encodeList_le {d : Octets} {vbs : List VarBind} (h : VarBind.IsList d vbs) :
    (encodeList vbs).length ≤ 4 * d.length := by
  refine length_encodeElement_le_of_tlv h fun c hc => Nat.le_trans ?_ (Nat.le_add_right _ 2)
  clear h
  induction hc with
  | nil => exact Nat.zero_le _
  | cons hvb _ ih =>
    have := length_encode_le hvb
    simp only [List.flatMap_cons, List.length_append]
    omega

end VarBind

/-! ## Responses -/

theorem length_encode_integer_le (n : Int32) :
    (encodeElement Tag.integer (Integer.content n.toInt)).length ≤ 10 := by
  have := (integer32_content n).2.1
  have := length_encodeElement_le Tag.integer (Integer.content n.toInt)
  omega

theorem length_of_tlv_integer32 {tag : Tag} {d : Octets} {n : Int32}
    (h : Tlv tag integer32 d n) : 3 ≤ d.length := by
  obtain ⟨c, hc, hlen⟩ := h.exists_content
  have := hc.1
  omega

theorem Pdu.length_encode_le (p : Pdu) :
    p.encode.length ≤ (VarBind.encodeList p.varbinds).length + 36 := by
  rw [Pdu.encode, (Pdu.prepends_push p).build_eq]
  refine Nat.le_trans (length_encodeElement_le _ _) ?_
  have := length_encode_integer_le p.requestId
  have := length_encode_integer_le p.errorStatus
  have := length_encode_integer_le p.errorIndex
  simp only [List.length_append]
  omega

theorem Pdu.length_response_le {d : Octets} {pduType : PduType} {p : Pdu}
    (h : Tlv pduType.tag (Pdu.IsContent pduType) d p) :
    p.toResponse.encode.length ≤ 4 * d.length := by
  refine Nat.le_trans (Pdu.length_encode_le p.toResponse) ?_
  obtain ⟨c, hc, hlen⟩ := h.exists_content
  cases hc with
  | intro h₁ h₂ h₃ hlist =>
    have := length_of_tlv_integer32 h₁
    have := length_of_tlv_integer32 h₂
    have := length_of_tlv_integer32 h₃
    have := VarBind.length_encodeList_le hlist
    simp only [Pdu.toResponse, List.length_append] at hlen ⊢
    omega

namespace Message

def respond (m : Message) (p : Pdu) : Message := { m with body := .pdu p.toResponse }

theorem length_encode_respond_le {d : Octets} {m : Message} {p : Pdu} (h : IsDatagram d m)
    (hbody : m.body = .pdu p) : (m.respond p).encode.length ≤ 4 * d.length := by
  rw [encode_eq]
  refine length_encodeElement_le_of_tlv h fun c hc => ?_
  cases hc with
  | @intro d₁ d₂ d₃ version community body hversion hcommunity hpdu _ =>
    subst hbody
    have hn : (encodeElement Tag.integer _).length ≤ 4 * d₁.length :=
      length_encodeElement_le_of_tlv hversion fun _ => length_content_le_of_integer32
    have hs : (encodeElement Tag.octetString community).length ≤ 4 * d₂.length :=
      length_encodeElement_le_of_eq hcommunity fun _ => id
    have hp : (PduBody.pdu p.toResponse).encode.length ≤ 4 * d₃.length := by
      cases hpdu with
      | pdu _ hp => exact Pdu.length_response_le hp
    simp only [respond, List.length_append]
    omega

theorem IsSendable.respond {m : Message} {p : Pdu} (h : m.IsSendable) (hbody : m.body = .pdu p) :
    (m.respond p).IsSendable where
  oids oid ho := h.oids oid (by rw [hbody]; exact ho)
  envelope _ ht := nomatch ht
  shape q hq := by
    cases hq
    nofun

theorem decode_encode_respond {d : Octets} {m : Message} {p : Pdu} (h : decode d = .ok m)
    (hbody : m.body = .pdu p) (short : d.length < 2 ^ 30) :
    decode (m.respond p).encode = .ok (m.respond p) := by
  have hd : IsDatagram d m := (fills_read (.whole d) m).1 (decode_eq_ok_iff_read.1 h)
  have hlen := length_encode_respond_le hd hbody
  have hread : IsDatagram (m.respond p).encode (m.respond p) :=
    isDatagram_encode ((isSendable_of_isDatagram hd).respond hbody)
      (show _ < 2 ^ 32 by omega)
  exact decode_eq_ok_iff_read.2 ((fills_read (.whole _) _).2 hread)

end Message

end Snmp

end NetWatch
