import NetWatch.Proofs.Ber.Contents
import NetWatch.Proofs.Ber.Writing
import NetWatch.Proofs.Snmp.Grammar
import NetWatch.Smi.Push

/-!
# Written messages

A message `IsSendable` if its identifiers are, if its envelope fits its body, and if its body is
not a trap of version 1 in the shape of a PDU. What the grammar derives is sendable
(`isSendable_of_isDatagram`), and what is written for a sendable message is derived for it
(`isDatagram_encode`), provided that its length can be written.
-/

namespace NetWatch

open Ber Ber.Grammar

namespace Smi

def Value.oids : Value → List Oid
  | .objectId oid => [oid]
  | _ => []

end Smi

namespace Snmp

open Smi

def VarBind.oids (vb : VarBind) : List Oid := vb.oid :: vb.value.oids

/-- The identifiers of all bindings, behind the enterprise of a version 1 trap. -/
def PduBody.oids : PduBody → List Oid
  | .pdu p => p.varbinds.flatMap VarBind.oids
  | .trapV1 t => t.enterprise :: t.varbinds.flatMap VarBind.oids

/-- What makes a message decode to itself, and what every decoded message satisfies. -/
structure Message.IsSendable (m : Message) : Prop where
  /-- Every identifier is valid and does not have exactly one arc. -/
  oids : ∀ oid ∈ m.body.oids, oid.IsSendable
  /-- No trap of version 1 in an envelope of version 2. -/
  envelope : ∀ t, m.body = .trapV1 t → m.version ≠ .v2c
  /-- No PDU that says it is a trap of version 1. -/
  shape : ∀ p, m.body = .pdu p → p.pduType ≠ .trapV1

end Snmp

/-! ## Values -/

namespace Smi.Value

theorem prepends_push (v : Value) : Builder.Prepends v.push (Push.forwardValue v) := by
  cases v with
  | null | noSuchObject | noSuchInstance | endOfMibView => exact Builder.prepends_pushEmpty _
  | _ => exact Builder.prepends_pushElement _ _

theorem isContent_content {v : Value} (h : ∀ oid ∈ v.oids, oid.IsSendable) :
    IsContent v.content v := by
  cases v with
  | int32 n => exact integer32_content n
  | unsigned32 n | counter32 n | timeTicks n => exact unsigned32_content n
  | counter64 n => exact unsigned64_content n
  | objectId oid => exact Oid.isContent_content (h oid (.head _))
  | _ => exact rfl

theorem isElement_forwardValue {v : Value} (short : (Push.forwardValue v).length < Length.bound)
    (h : ∀ oid ∈ v.oids, oid.IsSendable) : IsElement (Push.forwardValue v) v :=
  tlv_encodeElement short (isContent_content h)

theorem isSendable_of_isElement {d : Octets} {v : Value} (h : IsElement d v) :
    ∀ oid ∈ v.oids, oid.IsSendable := by
  cases v with
  | objectId oid =>
    cases h with
    | intro _ hc =>
      rintro _ (_ | ⟨_, ⟨⟩⟩)
      exact Oid.IsContent.isSendable hc
  | _ => rintro _ ⟨⟩

end Smi.Value

namespace Snmp

open Smi Builder

/-! ## Bindings -/

namespace VarBind

theorem prepends_push (vb : VarBind) : Prepends vb.push (encodeElement Tag.sequence
    (encodeElement Tag.objectIdentifier vb.oid.content ++ Push.forwardValue vb.value)) :=
  ((Value.prepends_push vb.value).pushElement _ _).pushConstructed _

theorem encode_eq (vb : VarBind) : vb.encode = encodeElement Tag.sequence
    (encodeElement Tag.objectIdentifier vb.oid.content ++ Push.forwardValue vb.value) :=
  (prepends_push vb).build_eq

def encodeList (vbs : List VarBind) : Octets :=
  encodeElement Tag.sequence (vbs.flatMap encode)

theorem prepends_pushList (vbs : List VarBind) : Prepends (pushList vbs) (encodeList vbs) :=
  (prepends_foldr (fun vb => encode_eq vb ▸ prepends_push vb) vbs).pushConstructed _

theorem tlv_encode {vb : VarBind} (short : vb.encode.length < Length.bound)
    (h : ∀ oid ∈ vb.oids, oid.IsSendable) : Tlv Tag.sequence VarBind.IsContent vb.encode vb := by
  rw [encode_eq] at short ⊢
  have hlt := Nat.lt_trans (length_lt_length_encodeElement _ _) short
  rw [List.length_append] at hlt
  refine tlv_encodeElement short (.intro ?_ ?_)
  · exact tlv_encodeElement (by omega) (Oid.isContent_content (h _ (.head _)))
  · exact Value.isElement_forwardValue (by omega) fun oid ho => h oid (.tail _ ho)

theorem isList_encodeList {vbs : List VarBind} (short : (encodeList vbs).length < Length.bound)
    (h : ∀ oid ∈ vbs.flatMap VarBind.oids, oid.IsSendable) :
    VarBind.IsList (encodeList vbs) vbs := by
  refine tlv_encodeElement short ?_
  have hlt := Nat.lt_trans (length_lt_length_encodeElement _ _) short
  clear short
  induction vbs with
  | nil => exact .nil
  | cons vb vbs ih =>
    simp only [List.flatMap_cons, List.length_append, List.mem_append] at hlt h ⊢
    exact .cons (tlv_encode (by omega) fun oid ho => h oid (.inl ho))
      (ih (fun oid ho => h oid (.inr ho)) (by omega))

theorem isSendable_of_isList {d : Octets} {vbs : List VarBind} (h : VarBind.IsList d vbs) :
    ∀ oid ∈ vbs.flatMap VarBind.oids, oid.IsSendable := by
  cases h with
  | intro hl hmany =>
    clear hl
    induction hmany with
    | nil => rintro _ ⟨⟩
    | cons hvb _ ih =>
      obtain ⟨-, ⟨⟨-, hoid⟩, hv⟩⟩ := hvb
      intro oid ho
      simp only [List.flatMap_cons, List.mem_append, VarBind.oids, List.mem_cons] at ho
      rcases ho with (rfl | ho) | ho
      · exact Oid.IsContent.isSendable hoid
      · exact Value.isSendable_of_isElement hv oid ho
      · exact ih oid ho

end VarBind

/-! ## PDUs -/

theorem Pdu.prepends_push (p : Pdu) : Prepends p.push (encodeElement p.pduType.tag
    (encodeElement Tag.integer (Integer.content p.requestId.toInt) ++
      (encodeElement Tag.integer (Integer.content p.errorStatus.toInt) ++
        (encodeElement Tag.integer (Integer.content p.errorIndex.toInt) ++
          VarBind.encodeList p.varbinds)))) :=
  ((((VarBind.prepends_pushList p.varbinds).pushElement _ _).pushElement _ _).pushElement _
    _).pushConstructed _

theorem Pdu.tlv_encode {p : Pdu} (short : p.encode.length < Length.bound)
    (h : ∀ oid ∈ p.varbinds.flatMap VarBind.oids, oid.IsSendable) :
    Tlv p.pduType.tag (Pdu.IsContent p.pduType) p.encode p := by
  rw [Pdu.encode, (Pdu.prepends_push p).build_eq] at short ⊢
  have hlt := Nat.lt_trans (length_lt_length_encodeElement _ _) short
  simp only [List.length_append] at hlt
  refine tlv_encodeElement short (.intro ?_ ?_ ?_ ?_)
  · exact tlv_encodeElement (by omega) (integer32_content _)
  · exact tlv_encodeElement (by omega) (integer32_content _)
  · exact tlv_encodeElement (by omega) (integer32_content _)
  · exact VarBind.isList_encodeList (by omega) h

theorem TrapPdu.prepends_push (t : TrapPdu) : Prepends t.push (encodeElement Tag.trapV1
    (encodeElement Tag.objectIdentifier t.enterprise.content ++
      (encodeElement Tag.ipAddress t.agentAddr.octets ++
        (encodeElement Tag.integer (Integer.content t.genericTrap.toInt) ++
          (encodeElement Tag.integer (Integer.content t.specificTrap.toInt) ++
            (encodeElement Tag.timeTicks (Integer.content t.uptime.toNat) ++
              VarBind.encodeList t.varbinds)))))) :=
  ((((((VarBind.prepends_pushList t.varbinds).pushElement _ _).pushElement _ _).pushElement _
    _).pushElement _ _).pushElement _ _).pushConstructed _

theorem TrapPdu.tlv_encode {t : TrapPdu} (short : t.encode.length < Length.bound)
    (henterprise : t.enterprise.IsSendable)
    (h : ∀ oid ∈ t.varbinds.flatMap VarBind.oids, oid.IsSendable) :
    Tlv Tag.trapV1 TrapPdu.IsContent t.encode t := by
  rw [TrapPdu.encode, (TrapPdu.prepends_push t).build_eq] at short ⊢
  have hlt := Nat.lt_trans (length_lt_length_encodeElement _ _) short
  simp only [List.length_append] at hlt
  refine tlv_encodeElement short (.intro ?_ ?_ ?_ ?_ ?_ ?_)
  · exact tlv_encodeElement (by omega) (Oid.isContent_content henterprise)
  · exact tlv_encodeElement (by omega) rfl
  · exact tlv_encodeElement (by omega) (integer32_content _)
  · exact tlv_encodeElement (by omega) (integer32_content _)
  · exact tlv_encodeElement (by omega) (unsigned32_content _)
  · exact VarBind.isList_encodeList (by omega) h

namespace PduBody

theorem prepends_push (body : PduBody) : Prepends body.push body.encode := by
  cases body with
  | pdu p =>
    rw [PduBody.encode, (show Prepends (PduBody.pdu p).push _ from p.prepends_push).build_eq]
    exact p.prepends_push
  | trapV1 t =>
    rw [PduBody.encode, (show Prepends (PduBody.trapV1 t).push _ from t.prepends_push).build_eq]
    exact t.prepends_push

theorem isElement_encode {body : PduBody} (short : body.encode.length < Length.bound)
    (h : ∀ oid ∈ body.oids, oid.IsSendable)
    (shape : ∀ p, body = .pdu p → p.pduType ≠ .trapV1) : PduBody.IsElement body.encode body := by
  cases body with
  | pdu p => exact .pdu (shape p rfl) (Pdu.tlv_encode short h)
  | trapV1 t =>
    exact .trapV1 (TrapPdu.tlv_encode short (h _ (.head _)) fun oid ho => h oid (.tail _ ho))

theorem isSendable_of_isElement {d : Octets} {body : PduBody} (h : PduBody.IsElement d body) :
    ∀ oid ∈ body.oids, oid.IsSendable := by
  cases h with
  | pdu _ h =>
    obtain ⟨-, ⟨-, -, -, hlist⟩⟩ := h
    exact VarBind.isSendable_of_isList hlist
  | trapV1 h =>
    obtain ⟨-, ⟨⟨-, henterprise⟩, -, -, -, -, hlist⟩⟩ := h
    rintro oid (_ | ⟨_, ho⟩)
    · exact Oid.IsContent.isSendable henterprise
    · exact VarBind.isSendable_of_isList hlist oid ho

end PduBody

/-! ## Messages -/

namespace Message

theorem encode_eq (m : Message) : m.encode = encodeElement Tag.sequence
    (encodeElement Tag.integer (Integer.content m.version.number.toInt) ++
      (encodeElement Tag.octetString m.community ++ m.body.encode)) :=
  (((m.body.prepends_push.pushElement Tag.octetString m.community).pushElement Tag.integer
    (Integer.content m.version.number.toInt)).pushConstructed Tag.sequence).build_eq

theorem isDatagram_encode {m : Message} (h : m.IsSendable)
    (short : m.encode.length < Length.bound) : Message.IsDatagram m.encode m := by
  rw [encode_eq] at short ⊢
  have hlt := Nat.lt_trans (length_lt_length_encodeElement _ _) short
  simp only [List.length_append] at hlt
  refine tlv_encodeElement short (.intro ?_ ?_ ?_ fun htrap => ?_)
  · exact tlv_encodeElement (by omega) (integer32_content _)
  · exact tlv_encodeElement (by omega) rfl
  · exact PduBody.isElement_encode (by omega) h.oids h.shape
  · obtain ⟨version, community, body⟩ := m
    cases body with
    | pdu p => exact absurd htrap (h.shape p rfl)
    | trapV1 t =>
      have := h.envelope t rfl
      cases version <;> simp_all

/-- Whatever a datagram stands for is sendable. -/
theorem isSendable_of_isDatagram {d : Octets} {m : Message} (h : Message.IsDatagram d m) :
    m.IsSendable := by
  obtain ⟨-, ⟨-, -, hbody, hfit⟩⟩ := h
  refine ⟨PduBody.isSendable_of_isElement hbody, ?_, ?_⟩
  · rintro t rfl rfl
    cases hfit rfl
  · rintro p rfl
    cases hbody with
    | pdu hty hd =>
      obtain ⟨-, ⟨⟩⟩ := hd
      exact hty

end Message

end Snmp

end NetWatch
