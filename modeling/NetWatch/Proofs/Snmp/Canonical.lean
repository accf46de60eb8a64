import NetWatch.Proofs.Ber.Canonical
import NetWatch.Proofs.Snmp.Locality
import NetWatch.Proofs.Snmp.Writing

/-!
# Canonical datagrams

Reading is lenient in two places only, lengths and integers. A datagram that uses the shortest form
of both is therefore what is written for its message (`oneForm_isDatagram`), and what is written is
in that form (`isCanonical_encode`). Together, encoding a decoded message gives back the datagram
that it came in exactly if the datagram is canonical (`encode_eq_iff_isCanonical`).
-/

namespace NetWatch

open Ber Ber.Grammar

/-! ## Values -/

namespace Smi.Value

theorem eq_content {content : Octets} {v : Value} (h : IsContent content v)
    (hcontent : HasCanonicalContent v.tag content) : content = v.content := by
  cases v with
  | int32 n => exact oneForm_integer32 content n h hcontent
  | unsigned32 n | counter32 n | timeTicks n =>
    exact oneForm_unsigned32 (by simp [unsignedTags, tag]) content n h hcontent
  | counter64 n => exact oneForm_unsigned64 (by simp [unsignedTags, tag]) content n h hcontent
  | objectId oid => exact Oid.IsContent.eq_content h
  | _ => exact h

theorem oneForm_isElement : OneForm IsElement IsCanonical Push.forwardValue := by
  intro d v hd hcanonical
  obtain ⟨content, hv, hcontent, rfl⟩ := hcanonical.exists_content hd
  rw [Push.forwardValue, ← eq_content hv hcontent]

theorem hasCanonicalContent_content (v : Value) : HasCanonicalContent v.tag v.content := by
  cases v with
  | int32 n => exact hasCanonicalContent_integer n.toInt
  | unsigned32 n | counter32 n | timeTicks n | counter64 n =>
    exact hasCanonicalContent_unsigned (by simp [unsignedTags, tag]) n.toNat
  | octetString data => exact hasCanonicalContent_plain Tag.octetString (by decide) data
  | opaqueData data => exact hasCanonicalContent_plain Tag.opaqueData (by decide) data
  | ipAddress ip => exact hasCanonicalContent_plain Tag.ipAddress (by decide) ip.octets
  | objectId oid => exact hasCanonicalContent_plain Tag.objectIdentifier (by decide) oid.content
  | _ => exact hasCanonicalContent_plain _ (by decide) []

theorem isCanonical_forwardValue {v : Value} (short : (Push.forwardValue v).length < Length.bound) :
    IsCanonical (Push.forwardValue v) :=
  isCanonical_of_short short v.hasCanonicalContent_content

end Smi.Value

namespace Snmp

open Smi

/-! ## Decoded octets in canonical form -/

theorem oneForm_integer : OneForm (Tlv Tag.integer integer32) IsCanonical
    fun n => encodeElement Tag.integer (Integer.content n.toInt) :=
  oneForm_integer32.tlv

theorem oneForm_oid : OneForm (Tlv Tag.objectIdentifier Oid.IsContent) IsCanonical
    fun oid => encodeElement Tag.objectIdentifier oid.content :=
  (OneForm.of_exact (fun _ _ h => Oid.IsContent.eq_content h) _).tlv

theorem VarBind.oneForm_isContent :
    OneForm (Tlv Tag.sequence VarBind.IsContent) IsCanonical VarBind.encode := by
  intro d vb hd hcanonical
  obtain ⟨content, hvb, hcontent, rfl⟩ := hcanonical.exists_constructed (by decide) hd
  cases hvb with
  | intro hname hvalue =>
    obtain ⟨hn, hv⟩ := hcontent.of_append hname
    rw [VarBind.encode_eq, oneForm_oid _ _ hname hn, Value.oneForm_isElement _ _ hvalue hv]

theorem VarBind.oneForm_isList : OneForm VarBind.IsList IsCanonical VarBind.encodeList := by
  intro d vbs hd hcanonical
  obtain ⟨content, hvbs, hcontent, rfl⟩ := hcanonical.exists_constructed (by decide) hd
  have hlist : content = vbs.flatMap VarBind.encode :=
    VarBind.oneForm_isContent.many _ _ hvbs hcontent
  rw [VarBind.encodeList, ← hlist]

theorem PduType.isConstructed_tag (pduType : PduType) : pduType.tag.isConstructed := by
  cases pduType <;> decide

theorem Pdu.oneForm_isContent (pduType : PduType) :
    OneForm (Tlv pduType.tag (Pdu.IsContent pduType)) IsCanonical Pdu.encode := by
  intro d p hd hcanonical
  obtain ⟨content, hp, hcontent, rfl⟩ := hcanonical.exists_constructed pduType.isConstructed_tag hd
  rw [Pdu.encode, (Pdu.prepends_push p).build_eq]
  cases hp with
  | intro h₁ h₂ h₃ h₄ =>
    obtain ⟨c₁, hcontent⟩ := hcontent.of_append h₁
    obtain ⟨c₂, hcontent⟩ := hcontent.of_append h₂
    obtain ⟨c₃, c₄⟩ := hcontent.of_append h₃
    rw [oneForm_integer _ _ h₁ c₁, oneForm_integer _ _ h₂ c₂, oneForm_integer _ _ h₃ c₃,
      VarBind.oneForm_isList _ _ h₄ c₄]

theorem TrapPdu.oneForm_isContent :
    OneForm (Tlv Tag.trapV1 TrapPdu.IsContent) IsCanonical TrapPdu.encode := by
  intro d t hd hcanonical
  obtain ⟨content, ht, hcontent, rfl⟩ := hcanonical.exists_constructed (by decide) hd
  rw [TrapPdu.encode, (TrapPdu.prepends_push t).build_eq]
  cases ht with
  | intro h₁ h₂ h₃ h₄ h₅ h₆ =>
    obtain ⟨c₁, hcontent⟩ := hcontent.of_append h₁
    obtain ⟨c₂, hcontent⟩ := hcontent.of_append h₂
    obtain ⟨c₃, hcontent⟩ := hcontent.of_append h₃
    obtain ⟨c₄, hcontent⟩ := hcontent.of_append h₄
    obtain ⟨c₅, c₆⟩ := hcontent.of_append h₅
    have hagent := (OneForm.of_exact (fun _ _ => id) _).tlv _ _ h₂ c₂
    have huptime := (oneForm_unsigned32 (by decide)).tlv _ _ h₅ c₅
    rw [oneForm_oid _ _ h₁ c₁, hagent, oneForm_integer _ _ h₃ c₃, oneForm_integer _ _ h₄ c₄,
      huptime, VarBind.oneForm_isList _ _ h₆ c₆]

theorem PduBody.oneForm_isElement : OneForm PduBody.IsElement IsCanonical PduBody.encode := by
  rintro d body hd hcanonical
  cases hd with
  | trapV1 h => exact TrapPdu.oneForm_isContent _ _ h hcanonical
  | pdu _ h => exact Pdu.oneForm_isContent _ _ _ h hcanonical

theorem Message.oneForm_isDatagram : OneForm Message.IsDatagram IsCanonical Message.encode := by
  intro d m hd hcanonical
  obtain ⟨content, hm, hcontent, rfl⟩ := hcanonical.exists_constructed (by decide) hd
  rw [Message.encode_eq]
  cases hm with
  | intro h₁ h₂ h₃ =>
    obtain ⟨c₁, hcontent⟩ := hcontent.of_append h₁
    obtain ⟨c₂, c₃⟩ := hcontent.of_append h₂
    have hcommunity := (OneForm.of_exact (fun _ _ => id) _).tlv _ _ h₂ c₂
    rw [oneForm_integer _ _ h₁ c₁, hcommunity, PduBody.oneForm_isElement _ _ h₃ c₃]

/-! ## Written octets are canonical -/

theorem isCanonical_integer (n : Int32) :
    IsCanonical (encodeElement Tag.integer (Integer.content n.toInt)) :=
  isCanonical_encodeElement (Nat.lt_of_le_of_lt (integer32_content n).2.1 (by decide))
    (hasCanonicalContent_integer n.toInt)

theorem isCanonical_oid {oid : Oid}
    (short : (encodeElement Tag.objectIdentifier oid.content).length < Length.bound) :
    IsCanonical (encodeElement Tag.objectIdentifier oid.content) :=
  isCanonical_of_short short (hasCanonicalContent_plain _ (by decide) _)

theorem VarBind.isCanonical_encode {vb : VarBind} (short : vb.encode.length < Length.bound) :
    IsCanonical vb.encode := by
  rw [VarBind.encode_eq] at short ⊢
  refine isCanonical_constructed (by decide) short fun hlt => ?_
  rw [List.length_append] at hlt
  refine .append ?_ ?_
  · exact isCanonical_oid (by omega)
  · exact Value.isCanonical_forwardValue (by omega)

theorem VarBind.isCanonical_encodeList {vbs : List VarBind}
    (short : (VarBind.encodeList vbs).length < Length.bound) :
    IsCanonical (VarBind.encodeList vbs) := by
  refine isCanonical_constructed (by decide) short fun hlt => ?_
  clear short
  induction vbs with
  | nil => exact .nil
  | cons vb vbs ih =>
    rw [List.flatMap_cons, List.length_append] at hlt
    rw [List.flatMap_cons]
    exact .append (VarBind.isCanonical_encode (by omega)) (ih (by omega))

theorem Pdu.isCanonical_encode {p : Pdu} (short : p.encode.length < Length.bound) :
    IsCanonical p.encode := by
  rw [Pdu.encode, (Pdu.prepends_push p).build_eq] at short ⊢
  refine isCanonical_constructed p.pduType.isConstructed_tag short fun hlt => ?_
  simp only [List.length_append] at hlt
  refine (isCanonical_integer _).append ((isCanonical_integer _).append
    ((isCanonical_integer _).append ?_))
  exact VarBind.isCanonical_encodeList (by omega)

theorem TrapPdu.isCanonical_encode {t : TrapPdu} (short : t.encode.length < Length.bound) :
    IsCanonical t.encode := by
  rw [TrapPdu.encode, (TrapPdu.prepends_push t).build_eq] at short ⊢
  refine isCanonical_constructed (by decide) short fun hlt => ?_
  simp only [List.length_append] at hlt
  refine .append ?_ (.append ?_
    ((isCanonical_integer _).append ((isCanonical_integer _).append (.append ?_ ?_))))
  · exact isCanonical_oid (by omega)
  · exact isCanonical_of_short (by omega) (hasCanonicalContent_plain _ (by decide) _)
  · exact isCanonical_of_short (by omega) (hasCanonicalContent_unsigned (by decide) _)
  · exact VarBind.isCanonical_encodeList (by omega)

theorem PduBody.isCanonical_encode {body : PduBody} (short : body.encode.length < Length.bound) :
    IsCanonical body.encode := by
  cases body with
  | pdu p => exact Pdu.isCanonical_encode short
  | trapV1 t => exact TrapPdu.isCanonical_encode short

namespace Message

/-- What is written for a message is canonical if it is not too long, that is if it can be read. -/
theorem isCanonical_encode {m m' : Message} (h : IsDatagram m.encode m') :
    IsCanonical m.encode := by
  rw [encode_eq] at h ⊢
  have short := length_lt_bound_of_tlv h
  refine isCanonical_encodeElement short ((hasCanonicalContent_iff (by decide)).2 ?_)
  simp only [List.length_append] at short
  refine (isCanonical_integer _).append (.append ?_ ?_)
  · exact isCanonical_of_short (by omega) (hasCanonicalContent_plain _ (by decide) _)
  · exact PduBody.isCanonical_encode (by omega)

/-! ## Main statement -/

/-- Encoding a decoded message gives back the datagram exactly if every length in it, at every depth,
and every integer in it has the shortest form. -/
theorem encode_eq_iff_isCanonical {d : Octets} {m : Message} (h : decode d = .ok m) :
    m.encode = d ↔ IsCanonical d := by
  have hd : IsDatagram d m := (fills_read (.whole d) m).1 (decode_eq_ok_iff_read.1 h)
  constructor
  · rintro rfl
    exact isCanonical_encode hd
  · exact fun hcanonical => (oneForm_isDatagram d m hd hcanonical).symm

/-- A message with the largest counter, in two datagrams: one with a zero octet in front of the four of
the counter, and one with a single octet, whose sign fills the other three. -/
theorem encode_eq_iff_isCanonical_counter :
    let m : Message :=
      ⟨.v2c, [0x61], .pdu ⟨.getRequest, 7, 0, 0, [⟨⟨[1, 3, 6]⟩, .counter32 4294967295⟩]⟩⟩
    let long : Octets := [0x30, 0x20, 0x02, 0x01, 0x01, 0x04, 0x01, 0x61, 0xA0, 0x18, 0x02, 0x01,
      0x07, 0x02, 0x01, 0x00, 0x02, 0x01, 0x00, 0x30, 0x0D, 0x30, 0x0B, 0x06, 0x02, 0x2B, 0x06, 0x41,
      0x05, 0x00, 0xFF, 0xFF, 0xFF, 0xFF]
    let short : Octets := [0x30, 0x1C, 0x02, 0x01, 0x01, 0x04, 0x01, 0x61, 0xA0, 0x14, 0x02, 0x01,
      0x07, 0x02, 0x01, 0x00, 0x02, 0x01, 0x00, 0x30, 0x09, 0x30, 0x07, 0x06, 0x02, 0x2B, 0x06, 0x41,
      0x01, 0xFF]
    decode long = .ok m ∧ IsCanonical long ∧ decode short = .ok m ∧ ¬IsCanonical short := by
  intro m long short
  have hlong : decode long = .ok m := by decide +kernel
  have hshort : decode short = .ok m := by decide +kernel
  refine ⟨hlong, (encode_eq_iff_isCanonical hlong).1 (by decide +kernel), hshort, fun h => ?_⟩
  exact absurd ((encode_eq_iff_isCanonical hshort).2 h) (by decide +kernel)

end Message

end Snmp

end NetWatch
