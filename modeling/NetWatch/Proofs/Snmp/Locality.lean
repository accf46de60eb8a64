import NetWatch.Proofs.Ber.Locality
import NetWatch.Proofs.Smi.Agreement

/-!
# Decoding is local and self-delimiting

Values, bindings, lists of bindings and PDUs are elements, so each of them is decoded from its own
octets alone (`decoders_are_local`): what stands in front or behind, and how much of it, does not
matter, and an element that is cut anywhere is refused.
-/

namespace NetWatch

open Ber Ber.Grammar Ber.Reader

namespace Smi.Value

theorem isLocal_decodeAt : IsLocal Value.decodeAt := by
  have hread : Value.read.decodeAt = Value.decodeAt := by
    funext data offset
    exact (agrees_read data offset).decodeAt_eq
  rw [← hread]
  exact recognises_read.isLocal fun _ _ h => Tlv.forget h

end Smi.Value

namespace Snmp

open Smi

theorem Pdu.isLocal_read : IsLocal Pdu.read.decodeAt :=
  Pdu.recognises_read.isLocal fun _ _ ⟨_, _, h⟩ => h.forget

theorem PduBody.ofElements : OfElements PduBody.IsElement := by
  rintro d body (h | ⟨-, h⟩)
  · exact h.forget
  · exact h.forget

theorem Message.IsDatagram.not_take {d : Octets} {m m' : Message} (h : Message.IsDatagram d m)
    {k : Nat} (hk : k < d.length) : ¬Message.IsDatagram (d.take k) m' := by
  intro h'
  have hsame : d.take k = d :=
    h'.eq_of_append_eq h ((d.take_append_drop k).trans (List.append_nil d).symm)
  have hlen := congrArg List.length hsame
  rw [List.length_take] at hlen
  omega

/-- Every decoder of a part of a message finds a value in the octets of the value alone, wherever
these stand, and finds none where they are cut. A reader that stands in a window is one that stands
in the buffer cut at the end of the window. So no proper prefix of a message is a message. -/
theorem decoders_are_local :
    IsLocal Value.decodeAt ∧ IsLocal VarBind.read.decodeAt ∧ IsLocal VarBind.readList.decodeAt ∧
    IsLocal Pdu.read.decodeAt ∧ IsLocal TrapPdu.read.decodeAt ∧ IsLocal PduBody.read.decodeAt ∧
    ∀ (d : Octets) (m : Message), Message.decode d = .ok m →
      ∀ k, k < d.length → ∃ e, Message.decode (d.take k) = .error e := by
  refine ⟨Value.isLocal_decodeAt, VarBind.recognises_read.isLocal ofElements_tlv,
    VarBind.recognises_readList.isLocal ofElements_tlv, Pdu.isLocal_read,
    TrapPdu.recognises_read.isLocal ofElements_tlv, PduBody.recognises_read.isLocal PduBody.ofElements,
    fun d m h k hk => ?_⟩
  have hd : Message.IsDatagram d m :=
    (Message.fills_read (.whole d) m).1 (Message.decode_eq_ok_iff_read.1 h)
  cases hcut : Message.decode (d.take k) with
  | error e => exact ⟨e, rfl⟩
  | ok m' =>
    have hd' := (Message.fills_read (.whole _) m').1 (Message.decode_eq_ok_iff_read.1 hcut)
    exact absurd hd' (hd.not_take hk)

/-- A binding between two octets that begin no element, in another buffer, behind two octets more and
without its last octet; and a message without its last octet. -/
theorem decoders_are_local_binding :
    let binding : Octets := [0x30, 0x07, 0x06, 0x02, 0x2B, 0x06, 0x41, 0x01, 0xFF]
    let buf : Octets := [0x1F] ++ binding ++ [0x80]
    let found : VarBind := ⟨⟨[1, 3, 6]⟩, .counter32 4294967295⟩
    let message : Octets := [0x30, 0x13, 0x02, 0x01, 0x01, 0x04, 0x01, 0x61, 0xA7, 0x0B, 0x02, 0x01,
      0x07, 0x02, 0x01, 0x00, 0x02, 0x01, 0x00, 0x30, 0x00]
    VarBind.read.decodeAt buf 1 = .ok (10, found) ∧
      VarBind.read.decodeAt ([0x30] ++ binding) 1 = .ok (10, found) ∧
      VarBind.read.decodeAt ([0x02, 0x09] ++ buf) 3 = .ok (12, found) ∧
      (∃ e, VarBind.read.decodeAt (buf.take 9) 1 = .error e) ∧
      Message.decode message = .ok ⟨.v2c, [0x61], .pdu ⟨.trapV2, 7, 0, 0, []⟩⟩ ∧
      ∃ e, Message.decode (message.take 20) = .error e := by
  intro binding buf found message
  obtain ⟨-, hlocal, -, -, -, -, hprefix⟩ := decoders_are_local
  have hfound : VarBind.read.decodeAt buf 1 = .ok (10, found) := by decide +kernel
  have hmessage : Message.decode message = .ok ⟨.v2c, [0x61], .pdu ⟨.trapV2, 7, 0, 0, []⟩⟩ := by
    decide +kernel
  exact ⟨hfound, hlocal.same hfound (by decide), hlocal.moved hfound [0x02, 0x09],
    hlocal.cut hfound (by decide), hmessage, hprefix _ _ hmessage 20 (by decide)⟩

end Snmp

end NetWatch
