import NetWatch.Proofs.Snmp.Recognition
import NetWatch.Proofs.Snmp.Writing

/-!
# Round trips of messages

A written message is read back exactly if it is sendable (`decode_encode_eq_ok_iff`). A message that
was read is sendable, so it survives being written again, whatever forms of lengths and integers it
came in (`decode_encode_of_decode_eq_ok`).
-/

namespace NetWatch.Snmp.Message

open Ber

/-- The encoding of a message decodes to the message exactly if the message is sendable. -/
theorem decode_encode_eq_ok_iff (m : Message) (short : m.encode.length < 2 ^ 32) :
    decode m.encode = .ok m ↔ m.IsSendable := by
  rw [decode_eq_ok_iff_read, fills_read (.whole m.encode) m]
  exact ⟨isSendable_of_isDatagram, fun h => isDatagram_encode h short⟩

/-- A trap whose enterprise has one arc, which reads back with a second arc. -/
def loneArcTrap : Message :=
  ⟨.v1, [0x70], .trapV1 ⟨⟨[1]⟩, ⟨192, 0, 2, 1⟩, 6, -1, 4294967295, [⟨⟨[1, 3]⟩, .null⟩]⟩⟩

theorem decode_encode_loneArcTrap :
    loneArcTrap.encode.length < 2 ^ 32 ∧ decode loneArcTrap.encode ≠ .ok loneArcTrap := by
  have short : loneArcTrap.encode.length < 2 ^ 32 := by decide +kernel
  refine ⟨short, fun h => ?_⟩
  have hs := (decode_encode_eq_ok_iff loneArcTrap short).1 h
  exact (hs.oids ⟨[1]⟩ (.head _)).2 rfl

/-- The outer length has a digit too many, the version an octet too many, and the counter is its
last octet only, the others being the sign. -/
def loose : Octets :=
  [0x30, 0x81, 0x1D, 0x02, 0x02, 0x00, 0x01, 0x04, 0x01, 0x61, 0xA0, 0x14, 0x02, 0x01, 0x07, 0x02,
    0x01, 0x00, 0x02, 0x01, 0x00, 0x30, 0x09, 0x30, 0x07, 0x06, 0x02, 0x2B, 0x06, 0x41, 0x01, 0xFF]

def looseMessage : Message :=
  ⟨.v2c, [0x61], .pdu ⟨.getRequest, 7, 0, 0, [⟨⟨[1, 3, 6]⟩, .counter32 4294967295⟩]⟩⟩

/-- A message that was decoded decodes to itself again when it is encoded. The encoding may be
longer than the octets that the message came in. -/
theorem decode_encode_of_decode_eq_ok :
    (∀ (d : Octets) (m : Message), decode d = .ok m → m.encode.length < 2 ^ 32 →
      decode m.encode = .ok m) ∧
    ∃ d m, decode d = .ok m ∧ d.length < m.encode.length := by
  refine ⟨fun d m h short => ?_, loose, looseMessage, by decide +kernel, by decide +kernel⟩
  rw [decode_eq_ok_iff_read, fills_read (.whole d) m] at h
  rw [decode_eq_ok_iff_read, fills_read (.whole m.encode) m]
  exact isDatagram_encode (isSendable_of_isDatagram h) short

theorem decode_encode_looseMessage :
    decode loose = .ok looseMessage ∧ looseMessage.encode.length < 2 ^ 32 ∧
      decode looseMessage.encode = .ok looseMessage :=
  have h : decode loose = .ok looseMessage := by decide +kernel
  have short : looseMessage.encode.length < 2 ^ 32 := by decide +kernel
  ⟨h, short, decode_encode_of_decode_eq_ok.1 loose looseMessage h short⟩

end NetWatch.Snmp.Message
