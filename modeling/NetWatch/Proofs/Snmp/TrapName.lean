import NetWatch.Program.TrapDaemon
import NetWatch.Proofs.Report.Names
import NetWatch.Proofs.Snmp.Recognition

/-!
# Names of received traps

A trap of version 1 has a name of version 2, which is printed and may be given back as a filter. The
enterprise of a trap that was received is valid, but two more arcs stand behind it in the name, and
nothing looks at these. `IsNameable` says for which traps the name is an identifier that can be
written, shown and read (`received_trap_name`); all but the traps of a vendor are among them.
-/

namespace NetWatch

namespace Oid

theorem child_child (oid : Oid) (a b : UInt32) : (oid.child a).child b = ⟨oid.arcs ++ [a, b]⟩ :=
  congrArg Oid.mk (List.append_assoc oid.arcs [a] [b])

/-- Behind a zero the other arc must be below 40. -/
theorem isValid_zero_cons_iff {b : UInt32} : IsValid ⟨[0, b]⟩ ↔ b < 40 := by
  constructor
  · rintro ⟨-, -, hsecond⟩
    exact hsecond 0 b [] rfl (by decide)
  · intro hb
    refine ⟨show 2 ≤ 128 by decide, ?_, ?_⟩
    · rintro x r ⟨⟩
      decide
    · rintro x y r ⟨⟩ -
      exact hb

theorem isValid_append_iff {a b : UInt32} {rest : List UInt32} (h : IsValid ⟨a :: b :: rest⟩)
    (more : List UInt32) :
    IsValid ⟨a :: b :: rest ++ more⟩ ↔ (a :: b :: rest).length + more.length ≤ maxArcs := by
  obtain ⟨-, hfirst, hsecond⟩ := h
  rw [IsValid, length, List.length_append]
  refine ⟨fun h => h.1, fun h => ⟨h, ?_, ?_⟩⟩
  · rintro x r ⟨⟩
    exact hfirst a _ rfl
  · rintro x y r ⟨⟩
    exact hsecond a b rest rfl

end Oid

/-- The text of an identifier that is not empty is taken for dotted text, not for a name. -/
theorem Report.Names.parse_text_eq_ok_iff {oid oid' : Oid} (h : oid.arcs ≠ []) :
    parse oid.text = .ok oid' ↔ Oid.ofText oid.text = .ok oid' := by
  obtain ⟨c, rest, htext, hdigit⟩ := Oid.exists_toList_text h
  exact parse_eq_ok_iff ⟨[], c, rest, htext, nofun, hdigit⟩

namespace Snmp

open Ber Ber.Grammar
open Program (TrapDaemon)

namespace TrapPdu

/-- The trap is the whole of a message, or what stands at the front of some octets. -/
def IsReceived (trap : TrapPdu) (data : Octets) : Prop :=
  (∃ version community, Message.decode data = .ok ⟨version, community, .trapV1 trap⟩) ∨
    ∃ after, TrapPdu.read (.whole data) = .ok trap after

/-- Two arcs have room behind the enterprise, and the second can stand behind a zero if it has to. -/
def IsNameable (trap : TrapPdu) : Prop :=
  trap.isEnterpriseSpecific = true → trap.enterprise.length ≤ 126 ∧
    (trap.enterprise.isEmpty = true → 0 ≤ trap.specificTrap ∧ trap.specificTrap < 40)

variable {trap : TrapPdu} {data : Octets}

/-! ## The enterprise -/

theorem IsContent.isSendable_enterprise {content : Octets} (h : IsContent content trap) :
    trap.enterprise.IsSendable := by
  cases h with
  | intro henterprise =>
    obtain ⟨-, hcontent⟩ := henterprise
    exact hcontent.isSendable

theorem IsReceived.isSendable_enterprise (h : trap.IsReceived data) :
    trap.enterprise.IsSendable := by
  rcases h with ⟨version, community, hdecode⟩ | ⟨after, hread⟩
  · obtain ⟨-, ⟨-, -, hbody, -⟩⟩ := (Message.decode_eq_ok_iff_isDatagram data _).1 hdecode
    cases hbody with
    | trapV1 htrap =>
      obtain ⟨-, hcontent⟩ := htrap
      exact hcontent.isSendable_enterprise
  · obtain ⟨_, ⟨-, hcontent⟩, -⟩ := (recognises_read _ _ _).1 hread
    exact hcontent.isSendable_enterprise

/-! ## The name -/

theorem toUInt32_lt_forty_iff (n : Int32) : n.toUInt32 < 40 ↔ 0 ≤ n ∧ n < 40 := by
  have hsign := BitVec.toInt_eq_toNat_cond n.toBitVec
  have hlt := n.toBitVec.isLt
  rw [UInt32.lt_iff_toNat_lt, Int32.le_iff_toInt_le, Int32.lt_iff_toInt_lt]
  change n.toBitVec.toNat < 40 ↔ 0 ≤ n.toBitVec.toInt ∧ n.toBitVec.toInt < 40
  rw [hsign]
  split <;> omega

theorem two_le_length_v2TrapOid (trap : TrapPdu) : 2 ≤ trap.v2TrapOid.length := by
  unfold v2TrapOid
  split <;> simp [Oid.length, Oid.child, snmpTraps]

theorem isValid_v2TrapOid_iff (h : trap.enterprise.IsSendable) :
    trap.v2TrapOid.IsValid ↔ trap.IsNameable := by
  obtain ⟨hvalid, hlen⟩ := h
  unfold v2TrapOid IsNameable
  rw [Oid.child_child]
  cases trap.isEnterpriseSpecific with
  | false => exact ⟨fun _ => nofun, fun _ => (Oid.validate_eq_ok_iff _).1 rfl⟩
  | true =>
    rw [if_pos rfl, forall_prop_of_true rfl]
    obtain ⟨⟨arcs⟩, _, _, specific, _, _⟩ := trap
    match arcs with
    | [] =>
      have hname : Oid.IsValid ⟨[] ++ [0, specific.toUInt32]⟩ ↔ 0 ≤ specific ∧ specific < 40 :=
        Oid.isValid_zero_cons_iff.trans (toUInt32_lt_forty_iff specific)
      rw [hname]
      exact ⟨fun h => ⟨Nat.zero_le _, fun _ => h⟩, fun h => h.2 rfl⟩
    | [a] => exact absurd rfl hlen
    | a :: b :: rest =>
      have hname := Oid.isValid_append_iff ((Oid.validate_eq_ok_iff _).1 hvalid)
        [0, specific.toUInt32]
      have hroom : (a :: b :: rest).length + [0, specific.toUInt32].length ≤ Oid.maxArcs ↔
          (a :: b :: rest).length ≤ 126 := Nat.add_le_add_iff_right (n := 2)
      rw [hname, hroom]
      exact ⟨fun h => ⟨h, nofun⟩, fun h => h.1⟩

theorem v2TrapOid_arcs_ne_nil (trap : TrapPdu) : trap.v2TrapOid.arcs ≠ [] :=
  List.length_pos_iff.1 (Nat.lt_of_lt_of_le Nat.zero_lt_two trap.two_le_length_v2TrapOid)

theorem isWanted_of_mem {filters : List Oid} (h : trap.v2TrapOid ∈ filters) :
    TrapDaemon.isWanted filters (.trapV1 trap) = true := by
  have hself : trap.v2TrapOid.startsWith trap.v2TrapOid = true :=
    List.isPrefixOf_iff_prefix.2 (List.prefix_refl _)
  have hany : filters.any trap.v2TrapOid.startsWith = true := List.any_eq_true.2 ⟨_, h, hself⟩
  rw [TrapDaemon.isWanted, PduBody.trapOid?, Option.any_some, hany, Bool.or_true]

/-- The name of a received trap in version 2, where adding one to the code does not overflow.

- It is valid exactly if the trap is nameable, and the same traps are those whose name is read back from
  its content, from its text, and from its text as a filter.
- It is the name that is reported, and the trap passes each list of filters that it is in. -/
theorem received_trap_name (h : trap.IsReceived data) (hcode : trap.genericTrap ≠ 2147483647) :
    let name := trap.v2TrapOid
    (trap.genericTrap + 1).toInt = trap.genericTrap.toInt + 1 ∧
    (name.validate = .ok () ↔ trap.IsNameable) ∧
    (Oid.ofContent name.content = .ok name ↔ trap.IsNameable) ∧
    (Oid.ofText name.text = .ok name ↔ trap.IsNameable) ∧
    (Report.Names.parse name.text = .ok name ↔ trap.IsNameable) ∧
    (∀ o source version community, (Report.TrapRecord.ofMessage o source version community
      (.trapV1 trap)).trapOid = some name) ∧
    ∀ filters, name ∈ filters → TrapDaemon.isWanted filters (.trapV1 trap) = true := by
  intro name
  have hvalid : name.IsValid ↔ trap.IsNameable := isValid_v2TrapOid_iff h.isSendable_enterprise
  have hne : name.arcs ≠ [] := trap.v2TrapOid_arcs_ne_nil
  have hlen : name.length ≠ 1 := Nat.ne_of_gt trap.two_le_length_v2TrapOid
  have htext : Oid.ofText name.text = .ok name ↔ trap.IsNameable := by
    rw [Oid.ofText_text_iff, and_iff_right hne, hvalid]
  refine ⟨?_, ?_, ?_, htext, ?_, fun _ _ _ _ => rfl, fun filters => isWanted_of_mem⟩
  · have hlow := trap.genericTrap.le_toInt
    have hhigh := trap.genericTrap.toInt_lt
    have hmax : trap.genericTrap.toInt ≠ 2147483647 := fun heq => hcode (Int32.toInt_inj.1 heq)
    have hone : (1 : Int32).toInt = 1 := rfl
    rw [Int32.toInt_add, hone]
    exact Int.bmod_eq_of_le (by omega) (by omega)
  · rw [Oid.validate_eq_ok_iff, hvalid]
  · rw [Oid.ofContent_content_eq_ok_iff, Oid.IsSendable, and_iff_left hlen, Oid.validate_eq_ok_iff,
      hvalid]
  · rw [Report.Names.parse_text_eq_ok_iff hne, htext]

/-- A vendor's trap with a code below zero, which counts as the largest arc. -/
def negativeCode : TrapPdu :=
  ⟨⟨[1, 3, 6, 1, 4, 1, 9]⟩, ⟨192, 0, 2, 1⟩, 6, -1, 0, []⟩

def negativeCodeDatagram : Octets :=
  [0x30, 0x21, 0x02, 0x01, 0x00, 0x04, 0x01, 0x61, 0xA4, 0x19, 0x06, 0x06, 0x2B, 0x06, 0x01, 0x04,
    0x01, 0x09, 0x40, 0x04, 0xC0, 0x00, 0x02, 0x01, 0x02, 0x01, 0x06, 0x02, 0x01, 0xFF, 0x43, 0x01,
    0x00, 0x30, 0x00]

theorem received_trap_name_negativeCode :
    negativeCode.IsReceived negativeCodeDatagram ∧ negativeCode.genericTrap ≠ 2147483647 ∧
    negativeCode.v2TrapOid = ⟨[1, 3, 6, 1, 4, 1, 9, 0, 4294967295]⟩ ∧
    Oid.ofText negativeCode.v2TrapOid.text = .ok negativeCode.v2TrapOid ∧
    TrapDaemon.isWanted [negativeCode.v2TrapOid] (.trapV1 negativeCode) = true := by
  have hreceived : negativeCode.IsReceived negativeCodeDatagram :=
    .inl ⟨.v1, [0x61], by decide +kernel⟩
  have hcode : negativeCode.genericTrap ≠ 2147483647 := by decide
  have hnameable : negativeCode.IsNameable := fun _ => ⟨by decide, nofun⟩
  obtain ⟨-, -, -, htext, -, -, hwanted⟩ := received_trap_name hreceived hcode
  exact ⟨hreceived, hcode, rfl, htext.2 hnameable, hwanted _ List.mem_cons_self⟩

/-- A vendor's trap without a vendor. Its code is too large to stand behind the zero. -/
def noEnterprise : TrapPdu := ⟨⟨[]⟩, ⟨192, 0, 2, 1⟩, 6, 40, 0, []⟩

def noEnterpriseDatagram : Octets :=
  [0x30, 0x1B, 0x02, 0x01, 0x00, 0x04, 0x01, 0x61, 0xA4, 0x13, 0x06, 0x00, 0x40, 0x04, 0xC0, 0x00,
    0x02, 0x01, 0x02, 0x01, 0x06, 0x02, 0x01, 0x28, 0x43, 0x01, 0x00, 0x30, 0x00]

/-- Not every received trap has a name that can be used. -/
theorem received_noEnterprise :
    Message.decode noEnterpriseDatagram = .ok ⟨.v1, [0x61], .trapV1 noEnterprise⟩ ∧
    noEnterprise.genericTrap ≠ 2147483647 ∧
    noEnterprise.v2TrapOid = ⟨[0, 40]⟩ ∧
    noEnterprise.v2TrapOid.validate ≠ .ok () ∧
    Oid.ofContent noEnterprise.v2TrapOid.content ≠ .ok noEnterprise.v2TrapOid ∧
    Oid.ofText noEnterprise.v2TrapOid.text ≠ .ok noEnterprise.v2TrapOid ∧
    Report.Names.parse noEnterprise.v2TrapOid.text ≠ .ok noEnterprise.v2TrapOid := by
  decide +kernel

end TrapPdu

end Snmp

end NetWatch
