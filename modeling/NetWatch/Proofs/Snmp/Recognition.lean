import NetWatch.Proofs.Ber.Recognition
import NetWatch.Proofs.Snmp.Grammar

/-!
# Reading recognises the grammar of messages

Every reader of a message recognises its rule of the grammar, from values up to the datagram. The
main statement, `decode_eq_ok_iff_isDatagram`, is that a datagram is accepted exactly if the grammar
derives it, and then gives the message that it stands for.
-/

namespace NetWatch

open Ber Ber.Grammar Ber.Reader

namespace Smi.Value

/-! ## Values -/

theorem readTagged_tag (v : Value) : readTagged v.tag = match v with
    | int32 _ => int32 <$> Reader.integer
    | unsigned32 _ => unsigned32 <$> Reader.unsigned32 Tag.unsigned32
    | counter32 _ => counter32 <$> Reader.unsigned32 Tag.counter32
    | timeTicks _ => timeTicks <$> Reader.unsigned32 Tag.timeTicks
    | counter64 _ => counter64 <$> Reader.unsigned64 Tag.counter64
    | octetString _ => octetString <$> Reader.string Tag.octetString
    | opaqueData _ => opaqueData <$> Reader.string Tag.opaqueData
    | ipAddress _ => ipAddress <$> Reader.ipAddress
    | objectId _ => objectId <$> Reader.oid
    | null => (fun _ => null) <$> Reader.null
    | noSuchObject => (fun _ => noSuchObject) <$> Reader.empty Tag.noSuchObject
    | noSuchInstance => (fun _ => noSuchInstance) <$> Reader.empty Tag.noSuchInstance
    | endOfMibView => (fun _ => endOfMibView) <$> Reader.empty Tag.endOfMibView := by
  cases v <;> rfl

theorem tag_of_readTagged {tag : Tag} {w w' : Window} {v : Value}
    (h : readTagged tag w = .ok v w') : v.tag = tag := by
  unfold readTagged at h
  -- one branch for each known tag, and a failure behind them
  iterate 13
    rcases ite_eq_ok_iff.1 h with ⟨htag, h⟩ | ⟨-, h⟩
    · obtain ⟨n, -, rfl⟩ := map_eq_ok_iff.1 h
      exact htag.symm
  cases h

theorem map_eq_ok_iff_isElement {w w' : Window} {r : Reader α} {tag : Tag} {g : Grammar α}
    {make : α → Value} {n : α} (hr : r.Recognises (Tlv tag g))
    (hg : ∀ c, g c n ↔ IsContent c (make n)) (inj : ∀ m, make m = make n → m = n) :
    (make <$> r) w = .ok (make n) w' ↔ ∃ d, Tlv tag IsContent d (make n) ∧ w.Passes d w' := by
  rw [map_eq_ok_iff]
  constructor
  · rintro ⟨m, hm, hmn⟩
    rw [inj m hmn] at hm
    obtain ⟨d, hd, hp⟩ := (hr w n w').1 hm
    exact ⟨d, hd.imp fun c => (hg c).1, hp⟩
  · rintro ⟨d, hd, hp⟩
    exact ⟨n, (hr w n w').2 ⟨d, hd.imp fun c => (hg c).2, hp⟩, rfl⟩

theorem readTagged_eq_ok_iff {w w' : Window} {v : Value} :
    readTagged v.tag w = .ok v w' ↔ ∃ d, IsElement d v ∧ w.Passes d w' := by
  rw [readTagged_tag]
  cases v with
  | int32 n =>
    exact map_eq_ok_iff_isElement (recognises_integerTagged _) (fun _ => .rfl) (by simp)
  | unsigned32 n | counter32 n | timeTicks n =>
    exact map_eq_ok_iff_isElement (recognises_unsigned32 _) (fun _ => .rfl) (by simp)
  | counter64 n =>
    exact map_eq_ok_iff_isElement (recognises_unsigned64 _) (fun _ => .rfl) (by simp)
  | octetString data | opaqueData data =>
    exact map_eq_ok_iff_isElement (recognises_string (by decide)) (fun _ => .rfl) (by simp)
  | ipAddress ip =>
    exact map_eq_ok_iff_isElement recognises_ipAddress (fun _ => .rfl) (by simp)
  | objectId oid => exact map_eq_ok_iff_isElement recognises_oid (fun _ => .rfl) (by simp)
  | null | noSuchObject | noSuchInstance | endOfMibView =>
    exact map_eq_ok_iff_isElement (n := ()) (recognises_empty _) (fun _ => .rfl) (by simp)

theorem recognises_read : Value.read.Recognises IsElement := by
  intro w v w'
  rw [Value.read, peekTag?_bind]
  constructor
  · intro h
    cases hhead : w.octets.head? with
    | none => rw [hhead] at h; cases h
    | some tag =>
      rw [hhead] at h
      cases tag_of_readTagged h
      exact readTagged_eq_ok_iff.1 h
  · rintro ⟨d, hd, hp⟩
    rw [hp.head?_eq hd.head?_eq]
    exact readTagged_eq_ok_iff.2 ⟨d, hd, hp⟩

end Smi.Value

namespace Snmp

open Smi

/-! ## Bindings -/

namespace VarBind

theorem fills_readBody : VarBind.readBody.Fills VarBind.IsContent := by
  refine (Fills.bind recognises_oid fun oid => Fills.bind Value.recognises_read fun v =>
    fills_expectEnd (VarBind.mk oid v)).congr fun d vb => ⟨?_, ?_⟩
  · rintro ⟨hoid, ⟨hv, ⟨⟩⟩⟩
    rw [List.append_nil]
    exact .intro hoid hv
  · rintro ⟨hoid, hv⟩
    exact .intro hoid (.last (f := VarBind.mk _) hv)

theorem recognises_read : VarBind.read.Recognises (Tlv Tag.sequence VarBind.IsContent) :=
  recognises_constructed fills_readBody

theorem recognises_readList : VarBind.readList.Recognises VarBind.IsList :=
  recognises_constructed (fills_untilEnd recognises_read fun _ _ => tlv_ne_nil)

end VarBind

/-! ## PDUs -/

theorem PduType.ofTag?_eq_some_iff {tag : Tag} {pduType : PduType} :
    PduType.ofTag? tag = some pduType ↔ pduType.tag = tag :=
  find?_key_eq_some_iff fun p => by cases p <;> rfl

theorem recognises_integer : Reader.integer.Recognises (Tlv Tag.integer integer32) :=
  recognises_integerTagged _

theorem Pdu.fills_readBody (pduType : PduType) :
    (Pdu.readBody pduType).Fills (Pdu.IsContent pduType) := by
  refine (Fills.bind recognises_integer fun requestId => Fills.bind recognises_integer fun status =>
    Fills.bind recognises_integer fun index =>
    Fills.bind VarBind.recognises_readList fun varbinds =>
    fills_expectEnd (Pdu.mk pduType requestId status index varbinds)).congr fun d p => ⟨?_, ?_⟩
  · rintro ⟨h₁, ⟨h₂, ⟨h₃, ⟨h₄, ⟨⟩⟩⟩⟩⟩
    rw [List.append_nil]
    exact .intro h₁ h₂ h₃ h₄
  · rintro ⟨h₁, h₂, h₃, h₄⟩
    exact .intro h₁ (.intro h₂ (.intro h₃ (.last (f := Pdu.mk _ _ _ _) h₄)))

theorem Pdu.recognises_read : Pdu.read.Recognises fun d p =>
    ∃ pduType, pduType ≠ .trapV1 ∧ Tlv (PduType.tag pduType) (Pdu.IsContent pduType) d p := by
  refine Recognises.offset fun start w p w' => ?_
  rw [bind_eq_ok_iff]
  constructor
  · rintro ⟨⟨tag, n⟩, w₁, hh, h⟩
    cases ht : PduType.ofTag? tag with
    | none => simp only [ht] at h; cases h
    | some pduType =>
      by_cases hv1 : pduType = .trapV1
      · simp only [ht, hv1] at h; cases h
      · cases PduType.ofTag?_eq_some_iff.1 ht
        have h : (do Reader.within (← Reader.window n) (readBody pduType) : Reader Pdu) w₁ =
            .ok p w' := by
          cases pduType <;> first | exact absurd rfl hv1 | exact h
        obtain ⟨d, hd, hp⟩ := (header_within_iff (fills_readBody pduType)).1 ⟨n, w₁, hh, h⟩
        exact ⟨d, ⟨pduType, hv1, hd⟩, hp⟩
  · rintro ⟨d, ⟨pduType, hv1, hd⟩, hp⟩
    obtain ⟨n, w₁, hh, h⟩ := (header_within_iff (fills_readBody pduType)).2 ⟨d, hd, hp⟩
    refine ⟨_, w₁, hh, ?_⟩
    simp only [PduType.ofTag?_eq_some_iff.2 (rfl : pduType.tag = pduType.tag)]
    cases pduType <;> first | exact absurd rfl hv1 | exact h

theorem TrapPdu.fills_readBody : TrapPdu.readBody.Fills TrapPdu.IsContent := by
  refine (Fills.bind recognises_oid fun enterprise => Fills.bind recognises_ipAddress fun agent =>
    Fills.bind recognises_integer fun generic => Fills.bind recognises_integer fun specific =>
    Fills.bind (recognises_unsigned32 _) fun uptime =>
    Fills.bind VarBind.recognises_readList fun varbinds =>
    fills_expectEnd (TrapPdu.mk enterprise agent generic specific uptime varbinds)).congr
    fun d t => ⟨?_, ?_⟩
  · rintro ⟨h₁, ⟨h₂, ⟨h₃, ⟨h₄, ⟨h₅, ⟨h₆, ⟨⟩⟩⟩⟩⟩⟩⟩
    rw [List.append_nil]
    exact .intro h₁ h₂ h₃ h₄ h₅ h₆
  · rintro ⟨h₁, h₂, h₃, h₄, h₅, h₆⟩
    exact .intro h₁ (.intro h₂ (.intro h₃ (.intro h₄ (.intro h₅
      (.last (f := TrapPdu.mk _ _ _ _ _) h₆)))))

theorem TrapPdu.recognises_read : TrapPdu.read.Recognises (Tlv Tag.trapV1 TrapPdu.IsContent) :=
  recognises_constructed fills_readBody

theorem PduBody.IsElement.head?_eq {d : Octets} {body : PduBody} (h : PduBody.IsElement d body) :
    d.head? = some body.pduType.tag := by
  cases h with
  | trapV1 h => exact h.head?_eq
  | pdu _ h =>
    cases h with
    | intro _ hc =>
      cases hc
      rfl

/-- The first tag tells the trap of version 1 from all other bodies. -/
theorem PduBody.IsElement.head?_eq_trapV1_iff {d : Octets} {body : PduBody}
    (h : PduBody.IsElement d body) : d.head? = some Tag.trapV1 ↔ body.pduType = .trapV1 := by
  rw [h.head?_eq, Option.some.injEq, ← PduType.ofTag?_eq_some_iff]
  exact ⟨fun h => (Option.some.inj h).symm, fun h => by rw [h]; rfl⟩

theorem PduBody.recognises_read : PduBody.read.Recognises PduBody.IsElement := by
  intro w body w'
  rw [PduBody.read, peekTag?_bind, ite_eq_ok_iff, map_eq_ok_iff, map_eq_ok_iff]
  constructor
  · rintro (⟨-, trap, h, rfl⟩ | ⟨-, p, h, rfl⟩)
    · obtain ⟨d, hd, hp⟩ := (TrapPdu.recognises_read w trap w').1 h
      exact ⟨d, .trapV1 hd, hp⟩
    · obtain ⟨d, ⟨pduType, hv1, hd⟩, hp⟩ := (Pdu.recognises_read w p w').1 h
      exact ⟨d, .pdu hv1 hd, hp⟩
  · rintro ⟨d, hd, hp⟩
    rw [hp.head?_eq hd.head?_eq, ← hd.head?_eq, hd.head?_eq_trapV1_iff]
    cases hd with
    | trapV1 hd =>
      exact .inl ⟨rfl, _, (TrapPdu.recognises_read w _ w').2 ⟨d, hd, hp⟩, rfl⟩
    | @pdu _ pduType p hv1 hd =>
      have hty : p.pduType = pduType := by
        cases hd with
        | intro _ hc => cases hc; rfl
      exact .inr ⟨fun h => hv1 (hty.symm.trans h), p,
        (Pdu.recognises_read w p w').2 ⟨d, ⟨_, hv1, hd⟩, hp⟩, rfl⟩

/-! ## Messages -/

theorem Version.ofNumber?_eq_some_iff {n : Int32} {version : Version} :
    Version.ofNumber? n = some version ↔ version.number = n :=
  find?_key_eq_some_iff fun v => by cases v <;> rfl

namespace Message

/-- What follows the community: a body that fits the version. -/
def IsBehindCommunity (version : Version) (community : Octets) : Grammar Message := fun d m =>
  ∃ body, PduBody.IsElement d body ∧ (body.pduType = .trapV1 → version = .v1) ∧
    m = ⟨version, community, body⟩

def IsBehindNumber (number : Int32) : Grammar Message := fun d m =>
  ∃ version, Version.number version = number ∧
    Seq (Tlv Tag.octetString octets) (IsBehindCommunity version) d m

theorem fills_behindCommunity (version : Version) (community : Octets) (bodyStart : Nat) :
    Fills (do
      let tag ← Reader.peekTag?
      if version = .v2c ∧ tag = some Tag.trapV1 then
        Reader.fail bodyStart (.unknownPduType Tag.trapV1)
      else
        let body ← PduBody.read
        Reader.expectEnd
        return Message.mk version community body) (IsBehindCommunity version community) := by
  have hread := Fills.bind PduBody.recognises_read fun body =>
    fills_expectEnd (Message.mk version community body)
  intro w m
  simp only [peekTag?_bind, ite_eq_ok_iff]
  constructor
  · rintro ⟨w', ⟨-, ⟨⟩⟩ | ⟨hfit, h⟩⟩
    have h := (hread w m).1 ⟨w', h⟩
    generalize w.octets = d at h hfit
    obtain ⟨hbody, ⟨⟩⟩ := h
    rw [List.append_nil] at hfit ⊢
    refine ⟨_, hbody, fun htrap => ?_, rfl⟩
    rw [hbody.head?_eq_trapV1_iff.2 htrap] at hfit
    cases version <;> simp_all
  · rintro ⟨body, hbody, hfit, rfl⟩
    obtain ⟨w', h⟩ := (hread w _).2 (.last (f := Message.mk version community) hbody)
    refine ⟨w', .inr ⟨?_, h⟩⟩
    rintro ⟨rfl, htag⟩
    cases hfit (hbody.head?_eq_trapV1_iff.1 htag)

theorem fills_behindNumber (start : Nat) (number : Int32) :
    Fills (match Version.ofNumber? number with
      | none => Reader.fail start (.unknownVersion number)
      | some version => do
        let community ← Reader.octetString
        let bodyStart ← Reader.offset
        let tag ← Reader.peekTag?
        if version = .v2c ∧ tag = some Tag.trapV1 then
          Reader.fail bodyStart (.unknownPduType Tag.trapV1)
        else
          let body ← PduBody.read
          Reader.expectEnd
          return Message.mk version community body) (IsBehindNumber number) := by
  cases hv : Version.ofNumber? number with
  | none =>
    rintro w m
    constructor
    · rintro ⟨w', ⟨⟩⟩
    · rintro ⟨version, hnum, -⟩
      rw [Version.ofNumber?_eq_some_iff.2 hnum] at hv
      cases hv
  | some version =>
    refine (Fills.bind (recognises_string (by decide)) fun community =>
      Fills.offset (fills_behindCommunity version community)).congr fun d m => ⟨fun h => ?_, ?_⟩
    · exact ⟨version, Version.ofNumber?_eq_some_iff.1 hv, h⟩
    · rintro ⟨version', hnum, h⟩
      cases hv.symm.trans (Version.ofNumber?_eq_some_iff.2 hnum)
      exact h

theorem fills_readBody : Message.readBody.Fills Message.IsContent := by
  refine (Fills.offset fun start => Fills.bind recognises_integer
    (fills_behindNumber start)).congr fun d m => ⟨?_, ?_⟩
  · rintro ⟨h₁, version, rfl, ⟨h₂, body, h₃, hfit, rfl⟩⟩
    exact .intro h₁ h₂ h₃ hfit
  · rintro ⟨h₁, h₂, h₃, hfit⟩
    exact .intro h₁ ⟨_, rfl, .intro h₂ ⟨_, h₃, hfit, rfl⟩⟩

theorem read_eq : Message.read = (do
    let m ← (do Reader.within (← Reader.constructed Tag.sequence) readBody : Reader Message)
    Reader.expectEnd
    return m) := by
  rw [bind_assoc]
  rfl

theorem fills_read : Message.read.Fills Message.IsDatagram := by
  rw [read_eq]
  refine (Fills.bind (recognises_constructed fills_readBody) fun m => fills_expectEnd m).congr
    fun d m => ⟨?_, fun h => .last (f := id) h⟩
  rintro ⟨h, ⟨⟩⟩
  rwa [List.append_nil]

theorem decode_eq_ok_iff_read {d : Octets} {m : Message} :
    Message.decode d = .ok m ↔ ∃ w', Message.read (.whole d) = .ok m w' := by
  rw [decode, runOn]
  cases read (Window.whole d) <;> simp

/-- A datagram is accepted exactly if the grammar derives it, for the message it is derived for. -/
theorem decode_eq_ok_iff_isDatagram (d : Octets) (m : Message) :
    Message.decode d = .ok m ↔ Message.IsDatagram d m := by
  rw [decode_eq_ok_iff_read]
  exact fills_read (.whole d) m

end Message

end Snmp

end NetWatch
