import NetWatch.Proofs.Icmp.Fields

/-!
# Echo packets as they are written and read

A message is read as an echo packet if it is long enough, of code zero, signed, and a request or a
reply (`IsEchoMessage`). The packet that is read is the one whose written form agrees with the
message in every octet that holds a field (`Agrees`), so nothing of the message but its checksum,
its padding and what follows them is lost. What was written is read back if its kind is one of the
two.
-/

namespace NetWatch

theorem Octets.extract_eq_iff {data data' : Octets} {start stop : Nat} :
    data.extract start stop = data'.extract start stop ↔
      ∀ i, start ≤ i → i < stop → data[i]? = data'[i]? := by
  refine ⟨fun h i hi hstop => ?_, extract_congr⟩
  have hplace := congrArg (·[i - start]?) h
  simp only [List.extract, List.getElem?_take, List.getElem?_drop] at hplace
  rwa [if_pos (by omega), if_pos (by omega), Nat.add_sub_cancel' hi] at hplace

namespace Icmp.Echo

/-- The messages that are read: signed, of code zero, and requests or replies. -/
structure IsEchoMessage (data : Octets) : Prop where
  long : 40 ≤ data.length
  kind : data[0]? = some echoRequest ∨ data[0]? = some echoReply
  code : data[1]? = some 0
  signed : data.extract 24 32 = signature

/-- The message has the octets of the packet at every place but those of the checksum and of the
padding. -/
def Agrees (p : Echo) (data : Octets) : Prop :=
  ∀ i < 40, ¬ (2 ≤ i ∧ i < 4) → ¬ (32 ≤ i ∧ i < 40) → p.encode[i]? = data[i]?

variable {p : Echo} {data : Octets} {f : Nat × Octets}

/-- No field lies over the checksum or the padding. -/
theorem field_apart (hf : f ∈ p.fields) :
    f.1 + f.2.length ≤ 2 ∨ 4 ≤ f.1 ∧ f.1 + f.2.length ≤ 32 := by
  simp only [fields, List.mem_cons, List.not_mem_nil, or_false] at hf
  rcases hf with rfl | rfl | rfl | rfl | rfl | rfl | rfl <;> simp [signature]

theorem exists_field (p : Echo) {i : Nat} (hi : i < 2 ∨ 4 ≤ i ∧ i < 32) :
    ∃ f ∈ p.fields, f.1 ≤ i ∧ i < f.1 + f.2.length := by
  simp only [fields, List.exists_mem_cons_iff, List.length_singleton, Octets.length_ofNat,
    show signature.length = 8 from rfl]
  omega

theorem Stands.getElem? (h : p.Stands data) (hf : f ∈ p.fields) {i : Nat} (hi : f.1 ≤ i)
    (hstop : i < f.1 + f.2.length) : p.encode[i]? = data[i]? := by
  have hsame := ((stands_encode p).field f hf).trans (h.field f hf).symm
  exact Octets.extract_eq_iff.1 hsame i hi hstop

theorem stands_iff_agrees : p.Stands data ↔ 40 ≤ data.length ∧ p.Agrees data := by
  constructor
  · refine fun h => ⟨h.size_le, fun i _ hsum hpadding => ?_⟩
    obtain ⟨f, hf, hstart, hstop⟩ := p.exists_field (i := i) (by omega)
    exact h.getElem? hf hstart hstop
  · rintro ⟨hsize, hagrees⟩
    refine ⟨hsize, fun f hf => ?_⟩
    have hapart := field_apart hf
    refine (Octets.extract_eq_iff.2 fun i hi hstop => ?_).trans ((stands_encode p).field f hf)
    exact (hagrees i (by omega) (by omega) (by omega)).symm

theorem IsEchoMessage.exists_stands (h : IsEchoMessage data) :
    ∃ p : Echo, p.Stands data ∧ (p.kind = echoRequest ∨ p.kind = echoReply) := by
  obtain ⟨kind, hkind, hecho⟩ : ∃ kind, data[0]? = some kind ∧
      (kind = echoRequest ∨ kind = echoReply) :=
    h.kind.elim (⟨_, ·, .inl rfl⟩) (⟨_, ·, .inr rfl⟩)
  refine ⟨⟨kind, UInt16.ofNat (slice data 4 2), UInt16.ofNat (slice data 6 2),
    UInt64.ofNat (slice data 8 8), UInt64.ofNat (slice data 16 8)⟩, ?_, hecho⟩
  exact stands_iff.2 ⟨h.long, hkind, h.code, slice_eq_toNat_iff16.1 rfl, slice_eq_toNat_iff16.1 rfl,
    slice_eq_toNat_iff64.1 rfl, slice_eq_toNat_iff64.1 rfl, h.signed⟩

theorem Stands.isEchoMessage (h : p.Stands data)
    (hkind : p.kind = echoRequest ∨ p.kind = echoReply) : IsEchoMessage data := by
  obtain ⟨hsize, hfirst, hcode, -⟩ := stands_iff.1 h
  exact ⟨hsize, hkind.imp (hfirst.trans <| congrArg some ·) (hfirst.trans <| congrArg some ·),
    hcode, h.signed⟩

theorem decode?_encode (p : Echo) : decode? p.encode =
    if p.kind = echoRequest ∨ p.kind = echoReply then some p else none := by
  split
  · next h => exact decode?_eq_some_iff.2 ⟨stands_encode p, h⟩
  · next h =>
    refine Option.eq_none_iff_forall_ne_some.2 fun other hother => h ?_
    obtain ⟨hstands, hkind⟩ := decode?_eq_some_iff.1 hother
    have hfirst : some p.kind = some other.kind := (stands_iff.1 hstands).2.1
    rwa [Option.some.inj hfirst]

/-- What becomes of echo packets on the wire.

- A packet is read back from its written form if it is a request or a reply, and else nothing is.
- A packet is found in just the messages that are long enough, signed, of code zero, and of one of
  the two kinds.
- It is the one packet that agrees with the message but for the checksum and the padding. -/
theorem packets_read_back :
    (∀ p : Echo, decode? p.encode =
      if p.kind = echoRequest ∨ p.kind = echoReply then some p else none) ∧
    ∀ data : Octets, ((∃ p, decode? data = some p) ↔ IsEchoMessage data) ∧
      ∀ p, decode? data = some p ↔ IsEchoMessage data ∧ p.Agrees data := by
  refine ⟨decode?_encode, fun data => ⟨⟨?_, fun h => ?_⟩, fun p => ⟨fun h => ?_, ?_⟩⟩⟩
  · rintro ⟨p, hp⟩
    obtain ⟨hstands, hkind⟩ := decode?_eq_some_iff.1 hp
    exact hstands.isEchoMessage hkind
  · obtain ⟨p, hp⟩ := h.exists_stands
    exact ⟨p, decode?_eq_some_iff.2 hp⟩
  · obtain ⟨hstands, hkind⟩ := decode?_eq_some_iff.1 h
    exact ⟨hstands.isEchoMessage hkind, (stands_iff_agrees.1 hstands).2⟩
  · rintro ⟨hmessage, hagrees⟩
    have hstands : p.Stands data := stands_iff_agrees.2 ⟨hmessage.long, hagrees⟩
    have hfirst : data[0]? = some p.kind := (stands_iff.1 hstands).2.1
    have hkind := hmessage.kind
    rw [hfirst, Option.some.injEq, Option.some.injEq] at hkind
    exact decode?_eq_some_iff.2 ⟨hstands, hkind⟩

end Icmp.Echo

end NetWatch
