import NetWatch.Icmp.Echo
import NetWatch.Proofs.Ber.Buffer
import NetWatch.Proofs.Ber.Shortest

/-!
# The fields of an echo packet

`p.Stands data` says that the fields of `p` and the signature stand in `data`, each at its place,
whatever stands in the place of the checksum and behind. It holds of the packet as it is written
(`stands_encode`), and a packet is read where it stands and is a request or a reply
(`decode?_eq_some_iff`). Octets that are written over a packet change the fields that they cover and
no others (`Stands.overwrite`).
-/

namespace NetWatch

namespace Octets

variable {data data' bytes : Octets} {start stop offset : Nat}

/-- As many octets as a number was given stand for it if they are its digits. -/
theorem toNat_eq_iff {width n : Nat} (hlen : data.length = width) (h : n < 256 ^ width) :
    toNat data = n ↔ data = ofNat width n := by
  constructor
  · rintro rfl
    rw [← hlen, ofNat_toNat]
  · rintro rfl
    exact toNat_ofNat h

theorem extract_congr (h : ∀ j, start ≤ j → j < stop → data[j]? = data'[j]?) :
    data.extract start stop = data'.extract start stop := by
  refine List.ext_getElem? fun j => ?_
  simp only [List.extract, List.getElem?_take, List.getElem?_drop]
  split
  · exact h _ (by omega) (by omega)
  · rfl

theorem extract_append (h : stop ≤ data.length) (more : Octets) :
    (data ++ more).extract start stop = data.extract start stop :=
  extract_congr fun _ _ hj => List.getElem?_append_left (by omega)

theorem extract_overwrite_of_outside (h : offset + bytes.length ≤ data.length)
    (hout : stop ≤ offset ∨ offset + bytes.length ≤ start) :
    (data.overwrite offset bytes).extract start stop = data.extract start stop :=
  extract_congr fun _ _ _ => getElem?_overwrite_of_outside h (by omega)

theorem extract_overwrite_self (h : offset + bytes.length ≤ data.length) :
    (data.overwrite offset bytes).extract offset (offset + bytes.length) = bytes := by
  rw [List.extract, drop_overwrite h, Nat.add_sub_cancel_left, List.take_left]

theorem extract_eq_singleton_iff {i : Nat} {b : UInt8} :
    data.extract i (i + 1) = [b] ↔ data[i]? = some b := by
  rw [List.extract, Nat.add_sub_cancel_left, ← List.head?_drop]
  cases data.drop i <;> simp

end Octets

namespace Icmp.Echo

open Octets

/-- The fields of a packet and its signature, each with its offset. The checksum and the padding may
be anything. -/
def fields (p : Echo) : List (Nat × Octets) := [
  (0, [p.kind]),
  (1, [0]),
  (4, ofNat 2 p.identifier.toNat),
  (6, ofNat 2 p.sequence.toNat),
  (8, ofNat 8 p.key.toNat),
  (16, ofNat 8 p.sentAt.toNat),
  (24, signature)]

structure Stands (p : Echo) (data : Octets) : Prop where
  size_le : size ≤ data.length
  field : ∀ f ∈ p.fields, data.extract f.1 (f.1 + f.2.length) = f.2

theorem field_end_le {p : Echo} {f : Nat × Octets} (hf : f ∈ p.fields) :
    f.1 + f.2.length ≤ size := by
  simp only [fields, List.mem_cons, List.not_mem_nil, or_false] at hf
  rcases hf with rfl | rfl | rfl | rfl | rfl | rfl | rfl <;> simp [size, signature]

theorem stands_encode (p : Echo) : p.Stands p.encode where
  size_le := Nat.le_refl _
  field := by
    simp only [fields, List.forall_mem_cons]
    exact ⟨rfl, rfl, rfl, rfl, rfl, rfl, rfl, nofun⟩

variable {p p' : Echo} {data : Octets}

theorem Stands.identifier (h : p.Stands data) :
    data.extract 4 6 = ofNat 2 p.identifier.toNat := by
  simpa using h.field (4, ofNat 2 p.identifier.toNat) (by simp [fields])

theorem Stands.key (h : p.Stands data) : data.extract 8 16 = ofNat 8 p.key.toNat := by
  simpa using h.field (8, ofNat 8 p.key.toNat) (by simp [fields])

theorem Stands.signed (h : p.Stands data) : data.extract 24 32 = signature :=
  h.field (24, signature) (by simp [fields])

/-! ## Changed octets -/

theorem Stands.append (h : p.Stands data) (more : Octets) : p.Stands (data ++ more) where
  size_le := by
    rw [List.length_append]
    exact Nat.le_add_right_of_le h.size_le
  field f hf := by
    rw [extract_append (Nat.le_trans (field_end_le hf) h.size_le), h.field f hf]

/-- Of the packet that stands there afterwards, each field has been written or has been left alone.
-/
theorem Stands.overwrite (h : p.Stands data) {offset : Nat} {bytes : Octets}
    (hfit : offset + bytes.length ≤ size)
    (hfields : ∀ f ∈ p'.fields, f = (offset, bytes) ∨
      f ∈ p.fields ∧ (f.1 + f.2.length ≤ offset ∨ offset + bytes.length ≤ f.1)) :
    p'.Stands (data.overwrite offset bytes) := by
  have hfit' := Nat.le_trans hfit h.size_le
  refine ⟨by rw [length_overwrite hfit']; exact h.size_le, fun f hf => ?_⟩
  rcases hfields f hf with rfl | ⟨hf, hout⟩
  · exact extract_overwrite_self hfit'
  · rw [extract_overwrite_of_outside hfit' hout, h.field f hf]

theorem Stands.overwriteKind (h : p.Stands data) (kind : UInt8) :
    Stands { p with kind } (data.overwrite 0 [kind]) :=
  h.overwrite (by simp [size]) (by simp [fields])

theorem Stands.overwriteChecksum (h : p.Stands data) (sum : UInt16) :
    p.Stands (data.overwrite 2 (ofNat 2 sum.toNat)) :=
  h.overwrite (by simp [size]) (by simp [fields])

theorem Stands.overwriteIdentifier (h : p.Stands data) (identifier : UInt16) :
    Stands { p with identifier } (data.overwrite 4 (ofNat 2 identifier.toNat)) :=
  h.overwrite (by simp [size]) (by simp [fields])

/-! ## Reading -/

theorem slice_eq_iff {start count n : Nat} (hlen : start + count ≤ data.length)
    (h : n < 256 ^ count) :
    slice data start count = n ↔ data.extract start (start + count) = ofNat count n := by
  have hslice : slice data start count = toNat (data.extract start (start + count)) := by
    rw [slice, List.extract, Nat.add_sub_cancel_left]
  rw [hslice]
  refine toNat_eq_iff ?_ h
  rw [List.extract, List.length_take, List.length_drop]
  omega

theorem stands_iff : p.Stands data ↔ size ≤ data.length ∧
    data[0]? = some p.kind ∧ data[1]? = some 0 ∧
    slice data 4 2 = p.identifier.toNat ∧ slice data 6 2 = p.sequence.toNat ∧
    slice data 8 8 = p.key.toNat ∧ slice data 16 8 = p.sentAt.toNat ∧
    (data.drop 24).take 8 = signature := by
  refine Iff.trans ⟨fun h => ⟨h.1, h.2⟩, fun h => ⟨h.1, h.2⟩⟩ (and_congr_right fun hsize => ?_)
  have hsize : 40 ≤ data.length := hsize
  rw [slice_eq_iff (by omega) p.identifier.toNat_lt, slice_eq_iff (by omega) p.sequence.toNat_lt,
    slice_eq_iff (by omega) p.key.toNat_lt, slice_eq_iff (by omega) p.sentAt.toNat_lt,
    ← extract_eq_singleton_iff, ← extract_eq_singleton_iff]
  simp only [fields, List.forall_mem_cons, length_ofNat, List.length_singleton]
  simp [List.extract, signature]

theorem slice_lt (data : Octets) (start count : Nat) : slice data start count < 256 ^ count :=
  toNat_lt_of_length_le (List.length_take_le _ _)

theorem slice_eq_toNat_iff16 {start : Nat} {n : UInt16} :
    UInt16.ofNat (slice data start 2) = n ↔ slice data start 2 = n.toNat := by
  rw [← UInt16.toNat_inj, UInt16.toNat_ofNat_of_lt' (slice_lt data start 2)]

theorem slice_eq_toNat_iff64 {start : Nat} {n : UInt64} :
    UInt64.ofNat (slice data start 8) = n ↔ slice data start 8 = n.toNat := by
  rw [← UInt64.toNat_inj, UInt64.toNat_ofNat_of_lt' (slice_lt data start 8)]

/-- The packets that are read: signed, of code zero, and requests or replies. -/
theorem decode?_eq_some_iff :
    decode? data = some p ↔ p.Stands data ∧ (p.kind = echoRequest ∨ p.kind = echoReply) := by
  rw [stands_iff]
  obtain ⟨kind, identifier, sequence, key, sentAt⟩ := p
  match data with
  | [] => simp [decode?, size]
  | [_] => simp [decode?, size]
  | first :: code :: rest =>
    simp only [decode?, List.getElem?_cons_zero, List.getElem?_cons_succ, Option.some.injEq,
      Option.ite_none_left_eq_some, Echo.mk.injEq, slice_eq_toNat_iff16, slice_eq_toNat_iff64,
      not_or, not_and_or, Nat.not_lt, Decidable.not_not]
    constructor
    · rintro ⟨⟨hsize, hcode⟩, hsigned, hkind, rfl, hfields⟩
      exact ⟨⟨hsize, rfl, hcode, hfields.1, hfields.2.1, hfields.2.2.1, hfields.2.2.2, hsigned⟩,
        hkind⟩
    · rintro ⟨⟨hsize, rfl, hcode, hid, hseq, hkey, hsent, hsigned⟩, hkind⟩
      exact ⟨⟨hsize, hcode⟩, hsigned, hkind, rfl, hid, hseq, hkey, hsent⟩

end Icmp.Echo

end NetWatch
