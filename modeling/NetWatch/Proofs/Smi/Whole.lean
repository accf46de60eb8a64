import NetWatch.Proofs.Ber.Words
import NetWatch.Proofs.Smi.RoundTrip

/-!
# Whole elements or none

An element is written at an offset of a buffer in three pieces, behind a look at the room that is
left. The look decides: with room for all of it the three pieces succeed, and without it none of them
is begun (`write_whole_or_nothing`). The same holds on a machine whose offsets are words of 64 bits,
for every word as the offset.
-/

namespace NetWatch.Smi

open NetWatch.Ber

/-- One element to write: a content under a tag of choice, or a value under its own. -/
inductive Item where
  | integer32 (tag : Tag) (n : Int32)
  | unsigned32 (tag : Tag) (n : UInt32)
  | unsigned64 (tag : Tag) (n : UInt64)
  | string (tag : Tag) (data : Octets)
  | null (tag : Tag)
  | oid (tag : Tag) (o : Oid)
  | value (v : Value)

namespace Item

def tag : Item → Tag
  | integer32 tag _ | unsigned32 tag _ | unsigned64 tag _ | string tag _ | null tag | oid tag _ => tag
  | value v => v.tag

def content : Item → Octets
  | integer32 _ n => Integer.content n.toInt
  | unsigned32 _ n => Integer.content n.toNat
  | unsigned64 _ n => Integer.content n.toNat
  | string _ data => data
  | null _ => []
  | oid _ o => o.content
  | value v => v.content

def element (item : Item) : Octets := encodeElement item.tag item.content

def write (item : Item) (offset : Nat) : BufferWriter Nat :=
  match item with
  | integer32 tag n => BufferWriter.integer32 offset tag n
  | unsigned32 tag n => BufferWriter.unsigned32 offset tag n
  | unsigned64 tag n => BufferWriter.unsigned64 offset tag n
  | string tag data => BufferWriter.string offset tag data
  | null tag => BufferWriter.null offset tag
  | oid tag o => BufferWriter.oid offset tag o
  | value v => v.encodeAt offset

def writeWords (item : Item) (offset : UInt64) : WordWriter UInt64 :=
  WordWriter.element offset item.tag item.content

theorem write_eq (item : Item) (offset : Nat) :
    item.write offset = BufferWriter.element offset item.tag item.content := by
  cases item with
  | value v => exact Value.encodeAt_eq v offset
  | _ => rfl

end Item

/-- What becomes of a buffer and the attempt to write `element` at `offset`: all of the element
stands there and the other octets are as they were, or every octet is as it was and the error says
how much room the element needs and how much there is. -/
structure WholeOrNothing (element : Octets) (offset : Nat) (buf : Octets)
    (result : EStateM.Result EncodeError Octets Nat) : Prop where
  ok_iff : (∃ next left, result = .ok next left) ↔ offset + element.length ≤ buf.length
  ok : ∀ next left, result = .ok next left → next = offset + element.length ∧
    ∀ j, left[j]? = if offset ≤ j ∧ j < next then element[j - offset]? else buf[j]?
  error : ∀ e left, result = .error e left →
    e = .bufferTooSmall element.length (buf.length - offset) ∧ left = buf

variable {buf : Octets} {offset : Nat}

theorem wholeOrNothing_element (tag : Tag) {content : Octets}
    (short : content.length < Length.bound) :
    WholeOrNothing (encodeElement tag content) offset buf
      (BufferWriter.element offset tag content buf) := by
  by_cases hroom : offset + (encodeElement tag content).length ≤ buf.length
  · rw [BufferWriter.element_eq_ok short hroom]
    refine ⟨⟨fun _ => hroom, fun _ => ⟨_, _, rfl⟩⟩, ?_, nofun⟩
    rintro next left ⟨⟩
    exact ⟨rfl, Octets.getElem?_overwrite hroom⟩
  · rw [BufferWriter.element_eq_error (by omega)]
    refine ⟨⟨nofun, fun h => absurd h hroom⟩, nofun, ?_⟩
    rintro e left ⟨⟩
    exact ⟨rfl, rfl⟩

/-- Writing an item at an offset is all or nothing, for every buffer that a machine can hold and every
word as the offset. In words nothing else happens than over numbers, so no sum is too large. -/
theorem Item.write_whole_or_nothing (item : Item) (buf : Octets) (offset : UInt64)
    (short : item.content.length < 2 ^ 32) (held : buf.length < 2 ^ 64) :
    WholeOrNothing item.element offset.toNat buf (item.write offset.toNat buf) ∧
    item.writeWords offset buf = WordWriter.ofResult (item.write offset.toNat buf) ∧
    ∀ left, item.writeWords offset buf ≠ .error .overflow left := by
  have hwords : item.writeWords offset buf =
      WordWriter.ofResult (item.write offset.toNat buf) := by
    rw [item.write_eq]
    exact WordWriter.element_eq held short
  refine ⟨?_, hwords, ?_⟩
  · rw [item.write_eq]
    exact wholeOrNothing_element item.tag short
  · rw [hwords]
    cases item.write offset.toNat buf <;> nofun

/-- The largest 64-bit number, of eleven octets: it fills what is left of a buffer of thirteen behind
the second, and it is not written at the last offset that is a word. -/
theorem Item.write_whole_or_nothing_counter :
    let item : Item := .value (.counter64 18446744073709551615)
    let buf : Octets := List.replicate 13 0xAA
    item.content.length < 2 ^ 32 ∧ buf.length < 2 ^ 64 ∧
    (∃ left, item.write 2 buf = .ok 13 left ∧ left[1]? = some 0xAA ∧ left[2]? = some 0x46) ∧
    item.write 18446744073709551615 buf = .error (.bufferTooSmall 11 0) buf := by
  intro item buf
  have short : item.content.length < 2 ^ 32 := by decide +kernel
  have held : buf.length < 2 ^ 64 := by decide
  have hsize : item.element.length = 11 := by decide +kernel
  obtain ⟨hfits, -, -⟩ := item.write_whole_or_nothing buf 2 short held
  obtain ⟨hlast, -, -⟩ := item.write_whole_or_nothing buf 18446744073709551615 short held
  refine ⟨short, held, ?_, ?_⟩
  · obtain ⟨next, left, hw⟩ := hfits.ok_iff.2 (by rw [hsize]; decide)
    obtain ⟨hnext, hleft⟩ := hfits.ok next left hw
    rw [hsize] at hnext
    subst hnext
    refine ⟨left, hw, ?_, ?_⟩
    · rw [hleft]
      decide
    · rw [hleft]
      decide +kernel
  · cases hw : item.write 18446744073709551615 buf with
    | ok next left =>
      have hroom := hlast.ok_iff.1 ⟨next, left, hw⟩
      rw [hsize] at hroom
      exact absurd hroom (by decide)
    | error e left =>
      obtain ⟨rfl, rfl⟩ := hlast.error e left hw
      have hnone : buf.length - (18446744073709551615 : UInt64).toNat = 0 := by decide
      rw [hsize, hnone]

end NetWatch.Smi
