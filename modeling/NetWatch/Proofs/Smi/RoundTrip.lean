import NetWatch.Proofs.Ber.Buffer
import NetWatch.Proofs.Smi.Agreement
import NetWatch.Proofs.Snmp.Writing

/-!
# Values written and read back

A value can be written at an offset of a buffer, from its front, or pushed onto a builder, from its
end. Both give the same octets, and both ways to read a value give it back, unless it is an
identifier that has no content of its own (`encoders_agree`).
-/

namespace NetWatch.Smi

open NetWatch.Ber

variable {offset : Nat} {v : Value}

namespace Value

theorem encodeAt_eq (v : Value) (offset : Nat) :
    v.encodeAt offset = BufferWriter.element offset v.tag v.content := by
  cases v <;> rfl

/-- A value that stands at an offset is found there if it is sendable, and never else. -/
theorem decodeAt_written_iff (short : v.content.length < Length.bound) {written : Octets}
    (h : (Window.startingAt written offset).Passes (Push.forwardValue v)
      (.startingAt written (offset + (Push.forwardValue v).length))) :
    Value.decodeAt written offset = .ok (offset + (Push.forwardValue v).length, v) ↔
      ∀ oid ∈ v.oids, oid.IsSendable := by
  rw [decodeAt_eq_ok_iff]
  constructor
  · rintro ⟨d, hd, -⟩
    exact isSendable_of_isElement hd
  · intro hoids
    exact ⟨_, .intro (definiteLength_encode short) (isContent_content hoids), h⟩

end Value

/-- Writing at an offset of a buffer and pushing onto a builder give the same octets for a value.

- Pushing puts the same octets in front of whatever is there.
- In a buffer with room, these octets stand at the offset, with the tag in front, and all others are
  as they were.
- Both ways to read give the value back and end behind these octets, if the identifier that the value
  may be is valid and does not have exactly one arc, and only then. -/
theorem encoders_agree (v : Value) (buf : Octets) (offset : Nat)
    (short : v.content.length < 2 ^ 32)
    (room : offset + (Builder.build v.push).length ≤ buf.length) :
    let pushed := Builder.build v.push
    let next := offset + pushed.length
    (∀ b : Builder, (v.push b).octets = pushed ++ b.octets) ∧
    ∃ written : Octets, v.encodeAt offset buf = .ok next written ∧
      written.length = buf.length ∧ (written.drop offset).take pushed.length = pushed ∧
      (∀ j, j < offset ∨ next ≤ j → written[j]? = buf[j]?) ∧ written[offset]? = some v.tag ∧
      (Value.decodeAt written offset = .ok (next, v) ↔ ∀ oid ∈ v.oids, oid.IsSendable) ∧
      (Value.read (.startingAt written offset) = .ok v (.startingAt written next) ↔
        ∀ oid ∈ v.oids, oid.IsSendable) := by
  have hpushed : Builder.build v.push = Push.forwardValue v := v.prepends_push.build_eq
  rw [hpushed] at room ⊢
  intro pushed next
  have hstands := Window.passes_overwrite room
  have hfound := Value.decodeAt_written_iff short hstands
  refine ⟨v.prepends_push, buf.overwrite offset (Push.forwardValue v), ?_, ?_, ?_, ?_, ?_, hfound, ?_⟩
  · rw [Value.encodeAt_eq]
    exact BufferWriter.element_eq_ok short room
  · exact Octets.length_overwrite room
  · rw [Octets.drop_overwrite room, List.take_left]
  · exact fun j hj => Octets.getElem?_overwrite_of_outside room hj
  · rw [← Window.head?_startingAt]
    exact hstands.head?_eq rfl
  · rw [← hfound, (Value.agrees_read _ offset).found_iff]

/-- The largest 32-bit value, which takes five content octets, between two octets in front and one
behind. -/
theorem encoders_agree_unsigned32 :
    let v : Value := .unsigned32 4294967295
    let buf : Octets := List.replicate 10 0xAA
    v.content.length < 2 ^ 32 ∧ 2 + (Builder.build v.push).length ≤ buf.length ∧
      ∃ written, v.encodeAt 2 buf = .ok 9 written ∧ Value.decodeAt written 2 = .ok (9, v) ∧
        written[1]? = some 0xAA ∧ written[9]? = some 0xAA := by
  intro v buf
  have short : v.content.length < 2 ^ 32 := by decide +kernel
  have hlen : (Builder.build v.push).length = 7 := by decide +kernel
  have room : 2 + (Builder.build v.push).length ≤ buf.length := by
    rw [hlen]
    decide
  obtain ⟨-, written, hwritten, -, -, helse, -, hfound, -⟩ := encoders_agree v buf 2 short room
  rw [hlen] at hwritten helse hfound
  exact ⟨short, room, written, hwritten, hfound.2 nofun, helse 1 (.inl (by decide)),
    helse 9 (.inr (by decide))⟩

end NetWatch.Smi
