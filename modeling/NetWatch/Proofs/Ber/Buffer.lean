import NetWatch.Ber.Buffer
import NetWatch.Proofs.Ber.Recognition
import NetWatch.Proofs.Ber.Writing

/-!
# Elements in a buffer

What is written at an offset overwrites the octets there and no others. An element is written in
three pieces, each behind the one before, which is the same as writing the whole of it at once
(`element_eq_ok`).
-/

namespace NetWatch

namespace Octets

variable {buf data more : Octets} {offset : Nat}

theorem length_overwrite (h : offset + data.length ≤ buf.length) :
    (buf.overwrite offset data).length = buf.length := by
  simp only [overwrite, List.length_append, List.length_take, List.length_drop]
  omega

/-- What stands behind the offset: what was written, and what stood behind that before. -/
theorem drop_overwrite (h : offset + data.length ≤ buf.length) :
    (buf.overwrite offset data).drop offset = data ++ buf.drop (offset + data.length) := by
  have hfront : (buf.take offset).length = offset := List.length_take_of_le (by omega)
  rw [overwrite, List.append_assoc, List.drop_left' hfront]

theorem getElem?_overwrite_of_outside (h : offset + data.length ≤ buf.length) {j : Nat}
    (hj : j < offset ∨ offset + data.length ≤ j) : (buf.overwrite offset data)[j]? = buf[j]? := by
  have hfront : (buf.take offset).length = offset := List.length_take_of_le (by omega)
  rw [overwrite, List.append_assoc]
  rcases hj with hj | hj
  · rw [List.getElem?_append_left (by omega), List.getElem?_take_of_lt hj]
  · rw [List.getElem?_append_right (by omega), List.getElem?_append_right (by omega), hfront,
      List.getElem?_drop]
    congr 1
    omega

theorem getElem?_overwrite (h : offset + data.length ≤ buf.length) (j : Nat) :
    (buf.overwrite offset data)[j]? =
      if offset ≤ j ∧ j < offset + data.length then data[j - offset]? else buf[j]? := by
  by_cases hj : offset ≤ j ∧ j < offset + data.length
  · rw [if_pos hj]
    have hdrop := congrArg (fun octets : Octets => octets[j - offset]?) (drop_overwrite h)
    simp only [List.getElem?_drop] at hdrop
    rw [show offset + (j - offset) = j by omega, List.getElem?_append_left (by omega)] at hdrop
    exact hdrop
  · rw [if_neg hj]
    exact getElem?_overwrite_of_outside h (by omega)

theorem overwrite_overwrite (h : offset + data.length ≤ buf.length) :
    (buf.overwrite offset data).overwrite (offset + data.length) more =
      buf.overwrite offset (data ++ more) := by
  have hfront : (buf.take offset ++ data).length = offset + data.length := by
    rw [List.length_append, List.length_take_of_le (by omega)]
  rw [overwrite, overwrite, List.take_left' hfront, ← List.drop_drop, List.drop_left' hfront,
    List.drop_drop, overwrite, List.append_assoc (buf.take offset), List.length_append,
    Nat.add_assoc]

end Octets

namespace Ber

variable {buf data : Octets} {offset : Nat}

theorem Window.passes_overwrite (h : offset + data.length ≤ buf.length) :
    (Window.startingAt (buf.overwrite offset data) offset).Passes data
      (.startingAt (buf.overwrite offset data) (offset + data.length)) where
  octets := by
    have hdrop := Octets.drop_overwrite h
    simp only [Window.startingAt]
    rw [← List.drop_drop, hdrop, List.drop_left]
  offset := rfl

namespace BufferWriter

theorem put_eq_ok (h : offset + data.length ≤ buf.length) :
    put offset data buf = .ok (offset + data.length) (buf.overwrite offset data) :=
  if_pos h

theorem bind_eq_of_ok {w : EStateM ε Octets α} {next : α → EStateM ε Octets β} {a : α}
    {buf' : Octets} (h : w buf = .ok a buf') : (w >>= next) buf = next a buf' := by
  change EStateM.bind w next buf = _
  rw [EStateM.bind, h]

/-- Two pieces, the second behind the first. -/
theorem put_put_eq_ok {w : BufferWriter Nat}
    (hw : w buf = .ok (offset + data.length) (buf.overwrite offset data)) {more : Octets}
    (room : offset + (data ++ more).length ≤ buf.length) : (do put (← w) more) buf =
      .ok (offset + (data ++ more).length) (buf.overwrite offset (data ++ more)) := by
  rw [List.length_append, ← Nat.add_assoc] at room ⊢
  have hdata : offset + data.length ≤ buf.length := by omega
  rw [bind_eq_of_ok hw, put_eq_ok (by rwa [Octets.length_overwrite hdata]),
    Octets.overwrite_overwrite hdata]

theorem header_eq_ok {tag : Tag} {len : Nat} (short : len < Length.bound)
    (room : offset + (tag :: Length.encode len).length ≤ buf.length) :
    header offset tag len buf = .ok (offset + (tag :: Length.encode len).length)
      (buf.overwrite offset (tag :: Length.encode len)) := by
  have hheader : header offset tag len buf =
      (do put (← put offset [tag]) (Length.encode len) : BufferWriter Nat) buf := by
    unfold header
    rw [if_neg (Nat.not_le.2 short)]
  have htag : offset + [tag].length ≤ buf.length := by
    simp only [List.length_cons, List.length_nil] at room ⊢
    omega
  rw [hheader]
  exact put_put_eq_ok (put_eq_ok htag) room

/-- An element that fits is written in two pieces: what stands before the content, and the content. -/
theorem element_eq_header {tag : Tag} {content : Octets}
    (room : offset + (encodeElement tag content).length ≤ buf.length) :
    element offset tag content buf =
      (do put (← header offset tag content.length) content : BufferWriter Nat) buf := by
  have hlen := length_encodeElement tag content
  unfold element
  rw [bind_eq_of_ok (rfl : (get : BufferWriter Octets) buf = .ok buf buf)]
  simp only
  rw [if_neg (by omega)]

theorem element_eq_ok {tag : Tag} {content : Octets} (short : content.length < Length.bound)
    (room : offset + (encodeElement tag content).length ≤ buf.length) :
    element offset tag content buf = .ok (offset + (encodeElement tag content).length)
      (buf.overwrite offset (encodeElement tag content)) := by
  have hlen := length_encodeElement tag content
  have hheader : offset + (tag :: Length.encode content.length).length ≤ buf.length := by
    rw [hlen, Length.size] at room
    rw [List.length_cons]
    omega
  rw [element_eq_header room]
  exact put_put_eq_ok (header_eq_ok short hheader) room

/-- An element that does not fit leaves the buffer as it was. -/
theorem element_eq_error {tag : Tag} {content : Octets}
    (noRoom : buf.length < offset + (encodeElement tag content).length) :
    element offset tag content buf = .error
      (.bufferTooSmall (encodeElement tag content).length (buf.length - offset)) buf := by
  have hlen := length_encodeElement tag content
  unfold element
  rw [bind_eq_of_ok (rfl : (get : BufferWriter Octets) buf = .ok buf buf)]
  simp only
  rw [if_pos (by omega), hlen]
  rfl

end BufferWriter

end Ber

end NetWatch
