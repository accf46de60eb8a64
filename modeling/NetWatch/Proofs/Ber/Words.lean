import NetWatch.Proofs.Ber.Buffer

/-!
# Offsets of 64 bits

A machine counts octets in words of 64 bits, and the sum of two words need not be one. The writers
here are those of `BufferWriter` with each offset and length a word and each sum checked: a sum that
is no word ends the write with `WordStop.overflow`. In a buffer whose length is a word they do what
the writers over numbers do (`element_eq`), so that no sum is too large, wherever the offset lies.
-/

namespace NetWatch.Ber

inductive WordStop where
  /-- A sum is no word. -/
  | overflow
  | failed (error : EncodeError)

abbrev WordWriter := EStateM WordStop Octets

namespace WordWriter

def count (data : Octets) : UInt64 := UInt64.ofNat data.length

def sum (a b : UInt64) : WordWriter UInt64 :=
  if a.toNat + b.toNat < UInt64.size then return a + b else throw .overflow

/-- Overwrites the octets between two offsets, if the buffer goes on to the second. -/
def store (offset stop : UInt64) (data : Octets) : WordWriter UInt64 := fun buf =>
  if stop ≤ count buf then .ok stop (buf.overwrite offset.toNat data)
  else .error (.failed (.bufferTooSmall data.length (buf.length - offset.toNat))) buf

def put (offset : UInt64) (data : Octets) : WordWriter UInt64 := do
  store offset (← sum offset (count data)) data

def header (offset : UInt64) (tag : Tag) (len : UInt64) : WordWriter UInt64 := do
  if len.toNat ≥ Length.bound then throw (.failed (.lengthOverflow len.toNat))
  let next ← put offset [tag]
  put next (Length.encode len.toNat)

def room (offset : UInt64) (buf : Octets) : UInt64 :=
  if offset ≤ count buf then count buf - offset else 0

def extent (content : Octets) : WordWriter UInt64 := do
  sum (← sum 1 (UInt64.ofNat (Length.size content.length))) (count content)

def element (offset : UInt64) (tag : Tag) (content : Octets) : WordWriter UInt64 := do
  let needed ← extent content
  let available := room offset (← get)
  if needed > available then throw (.failed (.bufferTooSmall needed.toNat available.toNat))
  let next ← header offset tag (count content)
  put next content

/-! ## The same as over numbers -/

/-- What a write over numbers came to, in words. -/
def ofResult : EStateM.Result EncodeError Octets Nat → EStateM.Result WordStop Octets UInt64
  | .ok next buf => .ok (UInt64.ofNat next) buf
  | .error e buf => .error (.failed e) buf

variable {buf data content : Octets} {offset : UInt64} {tag : Tag}

theorem toNat_count (held : data.length < UInt64.size) : (count data).toNat = data.length :=
  UInt64.toNat_ofNat_of_lt' held

theorem sum_eq_ok {a b : UInt64} (h : a.toNat + b.toNat < UInt64.size) :
    sum a b buf = .ok (a + b) buf := by
  unfold sum
  rw [if_pos h]
  rfl

theorem toNat_sum {a b : UInt64} (h : a.toNat + b.toNat < UInt64.size) :
    (a + b).toNat = a.toNat + b.toNat := by
  rw [UInt64.toNat_add]
  exact Nat.mod_eq_of_lt h

/-- Writes in a row: each part does what its partner over numbers does. -/
theorem bind_eq_ofResult {ww : WordWriter UInt64} {w : BufferWriter Nat}
    {next' : UInt64 → WordWriter UInt64} {next : Nat → BufferWriter Nat}
    (h : ww buf = ofResult (w buf))
    (hnext : ∀ stop left, w buf = .ok stop left →
      next' (UInt64.ofNat stop) left = ofResult (next stop left)) :
    (ww >>= next') buf = ofResult ((w >>= next) buf) := by
  change EStateM.bind ww next' buf = ofResult (EStateM.bind w next buf)
  unfold EStateM.bind
  rw [h]
  cases hw : w buf with
  | ok stop left => exact hnext stop left hw
  | error e left => rfl

theorem put_eq (held : buf.length < UInt64.size)
    (small : offset.toNat + data.length < UInt64.size) :
    put offset data buf = ofResult (BufferWriter.put offset.toNat data buf) := by
  have hcount : (count data).toNat = data.length := toNat_count (by omega)
  have hsum : offset.toNat + (count data).toNat < UInt64.size := by omega
  have hstop : offset + count data = UInt64.ofNat (offset.toNat + data.length) := by
    apply UInt64.toNat_inj.1
    rw [toNat_sum hsum, hcount, UInt64.toNat_ofNat_of_lt' small]
  have hput : put offset data buf = store offset (offset + count data) data buf := by
    change EStateM.bind (sum offset (count data)) (store offset · data) buf = _
    unfold EStateM.bind
    rw [sum_eq_ok hsum]
  have hfits : offset + count data ≤ count buf ↔ offset.toNat + data.length ≤ buf.length := by
    rw [UInt64.le_iff_toNat_le, toNat_sum hsum, hcount, toNat_count held]
  rw [hput]
  unfold store BufferWriter.put
  by_cases hroom : offset.toNat + data.length ≤ buf.length
  · rw [if_pos (hfits.2 hroom), if_pos hroom, hstop]
    rfl
  · rw [if_neg (mt hfits.1 hroom), if_neg hroom]
    rfl

theorem put_ok {offset stop : Nat} {left : Octets}
    (h : BufferWriter.put offset data buf = .ok stop left) :
    stop = offset + data.length ∧ stop ≤ buf.length ∧ left.length = buf.length := by
  unfold BufferWriter.put at h
  split at h
  · next hroom =>
    cases h
    exact ⟨rfl, hroom, Octets.length_overwrite hroom⟩
  · cases h

theorem put_put_eq {more : Octets} (held : buf.length < UInt64.size)
    (small : offset.toNat + data.length + more.length < UInt64.size) :
    (do put (← put offset data) more : WordWriter UInt64) buf =
      ofResult ((do BufferWriter.put (← BufferWriter.put offset.toNat data) more :
        BufferWriter Nat) buf) := by
  apply bind_eq_ofResult (put_eq held (by omega))
  intro stop left hw
  obtain ⟨rfl, -, hleft⟩ := put_ok hw
  have hstop : (UInt64.ofNat (offset.toNat + data.length)).toNat = offset.toNat + data.length :=
    UInt64.toNat_ofNat_of_lt' (by omega)
  rw [put_eq (by omega) (by omega), hstop]

theorem header_eq {len : UInt64} (held : buf.length < UInt64.size)
    (small : offset.toNat + 1 + (Length.encode len.toNat).length < UInt64.size) :
    header offset tag len buf = ofResult (BufferWriter.header offset.toNat tag len.toNat buf) := by
  unfold header BufferWriter.header
  by_cases hlong : len.toNat ≥ Length.bound
  · rw [if_pos hlong, if_pos hlong]
    rfl
  · rw [if_neg hlong, if_neg hlong]
    exact put_put_eq held small

theorem toNat_room (held : buf.length < UInt64.size) :
    (room offset buf).toNat = buf.length - offset.toNat := by
  have hcount : (count buf).toNat = buf.length := toNat_count held
  unfold room
  by_cases hinside : offset ≤ count buf
  · rw [if_pos hinside, UInt64.toNat_sub_of_le _ _ hinside, hcount]
  · rw [if_neg hinside]
    rw [UInt64.le_iff_toNat_le, hcount] at hinside
    rw [UInt64.toNat_zero]
    omega

theorem extent_eq_ok (buf : Octets) (tag : Tag) (short : content.length < Length.bound) :
    ∃ needed : UInt64, needed.toNat = (encodeElement tag content).length ∧
      extent content buf = .ok needed buf := by
  have hbound : Length.bound = 4294967296 := rfl
  have hword : UInt64.size = 18446744073709551616 := rfl
  have hone : (1 : UInt64).toNat = 1 := rfl
  have hfive := Length.length_encode_le content.length
  have hsize : (UInt64.ofNat (Length.size content.length)).toNat = Length.size content.length :=
    UInt64.toNat_ofNat_of_lt' (by rw [Length.size]; omega)
  have hcount : (count content).toNat = content.length := toNat_count (by omega)
  have hfront : (1 : UInt64).toNat + (UInt64.ofNat (Length.size content.length)).toNat <
      UInt64.size := by
    rw [hone, hsize, Length.size]
    omega
  have hall : (1 + UInt64.ofNat (Length.size content.length)).toNat + (count content).toNat <
      UInt64.size := by
    rw [toNat_sum hfront, hone, hsize, hcount, Length.size]
    omega
  refine ⟨1 + UInt64.ofNat (Length.size content.length) + count content, ?_, ?_⟩
  · rw [toNat_sum hall, toNat_sum hfront, hone, hsize, hcount, length_encodeElement]
  · unfold extent
    rw [BufferWriter.bind_eq_of_ok (sum_eq_ok hfront), sum_eq_ok hall]

/-- An element is written in words as it is over numbers, wherever the offset lies. The room is
looked at before anything is added to the offset, so no offset is formed beyond the end. -/
theorem element_eq (held : buf.length < UInt64.size) (short : content.length < Length.bound) :
    element offset tag content buf =
      ofResult (BufferWriter.element offset.toNat tag content buf) := by
  have hbound : Length.bound = 4294967296 := rfl
  have hword : UInt64.size = 18446744073709551616 := rfl
  have hcount : (count content).toNat = content.length := toNat_count (by omega)
  obtain ⟨needed, hneeded, hextent⟩ := extent_eq_ok buf tag short
  unfold element
  rw [BufferWriter.bind_eq_of_ok hextent,
    BufferWriter.bind_eq_of_ok (rfl : (get : WordWriter Octets) buf = .ok buf buf)]
  simp only
  have hfits : needed > room offset buf ↔
      buf.length < offset.toNat + (encodeElement tag content).length := by
    rw [gt_iff_lt, UInt64.lt_iff_toNat_lt, hneeded, toNat_room held]
    have := length_encodeElement tag content
    omega
  by_cases hroom : buf.length < offset.toNat + (encodeElement tag content).length
  · rw [if_pos (hfits.2 hroom), BufferWriter.element_eq_error hroom, hneeded, toNat_room held]
    rfl
  · have hwhole : offset.toNat + (encodeElement tag content).length ≤ buf.length := by omega
    have hlen : (encodeElement tag content).length =
        (tag :: Length.encode content.length).length + content.length := by
      simp only [encodeElement, List.length_cons, List.length_append]
      omega
    have hfront : offset.toNat + (tag :: Length.encode content.length).length ≤ buf.length := by
      omega
    have hleft := Octets.length_overwrite hfront
    have hstop : (UInt64.ofNat (offset.toNat + (tag :: Length.encode content.length).length)).toNat =
        offset.toNat + (tag :: Length.encode content.length).length :=
      UInt64.toNat_ofNat_of_lt' (by omega)
    rw [if_neg (mt hfits.1 hroom), BufferWriter.element_eq_header hwhole, ← hcount]
    apply bind_eq_ofResult
    · apply header_eq held
      rw [hcount]
      rw [List.length_cons] at hfront
      omega
    · intro stop left hw
      rw [hcount, BufferWriter.header_eq_ok short hfront] at hw
      cases hw
      rw [put_eq (by omega) (by omega), hstop]

end WordWriter

end NetWatch.Ber
